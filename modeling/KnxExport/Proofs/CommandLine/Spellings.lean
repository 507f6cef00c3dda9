import KnxExport.Proofs.CommandLine.Taking

/-!
# Command lines in all their spellings

A command line is a sequence of items: positional arguments, and options in one of their spellings.
Behind two dashes everything is positional. The parser reads item by item: after each of them, and
after a check of what is pending, its state says which items there have been (`settled`), and it
goes on if they do not ask for anything twice (`Sound`).

Main statement: `parse_in_any_spelling`. It rests on `parse_eq_ok_iff`, which command lines are
parsed and to which arguments.
-/

namespace KnxExport.CommandLine

/-! ## Items -/

/-- How the format of the listing is asked for. -/
inductive FormatSpelling where
  | long
  | longEquals
  | short
  | shortAttached
  | shortEquals
  deriving DecidableEq, Repr

/-- How the path of the listing is given. -/
inductive PathSpelling where
  | long
  | longEquals
  deriving DecidableEq, Repr

/-- What a command line is made of. -/
inductive Item where
  | positional (text : String)
  | format (spelling : FormatSpelling) (format : Listing.Format)
  | listingPath (spelling : PathSpelling) (path : String)
  deriving DecidableEq, Repr

namespace Item

/-- The arguments of an item. -/
def words : Item → List String
  | positional text => [text]
  | format .long f => ["--list", f.name]
  | format .longEquals f => ["--list=" ++ f.name]
  | format .short f => ["-l", f.name]
  | format .shortAttached f => ["-l" ++ f.name]
  | format .shortEquals f => ["-l=" ++ f.name]
  | listingPath .long path => ["--list-output", path]
  | listingPath .longEquals path => ["--list-output=" ++ path]

/-- An item has an argument. -/
theorem length_words_pos (item : Item) : 0 < item.words.length := by
  rcases item with _ | ⟨_ | _, _⟩ | ⟨_ | _, _⟩ <;> exact Nat.succ_pos _

/-- The positional argument. -/
def positional? : Item → Option String
  | positional text => some text
  | _ => none

/-- The format that is asked for. -/
def format? : Item → Option Listing.Format
  | format _ f => some f
  | _ => none

/-- The path that is given for the listing. -/
def listingPath? : Item → Option String
  | listingPath _ path => some path
  | _ => none

/-- No argument of the item is taken for an option that it is not. -/
def IsTold : Item → Prop
  | positional text => isPlain text = true
  | listingPath .long path => isPlain path = true
  | _ => True

end Item

section Collected

variable (items : List Item) (item : Item)

/-- The positional arguments among some items. -/
def positionals : List String := items.filterMap Item.positional?

/-- The formats that some items ask for. -/
def formats : List Listing.Format := items.filterMap Item.format?

/-- The paths that some items give for the listing. -/
def listingPaths : List String := items.filterMap Item.listingPath?

variable (more : List Item)

theorem positionals_append : positionals (items ++ more) = positionals items ++ positionals more :=
  List.filterMap_append

theorem formats_append : formats (items ++ more) = formats items ++ formats more :=
  List.filterMap_append

theorem listingPaths_append :
    listingPaths (items ++ more) = listingPaths items ++ listingPaths more :=
  List.filterMap_append

theorem positionals_concat :
    positionals (items ++ [item]) = positionals items ++ item.positional?.toList := by
  rw [positionals_append]
  cases item <;> rfl

theorem formats_concat : formats (items ++ [item]) = formats items ++ item.format?.toList := by
  rw [formats_append]
  cases item <;> rfl

theorem listingPaths_concat :
    listingPaths (items ++ [item]) = listingPaths items ++ item.listingPath?.toList := by
  rw [listingPaths_append]
  cases item <;> rfl

end Collected

/-- The items do not ask for anything twice, and no text is empty. -/
structure Sound (items : List Item) : Prop where
  positionals : (positionals items).length ≤ 2
  formats : (formats items).length ≤ 1
  listingPaths : (listingPaths items).length ≤ 1
  positional_ne : "" ∉ CommandLine.positionals items
  listingPath_ne : "" ∉ CommandLine.listingPaths items

/-- The state after some items and a check. -/
def settled (items : List Item) (onlyPositionals : Bool) : State where
  input? := (positionals items)[0]?
  outputDir? := (positionals items)[1]?
  format? := (formats items).head?
  listingPath? := (listingPaths items).head?
  positionals := (positionals items).length
  onlyPositionals := onlyPositionals

/-! ## What is stored for an item -/

/-- What an item asks for is stored. -/
def Stores (s : State) (item : Item) (next : State) : Prop :=
  match item with
  | .positional text => ∃ slot, State.positionalSlot? s.positionals = some slot ∧
      { s with positionals := s.positionals + 1 }.store slot text = .ok next
  | .format _ f => s.store .format f.name = .ok next
  | .listingPath _ path => s.store .listingPath path = .ok next

/-- The item asks for something that some items do not ask for. -/
def Item.Follows (items : List Item) : Item → Prop
  | .positional text => (positionals items).length < 2 ∧ text ≠ ""
  | .format _ _ => formats items = []
  | .listingPath _ path => listingPaths items = [] ∧ path ≠ ""

section Stores

variable {items : List Item} {item : Item} {mode : Bool} {next : State}

/-- Items stay sound if one more of them asks for something else. -/
theorem sound_concat_iff (h : Sound items) : Sound (items ++ [item]) ↔ item.Follows items := by
  obtain ⟨hpositionals, hformats, hpaths, hpositional, hpath⟩ := h
  have hsound : Sound (items ++ [item]) ↔
      (positionals items ++ item.positional?.toList).length ≤ 2 ∧
      (formats items ++ item.format?.toList).length ≤ 1 ∧
      (listingPaths items ++ item.listingPath?.toList).length ≤ 1 ∧
      "" ∉ positionals items ++ item.positional?.toList ∧
      "" ∉ listingPaths items ++ item.listingPath?.toList := by
    rw [← positionals_concat, ← formats_concat, ← listingPaths_concat]
    exact ⟨fun ⟨h₁, h₂, h₃, h₄, h₅⟩ => ⟨h₁, h₂, h₃, h₄, h₅⟩,
      fun ⟨h₁, h₂, h₃, h₄, h₅⟩ => ⟨h₁, h₂, h₃, h₄, h₅⟩⟩
  have hempty : ∀ text : String, "" = text ↔ text = "" := fun _ => eq_comm
  rw [hsound]
  cases item with
  | positional text =>
    rw [Item.Follows, Nat.lt_succ_iff]
    simp [Item.positional?, Item.format?, Item.listingPath?, *]
  | format spelling f =>
    simp [Item.positional?, Item.format?, Item.listingPath?, Item.Follows, *]
  | listingPath spelling path =>
    simp [Item.positional?, Item.format?, Item.listingPath?, Item.Follows, *]

/-- Items are stored one after the other, as long as they do not ask for anything twice. -/
theorem stores_settled_iff :
    Stores (settled items mode) item next ↔
      item.Follows items ∧ next = settled (items ++ [item]) mode := by
  simp only [settled, positionals_concat, formats_concat, listingPaths_concat]
  cases item with
  | positional text =>
    simp only [Stores, Item.Follows, Item.positional?, Item.format?, Item.listingPath?]
    rcases positionals items with _ | ⟨first, _ | ⟨second, more⟩⟩
    · simp [State.positionalSlot?, State.store_eq_ok_iff]
    · simp [State.positionalSlot?, State.store_eq_ok_iff]
    · simp only [List.length_cons]
      constructor
      · rintro ⟨slot, hslot, -⟩
        cases hslot
      · rintro ⟨⟨hfew, -⟩, -⟩
        omega
  | format spelling f =>
    have hname : f.name ≠ "" := by cases f <;> decide
    have hsame : ∀ other : Listing.Format, other.name = f.name ↔ other = f := by
      intro other
      cases other <;> cases f <;> decide
    simp only [Stores, Item.Follows, State.store_eq_ok_iff, Item.positional?, Item.format?,
      Item.listingPath?]
    rcases formats items with _ | ⟨other, more⟩
    · simp [hname, hsame]
    · simp
  | listingPath spelling path =>
    simp only [Stores, Item.Follows, State.store_eq_ok_iff, Item.positional?, Item.format?,
      Item.listingPath?]
    rcases listingPaths items with _ | ⟨other, more⟩
    · simp
    · simp

end Stores

/-! ## Reading an item -/

/-- How the arguments of an option are read: its value is written in the only one, or it is the
second one. -/
inductive Item.IsOption (item : Item) (slot : Slot) (value : String) : Prop
  | attached {word : String} (hwords : item.words = [word])
      (hasks : Asks word.toList slot (some value)) (htold : item.IsTold)
  | apart {word : String} (hwords : item.words = [word, value])
      (hasks : Asks word.toList slot none) (htold : item.IsTold ↔ isPlain value = true)

theorem asks_longEquals {name : List Char} {slot : Slot} (hname : IsLongName name slot)
    {front : String} (hfront : front.toList = '-' :: '-' :: (name ++ ['='])) (value : String) :
    Asks (front ++ value).toList slot (some value) := by
  have hasks := Asks.longEquals hname value.toList
  rw [String.ofList_toList] at hasks
  rw [String.toList_append, hfront]
  simpa using hasks

/-- A format is an option in each of its spellings. -/
theorem isOption_format (spelling : FormatSpelling) (f : Listing.Format) :
    (Item.format spelling f).IsOption .format f.name := by
  have hplain : isPlain f.name = true := by cases f <;> decide
  cases spelling with
  | long => exact .apart rfl (.long .format) ⟨fun _ => hplain, fun _ => trivial⟩
  | longEquals => exact .attached rfl (asks_longEquals .format (by decide) f.name) trivial
  | short => exact .apart rfl .short ⟨fun _ => hplain, fun _ => trivial⟩
  | shortAttached =>
    cases f <;> exact .attached rfl (.shortAttached _ _ (by decide)) trivial
  | shortEquals =>
    cases f <;> exact .attached rfl (.shortEquals _) trivial

/-- A path for the listing is an option in each of its spellings. -/
theorem isOption_listingPath (spelling : PathSpelling) (path : String) :
    (Item.listingPath spelling path).IsOption .listingPath path := by
  cases spelling with
  | long => exact .apart rfl (.long .listingPath) Iff.rfl
  | longEquals => exact .attached rfl (asks_longEquals .listingPath (by decide) path) trivial

/-- An argument that begins with a text goes on with the rest. -/
theorem eq_append_of_toList {argument front : String} {rest : List Char}
    (h : argument.toList = front.toList ++ rest) : argument = front ++ String.ofList rest := by
  rw [← String.toList_inj, h, String.toList_append, String.toList_ofList]

section Asked

variable {s next : State} {argument : String} {slot : Slot} {value : String}

/-- An argument with a value that can be stored is an item. -/
theorem exists_item_of_attached (hasks : Asks argument.toList slot (some value))
    (hstore : s.store slot value = .ok next) :
    ∃ item : Item, item.IsTold ∧ item.words = [argument] := by
  obtain ⟨-, hslot⟩ := State.store_eq_ok_iff.mp hstore
  generalize hchars : argument.toList = chars at hasks
  cases hasks with
  | longEquals hname value =>
    cases hname with
    | format =>
      obtain ⟨-, f, hf, -⟩ := hslot
      have hword : argument = "--list=" ++ String.ofList value := eq_append_of_toList hchars
      exact ⟨.format .longEquals f, trivial, by rw [Item.words, hf, ← hword]⟩
    | listingPath =>
      have hword : argument = "--list-output=" ++ String.ofList value := eq_append_of_toList hchars
      exact ⟨.listingPath .longEquals (String.ofList value), trivial, by rw [Item.words, ← hword]⟩
  | shortEquals value =>
    obtain ⟨-, f, hf, -⟩ := hslot
    have hword : argument = "-l=" ++ String.ofList value := eq_append_of_toList hchars
    exact ⟨.format .shortEquals f, trivial, by rw [Item.words, hf, ← hword]⟩
  | shortAttached c value hc =>
    obtain ⟨-, f, hf, -⟩ := hslot
    have hword : argument = "-l" ++ String.ofList (c :: value) := eq_append_of_toList hchars
    exact ⟨.format .shortAttached f, trivial, by rw [Item.words, hf, ← hword]⟩

/-- An option and the value behind it, which can be stored, are an item. -/
theorem exists_item_of_apart (hasks : Asks argument.toList slot none)
    (hplain : isPlain value = true) (hstore : s.store slot value = .ok next) :
    ∃ item : Item, item.IsTold ∧ item.words = [argument, value] := by
  obtain ⟨-, hslot⟩ := State.store_eq_ok_iff.mp hstore
  generalize hchars : argument.toList = chars at hasks
  cases hasks with
  | long hname =>
    cases hname with
    | format =>
      obtain ⟨-, f, rfl, -⟩ := hslot
      obtain rfl : argument = "--list" := String.toList_inj.mp hchars
      exact ⟨.format .long f, trivial, rfl⟩
    | listingPath =>
      obtain rfl : argument = "--list-output" := String.toList_inj.mp hchars
      exact ⟨.listingPath .long value, hplain, rfl⟩
  | short =>
    obtain ⟨-, f, rfl, -⟩ := hslot
    obtain rfl : argument = "-l" := String.toList_inj.mp hchars
    exact ⟨.format .short f, trivial, rfl⟩

end Asked

section Reading

variable {s : State} (hpending : s.pending? = none) (hmode : s.onlyPositionals = false)
  {rest : List String} {final : State}

include hpending hmode

/-- An option is read if its arguments are told from other options and its value can be stored. -/
theorem run_option {item : Item} {slot : Slot} {value : String} (h : item.IsOption slot value) :
    s.run (item.words ++ rest) = .ok final ↔
      item.IsTold ∧ ∃ next, s.store slot value = .ok next ∧ next.run rest = .ok final := by
  cases h with
  | attached hwords hasks htold =>
    rw [hwords, List.singleton_append, State.run_attached hpending hmode hasks]
    exact (and_iff_right htold).symm
  | @apart word hwords hasks htold =>
    rw [hwords, htold]
    show s.run (word :: value :: rest) = .ok final ↔ _
    rw [State.run_apart hpending hmode hasks]
    constructor
    · rintro ⟨_, _, heq, hplain, hnext⟩
      obtain ⟨rfl, rfl⟩ := List.cons.inj heq
      exact ⟨hplain, hnext⟩
    · rintro ⟨hplain, hnext⟩
      exact ⟨value, rest, rfl, hplain, hnext⟩

omit hmode in
/-- A positional argument is read if it can be stored, and is told from an option where one could
stand. -/
theorem run_positional_item {text : String}
    (htold : s.onlyPositionals = true ∨ isPlain text = true) :
    s.run (text :: rest) = .ok final ↔
      ∃ next, Stores s (.positional text) next ∧ next.run rest = .ok final := by
  rw [State.run_positional hpending htold]
  constructor
  · rintro ⟨slot, hslot, next, hstore, hrun⟩
    exact ⟨next, ⟨slot, hslot, hstore⟩, hrun⟩
  · rintro ⟨next, ⟨slot, hslot, hstore⟩, hrun⟩
    exact ⟨slot, hslot, next, hstore, hrun⟩

/-- **An item is read** if its arguments are told from other options and what it asks for can be
stored. -/
theorem run_item {item : Item} (htold : item.IsTold) :
    s.run (item.words ++ rest) = .ok final ↔
      ∃ next, Stores s item next ∧ next.run rest = .ok final := by
  cases item with
  | positional text => exact run_positional_item hpending (.inr htold)
  | format spelling f =>
    rw [run_option hpending hmode (isOption_format spelling f)]
    exact and_iff_right htold
  | listingPath spelling path =>
    rw [run_option hpending hmode (isOption_listingPath spelling path)]
    exact and_iff_right htold

/-- A command line that is read begins with two dashes or with an item. -/
theorem exists_item {argument : String} {arguments : List String}
    (h : s.run (argument :: arguments) = .ok final) :
    argument = "--" ∨ ∃ (item : Item) (rest : List String), item.IsTold ∧
      argument :: arguments = item.words ++ rest := by
  obtain ⟨next, htake, -⟩ := State.run_cons_eq_ok_iff.mp h
  obtain ⟨hdashes, -⟩ | ⟨slot, value?, hasks, -⟩ | ⟨hplain, -⟩ :=
    (State.take_eq_ok_iff hmode).mp htake
  · exact .inl hdashes
  · cases value? with
    | some value =>
      obtain ⟨next, hstore, -⟩ := (State.run_attached hpending hmode hasks).mp h
      obtain ⟨item, htold, hwords⟩ := exists_item_of_attached hasks hstore
      exact .inr ⟨item, arguments, htold, by rw [hwords]; rfl⟩
    | none =>
      obtain ⟨value, rest, rfl, hplain, next, hstore, -⟩ :=
        (State.run_apart hpending hmode hasks).mp h
      obtain ⟨item, htold, hwords⟩ := exists_item_of_apart hasks hplain hstore
      exact .inr ⟨item, rest, htold, by rw [hwords]; rfl⟩
  · exact .inr ⟨.positional argument, arguments, hplain, rfl⟩

end Reading

/-! ## Reading a command line -/

/-- A command line as it is read: items, and positional arguments behind two dashes if there are
any. -/
structure Reading where
  items : List Item
  trailing? : Option (List String)
  deriving DecidableEq, Repr

namespace Reading

/-- The arguments of the command line. -/
def words (r : Reading) : List String :=
  r.items.flatMap Item.words ++
    match r.trailing? with
    | none => []
    | some texts => "--" :: texts

/-- All items, with what is positional behind two dashes. -/
def all (r : Reading) : List Item :=
  r.items ++ (r.trailing?.getD []).map .positional

end Reading

section Run

variable {items : List Item} {final : State}

/-- Items are sound if they are so together with more of them. -/
theorem Sound.of_append {more : List Item} (h : Sound (items ++ more)) : Sound items := by
  obtain ⟨hpositionals, hformats, hpaths, hpositional, hpath⟩ := h
  rw [positionals_append] at hpositionals hpositional
  rw [formats_append] at hformats
  rw [listingPaths_append] at hpaths hpath
  rw [List.length_append] at hpositionals hformats hpaths
  rw [List.mem_append, not_or] at hpositional hpath
  exact ⟨by omega, by omega, by omega, hpositional.1, hpath.1⟩

/-- **Items are read one after the other** if they do not ask for anything twice. -/
theorem run_items (h : Sound items) {more : List Item} (htold : ∀ item ∈ more, item.IsTold)
    {rest : List String} :
    (settled items false).run (more.flatMap Item.words ++ rest) = .ok final ↔
      Sound (items ++ more) ∧ (settled (items ++ more) false).run rest = .ok final := by
  induction more generalizing items with
  | nil => simp [h]
  | cons item more ih =>
    rw [List.forall_mem_cons] at htold
    have hitem : (settled items false).run (item.words ++ (more.flatMap Item.words ++ rest)) =
        .ok final ↔ Sound (items ++ [item]) ∧
          (settled (items ++ [item]) false).run (more.flatMap Item.words ++ rest) = .ok final := by
      rw [run_item rfl rfl htold.1, sound_concat_iff h]
      simp only [stores_settled_iff, and_assoc, exists_and_left, exists_eq_left]
    have hall : items ++ item :: more = items ++ [item] ++ more := List.append_cons items item more
    rw [List.flatMap_cons, List.append_assoc, hitem, hall]
    constructor
    · rintro ⟨hsound, hrun⟩
      exact (ih hsound htold.2).mp hrun
    · rintro ⟨hsound, hrun⟩
      have hfirst : Sound (items ++ [item]) := hsound.of_append
      exact ⟨hfirst, (ih hfirst htold.2).mpr ⟨hsound, hrun⟩⟩

/-- Behind two dashes positional arguments are read one after the other. -/
theorem run_trailing (h : Sound items) {texts : List String} :
    (settled items true).run texts = .ok final ↔
      Sound (items ++ texts.map .positional) ∧
        final = settled (items ++ texts.map .positional) true := by
  induction texts generalizing items with
  | nil =>
    rw [State.run_nil_eq_ok_iff, State.settle_of_none rfl, List.map_nil, List.append_nil]
    simp [h, eq_comm]
  | cons text texts ih =>
    have hitem : (settled items true).run (text :: texts) = .ok final ↔
        Sound (items ++ [.positional text]) ∧
          (settled (items ++ [.positional text]) true).run texts = .ok final := by
      rw [run_positional_item rfl (.inl rfl), sound_concat_iff h]
      simp only [stores_settled_iff, and_assoc, exists_and_left, exists_eq_left]
    have hall : items ++ .positional text :: texts.map .positional =
        items ++ [.positional text] ++ texts.map .positional := List.append_cons ..
    rw [hitem, List.map_cons, hall]
    constructor
    · rintro ⟨hsound, hrun⟩
      exact (ih hsound).mp hrun
    · intro hnext
      have hfirst : Sound (items ++ [.positional text]) := hnext.1.of_append
      exact ⟨hfirst, (ih hfirst).mpr hnext⟩

/-- The items of a command line are read if they do not ask for anything twice. -/
theorem run_reading {r : Reading} (htold : ∀ item ∈ r.items, item.IsTold) :
    State.run {} r.words = .ok final ↔
      Sound r.all ∧ final = settled r.all r.trailing?.isSome := by
  obtain ⟨items, trailing?⟩ := r
  have hempty : Sound [] := ⟨Nat.zero_le _, Nat.zero_le _, Nat.zero_le _, nofun, nofun⟩
  refine (run_items hempty htold).trans ?_
  rw [List.nil_append]
  cases trailing? with
  | none =>
    have hall : Reading.all ⟨items, none⟩ = items := List.append_nil items
    rw [State.run_nil_eq_ok_iff, State.settle_of_none rfl, Except.ok.injEq, eq_comm, hall]
    rfl
  | some texts =>
    rw [State.run_dashes rfl]
    show Sound items ∧ (settled items true).run texts = .ok final ↔ _
    constructor
    · rintro ⟨hsound, hrun⟩
      exact (run_trailing hsound).mp hrun
    · intro hall
      have hsound : Sound items := hall.1.of_append
      exact ⟨hsound, (run_trailing hsound).mpr hall⟩

/-- What is read is a command line. -/
theorem exists_reading {arguments : List String}
    (h : (settled items false).run arguments = .ok final) :
    ∃ r : Reading, (∀ item ∈ r.items, item.IsTold) ∧ arguments = r.words := by
  induction hlength : arguments.length using Nat.strongRecOn generalizing items arguments with
  | _ n ih =>
  cases arguments with
  | nil => exact ⟨⟨[], none⟩, nofun, rfl⟩
  | cons argument arguments =>
    obtain rfl | ⟨item, rest, htold, hwords⟩ := exists_item rfl rfl h
    · exact ⟨⟨[], some arguments⟩, nofun, rfl⟩
    · rw [hwords] at h hlength
      obtain ⟨next, hstores, hrun⟩ := (run_item rfl rfl htold).mp h
      obtain ⟨-, rfl⟩ := stores_settled_iff.mp hstores
      have hshort : rest.length < n := by
        rw [← hlength, List.length_append]
        exact Nat.lt_add_of_pos_left item.length_words_pos
      obtain ⟨r, hr, rfl⟩ := ih _ hshort hrun rfl
      refine ⟨⟨item :: r.items, r.trailing?⟩, List.forall_mem_cons.mpr ⟨htold, hr⟩, ?_⟩
      rw [hwords]
      simp [Reading.words]

end Run

/-! ## What a command line asks for -/

/-- The items ask for these arguments. -/
structure AskFor (items : List Item) (arguments : Arguments) : Prop where
  positionals : positionals items = [arguments.input, arguments.outputDir]
  formats : formats items = arguments.format?.toList
  listingPaths : listingPaths items = arguments.listingPath?.toList
  input_ne : arguments.input ≠ ""
  outputDir_ne : arguments.outputDir ≠ ""
  listingPath_ne : arguments.listingPath? ≠ some ""
  needs_format : arguments.listingPath?.isSome → arguments.format?.isSome

/-- A list that has at most one element is told by the first one. -/
theorem eq_toList_head? {α : Type} {l : List α} (h : l.length ≤ 1) : l = l.head?.toList := by
  rcases l with _ | ⟨a, _ | ⟨b, l⟩⟩
  · rfl
  · rfl
  · simp at h

/-- A list that has at most two elements is told by them. -/
theorem eq_pair {α : Type} {l : List α} {a b : α} (h : l.length ≤ 2) (hfirst : l[0]? = some a)
    (hsecond : l[1]? = some b) : l = [a, b] := by
  rcases l with _ | ⟨a', _ | ⟨b', _ | ⟨c, l⟩⟩⟩
  · cases hfirst
  · cases hsecond
  · cases hfirst
    cases hsecond
    rfl
  · simp at h

/-- Items ask for what is put together from the state after them. -/
theorem askFor_iff {items : List Item} {mode : Bool} {arguments : Arguments} :
    AskFor items arguments ↔
      Sound items ∧ (settled items mode).finish = .ok arguments := by
  rw [State.finish_eq_ok_iff rfl]
  constructor
  · intro h
    have hsound : Sound items := by
      constructor
      · rw [h.positionals]
        exact Nat.le_refl 2
      · rw [h.formats]
        exact Option.length_toList_le
      · rw [h.listingPaths]
        exact Option.length_toList_le
      · rw [h.positionals]
        simp [h.input_ne.symm, h.outputDir_ne.symm]
      · rw [h.listingPaths, Option.mem_toList]
        exact h.listingPath_ne
    refine ⟨hsound, ?_, ?_, ?_, ?_, h.needs_format⟩
    · rw [settled, h.positionals]
      rfl
    · rw [settled, h.positionals]
      rfl
    · rw [settled, h.formats]
      exact Option.head?_toList
    · rw [settled, h.listingPaths]
      exact Option.head?_toList
  · rintro ⟨hsound, hinput, houtput, hformat, hpath, hneeds⟩
    have hpositionals := eq_pair hsound.positionals hinput houtput
    have hformats := (eq_toList_head? hsound.formats).trans (congrArg Option.toList hformat)
    have hpaths := (eq_toList_head? hsound.listingPaths).trans (congrArg Option.toList hpath)
    have hpositional := hsound.positional_ne
    have hpath := hsound.listingPath_ne
    rw [hpositionals] at hpositional
    rw [hpaths, Option.mem_toList] at hpath
    refine ⟨hpositionals, hformats, hpaths, ?_, ?_, hpath, hneeds⟩
    · intro hempty
      exact hpositional (hempty ▸ List.mem_cons_self)
    · intro hempty
      exact hpositional (hempty ▸ List.mem_cons_of_mem _ List.mem_cons_self)

/-- **Which command lines are parsed, and to which arguments.** -/
theorem parse_eq_ok_iff {texts : List String} {arguments : Arguments} :
    parse texts = .ok arguments ↔
      ∃ r : Reading, texts = r.words ∧ (∀ item ∈ r.items, item.IsTold) ∧ AskFor r.all arguments := by
  rw [State.parse_eq_ok_iff_run]
  constructor
  · rintro ⟨final, hrun, hfinish⟩
    have hstart : (settled [] false).run texts = .ok final := hrun
    obtain ⟨r, htold, rfl⟩ := exists_reading hstart
    obtain ⟨hsound, rfl⟩ := (run_reading htold).mp hrun
    exact ⟨r, rfl, htold, askFor_iff.mpr ⟨hsound, hfinish⟩⟩
  · rintro ⟨r, rfl, htold, hask⟩
    obtain ⟨hsound, hfinish⟩ := askFor_iff.mp hask
    exact ⟨_, (run_reading htold).mpr ⟨hsound, rfl⟩, hfinish⟩

/-- No path that has been parsed is empty. -/
theorem named_of_parse {texts : List String} {arguments : Arguments}
    (h : parse texts = .ok arguments) : arguments.input ≠ "" ∧ arguments.outputDir ≠ "" := by
  obtain ⟨r, -, -, hask⟩ := parse_eq_ok_iff.mp h
  exact ⟨hask.input_ne, hask.outputDir_ne⟩

/-- Two paths, and nothing else, ask for what they name. -/
theorem parse_positionals {input outputDir : String} (hinput : input ≠ "")
    (houtput : outputDir ≠ "") :
    parse ["--", input, outputDir] = .ok ⟨input, outputDir, none, none⟩ :=
  parse_eq_ok_iff.mpr ⟨⟨[], some [input, outputDir]⟩, rfl, nofun,
    rfl, rfl, rfl, hinput, houtput, nofun, nofun⟩

/-- The positional arguments among some arguments. An option may wait for the first of them as its
value. -/
def scan : Bool → List String → List String
  | _, [] => []
  | true, _ :: rest => scan false rest
  | false, argument :: rest =>
    if argument = "--" then rest
    else if isPlain argument then argument :: scan false rest
    else scan (["--list", "-l", "--list-output"].contains argument) rest

/-- The positional arguments of items are found among their arguments. -/
theorem scan_words {item : Item} (htold : item.IsTold) (rest : List String) :
    scan false (item.words ++ rest) = item.positional?.toList ++ scan false rest := by
  cases item with
  | positional text =>
    have hplain : isPlain text = true := htold
    have hdashes : text ≠ "--" := by
      rintro rfl
      exact absurd hplain (by decide)
    simp [Item.words, scan, hdashes, hplain, Item.positional?]
  | format spelling f => cases spelling <;> cases f <;> rfl
  | listingPath spelling path =>
    cases spelling with
    | long => rfl
    | longEquals =>
      have hchars : ("--list-output=" ++ path).toList = "--list-output=".toList ++ path.toList :=
        String.toList_append
      have hplain : isPlain ("--list-output=" ++ path) = false := by
        unfold isPlain
        rw [hchars]
        rfl
      have hother : ∀ word ∈ ["--", "--list", "-l", "--list-output"],
          "--list-output=" ++ path ≠ word := by
        have hshort : ∀ word ∈ ["--", "--list", "-l", "--list-output"],
            word.toList.length < "--list-output=".toList.length := by decide
        rintro word hword rfl
        have hlength := hshort _ hword
        rw [hchars, List.length_append] at hlength
        omega
      simp only [List.forall_mem_cons] at hother
      obtain ⟨hdashes, hlist, hshort, hpath, -⟩ := hother
      simp [Item.words, scan, Item.positional?, hplain, hdashes, hlist, hshort, hpath]

/-- The positional arguments of a command line are those of its items. -/
theorem scan_reading {r : Reading} (htold : ∀ item ∈ r.items, item.IsTold) :
    scan false r.words = positionals r.all := by
  obtain ⟨items, trailing?⟩ := r
  have htrailing : ∀ texts : List String, positionals (texts.map .positional) = texts := by
    intro texts
    rw [positionals, List.filterMap_map]
    exact List.filterMap_some
  have hitems : ∀ (items : List Item) (rest : List String), (∀ item ∈ items, item.IsTold) →
      scan false (items.flatMap Item.words ++ rest) = positionals items ++ scan false rest := by
    intro items rest htold
    induction items with
    | nil => rfl
    | cons item items ih =>
      rw [List.forall_mem_cons] at htold
      have hfirst : positionals (item :: items) = item.positional?.toList ++ positionals items := by
        cases item <;> rfl
      rw [List.flatMap_cons, List.append_assoc, scan_words htold.1, ih htold.2, hfirst,
        List.append_assoc]
  rw [Reading.words, Reading.all, hitems items _ htold, positionals_append, htrailing]
  cases trailing? <;> rfl

/-! ## Command lines with ordinary paths -/

/-- A path that cannot be taken for an option, nor for a missing value. -/
structure IsPath (path : String) : Prop where
  ne_empty : path ≠ ""
  ne_dash : path.toList.head? ≠ some '-'

instance (path : String) : Decidable (IsPath path) :=
  decidable_of_iff (path ≠ "" ∧ path.toList.head? ≠ some '-')
    ⟨fun h => ⟨h.1, h.2⟩, fun h => ⟨h.ne_empty, h.ne_dash⟩⟩

theorem IsPath.isPlain {path : String} (h : IsPath path) : isPlain path = true := by
  unfold CommandLine.isPlain
  split
  · next hchars => exact absurd (by rw [hchars]; rfl) h.ne_dash
  · rfl

/-- Items with ordinary paths are told from options. -/
theorem isTold_of_isPath {items : List Item} (hpositionals : ∀ text ∈ positionals items, IsPath text)
    (hpaths : ∀ path ∈ listingPaths items, IsPath path) : ∀ item ∈ items, item.IsTold := by
  intro item hitem
  cases item with
  | positional text =>
    have hpath := hpositionals text (List.mem_filterMap.mpr ⟨_, hitem, rfl⟩)
    exact hpath.isPlain
  | format spelling f => trivial
  | listingPath spelling path =>
    have hpath := hpaths path (List.mem_filterMap.mpr ⟨_, hitem, rfl⟩)
    cases spelling with
    | long => exact hpath.isPlain
    | longEquals => trivial

/-- **The order and the spelling of the arguments are of no importance.** Ordinary paths for the
export and for the directory, in this order, and among them the options for a listing, in any order
and each in any of its spellings, are parsed to what they name. And every command line that is
parsed has two positional arguments, neither of which is empty; apart from them, and from two dashes
in front of the last of them, it has at most one format and at most one path for the listing, the
path only if it has a format, and these are what it is parsed to. -/
theorem parse_in_any_spelling :
    (∀ (arguments : Arguments) (items : List Item), IsPath arguments.input →
      IsPath arguments.outputDir → (∀ path ∈ arguments.listingPath?, IsPath path) →
      (arguments.listingPath?.isSome → arguments.format?.isSome) →
      positionals items = [arguments.input, arguments.outputDir] →
      formats items = arguments.format?.toList →
      listingPaths items = arguments.listingPath?.toList →
      parse (items.flatMap Item.words) = .ok arguments) ∧
    ∀ (texts : List String) (arguments : Arguments), parse texts = .ok arguments →
      scan false texts = [arguments.input, arguments.outputDir] ∧
      arguments.input ≠ "" ∧ arguments.outputDir ≠ "" ∧
      (arguments.listingPath?.isSome → arguments.format?.isSome) ∧
      ∃ r : Reading, texts = r.words ∧ (∀ item ∈ r.items, item.IsTold) ∧
        formats r.all = arguments.format?.toList ∧
        listingPaths r.all = arguments.listingPath?.toList := by
  constructor
  · intro arguments items hinput houtput hpath hneeds hpositionals hformats hpaths
    have htold : ∀ item ∈ items, item.IsTold := by
      apply isTold_of_isPath
      · rw [hpositionals, List.forall_mem_cons, List.forall_mem_singleton]
        exact ⟨hinput, houtput⟩
      · rw [hpaths]
        intro path hmem
        exact hpath path (Option.mem_toList.mp hmem)
    have hall : Reading.all ⟨items, none⟩ = items := List.append_nil items
    have hask : AskFor items arguments :=
      { positionals := hpositionals
        formats := hformats
        listingPaths := hpaths
        input_ne := hinput.ne_empty
        outputDir_ne := houtput.ne_empty
        listingPath_ne := fun hempty => (hpath "" hempty).ne_empty rfl
        needs_format := hneeds }
    refine parse_eq_ok_iff.mpr ⟨⟨items, none⟩, (List.append_nil _).symm, htold, ?_⟩
    rw [hall]
    exact hask
  · intro texts arguments h
    obtain ⟨r, rfl, htold, hask⟩ := parse_eq_ok_iff.mp h
    rw [scan_reading htold]
    exact ⟨hask.positionals, hask.input_ne, hask.outputDir_ne, hask.needs_format, r, rfl, htold,
      hask.formats, hask.listingPaths⟩

/-- Options around and between the paths. The same is asked for with other spellings in another
order, and behind two dashes a path may look like an option. -/
theorem parse_in_any_spelling_mixed :
    parse ["-ljsonl", "in.csv", "--list-output", "log", "out"] =
        .ok ⟨"in.csv", "out", some .jsonl, some "log"⟩ ∧
      parse ["in.csv", "--list-output=log", "out", "--list", "jsonl"] =
        .ok ⟨"in.csv", "out", some .jsonl, some "log"⟩ ∧
      scan false ["-l=csv", "--", "in.csv", "-l"] = ["in.csv", "-l"] := by
  refine ⟨?_, ?_, ?_⟩
  · exact parse_in_any_spelling.1 ⟨"in.csv", "out", some .jsonl, some "log"⟩
      [.format .shortAttached .jsonl, .positional "in.csv", .listingPath .long "log",
        .positional "out"]
      (by decide) (by decide) (by decide) (by decide) rfl rfl rfl
  · exact parse_in_any_spelling.1 ⟨"in.csv", "out", some .jsonl, some "log"⟩
      [.positional "in.csv", .listingPath .longEquals "log", .positional "out",
        .format .long .jsonl]
      (by decide) (by decide) (by decide) (by decide) rfl rfl rfl
  · exact (parse_in_any_spelling.2 ["-l=csv", "--", "in.csv", "-l"]
      ⟨"in.csv", "-l", some .csv, none⟩ rfl).1

end KnxExport.CommandLine
