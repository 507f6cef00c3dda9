import Mathlib.Tactic.SplitIfs
import KnxExport.CommandLine
import KnxExport.Proofs.Except

/-!
# What the parser takes an argument for

An argument is the two dashes, or it asks for an option, or it is plain; everything else ends the
parse. `take_eq_ok_iff` says so of any state. A value that has been taken is checked later, when the
next argument needs a state without one; `run_eq_ok_iff_settle` says that it makes no difference for
a parse that succeeds if it is checked at once.

Main statements: `run_attached`, `run_apart` and `run_positional`, what an argument does to a state
in which nothing is pending.
-/

namespace KnxExport.CommandLine

/-! ## Kinds of arguments -/

/-- The argument is no option: it does not begin with a dash and something behind it. -/
def isPlain (argument : String) : Bool :=
  match argument.toList with
  | '-' :: _ :: _ => false
  | _ => true

/-- The long name of an option. -/
inductive IsLongName : List Char → Slot → Prop
  | format : IsLongName "list".toList .format
  | listingPath : IsLongName "list-output".toList .listingPath

/-- The argument asks for an option, with the value that is written in it if there is one. -/
inductive Asks : List Char → Slot → Option String → Prop
  | long {name : List Char} {slot : Slot} (h : IsLongName name slot) :
      Asks ('-' :: '-' :: name) slot none
  | longEquals {name : List Char} {slot : Slot} (h : IsLongName name slot) (value : List Char) :
      Asks ('-' :: '-' :: (name ++ '=' :: value)) slot (some (String.ofList value))
  | short : Asks ['-', 'l'] .format none
  | shortEquals (value : List Char) :
      Asks ('-' :: 'l' :: '=' :: value) .format (some (String.ofList value))
  | shortAttached (c : Char) (value : List Char) (h : c ≠ '=') :
      Asks ('-' :: 'l' :: c :: value) .format (some (String.ofList (c :: value)))

/-- There is no equals sign in a long name. -/
theorem IsLongName.ne_equals {name : List Char} {slot : Slot} (h : IsLongName name slot) :
    ∀ c ∈ name, (c != '=') = true := by
  apply List.all_eq_true.mp
  cases h <;> decide

/-- A text is a name alone, or a name and a value behind the first equals sign. -/
theorem eq_name_or_eq_append {body name : List Char} (h : body.takeWhile (· != '=') = name) :
    (body = name ∧ (body.dropWhile (· != '=')).tail? = none) ∨
      ∃ value, body = name ++ '=' :: value ∧ (body.dropWhile (· != '=')).tail? = some value := by
  have hbody : body.takeWhile (· != '=') ++ body.dropWhile (· != '=') = body :=
    List.takeWhile_append_dropWhile
  rw [h] at hbody
  cases hdrop : body.dropWhile (· != '=') with
  | nil =>
    rw [hdrop, List.append_nil] at hbody
    exact .inl ⟨hbody.symm, rfl⟩
  | cons c value =>
    have hhead := List.head?_dropWhile_not (· != '=') body
    rw [hdrop] at hhead hbody
    obtain rfl : c = '=' := by simpa using hhead
    exact .inr ⟨value, hbody.symm, rfl⟩

/-! ## What an argument is taken for -/

namespace State

variable {s next : State}

/-- An option that ends the parse leaves no state. -/
theorem flag_ne_ok (stop : Stop) : s.flag stop ≠ .ok next := by
  unfold flag
  split <;> exact nofun

/-- What follows two dashes is the long name of an option, with or without a value. -/
theorem asks_of_takeWhile {body name : List Char} {slot : Slot} (hname : IsLongName name slot)
    (h : body.takeWhile (· != '=') = name) :
    Asks ('-' :: '-' :: body) slot
      ((body.dropWhile (· != '=')).tail?.map String.ofList) := by
  obtain ⟨rfl, hvalue⟩ | ⟨value, rfl, hvalue⟩ := eq_name_or_eq_append h
  · rw [hvalue]
    exact .long hname
  · rw [hvalue]
    exact .longEquals hname value

/-- Only an option is taken up with two dashes. -/
theorem asks_of_long_eq_ok {body : List Char} (h : s.long body = .ok next) :
    ∃ slot value?, Asks ('-' :: '-' :: body) slot value? ∧ s.option slot value? = .ok next := by
  have hchars : ∀ {name : String}, String.ofList (body.takeWhile (· != '=')) = name →
      body.takeWhile (· != '=') = name.toList := by
    rintro name rfl
    rw [String.toList_ofList]
  unfold long at h
  simp only at h
  split at h
  · next hname =>
    exact ⟨_, _, asks_of_takeWhile .format (hchars hname), mapError_eq_ok_iff.mp h⟩
  · next hname =>
    exact ⟨_, _, asks_of_takeWhile .listingPath (hchars hname), mapError_eq_ok_iff.mp h⟩
  · exact absurd h (flag_ne_ok _)
  · exact absurd h (flag_ne_ok _)
  all_goals cases h

/-- Only an option is taken up with one dash. -/
theorem asks_of_short_eq_ok {name : Char} {rest : List Char} (h : s.short name rest = .ok next) :
    ∃ slot value?, Asks ('-' :: name :: rest) slot value? ∧ s.option slot value? = .ok next := by
  unfold short at h
  split at h
  · exact ⟨_, _, .short, mapError_eq_ok_iff.mp h⟩
  · exact ⟨_, _, .shortEquals _, mapError_eq_ok_iff.mp h⟩
  · next hempty hequals =>
    cases rest with
    | nil => exact absurd rfl hempty
    | cons c value =>
      refine ⟨_, _, .shortAttached c value ?_, mapError_eq_ok_iff.mp h⟩
      rintro rfl
      exact hequals value rfl
  · exact absurd h (flag_ne_ok _)
  · exact absurd h (flag_ne_ok _)
  · cases h

/-- A long name takes up its option. -/
theorem long_eq {body name : List Char} {slot : Slot} (hname : IsLongName name slot)
    (h : body.takeWhile (· != '=') = name) :
    s.long body = (s.option slot
      ((body.dropWhile (· != '=')).tail?.map String.ofList)).mapError .fault := by
  unfold long
  simp only [h]
  cases hname <;> rfl

/-- Asking for an option takes it up. -/
theorem take_asks (hmode : s.onlyPositionals = false) {argument : String} {slot : Slot}
    {value? : Option String} (h : Asks argument.toList slot value?) :
    s.take argument = (s.option slot value?).mapError .fault := by
  unfold take
  rw [hmode, if_neg (by decide)]
  generalize argument.toList = chars at h
  cases h with
  | long hname => cases hname <;> rfl
  | @longEquals name _ hname value =>
    have htake : (name ++ '=' :: value).takeWhile (· != '=') = name := by
      rw [List.takeWhile_append_of_pos hname.ne_equals]
      simp
    have hdrop : (name ++ '=' :: value).dropWhile (· != '=') = '=' :: value := by
      rw [List.dropWhile_append_of_pos hname.ne_equals]
      simp
    have hlong := long_eq (s := s) hname htake
    rw [hdrop] at hlong
    cases hname <;> exact hlong
  | short => rfl
  | shortEquals value => rfl
  | shortAttached c value h =>
    show s.short 'l' (c :: value) = _
    unfold short
    split
    · next heq => cases heq
    · next heq => exact absurd (List.cons.inj heq).1 h
    · rfl
    · next heq => exact absurd heq (by decide)
    · next heq => exact absurd heq (by decide)
    · next hother _ _ _ _ => exact absurd rfl hother

/-- A plain argument is taken up as one. -/
theorem take_plain (hmode : s.onlyPositionals = false) {argument : String}
    (h : isPlain argument = true) : s.take argument = s.plain argument := by
  unfold isPlain at h
  unfold take
  rw [hmode, if_neg (by decide)]
  split
  · next hchars =>
    rw [hchars] at h
    cases h
  · next hchars =>
    rw [hchars] at h
    cases h
  · next hchars =>
    rw [hchars] at h
    cases h
  · rfl

/-- **What an argument does where options are looked for**, if it does not end the parse. -/
theorem take_eq_ok_iff (hmode : s.onlyPositionals = false) {argument : String} :
    s.take argument = .ok next ↔
      (argument = "--" ∧ next = { s with onlyPositionals := true }) ∨
      (∃ slot value?, Asks argument.toList slot value? ∧ s.option slot value? = .ok next) ∨
      (isPlain argument = true ∧ s.plain argument = .ok next) := by
  constructor
  · intro h
    unfold take at h
    rw [hmode, if_neg (by decide)] at h
    split at h
    · next hchars =>
      refine .inl ⟨String.toList_inj.mp hchars, (Except.ok.inj h).symm⟩
    · next hchars =>
      rw [hchars]
      exact .inr (.inl (asks_of_long_eq_ok h))
    · next hchars =>
      rw [hchars]
      exact .inr (.inl (asks_of_short_eq_ok h))
    · next hshort =>
      refine .inr (.inr ⟨?_, h⟩)
      unfold isPlain
      split
      · next c rest hchars => exact absurd hchars (hshort c rest)
      · rfl
  · rintro (⟨rfl, rfl⟩ | ⟨slot, value?, hasks, h⟩ | ⟨hplain, h⟩)
    · unfold take
      rw [hmode]
      rfl
    · rw [take_asks hmode hasks]
      exact mapError_eq_ok_iff.mpr h
    · rwa [take_plain hmode hplain]

/-! ## Checking at once -/

/-- Takes arguments one after the other, and checks the value that is pending in the end. -/
def run (s : State) (arguments : List String) : Except Stop State := do
  let s ← arguments.foldlM take s
  s.settle.mapError .fault

theorem run_nil_eq_ok_iff : s.run [] = .ok next ↔ s.settle = .ok next :=
  mapError_eq_ok_iff

theorem run_cons_eq_ok_iff {argument : String} {arguments : List String} {final : State} :
    s.run (argument :: arguments) = .ok final ↔
      ∃ next, s.take argument = .ok next ∧ next.run arguments = .ok final := by
  unfold run
  rw [List.foldlM_cons, bind_assoc]
  exact bind_eq_ok_iff

/-- Nothing is pending. -/
theorem settle_of_none (h : s.pending? = none) : s.settle = .ok s := by
  unfold settle
  rw [h]

/-- A format has the name by which it is found. -/
theorem ofName?_eq_some_iff {text : String} {format : Listing.Format} :
    Listing.Format.ofName? text = some format ↔ format.name = text := by
  constructor
  · intro h
    unfold Listing.Format.ofName? at h
    simpa using List.find?_some h
  · rintro rfl
    cases format <;> rfl

/-- What is stored is not empty, and for an option it is the first value. -/
theorem store_eq_ok_iff {slot : Slot} {value : String} :
    s.store slot value = .ok next ↔ value ≠ "" ∧
      match slot with
      | .input => next = { s with input? := some value }
      | .outputDir => next = { s with outputDir? := some value }
      | .format => s.format? = none ∧
        ∃ format : Listing.Format, format.name = value ∧ next = { s with format? := some format }
      | .listingPath => s.listingPath? = none ∧ next = { s with listingPath? := some value } := by
  unfold store
  by_cases hempty : value = ""
  · constructor
    · intro h
      cases slot <;> (simp only [hempty] at h; split_ifs at h)
    · intro h
      exact absurd hempty h.1
  · cases slot with
    | input => simp [hempty, eq_comm]
    | outputDir => simp [hempty, eq_comm]
    | format =>
      cases s.format? with
      | some _ => simp
      | none =>
        cases hname : Listing.Format.ofName? value with
        | none =>
          have hnone : ∀ format : Listing.Format, format.name ≠ value := by
            intro format heq
            rw [ofName?_eq_some_iff.mpr heq] at hname
            cases hname
          simp [hempty, hnone]
        | some format =>
          have hsame : ∀ other : Listing.Format, other.name = value ↔ other = format := by
            intro other
            rw [← ofName?_eq_some_iff, hname, Option.some.injEq, eq_comm]
          simp [hempty, hsame, eq_comm]
    | listingPath => cases s.listingPath? <;> simp [hempty, eq_comm]

/-- What is stored leaves the rest as it is. -/
theorem of_store_eq_ok {slot : Slot} {value : String} (h : s.store slot value = .ok next) :
    next.pending? = s.pending? ∧ next.positionals = s.positionals ∧
      next.onlyPositionals = s.onlyPositionals := by
  obtain ⟨-, hnext⟩ := store_eq_ok_iff.mp h
  cases slot with
  | input =>
    obtain rfl := hnext
    exact ⟨rfl, rfl, rfl⟩
  | outputDir =>
    obtain rfl := hnext
    exact ⟨rfl, rfl, rfl⟩
  | format =>
    obtain ⟨-, format, -, rfl⟩ := hnext
    exact ⟨rfl, rfl, rfl⟩
  | listingPath =>
    obtain ⟨-, rfl⟩ := hnext
    exact ⟨rfl, rfl, rfl⟩

/-- Nothing is pending after a check, and the rest is as it was. -/
theorem of_settle_eq_ok (h : s.settle = .ok next) :
    next.pending? = none ∧ next.positionals = s.positionals ∧
      next.onlyPositionals = s.onlyPositionals := by
  unfold settle at h
  split at h
  · next hpending =>
    obtain rfl := Except.ok.inj h
    exact ⟨hpending, rfl, rfl⟩
  · cases h
  · exact of_store_eq_ok h

/-- Whether options are looked for makes no difference to what is stored. -/
theorem store_onlyPositionals (s : State) (slot : Slot) (value : String) :
    { s with onlyPositionals := true }.store slot value =
      (fun next : State => { next with onlyPositionals := true }) <$> s.store slot value := by
  unfold store
  cases slot with
  | input => simp only; split <;> rfl
  | outputDir => simp only; split <;> rfl
  | format =>
    simp only
    split
    · rfl
    · split
      · rfl
      · split <;> rfl
  | listingPath =>
    simp only
    split
    · rfl
    · split <;> rfl

/-- Nor does it make a difference to a check. -/
theorem settle_onlyPositionals (s : State) :
    { s with onlyPositionals := true }.settle =
      (fun next : State => { next with onlyPositionals := true }) <$> s.settle := by
  obtain ⟨input?, outputDir?, format?, path?, _ | ⟨slot, _ | value⟩, count, mode⟩ := s
  · rfl
  · rfl
  · exact store_onlyPositionals ⟨input?, outputDir?, format?, path?, none, count, mode⟩ slot value

/-- A second check makes no difference to what is done after the first one. -/
theorem settle_bind_eq_ok_iff {α : Type} {f : State → Except Fault α} {a : α} :
    s.settle >>= f = .ok a ↔ ∃ next, s.settle = .ok next ∧ next.settle >>= f = .ok a := by
  rw [bind_eq_ok_iff]
  apply exists_congr
  intro next
  apply and_congr_right
  intro hnext
  rw [settle_of_none (of_settle_eq_ok hnext).1]
  rfl

/-- An option is taken up after the value before it has been checked. -/
theorem option_eq_ok_iff_settle {slot : Slot} {value? : Option String} {final : State} :
    s.option slot value? = .ok final ↔
      ∃ next, s.settle = .ok next ∧ next.option slot value? = .ok final :=
  settle_bind_eq_ok_iff

/-- What is asked for is put together after a check. -/
theorem finish_eq_ok_iff_settle {arguments : Arguments} :
    s.finish = .ok arguments ↔ ∃ next, s.settle = .ok next ∧ next.finish = .ok arguments :=
  settle_bind_eq_ok_iff

/-- So is a positional argument, if there is a place for it. -/
theorem positional_eq_ok_iff_settle {argument : String} {final : State} :
    s.positional argument = .ok final ↔
      ∃ next, s.settle = .ok next ∧ next.positional argument = .ok final := by
  have hsame : ∀ next, s.settle = .ok next → next.positional argument = s.positional argument := by
    intro next hnext
    obtain ⟨hpending, hcount, -⟩ := of_settle_eq_ok hnext
    unfold positional
    rw [hcount, settle_of_none hpending, hnext]
  constructor
  · intro h
    obtain ⟨next, hnext⟩ : ∃ next, s.settle = .ok next := by
      unfold positional at h
      split at h
      · obtain ⟨next, hnext, -⟩ := bind_eq_ok_iff.mp h
        exact ⟨next, hnext⟩
      · obtain ⟨next, hnext, -⟩ := bind_eq_ok_iff.mp h
        exact ⟨next, hnext⟩
      · cases h
    exact ⟨next, hnext, (hsame next hnext).trans h⟩
  · rintro ⟨next, hnext, h⟩
    exact (hsame next hnext).symm.trans h

/-- An argument that no option waits for is positional. -/
theorem plain_eq (hvalue : ∀ slot, s.pending? ≠ some (slot, none)) (argument : String) :
    s.plain argument = (s.positional argument).mapError .fault := by
  unfold plain
  split
  · next slot _ hpending => exact absurd hpending (hvalue slot)
  · rfl

/-- Behind the two dashes every argument is taken up as a plain one. -/
theorem take_of_onlyPositionals (hmode : s.onlyPositionals = true) (argument : String) :
    s.take argument = s.plain argument := by
  unfold take
  rw [if_pos hmode]

/-- An argument that no option waits for, other than the two dashes, is taken up after the value
before it has been checked. -/
theorem take_eq_ok_iff_settle (hvalue : ∀ slot, s.pending? ≠ some (slot, none)) {argument : String}
    (hargument : s.onlyPositionals = true ∨ argument ≠ "--") {final : State} :
    s.take argument = .ok final ↔
      ∃ next, s.settle = .ok next ∧ next.take argument = .ok final := by
  have hplain : s.plain argument = .ok final ↔
      ∃ next, s.settle = .ok next ∧ next.plain argument = .ok final := by
    rw [plain_eq hvalue, mapError_eq_ok_iff, positional_eq_ok_iff_settle]
    apply exists_congr
    intro next
    apply and_congr_right
    intro hnext
    rw [plain_eq (by rw [(of_settle_eq_ok hnext).1]; exact nofun), mapError_eq_ok_iff]
  cases hmode : s.onlyPositionals with
  | true =>
    rw [take_of_onlyPositionals hmode, hplain]
    apply exists_congr
    intro next
    apply and_congr_right
    intro hnext
    rw [take_of_onlyPositionals ((of_settle_eq_ok hnext).2.2.trans hmode)]
  | false =>
    have hother : argument ≠ "--" := by
      rw [hmode] at hargument
      exact hargument.resolve_left nofun
    have hsettled : ∀ next, s.settle = .ok next → next.onlyPositionals = false := by
      intro next hnext
      exact (of_settle_eq_ok hnext).2.2.trans hmode
    constructor
    · intro h
      obtain ⟨heq, -⟩ | ⟨slot, value?, hasks, h⟩ | ⟨hword, h⟩ := (take_eq_ok_iff hmode).mp h
      · exact absurd heq hother
      · obtain ⟨next, hnext, h⟩ := option_eq_ok_iff_settle.mp h
        exact ⟨next, hnext, (take_eq_ok_iff (hsettled next hnext)).mpr
          (.inr (.inl ⟨slot, value?, hasks, h⟩))⟩
      · obtain ⟨next, hnext, h⟩ := hplain.mp h
        exact ⟨next, hnext, (take_eq_ok_iff (hsettled next hnext)).mpr (.inr (.inr ⟨hword, h⟩))⟩
    · rintro ⟨next, hnext, h⟩
      rw [take_eq_ok_iff hmode]
      obtain ⟨heq, -⟩ | ⟨slot, value?, hasks, h⟩ | ⟨hword, h⟩ :=
        (take_eq_ok_iff (hsettled next hnext)).mp h
      · exact absurd heq hother
      · exact .inr (.inl ⟨slot, value?, hasks, option_eq_ok_iff_settle.mpr ⟨next, hnext, h⟩⟩)
      · exact .inr (.inr ⟨hword, hplain.mpr ⟨next, hnext, h⟩⟩)

/-- Two dashes are taken up without a check. -/
theorem take_dashes (hmode : s.onlyPositionals = false) :
    s.take "--" = .ok { s with onlyPositionals := true } := by
  unfold take
  rw [hmode]
  rfl

/-- Behind the two dashes no options are looked for. -/
theorem run_dashes (hmode : s.onlyPositionals = false) (arguments : List String) :
    s.run ("--" :: arguments) = { s with onlyPositionals := true }.run arguments := by
  unfold run
  rw [List.foldlM_cons, take_dashes hmode]
  rfl

/-- **The value that is pending can be checked at once.** -/
theorem run_eq_ok_iff_settle (hvalue : ∀ slot, s.pending? ≠ some (slot, none))
    {arguments : List String} {final : State} :
    s.run arguments = .ok final ↔ ∃ next, s.settle = .ok next ∧ next.run arguments = .ok final := by
  induction arguments generalizing s with
  | nil =>
    rw [run_nil_eq_ok_iff]
    constructor
    · intro h
      refine ⟨final, h, ?_⟩
      rw [run_nil_eq_ok_iff]
      exact settle_of_none (of_settle_eq_ok h).1
    · rintro ⟨next, hnext, h⟩
      rw [run_nil_eq_ok_iff, settle_of_none (of_settle_eq_ok hnext).1] at h
      exact hnext.trans h
  | cons argument arguments ih =>
    by_cases hdashes : s.onlyPositionals = true ∨ argument ≠ "--"
    · rw [run_cons_eq_ok_iff]
      constructor
      · rintro ⟨last, htake, hrun⟩
        obtain ⟨next, hnext, htake⟩ := (take_eq_ok_iff_settle hvalue hdashes).mp htake
        exact ⟨next, hnext, run_cons_eq_ok_iff.mpr ⟨last, htake, hrun⟩⟩
      · rintro ⟨next, hnext, h⟩
        obtain ⟨last, htake, hrun⟩ := run_cons_eq_ok_iff.mp h
        exact ⟨last, (take_eq_ok_iff_settle hvalue hdashes).mpr ⟨next, hnext, htake⟩, hrun⟩
    · -- The two dashes check nothing: the check is made behind them.
      rw [not_or, Bool.not_eq_true, Decidable.not_not] at hdashes
      obtain ⟨hmode, rfl⟩ := hdashes
      have hlater := ih (s := { s with onlyPositionals := true }) hvalue
      rw [run_dashes hmode, hlater, settle_onlyPositionals]
      constructor
      · rintro ⟨_, hsettle, hrun⟩
        obtain ⟨next, hnext, rfl⟩ := map_eq_ok_iff.mp hsettle
        refine ⟨next, hnext, ?_⟩
        rw [run_dashes ((of_settle_eq_ok hnext).2.2.trans hmode)]
        exact hrun
      · rintro ⟨next, hnext, hrun⟩
        rw [run_dashes ((of_settle_eq_ok hnext).2.2.trans hmode)] at hrun
        exact ⟨_, map_eq_ok_iff.mpr ⟨next, hnext, rfl⟩, hrun⟩

/-! ## What an argument does to a state in which nothing is pending -/

section Awaiting

variable {slot : Slot} (hpending : s.pending? = some (slot, none)) {arguments : List String}
  {final : State}

include hpending

/-- An option that waits for its value does not pass a check. -/
theorem settle_ne_ok_of_awaiting : s.settle ≠ .ok next := by
  unfold settle
  rw [hpending]
  exact nofun

/-- An option that waits for its value gets none behind the two dashes. -/
theorem run_ne_ok_of_awaiting (hmode : s.onlyPositionals = true) :
    s.run arguments ≠ .ok final := by
  intro h
  cases arguments with
  | nil => exact settle_ne_ok_of_awaiting hpending (run_nil_eq_ok_iff.mp h)
  | cons argument arguments =>
    obtain ⟨next, htake, -⟩ := run_cons_eq_ok_iff.mp h
    rw [take_of_onlyPositionals hmode, plain, hmode] at htake
    obtain ⟨settled, hsettled, -⟩ := positional_eq_ok_iff_settle.mp (mapError_eq_ok_iff.mp htake)
    exact settle_ne_ok_of_awaiting hpending hsettled

/-- An option that waits for its value takes the next argument for it, which has to be plain. -/
theorem run_awaiting (hmode : s.onlyPositionals = false) :
    s.run arguments = .ok final ↔
      ∃ value rest, arguments = value :: rest ∧ isPlain value = true ∧
        { s with pending? := some (slot, some value) }.run rest = .ok final := by
  have hvalue : ∀ value, isPlain value = true →
      s.take value = .ok { s with pending? := some (slot, some value) } := by
    intro value hplain
    rw [take_plain hmode hplain]
    unfold plain
    rw [hmode, hpending]
  constructor
  · intro h
    cases arguments with
    | nil => exact absurd (run_nil_eq_ok_iff.mp h) (settle_ne_ok_of_awaiting hpending)
    | cons value rest =>
      obtain ⟨next, hnext, hrest⟩ := run_cons_eq_ok_iff.mp h
      obtain ⟨-, rfl⟩ | ⟨other, value?, -, hoption⟩ | ⟨hplain, -⟩ := (take_eq_ok_iff hmode).mp hnext
      · have hwaiting : { s with onlyPositionals := true }.pending? = some (slot, none) := hpending
        exact absurd hrest (run_ne_ok_of_awaiting hwaiting rfl)
      · obtain ⟨settled, hsettled, -⟩ := option_eq_ok_iff_settle.mp hoption
        exact absurd hsettled (settle_ne_ok_of_awaiting hpending)
      · obtain rfl := Except.ok.inj ((hvalue value hplain).symm.trans hnext)
        exact ⟨value, rest, rfl, hplain, hrest⟩
  · rintro ⟨value, rest, rfl, hplain, hrest⟩
    exact run_cons_eq_ok_iff.mpr ⟨_, hvalue value hplain, hrest⟩

end Awaiting

/-- The place of a positional argument behind so many others. -/
def positionalSlot? : Nat → Option Slot
  | 0 => some .input
  | 1 => some .outputDir
  | _ => none

/-- A parse is a run whose last state has the paths, and a format if it has a path for the
listing. -/
theorem parse_eq_ok_iff_run {texts : List String} {arguments : Arguments} :
    parse texts = .ok arguments ↔
      ∃ final, State.run {} texts = .ok final ∧ final.finish = .ok arguments := by
  unfold parse run
  simp only [bind_eq_ok_iff, mapError_eq_ok_iff]
  constructor
  · rintro ⟨last, hlast, hfinish⟩
    obtain ⟨final, hsettle, hfinish⟩ := finish_eq_ok_iff_settle.mp hfinish
    exact ⟨final, ⟨last, hlast, hsettle⟩, hfinish⟩
  · rintro ⟨final, ⟨last, hlast, hsettle⟩, hfinish⟩
    exact ⟨last, hlast, finish_eq_ok_iff_settle.mpr ⟨final, hsettle, hfinish⟩⟩

section Settled

variable (hpending : s.pending? = none) {arguments : List String} {final : State}

include hpending

/-- A value that is written in the argument of its option is stored. -/
theorem run_attached (hmode : s.onlyPositionals = false) {argument : String} {slot : Slot}
    {value : String} (h : Asks argument.toList slot (some value)) :
    s.run (argument :: arguments) = .ok final ↔
      ∃ next, s.store slot value = .ok next ∧ next.run arguments = .ok final := by
  rw [run_cons_eq_ok_iff, take_asks hmode h]
  unfold option
  rw [settle_of_none hpending]
  simp only [mapError_eq_ok_iff]
  rfl

/-- A value that is pending behind a state without one is checked as it is stored in the state. -/
theorem run_pending (slot : Slot) (value : String) (count : Nat) :
    { s with pending? := some (slot, some value), positionals := count }.run arguments = .ok final ↔
      ∃ next, { s with positionals := count }.store slot value = .ok next ∧
        next.run arguments = .ok final := by
  have hclear : { s with pending? := none, positionals := count } =
      { s with positionals := count } := by
    rw [← hpending]
  rw [run_eq_ok_iff_settle (by intro other; exact nofun)]
  show (∃ next, { s with pending? := none, positionals := count }.store slot value = .ok next ∧ _) ↔ _
  rw [hclear]

/-- An option without a value takes the next argument for it, which has to be plain. -/
theorem run_apart (hmode : s.onlyPositionals = false) {argument : String} {slot : Slot}
    (h : Asks argument.toList slot none) :
    s.run (argument :: arguments) = .ok final ↔
      ∃ value rest, arguments = value :: rest ∧ isPlain value = true ∧
        ∃ next, s.store slot value = .ok next ∧ next.run rest = .ok final := by
  have htake : s.take argument = .ok { s with pending? := some (slot, none) } := by
    rw [take_asks hmode h]
    unfold option
    rw [settle_of_none hpending]
    rfl
  have hrun : s.run (argument :: arguments) =
      { s with pending? := some (slot, none) }.run arguments := by
    unfold run
    rw [List.foldlM_cons, htake]
    rfl
  rw [hrun]
  refine (run_awaiting (s := { s with pending? := some (slot, none) }) rfl hmode).trans ?_
  apply exists_congr
  intro value
  apply exists_congr
  intro rest
  apply and_congr_right
  rintro -
  apply and_congr_right
  rintro -
  exact run_pending hpending slot value s.positionals

/-- A positional argument waits for its check in the next place for one. -/
theorem positional_eq_ok_iff {argument : String} :
    s.positional argument = .ok next ↔ ∃ slot, positionalSlot? s.positionals = some slot ∧
      next = { s with pending? := some (slot, some argument), positionals := s.positionals + 1 } := by
  unfold positional
  rw [settle_of_none hpending]
  rcases s.positionals with _ | _ | count
  · simp [positionalSlot?, bind, Except.bind, pure, Except.pure, eq_comm]
  · simp [positionalSlot?, bind, Except.bind, pure, Except.pure, eq_comm]
  · simp [positionalSlot?]

/-- A positional argument is stored in the next place for one. -/
theorem run_positional {argument : String}
    (hplain : s.onlyPositionals = true ∨ isPlain argument = true) :
    s.run (argument :: arguments) = .ok final ↔
      ∃ slot, positionalSlot? s.positionals = some slot ∧
        ∃ next, { s with positionals := s.positionals + 1 }.store slot argument = .ok next ∧
          next.run arguments = .ok final := by
  have hvalue : ∀ slot, s.pending? ≠ some (slot, none) := by
    rw [hpending]
    exact nofun
  have htake : s.take argument = (s.positional argument).mapError .fault := by
    rw [← plain_eq hvalue]
    cases hmode : s.onlyPositionals with
    | true => exact take_of_onlyPositionals hmode argument
    | false =>
      rw [hmode] at hplain
      exact take_plain hmode (hplain.resolve_left nofun)
  rw [run_cons_eq_ok_iff, htake]
  simp only [mapError_eq_ok_iff, positional_eq_ok_iff hpending]
  constructor
  · rintro ⟨_, ⟨slot, hslot, rfl⟩, hrun⟩
    exact ⟨slot, hslot, (run_pending hpending slot argument _).mp hrun⟩
  · rintro ⟨slot, hslot, hnext⟩
    exact ⟨_, ⟨slot, hslot, rfl⟩, (run_pending hpending slot argument _).mpr hnext⟩

/-- What is asked for, if nothing is left to check. -/
theorem finish_eq_ok_iff {arguments : Arguments} :
    s.finish = .ok arguments ↔
      s.input? = some arguments.input ∧ s.outputDir? = some arguments.outputDir ∧
        s.format? = arguments.format? ∧ s.listingPath? = arguments.listingPath? ∧
        (arguments.listingPath?.isSome → arguments.format?.isSome) := by
  obtain ⟨input, outputDir, format?, listingPath?⟩ := arguments
  unfold finish
  rw [settle_of_none hpending]
  obtain ⟨_ | input', _ | outputDir', format?', listingPath?', _, _, _⟩ := s
  · exact ⟨nofun, nofun⟩
  · exact ⟨nofun, nofun⟩
  · exact ⟨nofun, nofun⟩
  · change (if listingPath?'.isSome ∧ format?'.isNone then
        (.error .missingArgument : Except Fault Arguments)
      else .ok ⟨input', outputDir', format?', listingPath?'⟩) = .ok _ ↔ _
    split
    · next hmissing =>
      constructor
      · exact nofun
      · rintro ⟨-, -, rfl, rfl, hneeds⟩
        rw [Option.isNone_iff_eq_none] at hmissing
        rw [hmissing.2] at hneeds
        exact absurd (hneeds hmissing.1) nofun
    · next hneeds =>
      rw [not_and, Bool.not_eq_true, Option.isNone_eq_false_iff] at hneeds
      simp only [Except.ok.injEq, Arguments.mk.injEq, Option.some.injEq]
      constructor
      · rintro ⟨rfl, rfl, rfl, rfl⟩
        exact ⟨rfl, rfl, rfl, rfl, hneeds⟩
      · rintro ⟨rfl, rfl, rfl, rfl, -⟩
        exact ⟨rfl, rfl, rfl, rfl⟩

end Settled

end State

end KnxExport.CommandLine
