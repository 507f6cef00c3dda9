import KnxExport.FileTree
import KnxExport.Proofs.Except

/-!
# Where paths lead

Without links a path leads to one place, whatever there is in the tree: `place` goes there name by
name. What is in the tree decides only whether the way is open.

Main statements: `locate_eq_ok`, a path that is found leads to its place, and
`KeepsDirectories.locate`, a way stays open as long as no directory is lost.
-/

namespace KnxExport

/-! ## Paths of entries in a directory -/

namespace Path

/-- The names in a text, which are what stands between its slashes. -/
def namesIn (text : List Char) : List String :=
  ((text.splitOn '/').filter (· ≠ [])).map String.ofList

/-- A slash stands between names. -/
theorem namesIn_append_slash (front back : List Char) :
    namesIn (front ++ '/' :: back) = namesIn front ++ namesIn back := by
  simp [namesIn, List.splitOn_append_cons_self]

/-- A text that is the name of an entry. -/
structure IsName (name : String) : Prop where
  ne_empty : name ≠ ""
  no_slash : '/' ∉ name.toList
  ne_dot : name ≠ "."
  ne_dots : name ≠ ".."

/-- The name of an entry is the only name in it. -/
theorem IsName.namesIn {name : String} (h : IsName name) : namesIn name.toList = [name] := by
  simp [Path.namesIn, List.splitOn_eq_singleton h.no_slash, h.ne_empty]

/-- The path of an entry goes through the names in the path of its directory. -/
theorem names_join {name : String} (h : IsName name) (dir : String) :
    (ofText (join dir name)).names = (ofText dir).names ++ [name] := by
  show Path.namesIn _ = Path.namesIn _ ++ _
  rw [join]
  split
  · next hdir =>
    obtain rfl | htrailing := hdir
    · simpa [namesIn] using h.namesIn
    · have hlast : dir.toList.getLast? = some '/' := by simpa [ofText] using htrailing
      obtain ⟨front, hfront⟩ := List.getLast?_eq_some_iff.mp hlast
      have hback : namesIn [] = [] := rfl
      rw [String.toList_append, hfront, List.append_assoc, List.singleton_append,
        namesIn_append_slash, namesIn_append_slash, h.namesIn, hback, List.append_nil]
  · have hslash : (dir ++ "/" ++ name).toList = dir.toList ++ '/' :: name.toList := by simp
    rw [hslash, namesIn_append_slash, h.namesIn]

/-- The path of an entry begins where the path of its directory begins. -/
theorem absolute_join {name : String} (h : IsName name) (dir : String) :
    (ofText (join dir name)).absolute = (ofText dir).absolute := by
  have hname : name.toList.head? ≠ some '/' := fun hhead =>
    h.no_slash (List.mem_of_mem_head? hhead)
  by_cases hdir : dir = ""
  · subst hdir
    simp [ofText, join, hname]
  · have hne : dir.toList ≠ [] := by simpa using hdir
    obtain ⟨c, rest, hchars⟩ := List.exists_cons_of_ne_nil hne
    rw [join]
    split <;> simp [ofText, hchars]

end Path

namespace FileTree

/-! ## Entries -/

/-- The first entry is the one at its place. -/
theorem lookup_cons_eq_ite (head : Place) (entry : Entry) (rest : List (Place × Entry))
    (other : Place) :
    ((head, entry) :: rest).lookup other =
      if other = head then some entry else rest.lookup other := by
  rw [List.lookup_cons]
  by_cases h : other = head
  · rw [if_pos h, beq_iff_eq.mpr h]
  · rw [if_neg h, beq_eq_false_iff_ne.mpr h]

/-- Entries with one more have that at its place, and at the other places what was there. -/
theorem lookup_insertEntry (place : Place) (entry : Entry) (entries : List (Place × Entry))
    (other : Place) :
    (insertEntry place entry entries).lookup other =
      if other = place then some entry else entries.lookup other := by
  induction entries with
  | nil => exact lookup_cons_eq_ite place entry [] other
  | cons first rest ih =>
    obtain ⟨head, old⟩ := first
    rw [insertEntry, lookup_cons_eq_ite head old rest]
    by_cases hhead : place = head
    · subst hhead
      rw [if_pos rfl, lookup_cons_eq_ite]
      by_cases hother : other = place <;> simp [hother]
    · rw [if_neg hhead]
      by_cases hless : place < head
      · rw [if_pos hless, lookup_cons_eq_ite, lookup_cons_eq_ite]
      · rw [if_neg hless, lookup_cons_eq_ite, ih]
        by_cases hother : other = head
        · subst hother
          simp [Ne.symm hhead]
        · simp [hother]

/-- What has been put at a place is there. -/
theorem get?_set {place : Place} (h : place ≠ []) (tree : FileTree) (entry : Entry) :
    (tree.set place entry).get? place = some entry := by
  simp [get?, set, h, lookup_insertEntry]

/-- Nothing else is changed. -/
theorem get?_set_of_ne {place other : Place} (h : other ≠ place) (tree : FileTree)
    (entry : Entry) : (tree.set place entry).get? other = tree.get? other := by
  simp [get?, set, h, lookup_insertEntry]

/-! ## The place of a path -/

/-- Where a path begins. -/
def start (tree : FileTree) (text : String) : Place :=
  if (Path.ofText text).absolute then [] else tree.workingDir

/-- Where a path leads to. -/
def place (tree : FileTree) (text : String) : Place :=
  (Path.ofText text).names.foldl follow (tree.start text)

/-- Where paths lead to depends on nothing but where the relative ones begin. -/
theorem place_congr {tree other : FileTree} (h : other.workingDir = tree.workingDir) :
    other.place = tree.place := by
  funext text
  simp only [place, start, h]

/-- An entry is in the directory whose path its own path begins with. -/
theorem place_join {name : String} (h : Path.IsName name) (tree : FileTree) (dir : String) :
    tree.place (Path.join dir name) = tree.place dir ++ [name] := by
  rw [place, place, Path.names_join h, List.foldl_append, start, start, Path.absolute_join h]
  simp [follow, h.ne_dot, h.ne_dots]

/-- A name leads into a directory. -/
theorem enter_eq_ok_iff {tree : FileTree} {dir next : Place} {name : String} :
    tree.enter dir name = .ok next ↔ name.utf8ByteSize ≤ maxNameSize ∧
      tree.get? (follow dir name) = some .directory ∧ next = follow dir name := by
  unfold enter
  split
  · next hsize => simp [Nat.not_le.mpr hsize]
  · next hsize =>
    have hle := Nat.not_lt.mp hsize
    split
    · next hentry => simp [hle, hentry, eq_comm]
    · next entry hne hentry =>
      have hentry' : entry ≠ .directory := hne
      simp [hentry, hentry']
    · next hentry => simp [hentry]

/-- Names that lead through directories lead where they lead in any tree. -/
theorem eq_foldl_of_foldlM_enter {tree : FileTree} {names : List String} {dir last : Place}
    (h : names.foldlM tree.enter dir = .ok last) : last = names.foldl follow dir := by
  induction names generalizing dir with
  | nil => exact (Except.ok.inj h).symm
  | cons name names ih =>
    obtain ⟨next, henter, hnames⟩ := bind_eq_ok_iff.mp h
    obtain ⟨-, -, rfl⟩ := enter_eq_ok_iff.mp henter
    exact ih hnames

/-- What a name names in a directory, with a slash after it or without. -/
def locateIn (dir : Place) (name : String) (slash : Bool) : Except SystemError Target :=
  if name = "." ∨ name = ".." then .ok (.directory (follow dir name))
  else if maxNameSize < name.utf8ByteSize then .error .nameTooLong
  else .ok (.entry (follow dir name) slash)

/-- The way to the directory that the last name of a path is in. -/
def wayTo (tree : FileTree) (text : String) : Except SystemError Place :=
  (Path.ofText text).names.dropLast.foldlM tree.enter (tree.start text)

/-- A path is found by its way, and then by its last name. -/
theorem locate_eq (tree : FileTree) (text : String) :
    tree.locate text =
      if maxPathSize < text.utf8ByteSize then .error .nameTooLong
      else
        match (Path.ofText text).names.getLast? with
        | none =>
          if (Path.ofText text).absolute then .ok (.directory (tree.start text))
          else .error .noEntry
        | some last =>
          tree.wayTo text >>= fun dir => locateIn dir last (Path.ofText text).trailing := by
  unfold locate
  split <;> rfl

/-- A name names a directory by dots, or an entry of its own. -/
theorem locateIn_eq_ok {dir : Place} {name : String} {slash : Bool} {target : Target}
    (h : locateIn dir name slash = .ok target) :
    target = .directory (follow dir name) ∨
      follow dir name ≠ [] ∧ target = .entry (follow dir name) slash := by
  rw [locateIn] at h
  split at h
  · exact .inl (Except.ok.inj h).symm
  · next hdots =>
    split at h
    · cases h
    · rw [not_or] at hdots
      refine .inr ⟨?_, (Except.ok.inj h).symm⟩
      rw [follow, if_neg hdots.1, if_neg hdots.2]
      simp

/-- A path that is found leads to its place, by whatever it ends in. -/
theorem locate_eq_ok {tree : FileTree} {text : String} {target : Target}
    (h : tree.locate text = .ok target) :
    target = .directory (tree.place text) ∨
      tree.place text ≠ [] ∧ target = .entry (tree.place text) (Path.ofText text).trailing := by
  rw [locate_eq] at h
  split at h
  · cases h
  · split at h
    · next hlast =>
      have hnames : (Path.ofText text).names = [] := List.getLast?_eq_none_iff.mp hlast
      split at h
      · rw [place, hnames]
        exact .inl (Except.ok.inj h).symm
      · cases h
    · next last hlast =>
      obtain ⟨front, hnames⟩ := List.getLast?_eq_some_iff.mp hlast
      obtain ⟨dir, hway, hlocate⟩ := bind_eq_ok_iff.mp h
      have hplace : tree.place text = follow dir last := by
        rw [wayTo, hnames, List.dropLast_concat] at hway
        rw [place, hnames, List.foldl_append, ← eq_foldl_of_foldlM_enter hway]
        rfl
      rw [hplace]
      exact locateIn_eq_ok hlocate

/-! ## Ways that stay open -/

/-- No directory of a tree is lost in another, and relative paths begin where they began. -/
structure KeepsDirectories (tree other : FileTree) : Prop where
  workingDir : other.workingDir = tree.workingDir
  get? : ∀ place, tree.get? place = some .directory → other.get? place = some .directory

namespace KeepsDirectories

variable {tree other : FileTree} (h : KeepsDirectories tree other)

include h

/-- Paths begin where they began. -/
theorem start (text : String) : other.start text = tree.start text := by
  rw [FileTree.start, FileTree.start, h.workingDir]

/-- A directory can be entered. -/
theorem enter {dir next : Place} {name : String} (henter : tree.enter dir name = .ok next) :
    other.enter dir name = .ok next := by
  obtain ⟨hsize, hentry, hnext⟩ := enter_eq_ok_iff.mp henter
  exact enter_eq_ok_iff.mpr ⟨hsize, h.get? _ hentry, hnext⟩

/-- A way through directories stays open. -/
theorem foldlM_enter {names : List String} {dir last : Place}
    (hnames : names.foldlM tree.enter dir = .ok last) :
    names.foldlM other.enter dir = .ok last := by
  induction names generalizing dir with
  | nil => exact hnames
  | cons name names ih =>
    obtain ⟨next, henter, hrest⟩ := bind_eq_ok_iff.mp hnames
    exact bind_eq_ok_iff.mpr ⟨next, h.enter henter, ih hrest⟩

/-- The way to a last name stays open. -/
theorem wayTo {text : String} {dir : Place} (hway : tree.wayTo text = .ok dir) :
    other.wayTo text = .ok dir := by
  rw [FileTree.wayTo, h.start]
  exact h.foldlM_enter hway

/-- What a path names is found as before. -/
theorem locate {text : String} {target : Target} (hlocate : tree.locate text = .ok target) :
    other.locate text = .ok target := by
  rw [locate_eq] at hlocate ⊢
  split at hlocate
  · cases hlocate
  · next hsize =>
    rw [if_neg hsize]
    split at hlocate
    · rwa [h.start]
    · obtain ⟨dir, hway, hlast⟩ := bind_eq_ok_iff.mp hlocate
      exact bind_eq_ok_iff.mpr ⟨dir, h.wayTo hway, hlast⟩

end KeepsDirectories

/-! ## Ways that end where nothing is -/

/-- A name that leads nowhere has nothing at its place. -/
theorem enter_eq_noEntry_iff {tree : FileTree} {dir : Place} {name : String} :
    tree.enter dir name = .error .noEntry ↔
      name.utf8ByteSize ≤ maxNameSize ∧ tree.get? (follow dir name) = none := by
  unfold enter
  split
  · next hsize => simp [Nat.not_le.mpr hsize]
  · next hsize =>
    have hle := Nat.not_lt.mp hsize
    split
    · next hentry => simp [hentry]
    · next hentry => simp [hentry]
    · next hentry => simp [hle, hentry]

section NoEntry

variable {tree other : FileTree} (h : KeepsDirectories tree other)
  (hnone : ∀ place, tree.get? place = none → other.get? place = none)

include h hnone

/-- A way that ends where nothing is does so in a tree with the same directories and no more
entries. -/
theorem foldlM_enter_noEntry {names : List String} {dir : Place}
    (hnames : names.foldlM tree.enter dir = .error .noEntry) :
    names.foldlM other.enter dir = .error .noEntry := by
  induction names generalizing dir with
  | nil => cases hnames
  | cons name names ih =>
    obtain henter | ⟨next, henter, hrest⟩ := bind_eq_error_iff.mp hnames
    · obtain ⟨hsize, hentry⟩ := enter_eq_noEntry_iff.mp henter
      exact bind_eq_error_iff.mpr (.inl (enter_eq_noEntry_iff.mpr ⟨hsize, hnone _ hentry⟩))
    · exact bind_eq_error_iff.mpr (.inr ⟨next, h.enter henter, ih hrest⟩)

/-- A path that leads to where nothing is does so in a tree with the same directories and no more
entries. -/
theorem locate_noEntry {text : String} (hlocate : tree.locate text = .error .noEntry) :
    other.locate text = .error .noEntry := by
  rw [locate_eq] at hlocate ⊢
  split at hlocate
  · cases hlocate
  · next hsize =>
    rw [if_neg hsize]
    split at hlocate
    · rwa [h.start]
    · next last hlast =>
      obtain hway | ⟨dir, hway, hlocate⟩ := bind_eq_error_iff.mp hlocate
      · refine bind_eq_error_iff.mpr (.inl ?_)
        rw [wayTo, h.start]
        exact foldlM_enter_noEntry h hnone hway
      · exact bind_eq_error_iff.mpr (.inr ⟨dir, h.wayTo hway, hlocate⟩)

end NoEntry

end FileTree

end KnxExport
