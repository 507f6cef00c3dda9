import KnxExport.Proofs.FileTree.Places

/-!
# What the operations on a tree change

Writing keeps all bytes in one file, or the beginning of them if it is cut. Making directories puts
directories where nothing was.

Main statements: `written_of_write`, `changesAt_write` and `snd_writePart` about writing,
`GainsDirectories.of_make` about making a directory, and the lemmas of `GainsFiles`: what can be
done in a tree can be done in the tree without some of its files.
-/

namespace KnxExport.FileTree

/-! ## Writing -/

/-- What takes pieces that are written to it: files, also new ones, and devices, but a device
without room takes nothing. -/
def Takes (pieces : List (List UInt8)) : Option Entry → Prop
  | some .directory => False
  | some (.device .full) => ∀ piece ∈ pieces, piece = []
  | some (.device .null) | some (.file _) | none => True

/-- What is there after bytes have been written to it. A device keeps none of them. -/
def afterWrite (bytes : List UInt8) : Option Entry → Option Entry
  | some (.device device) => some (.device device)
  | some (.file _) | some .directory | none => some (.file bytes)

/-- What is written last is there. -/
@[simp] theorem afterWrite_afterWrite (bytes first : List UInt8) (old? : Option Entry) :
    afterWrite bytes (afterWrite first old?) = afterWrite bytes old? := by
  rcases old? with _ | (_ | _ | _) <;> rfl

/-- Something is there after bytes have been written to it. -/
theorem afterWrite_ne_none (bytes : List UInt8) (old? : Option Entry) :
    afterWrite bytes old? ≠ none := by
  rcases old? with _ | (_ | _ | _) <;> simp [afterWrite]

/-- Nothing is changed but what is at a place. -/
structure ChangesAt (tree other : FileTree) (place : Place) : Prop where
  workingDir : other.workingDir = tree.workingDir
  get?_of_ne : ∀ q, q ≠ place → other.get? q = tree.get? q

/-- Nothing needs to be changed. -/
theorem ChangesAt.refl (tree : FileTree) (place : Place) : ChangesAt tree tree place :=
  ⟨rfl, fun _ _ => rfl⟩

/-- Bytes have been written at a place, and all else is as before. -/
structure Written (tree other : FileTree) (place : Place) (bytes : List UInt8) : Prop
    extends ChangesAt tree other place where
  get? : other.get? place = afterWrite bytes (tree.get? place)

/-- A file with the bytes at a place where no device is has had them written to it. -/
theorem Written.set {tree : FileTree} {place : Place} (hplace : place ≠ [])
    (hdevice : ∀ device, tree.get? place ≠ some (.device device)) (bytes : List UInt8) :
    Written tree ((tree.set place (.file [])).set place (.file bytes)) place bytes where
  workingDir := rfl
  get? := by
    rw [get?_set hplace]
    unfold afterWrite
    split
    · next device hentry => exact absurd hentry (hdevice device)
    · rfl
    · rfl
    · rfl
  get?_of_ne q hq := by rw [get?_set_of_ne hq, get?_set_of_ne hq]

/-- A device has had anything written to it if all is as before. -/
theorem Written.device {tree : FileTree} {place : Place} {device : Device}
    (hentry : tree.get? place = some (.device device)) (bytes : List UInt8) :
    Written tree tree place bytes where
  workingDir := rfl
  get? := by rw [hentry, afterWrite]
  get?_of_ne _ _ := rfl

section Write

variable {tree : FileTree} {path : String} {place : Place} {pieces : List (List UInt8)}

/-- Opening what a path names, once that is found. -/
theorem create_of_locate (hlocate : tree.locate path = .ok (.entry place false)) :
    tree.create path =
      match tree.get? place with
      | some .directory => .error .isDirectory
      | some (.device _) => .ok (place, tree)
      | some (.file _) | none => .ok (place, tree.set place (.file [])) := by
  rw [create, hlocate]
  rfl

/-- What takes the pieces has all of them written to it. -/
theorem write_of_takes (hlocate : tree.locate path = .ok (.entry place false))
    (hplace : place ≠ []) (htakes : Takes pieces (tree.get? place)) :
    ∃ other, tree.write path pieces = (.ok (), other) ∧
      Written tree other place pieces.flatten := by
  have hfile : tree.create path = .ok (place, tree.set place (.file [])) →
      tree.write path pieces =
        (.ok (), (tree.set place (.file [])).set place (.file pieces.flatten)) := by
    intro hcreate
    rw [write, hcreate]
    simp only [append, get?_set hplace, List.nil_append]
  have hcreate := create_of_locate hlocate
  cases hentry : tree.get? place with
  | none =>
    rw [hentry] at hcreate
    exact ⟨_, hfile hcreate, .set hplace (by simp [hentry]) _⟩
  | some entry =>
    rw [hentry] at hcreate htakes
    cases entry with
    | file old => exact ⟨_, hfile hcreate, .set hplace (by simp [hentry]) _⟩
    | directory => exact htakes.elim
    | device device =>
      refine ⟨tree, ?_, .device hentry _⟩
      rw [write, hcreate]
      simp only [append, hentry]
      cases device with
      | null => rfl
      | full =>
        have hfirst : pieces.findIdx? (· ≠ []) = none := by simpa [Takes] using htakes
        rw [hfirst]

/-- What does not take the pieces stays as it is. -/
theorem write_of_not_takes (hlocate : tree.locate path = .ok (.entry place false))
    (htakes : ¬ Takes pieces (tree.get? place)) :
    ∃ fault, tree.write path pieces = (.error fault, tree) := by
  have hcreate := create_of_locate hlocate
  cases hentry : tree.get? place with
  | none => rw [hentry] at htakes; exact absurd trivial htakes
  | some entry =>
    rw [hentry] at hcreate htakes
    cases entry with
    | file old => exact absurd trivial htakes
    | directory => exact ⟨.opening .isDirectory, by rw [write, hcreate]⟩
    | device device =>
      rw [write, hcreate]
      simp only [append, hentry]
      cases device with
      | null => exact absurd trivial htakes
      | full =>
        cases hfirst : pieces.findIdx? (· ≠ []) with
        | none => exact absurd (by simpa [Takes] using hfirst) htakes
        | some index => exact ⟨_, rfl⟩

/-- What a path does not name as an entry cannot be opened. -/
theorem write_of_not_locate (hlocate : ∀ place, tree.locate path ≠ .ok (.entry place false)) :
    ∃ fault, tree.write path pieces = (.error fault, tree) := by
  have hcreate : ∃ error, tree.create path = .error error := by
    rw [create]
    cases htarget : tree.locate path with
    | error error => exact ⟨error, rfl⟩
    | ok target =>
      cases target with
      | directory dir => exact ⟨.isDirectory, rfl⟩
      | entry place slash =>
        cases slash with
        | true => exact ⟨.isDirectory, rfl⟩
        | false => exact absurd htarget (hlocate place)
  obtain ⟨error, hcreate⟩ := hcreate
  exact ⟨.opening error, by rw [write, hcreate]⟩

/-- Pieces can be written to what a path names if it is an entry that takes them. -/
theorem write_cases (tree : FileTree) (path : String) (pieces : List (List UInt8)) :
    (tree.locate path = .ok (.entry (tree.place path) false) ∧
      Takes pieces (tree.get? (tree.place path)) ∧
      ∃ other, tree.write path pieces = (.ok (), other) ∧
        Written tree other (tree.place path) pieces.flatten) ∨
    ∃ fault, tree.write path pieces = (.error fault, tree) := by
  by_cases hlocate : ∃ place, tree.locate path = .ok (.entry place false)
  · obtain ⟨place, hlocate⟩ := hlocate
    obtain htarget | ⟨hplace, htarget⟩ := locate_eq_ok hlocate
    · cases htarget
    · obtain ⟨rfl, -⟩ := Target.entry.inj htarget
      by_cases htakes : Takes pieces (tree.get? (tree.place path))
      · exact .inl ⟨hlocate, htakes, write_of_takes hlocate hplace htakes⟩
      · exact .inr (write_of_not_takes hlocate htakes)
  · exact .inr (write_of_not_locate (not_exists.mp hlocate))

variable {other : FileTree}

/-- What has been written without a fault is where the path leads. -/
theorem written_of_write (h : tree.write path pieces = (.ok (), other)) :
    Written tree other (tree.place path) pieces.flatten := by
  obtain ⟨-, -, final, hwrite, hwritten⟩ | ⟨fault, hwrite⟩ := write_cases tree path pieces
  · rw [h] at hwrite
    cases hwrite
    exact hwritten
  · rw [h] at hwrite
    cases hwrite

/-- Nothing is written to a directory. -/
theorem get?_ne_directory_of_write (h : tree.write path pieces = (.ok (), other)) :
    tree.get? (tree.place path) ≠ some .directory := by
  intro hdirectory
  obtain ⟨-, htakes, -⟩ | ⟨fault, hwrite⟩ := write_cases tree path pieces
  · rw [hdirectory] at htakes
    exact htakes.elim
  · rw [h] at hwrite
    cases hwrite

/-- A write changes nothing but what is where the path leads, whether or not it fails. -/
theorem changesAt_write (tree : FileTree) (path : String) (pieces : List (List UInt8)) :
    ChangesAt tree (tree.write path pieces).2 (tree.place path) := by
  obtain ⟨-, -, final, hwrite, hwritten⟩ | ⟨fault, hwrite⟩ := write_cases tree path pieces
  · rw [hwrite]
    exact hwritten.toChangesAt
  · rw [hwrite]
    exact .refl tree _

/-- A write that is cut leaves what a write of its first bytes would leave. -/
theorem snd_writePart (tree : FileTree) (path : String) (pieces : List (List UInt8))
    (size index : Nat) (error : SystemError) :
    (tree.writePart path pieces size index error).2 =
      (tree.write path [pieces.flatten.take size]).2 := by
  rw [writePart, write]
  cases tree.create path <;> rfl

end Write

/-! ## Making directories -/

/-- There are directories where nothing was, and all else is as before. -/
structure GainsDirectories (tree other : FileTree) : Prop where
  workingDir : other.workingDir = tree.workingDir
  get? : ∀ place, other.get? place = tree.get? place ∨
    tree.get? place = none ∧ other.get? place = some .directory

namespace GainsDirectories

/-- Nothing needs to be gained. -/
theorem refl (tree : FileTree) : GainsDirectories tree tree :=
  ⟨rfl, fun _ => .inl rfl⟩

/-- More directories can be gained. -/
theorem trans {tree other last : FileTree} (h : GainsDirectories tree other)
    (hlast : GainsDirectories other last) : GainsDirectories tree last := by
  refine ⟨hlast.workingDir.trans h.workingDir, fun place => ?_⟩
  obtain hsame | ⟨hnone, hnew⟩ := hlast.get? place
  · rw [hsame]
    exact h.get? place
  · obtain hold | ⟨-, hdirectory⟩ := h.get? place
    · exact .inr ⟨hold ▸ hnone, hnew⟩
    · rw [hdirectory] at hnone
      cases hnone

/-- No directory is lost. -/
theorem keepsDirectories {tree other : FileTree} (h : GainsDirectories tree other) :
    KeepsDirectories tree other := by
  refine ⟨h.workingDir, fun place hplace => ?_⟩
  obtain hsame | ⟨hnone, -⟩ := h.get? place
  · rw [hsame, hplace]
  · rw [hplace] at hnone
    cases hnone

/-- What is no directory was there before. -/
theorem get?_eq_of_ne {tree other : FileTree} (h : GainsDirectories tree other) {place : Place}
    (hplace : other.get? place ≠ some .directory) : other.get? place = tree.get? place := by
  obtain hsame | ⟨-, hnew⟩ := h.get? place
  · exact hsame
  · exact absurd hnew hplace

end GainsDirectories

/-- A directory is made where the path leads, and nothing was there. -/
theorem makeDirectory_eq_ok_iff {tree other : FileTree} {path : String} :
    tree.makeDirectory path = .ok other ↔
      (∃ slash, tree.locate path = .ok (.entry (tree.place path) slash)) ∧
        tree.get? (tree.place path) = none ∧ other = tree.set (tree.place path) .directory := by
  unfold makeDirectory
  constructor
  · intro h
    obtain ⟨target, hlocate, hmake⟩ := bind_eq_ok_iff.mp h
    obtain rfl | ⟨-, rfl⟩ := locate_eq_ok hlocate
    · cases hmake
    · simp only at hmake
      split at hmake
      · cases hmake
      · next hentry => exact ⟨⟨_, hlocate⟩, hentry, (Except.ok.inj hmake).symm⟩
  · rintro ⟨⟨slash, hlocate⟩, hentry, rfl⟩
    refine bind_eq_ok_iff.mpr ⟨_, hlocate, ?_⟩
    simp only [hentry]
    rfl

/-- A path that leads to where nothing is, through directories that do not exist, is the only one
for which a directory could be made later. -/
theorem makeDirectory_eq_noEntry_iff {tree : FileTree} {path : String} :
    tree.makeDirectory path = .error .noEntry ↔ tree.locate path = .error .noEntry := by
  unfold makeDirectory
  constructor
  · intro h
    obtain hlocate | ⟨target, hlocate, hmake⟩ := bind_eq_error_iff.mp h
    · exact hlocate
    · obtain rfl | ⟨-, rfl⟩ := locate_eq_ok hlocate
      · cases hmake
      · simp only at hmake
        split at hmake <;> cases hmake
  · intro h
    exact bind_eq_error_iff.mpr (.inl h)

/-- A directory that is made is gained. -/
theorem GainsDirectories.of_make {tree other : FileTree} {path : String}
    (h : tree.makeDirectory path = .ok other) : GainsDirectories tree other := by
  obtain ⟨⟨slash, hlocate⟩, hentry, rfl⟩ := makeDirectory_eq_ok_iff.mp h
  refine ⟨rfl, fun place => ?_⟩
  by_cases hplace : place = tree.place path
  · subst hplace
    obtain htarget | ⟨hne, -⟩ := locate_eq_ok hlocate
    · cases htarget
    · exact .inr ⟨hentry, get?_set hne tree .directory⟩
  · exact .inl (get?_set_of_ne hplace tree .directory)

/-- Nothing can be made where a directory is. -/
theorem makeDirectory_of_isDirectory {tree : FileTree} {path : String}
    (h : tree.isDirectory path = true) : tree.makeDirectory path = .error .exists := by
  unfold isDirectory at h
  unfold makeDirectory
  split at h
  · next hlocate =>
    rw [hlocate]
    rfl
  · next place slash hlocate =>
    have hentry : tree.get? place = some .directory := of_decide_eq_true h
    refine bind_eq_error_iff.mpr (.inr ⟨_, hlocate, ?_⟩)
    simp only [hentry]
    rfl
  · cases h

/-! ## Trees without some files -/

/-- A tree differs from another in files only: the other one has more of them, or other bytes in
them. -/
structure GainsFiles (tree other : FileTree) : Prop where
  workingDir : other.workingDir = tree.workingDir
  get? : ∀ place, other.get? place = tree.get? place ∨
    (∃ bytes, other.get? place = some (.file bytes)) ∧
      (tree.get? place = none ∨ ∃ bytes, tree.get? place = some (.file bytes))

namespace GainsFiles

/-- Nothing needs to be gained. -/
theorem refl (tree : FileTree) : GainsFiles tree tree :=
  ⟨rfl, fun _ => .inl rfl⟩

/-- What is written to something that takes it is gained. -/
theorem of_written {tree other : FileTree} {place : Place} {bytes : List UInt8}
    (h : Written tree other place bytes) (hplace : tree.get? place ≠ some .directory) :
    GainsFiles tree other := by
  refine ⟨h.workingDir, fun q => ?_⟩
  by_cases hq : q = place
  · subst hq
    have hentry := h.get?
    cases hold : tree.get? q with
    | none => exact .inr ⟨⟨bytes, by rw [hentry, hold, afterWrite]⟩, .inl rfl⟩
    | some entry =>
      cases entry with
      | file old => exact .inr ⟨⟨bytes, by rw [hentry, hold, afterWrite]⟩, .inr ⟨old, rfl⟩⟩
      | directory => exact absurd hold hplace
      | device device => exact .inl (by rw [hentry, hold, afterWrite])
  · exact .inl (h.get?_of_ne q hq)

variable {tree other : FileTree} (h : GainsFiles tree other)

include h

/-- The tree has the directories of the other one. -/
theorem keepsDirectories : KeepsDirectories other tree := by
  refine ⟨h.workingDir.symm, fun place hplace => ?_⟩
  obtain hsame | ⟨⟨bytes, hfile⟩, -⟩ := h.get? place
  · rw [← hsame, hplace]
  · rw [hplace] at hfile
    cases hfile

/-- It has nothing where the other one has nothing. -/
theorem get?_eq_none {place : Place} (hnone : other.get? place = none) :
    tree.get? place = none := by
  obtain hsame | ⟨⟨bytes, hfile⟩, -⟩ := h.get? place
  · rw [← hsame, hnone]
  · rw [hnone] at hfile
    cases hfile

/-- Paths lead to the same places. -/
theorem place : other.place = tree.place :=
  place_congr h.workingDir

/-- A directory can be made without the files. -/
theorem makeDirectory {path : String} {final : FileTree}
    (hmake : other.makeDirectory path = .ok final) :
    ∃ last, tree.makeDirectory path = .ok last ∧ GainsFiles last final := by
  obtain ⟨⟨slash, hlocate⟩, hentry, rfl⟩ := makeDirectory_eq_ok_iff.mp hmake
  rw [h.place] at hlocate hentry ⊢
  refine ⟨tree.set (tree.place path) .directory, makeDirectory_eq_ok_iff.mpr
    ⟨⟨slash, h.keepsDirectories.locate hlocate⟩, h.get?_eq_none hentry, rfl⟩, h.workingDir, ?_⟩
  intro place
  by_cases hplace : place = tree.place path
  · subst hplace
    obtain htarget | ⟨hne, -⟩ := locate_eq_ok (h.keepsDirectories.locate hlocate)
    · cases htarget
    · exact .inl (by rw [get?_set hne, get?_set hne])
  · rw [get?_set_of_ne hplace, get?_set_of_ne hplace]
    exact h.get? place

/-- The directories that are missing for a path are missing without the files. -/
theorem makeDirectory_noEntry {path : String}
    (hmake : other.makeDirectory path = .error .noEntry) :
    tree.makeDirectory path = .error .noEntry := by
  rw [makeDirectory_eq_noEntry_iff] at hmake ⊢
  exact locate_noEntry h.keepsDirectories (fun _ => h.get?_eq_none) hmake

/-- A directory is one without the files. -/
theorem isDirectory {path : String} (hdirectory : other.isDirectory path = true) :
    tree.isDirectory path = true := by
  unfold FileTree.isDirectory at hdirectory ⊢
  split at hdirectory
  · next hlocate => rw [h.keepsDirectories.locate hlocate]
  · next place slash hlocate =>
    rw [h.keepsDirectories.locate hlocate]
    exact decide_eq_true (h.keepsDirectories.get? place (of_decide_eq_true hdirectory))
  · cases hdirectory

/-- What can be written can be written without the files. -/
theorem write {path : String} {pieces : List (List UInt8)} {final : FileTree}
    (hwrite : other.write path pieces = (.ok (), final)) :
    ∃ last, tree.write path pieces = (.ok (), last) ∧ GainsFiles last final := by
  obtain ⟨hlocate, htakes, -⟩ | ⟨fault, hfault⟩ := write_cases other path pieces
  · have hwritten := written_of_write hwrite
    rw [h.place] at hlocate htakes hwritten
    have hfound := h.keepsDirectories.locate hlocate
    obtain htarget | ⟨hne, -⟩ := locate_eq_ok hfound
    · cases htarget
    · have htakes' : Takes pieces (tree.get? (tree.place path)) := by
        obtain hsame | ⟨-, hnone | ⟨old, hfile⟩⟩ := h.get? (tree.place path)
        · rwa [← hsame]
        · rw [hnone]
          trivial
        · rw [hfile]
          trivial
      obtain ⟨last, hlast, hwritten'⟩ := write_of_takes hfound hne htakes'
      refine ⟨last, hlast, hwritten.workingDir.trans
        (h.workingDir.trans hwritten'.workingDir.symm), fun q => ?_⟩
      by_cases hq : q = tree.place path
      · subst hq
        rw [hwritten.get?, hwritten'.get?]
        obtain hsame | ⟨⟨bytes, hfile⟩, hold⟩ := h.get? (tree.place path)
        · exact .inl (by rw [hsame])
        · refine .inl ?_
          obtain hnone | ⟨old, hold⟩ := hold
          · rw [hfile, hnone, afterWrite, afterWrite]
          · rw [hfile, hold, afterWrite, afterWrite]
      · rw [hwritten.get?_of_ne q hq, hwritten'.get?_of_ne q hq]
        exact h.get? q
  · rw [hwrite] at hfault
    cases hfault

end GainsFiles

end KnxExport.FileTree
