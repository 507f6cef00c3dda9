import KnxExport.Proofs.FileTree.Changes

/-!
# Directories with those that hold them

A directory is made after the ones that hold it, from the outermost one that is missing inwards. A
fault on the way leaves those that have been made.

Main statements: `gainsDirectories_ensureDirectories`, directories are all that changes, and
`GainsFiles.ensureDirectories`, files that are missing are not in the way.
-/

namespace KnxExport.FileTree

/-- The tree with a directory at the path, which may exist already. -/
def ensureDirectory (tree : FileTree) (path : String) : Except SystemError FileTree :=
  match tree.makeDirectory path with
  | .ok other => .ok other
  | .error error => if tree.isDirectory path then .ok tree else .error error

/-- The tree with a directory at the first of the paths, each of which is held by the one after it.
Those are made where they are missing. -/
def ensureDirectories (tree : FileTree) : List String → Except SystemError Unit × FileTree
  | [] => (.ok (), tree)
  | path :: parents =>
    match tree.ensureDirectory path with
    | .ok other => (.ok (), other)
    | .error .noEntry =>
      match tree.ensureDirectories parents with
      | (.error error, other) => (.error error, other)
      | (.ok (), other) =>
        match other.ensureDirectory path with
        | .ok last => (.ok (), last)
        | .error error => (.error error, other)
    | .error error => (.error error, tree)

/-- No directory is there if one is missing on the way. -/
theorem isDirectory_of_noEntry {tree : FileTree} {path : String}
    (h : tree.makeDirectory path = .error .noEntry) : tree.isDirectory path = false := by
  rw [isDirectory, makeDirectory_eq_noEntry_iff.mp h]

/-- A directory that cannot be made for want of another one is not there. -/
theorem ensureDirectory_eq_noEntry_iff {tree : FileTree} {path : String} :
    tree.ensureDirectory path = .error .noEntry ↔ tree.makeDirectory path = .error .noEntry := by
  rw [ensureDirectory]
  cases hmake : tree.makeDirectory path with
  | ok other => simp
  | error error =>
    simp only
    constructor
    · intro h
      split at h
      · cases h
      · exact h
    · intro h
      cases h
      rw [isDirectory_of_noEntry hmake]
      simp

/-- At most one directory is gained. -/
theorem gainsDirectories_ensureDirectory {tree other : FileTree} {path : String}
    (h : tree.ensureDirectory path = .ok other) : GainsDirectories tree other := by
  rw [ensureDirectory] at h
  split at h
  · next hmake => exact .of_make (Except.ok.inj h ▸ hmake)
  · split at h
    · exact Except.ok.inj h ▸ .refl tree
    · cases h

/-- Directories are gained, whether or not all of them can be made. -/
theorem gainsDirectories_ensureDirectories (tree : FileTree) (paths : List String) :
    GainsDirectories tree (tree.ensureDirectories paths).2 := by
  induction paths with
  | nil => exact .refl tree
  | cons path parents ih =>
    rw [ensureDirectories]
    split
    · next other hensure => exact gainsDirectories_ensureDirectory hensure
    · split
      · next hparents => rwa [hparents] at ih
      · next other hparents =>
        rw [hparents] at ih
        split
        · next last hensure => exact ih.trans (gainsDirectories_ensureDirectory hensure)
        · exact ih
    · exact .refl tree

namespace GainsFiles

variable {tree other : FileTree} (h : GainsFiles tree other)

include h

/-- A directory that is there or can be made is so without the files. -/
theorem ensureDirectory {path : String} {final : FileTree}
    (hensure : other.ensureDirectory path = .ok final) :
    ∃ last, tree.ensureDirectory path = .ok last ∧ GainsFiles last final := by
  rw [FileTree.ensureDirectory] at hensure
  split at hensure
  · next hmake =>
    obtain ⟨last, hlast, hgains⟩ := h.makeDirectory (Except.ok.inj hensure ▸ hmake)
    exact ⟨last, by rw [FileTree.ensureDirectory, hlast], hgains⟩
  · split at hensure
    · next hdirectory =>
      have hthere := h.isDirectory hdirectory
      refine ⟨tree, ?_, Except.ok.inj hensure ▸ h⟩
      rw [FileTree.ensureDirectory, makeDirectory_of_isDirectory hthere]
      exact if_pos hthere
    · cases hensure

/-- Directories that can be made with those that hold them can be made without the files. -/
theorem ensureDirectories {paths : List String} {final : FileTree}
    (hensure : other.ensureDirectories paths = (.ok (), final)) :
    ∃ last, tree.ensureDirectories paths = (.ok (), last) ∧ GainsFiles last final := by
  induction paths generalizing final with
  | nil => exact ⟨tree, rfl, (Prod.mk.inj hensure).2 ▸ h⟩
  | cons path parents ih =>
    rw [FileTree.ensureDirectories] at hensure
    split at hensure
    · next first hfirst =>
      obtain ⟨last, hlast, hgains⟩ := h.ensureDirectory hfirst
      exact ⟨last, by rw [FileTree.ensureDirectories, hlast], (Prod.mk.inj hensure).2 ▸ hgains⟩
    · next hfirst =>
      -- What is missing for the directory is missing without the files, so that both trees go
      -- through the same steps.
      have hmissing : tree.ensureDirectory path = .error .noEntry :=
        ensureDirectory_eq_noEntry_iff.mpr
          (h.makeDirectory_noEntry (ensureDirectory_eq_noEntry_iff.mp hfirst))
      split at hensure
      · cases hensure
      · next other' hparents =>
        obtain ⟨tree', htree', hgains⟩ := ih hparents
        split at hensure
        · next final' hfinal =>
          obtain ⟨last, hlast, hgains'⟩ := hgains.ensureDirectory hfinal
          refine ⟨last, ?_, (Prod.mk.inj hensure).2 ▸ hgains'⟩
          rw [FileTree.ensureDirectories, hmissing]
          simp only [htree', hlast]
        · cases hensure
    · cases hensure

end GainsFiles

end KnxExport.FileTree
