import KnxExport.Proofs.Run.Stages
import KnxExport.Proofs.Text.Utf8

/-!
# Where the stages of a run change a tree

Each of the files that a run writes has one place from the beginning, and making the output
directory only puts directories where nothing was. The places can be the same as one another.

Main statements: `unchanged_of_listed`, `unchangedButDirectories_of_gains`, `written_of_scripted`
and `written_of_annotated`.
-/

namespace KnxExport.Run

open FileTree (afterWrite)

/-! ## Places -/

/-- The place of the file that the listing goes to, if it goes to one. -/
def listingPlaces (tree : FileTree) (arguments : CommandLine.Arguments) : List Place :=
  ((listingFile? arguments).map fun file => tree.place file.2).toList

/-- The place of the script. -/
def scriptPlace (tree : FileTree) (arguments : CommandLine.Arguments) : Place :=
  tree.place arguments.outputDir ++ [Lua.Script.fileName]

/-- The place of the annotations. -/
def annotationsPlace (tree : FileTree) (arguments : CommandLine.Arguments) : Place :=
  tree.place arguments.outputDir ++ [Lua.Annotations.fileName]

/-- The path of the script leads to its place. -/
theorem place_scriptPath (tree : FileTree) (arguments : CommandLine.Arguments) :
    tree.place (scriptPath arguments) = scriptPlace tree arguments :=
  FileTree.place_join ⟨by decide, by decide, by decide, by decide⟩ tree arguments.outputDir

/-- The path of the annotations leads to their place. -/
theorem place_annotationsPath (tree : FileTree) (arguments : CommandLine.Arguments) :
    tree.place (annotationsPath arguments) = annotationsPlace tree arguments :=
  FileTree.place_join ⟨by decide, by decide, by decide, by decide⟩ tree arguments.outputDir

/-- The documents have different places. -/
theorem scriptPlace_ne_annotationsPlace (tree : FileTree) (arguments : CommandLine.Arguments) :
    scriptPlace tree arguments ≠ annotationsPlace tree arguments := by
  intro h
  have hname := List.append_cancel_left h
  exact absurd hname (by decide)

/-! ## Trees that are as they were -/

/-- Outside some places a tree is as it was. -/
def Unchanged (places : List Place) (tree final : FileTree) : Prop :=
  ∀ place ∉ places, final.get? place = tree.get? place

/-- Outside some places a tree is as it was, but for directories where nothing was. -/
def UnchangedButDirectories (places : List Place) (tree final : FileTree) : Prop :=
  ∀ place ∉ places, final.get? place = tree.get? place ∨
    tree.get? place = none ∧ final.get? place = some .directory

section Frames

variable {places : List Place} {tree other final : FileTree}

/-- Directories can be gained where nothing else has been changed. -/
theorem unchangedButDirectories_of_gains (h : Unchanged places tree other)
    (hgains : other.GainsDirectories final) : UnchangedButDirectories places tree final := by
  intro place hplace
  rw [← h place hplace]
  exact hgains.get? place

/-- One more place can be changed. -/
theorem UnchangedButDirectories.cons {place : Place} (h : UnchangedButDirectories places tree other)
    (hchanges : other.ChangesAt final place) :
    UnchangedButDirectories (place :: places) tree final := by
  intro q hq
  rw [List.mem_cons, not_or] at hq
  rw [hchanges.get?_of_ne q hq.1]
  exact h q hq.2

end Frames

section Stages

variable {arguments : CommandLine.Arguments} {records : List GroupAddress}
  {tree listed made scripted final : FileTree}

/-- The bytes of a listing are those of its text. -/
theorem flatten_listingBytes (format : Listing.Format) (records : List GroupAddress) :
    (listingBytes format records).flatten = Utf8.encode (Listing.document format records) := by
  rw [listingBytes, Listing.document, Listing.textOf, Utf8.encode_join, List.map_map]
  rfl

/-- The listing has been written to its place, or there is none. -/
theorem written_of_listed (h : Listed arguments records tree listed) :
    listingFile? arguments = none ∧ listed = tree ∨
      ∃ format path, listingFile? arguments = some (format, path) ∧
        tree.Written listed (tree.place path)
          (Utf8.encode (Listing.document format records)) := by
  rw [Listed] at h
  split at h
  · next hfile => exact .inl ⟨hfile, h⟩
  · next format path hfile =>
    refine .inr ⟨format, path, hfile, ?_⟩
    rw [← flatten_listingBytes]
    exact FileTree.written_of_write h

/-- A listing changes nothing but its file. -/
theorem unchanged_of_listed (h : Listed arguments records tree listed) :
    listed.workingDir = tree.workingDir ∧
      Unchanged (listingPlaces tree arguments) tree listed := by
  obtain ⟨hfile, rfl⟩ | ⟨format, path, hfile, hwritten⟩ := written_of_listed h
  · exact ⟨rfl, fun _ _ => rfl⟩
  · refine ⟨hwritten.workingDir, fun place hplace => hwritten.get?_of_ne place ?_⟩
    simpa [listingPlaces, hfile] using hplace

/-- What is written over a listing is there as if no listing had been. -/
theorem afterWrite_of_listed (h : Listed arguments records tree listed) (place : Place)
    (bytes : List UInt8) :
    afterWrite bytes (listed.get? place) = afterWrite bytes (tree.get? place) := by
  by_cases hplace : place ∈ listingPlaces tree arguments
  · obtain ⟨-, rfl⟩ | ⟨format, path, hfile, hwritten⟩ := written_of_listed h
    · rfl
    · obtain rfl : place = tree.place path := by simpa [listingPlaces, hfile] using hplace
      rw [hwritten.get?, FileTree.afterWrite_afterWrite]
  · rw [(unchanged_of_listed h).2 place hplace]

/-- Directories are all that making the output directory adds. -/
theorem gainsDirectories_of_made (h : Made arguments listed made) :
    listed.GainsDirectories made := by
  have hgains := FileTree.gainsDirectories_ensureDirectories listed
    (arguments.outputDir :: Path.parents arguments.outputDir)
  rw [Made] at h
  rwa [h] at hgains

section Documents

variable (hlisted : Listed arguments records tree listed) (hmade : Made arguments listed made)

include hlisted hmade

/-- Making the output directory leaves it where it is. -/
theorem workingDir_of_made : made.workingDir = tree.workingDir :=
  (gainsDirectories_of_made hmade).workingDir.trans (unchanged_of_listed hlisted).1

/-- What is written where no directory is, is there as if nothing had been done before. -/
theorem afterWrite_of_made {place : Place} (hplace : made.get? place ≠ some .directory)
    (bytes : List UInt8) :
    afterWrite bytes (made.get? place) = afterWrite bytes (tree.get? place) := by
  rw [(gainsDirectories_of_made hmade).get?_eq_of_ne hplace, afterWrite_of_listed hlisted]

variable (hscripted : Scripted arguments records made scripted)

include hscripted

/-- The script is written to the place that its path has led to from the beginning. -/
theorem written_of_scripted :
    made.Written scripted (scriptPlace tree arguments)
        (Utf8.encode (Lua.Script.document records)) ∧
      made.get? (scriptPlace tree arguments) ≠ some .directory := by
  have hplace : made.place (scriptPath arguments) = scriptPlace tree arguments := by
    rw [FileTree.place_congr (workingDir_of_made hlisted hmade), place_scriptPath]
  rw [← hplace]
  refine ⟨?_, FileTree.get?_ne_directory_of_write hscripted⟩
  simpa using FileTree.written_of_write hscripted

variable (hannotated : Annotated arguments records scripted final)

include hannotated

/-- The annotations are written to the place that their path has led to from the beginning. -/
theorem written_of_annotated :
    scripted.Written final (annotationsPlace tree arguments)
        (Utf8.encode (Lua.Annotations.document records)) ∧
      made.get? (annotationsPlace tree arguments) ≠ some .directory := by
  have hscript := (written_of_scripted hlisted hmade hscripted).1
  have hplace : scripted.place (annotationsPath arguments) = annotationsPlace tree arguments := by
    rw [FileTree.place_congr (hscript.workingDir.trans (workingDir_of_made hlisted hmade)),
      place_annotationsPath]
  rw [← hscript.get?_of_ne _ (scriptPlace_ne_annotationsPlace tree arguments).symm, ← hplace]
  refine ⟨?_, FileTree.get?_ne_directory_of_write hannotated⟩
  simpa using FileTree.written_of_write hannotated

end Documents

end Stages

end KnxExport.Run
