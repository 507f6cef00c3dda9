import KnxExport.Proofs.CommandLine.Spellings
import KnxExport.Proofs.Run.Changes

/-!
# What a complete run leaves

The documents and the listing are written one after the other, and their paths may lead to the same
place as one another, to the export or to files that exist. Whatever they do, the documents are
there afterwards, and they are those of the export as it was before: the listing is written over, if
at all, and the export has been read by then.

Main statement: `artifacts_of_run`.
-/

namespace KnxExport.Run

open FileTree (afterWrite)

/-- The places of the documents. -/
def artifactPlaces (tree : FileTree) (arguments : CommandLine.Arguments) : List Place :=
  [scriptPlace tree arguments, annotationsPlace tree arguments]

/-- The documents of records, and the listing unless it has their place, are where they belong, and
nothing else is changed. -/
structure Complete (arguments : CommandLine.Arguments) (records : List GroupAddress)
    (tree final : FileTree) : Prop where
  script : final.get? (scriptPlace tree arguments) =
    afterWrite (Utf8.encode (Lua.Script.document records))
      (tree.get? (scriptPlace tree arguments))
  annotations : final.get? (annotationsPlace tree arguments) =
    afterWrite (Utf8.encode (Lua.Annotations.document records))
      (tree.get? (annotationsPlace tree arguments))
  listing : ∀ format path, listingFile? arguments = some (format, path) →
    tree.place path ∉ artifactPlaces tree arguments →
      final.get? (tree.place path) =
        afterWrite (Utf8.encode (Listing.document format records)) (tree.get? (tree.place path))
  rest : UnchangedButDirectories (artifactPlaces tree arguments ++ listingPlaces tree arguments)
    tree final

section Stages

variable {arguments : CommandLine.Arguments} {records : List GroupAddress}
  {tree listed made scripted final : FileTree}

/-- Everything is where it belongs after the stages of a run. -/
theorem complete_of_stages (hlisted : Listed arguments records tree listed)
    (hmade : Made arguments listed made) (hscripted : Scripted arguments records made scripted)
    (hannotated : Annotated arguments records scripted final) :
    Complete arguments records tree final := by
  obtain ⟨hscript, hscriptFree⟩ := written_of_scripted hlisted hmade hscripted
  obtain ⟨hannotations, hannotationsFree⟩ :=
    written_of_annotated hlisted hmade hscripted hannotated
  have hne := scriptPlace_ne_annotationsPlace tree arguments
  -- Away from the documents, what is there at the end was there before they were written.
  have helse : ∀ place ∉ artifactPlaces tree arguments, final.get? place = made.get? place := by
    intro place hplace
    simp only [artifactPlaces, List.mem_cons, List.not_mem_nil, or_false, not_or] at hplace
    rw [hannotations.get?_of_ne place hplace.2, hscript.get?_of_ne place hplace.1]
  constructor
  case script =>
    rw [hannotations.get?_of_ne _ hne, hscript.get?, afterWrite_of_made hlisted hmade hscriptFree]
  case annotations =>
    rw [hannotations.get?, hscript.get?_of_ne _ hne.symm,
      afterWrite_of_made hlisted hmade hannotationsFree]
  case listing =>
    intro format path hfile hplace
    obtain ⟨hnone, -⟩ | ⟨format', path', hfile', hwritten⟩ := written_of_listed hlisted
    · rw [hnone] at hfile
      cases hfile
    · rw [hfile] at hfile'
      cases hfile'
      rw [helse _ hplace, ← hwritten.get?]
      obtain hsame | ⟨hnone, -⟩ := (gainsDirectories_of_made hmade).get? (tree.place path)
      · exact hsame
      · rw [hwritten.get?] at hnone
        exact absurd hnone (FileTree.afterWrite_ne_none _ _)
  case rest =>
    intro place hplace
    rw [List.mem_append, not_or] at hplace
    rw [helse place hplace.1]
    exact unchangedButDirectories_of_gains (unchanged_of_listed hlisted).2
      (gainsDirectories_of_made hmade) place hplace.2

end Stages

/-- Arguments without those about the listing. -/
def withoutListing (arguments : CommandLine.Arguments) : CommandLine.Arguments :=
  { arguments with format? := none, listingPath? := none }

section Without

variable {arguments : CommandLine.Arguments} {records : List GroupAddress}
  {tree listed made scripted final : FileTree}

theorem gainsFiles_of_listed (h : Listed arguments records tree listed) :
    tree.GainsFiles listed := by
  rw [Listed] at h
  split at h
  · subst h
    exact .refl listed
  · exact .of_written (FileTree.written_of_write h) (FileTree.get?_ne_directory_of_write h)

/-- The documents are written without the listing as well. -/
theorem complete_withoutListing (hread : exported tree arguments.input = .ok records)
    (hlisted : Listed arguments records tree listed)
    (hmade : Made arguments listed made) (hscripted : Scripted arguments records made scripted)
    (hannotated : Annotated arguments records scripted final) :
    (outcome tree (withoutListing arguments)).1 = .ok () ∧
      Complete (withoutListing arguments) records tree
        (outcome tree (withoutListing arguments)).2.tree := by
  obtain ⟨made', hmade', hgains⟩ := (gainsFiles_of_listed hlisted).ensureDirectories hmade
  obtain ⟨scripted', hscripted', hgains⟩ := hgains.write hscripted
  obtain ⟨final', hannotated', -⟩ := hgains.write hannotated
  have hlisted' : Listed (withoutListing arguments) records tree tree := rfl
  obtain ⟨hresult, htree⟩ := outcome_of_stages hlisted' hread hmade' hscripted' hannotated'
  rw [htree]
  exact ⟨hresult, complete_of_stages hlisted' hmade' hscripted' hannotated'⟩

end Without

/-- **A complete run leaves the documents of the export as it was.** They are in the output
directory, the listing is in its file unless it has the place of one of them, and nothing else is
changed but for directories that are new. A command can ask for the same without a listing, and any
that does so leaves the same documents. -/
theorem artifacts_of_run {command : List String} {setting? : Option String} {tree : FileTree}
    {arguments : CommandLine.Arguments} {final : Session}
    (hparse : CommandLine.parse command.tail = .ok arguments)
    (hrun : (run treeSystem command setting?).run { tree } = (0, final)) :
    ∃ bytes records, tree.read arguments.input = .ok bytes ∧ Export.ingest bytes = .ok records ∧
      Complete arguments records tree final.tree ∧
      (∃ other, CommandLine.parse (List.tail other) = .ok (withoutListing arguments)) ∧
      ∀ other otherSetting?, CommandLine.parse other.tail = .ok (withoutListing arguments) →
        ∃ last, (run treeSystem other otherSetting?).run { tree } = (0, last) ∧
          ∀ place ∈ artifactPlaces tree arguments,
            last.tree.get? place = final.tree.get? place := by
  obtain ⟨code, final', hrun', hwork, hcode⟩ := run_of_parse_ok hparse setting? tree
  obtain ⟨rfl, rfl⟩ := Prod.mk.inj (hrun.symm.trans hrun')
  obtain ⟨result, session, houtcome⟩ :
      ∃ result session, outcome tree arguments = (result, session) := ⟨_, _, rfl⟩
  simp only [houtcome] at hwork hcode
  obtain ⟨htree, -⟩ := Session.work_eq_iff.mp hwork
  cases result with
  | error fault => exact absurd hcode.1 (by decide)
  | ok _ =>
    obtain ⟨records, listed, made, scripted, hread, hlisted, hmade, hscripted, hannotated⟩ :=
      stages_of_outcome houtcome
    obtain ⟨bytes, hbytes, hingest⟩ := exported_eq_ok_iff.mp hread
    have hcomplete := complete_of_stages hlisted hmade hscripted hannotated
    rw [← htree] at hcomplete
    obtain ⟨hinput, houtput⟩ := CommandLine.named_of_parse hparse
    refine ⟨bytes, records, hbytes, hingest, hcomplete,
      ⟨"" :: _, CommandLine.parse_positionals hinput houtput⟩, fun other otherSetting? hother => ?_⟩
    obtain ⟨hresult, hwithout⟩ :=
      complete_withoutListing hread hlisted hmade hscripted hannotated
    obtain ⟨code, last, hlast, hwork', hcode'⟩ := run_of_parse_ok hother otherSetting? tree
    obtain ⟨htree', -⟩ := Session.work_eq_iff.mp hwork'
    simp only [hresult] at hcode'
    rw [← htree'] at hwithout
    refine ⟨last, hcode' ▸ hlast, fun place hplace => ?_⟩
    obtain rfl | rfl : place = scriptPlace tree arguments ∨
        place = annotationsPlace tree arguments := by simpa [artifactPlaces] using hplace
    · rw [hcomplete.script]
      exact hwithout.script
    · rw [hcomplete.annotations]
      exact hwithout.annotations

/-- A tree with a file in the place of the annotations. -/
def sharedTree (bytes : List UInt8) : FileTree where
  entries := [(["out"], .directory), (["out", "ADDRESSES.lua"], .file bytes)]
  workingDir := []

/-- An export that is its own listing and is written over by the annotations. -/
theorem artifacts_of_run_shared :
    ∃ final, (run treeSystem ["", "-l", "csv", "--list-output", "out/ADDRESSES.lua",
        "out/ADDRESSES.lua", "out"] none).run
        { tree := sharedTree lightExport } = (0, final) ∧
      final.tree.get? ["out", "ADDRESSES.lua"] = some (.file (Utf8.encode
        (Lua.Annotations.document [lightA]))) ∧
      ∃ last, (run treeSystem ["", "out/ADDRESSES.lua", "out"] none).run
        { tree := sharedTree lightExport } = (0, last) ∧
          last.tree.get? ["out", "ADDRESSES.lua"] = final.tree.get? ["out", "ADDRESSES.lua"] := by
  have hparse : CommandLine.parse ["", "-l", "csv", "--list-output", "out/ADDRESSES.lua",
      "out/ADDRESSES.lua", "out"].tail =
      .ok ⟨"out/ADDRESSES.lua", "out", some .csv, some "out/ADDRESSES.lua"⟩ := by rfl
  have hwithout : CommandLine.parse ["", "out/ADDRESSES.lua", "out"].tail =
      .ok (withoutListing
        ⟨"out/ADDRESSES.lua", "out", some .csv, some "out/ADDRESSES.lua"⟩) := by rfl
  have hwrite : ∀ old pieces, (sharedTree old).write "out/ADDRESSES.lua" pieces =
      (.ok (), sharedTree pieces.flatten) := fun _ _ => by rfl
  have hmade : ∀ old, (sharedTree old).ensureDirectories ["out"] = (.ok (), sharedTree old) :=
    fun _ => by rfl
  have hscripted : ∀ old pieces, (sharedTree old).write "out/createGroupAddresses.lua" pieces =
      (.ok (), (sharedTree old).set ["out", "createGroupAddresses.lua"]
        (.file pieces.flatten)) := fun _ _ => by rfl
  have hannotated : ∀ old script pieces,
      ((sharedTree old).set ["out", "createGroupAddresses.lua"] (.file script)).write
        "out/ADDRESSES.lua" pieces =
      (.ok (), (sharedTree pieces.flatten).set ["out", "createGroupAddresses.lua"]
        (.file script)) := fun _ _ _ => by rfl
  have hlisted : ∀ old records,
      Listed ⟨"out/ADDRESSES.lua", "out", some .csv, some "out/ADDRESSES.lua"⟩ records
        (sharedTree old) (sharedTree (listingBytes .csv records).flatten) := fun _ _ => hwrite _ _
  have hexported : exported (sharedTree lightExport) "out/ADDRESSES.lua" = .ok [lightA] :=
    exported_eq_ok_iff.mpr ⟨_, rfl, ingest_lightExport⟩
  obtain ⟨hresult, -⟩ := outcome_of_stages (hlisted _ _) hexported (hmade _) (hscripted _ _)
    (hannotated _ _ _)
  obtain ⟨code, final, hrun, -, hcode⟩ := run_of_parse_ok hparse none (sharedTree lightExport)
  simp only [hresult] at hcode
  subst hcode
  obtain ⟨bytes, records, hread, hrecords, hcomplete, -, hother⟩ := artifacts_of_run hparse hrun
  obtain ⟨last, hlast, hsame⟩ := hother _ none hwithout
  cases hread
  rw [ingest_lightExport] at hrecords
  cases hrecords
  exact ⟨final, hrun, hcomplete.annotations, last, hlast,
    hsame _ (List.mem_cons_of_mem _ (List.mem_singleton.mpr rfl))⟩

end KnxExport.Run
