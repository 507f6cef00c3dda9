import KnxExport.Proofs.Run.Bounds

/-!
# What a failed run leaves

A run stops where it fails. What it has done by then is all that has changed: nothing if the command
or the export cannot be read, and otherwise at most the files that it has begun to write and
directories that are new. How much of a file is there depends on what went wrong.

Main statement: `changes_of_failed_run`, whatever goes wrong. The stages are on any system that acts
locally (`confined_of_generate`).
-/

namespace KnxExport.Run

/-- What a run may have changed that stops with a fault. Where the script cannot be written, the
annotations are at another place, and so among what has not been changed. -/
def Confined (arguments : CommandLine.Arguments) (before after : Session) : Fault → Prop
  | .readInput _ _ | .ingest _ _ => after.tree = before.tree ∧ after.shown = before.shown
  | .listing _ => Unchanged (listingPlaces before.tree arguments) before.tree after.tree
  | .createDirectory _ _ =>
    UnchangedButDirectories (listingPlaces before.tree arguments) before.tree after.tree
  | .writeOutput path _ =>
    (path = scriptPath arguments ∧
        scriptPlace before.tree arguments ≠ annotationsPlace before.tree arguments ∧
        UnchangedButDirectories
          (scriptPlace before.tree arguments :: listingPlaces before.tree arguments) before.tree
          after.tree) ∨
      path = annotationsPath arguments ∧
        UnchangedButDirectories
          (annotationsPlace before.tree arguments :: scriptPlace before.tree arguments ::
            listingPlaces before.tree arguments) before.tree after.tree

/-- What the user has been told is no change. -/
theorem Confined.congr {arguments : CommandLine.Arguments} {fault : Fault}
    {before after before' after' : Session} (h : Confined arguments before after fault)
    (hbefore : before'.work = before.work) (hafter : after'.work = after.work) :
    Confined arguments before' after' fault := by
  obtain ⟨htree, hshown⟩ := Session.work_eq_iff.mp hbefore
  obtain ⟨htree', hshown'⟩ := Session.work_eq_iff.mp hafter
  unfold Confined at h ⊢
  rwa [htree, hshown, htree', hshown']

section System

variable {σ : Type} {system : System (StateM σ)} {session : σ → Session}
  (h : ActsLocally system session)

include h

/-- What is left where one of the documents cannot be written, after no more than some places have
been changed. -/
theorem changes_of_writeDocuments {filter : Log.Filter} {arguments : CommandLine.Arguments}
    {records : List GroupAddress} {tree : FileTree} {places : List Place} {fault : Fault} {s t : σ}
    (hplace : (session s).tree.place = tree.place)
    (hmade : UnchangedButDirectories places tree (session s).tree)
    (hrun : exec (writeDocuments system filter arguments.outputDir records) s = (.error fault, t)) :
    (∃ error, fault = .writeOutput (scriptPath arguments) error ∧
        UnchangedButDirectories (scriptPlace tree arguments :: places) tree (session t).tree) ∨
      ∃ error, fault = .writeOutput (annotationsPath arguments) error ∧
        UnchangedButDirectories (annotationsPlace tree arguments :: scriptPlace tree arguments ::
          places) tree (session t).tree := by
  have hscriptStage := leads_writeDocument h filter (scriptPath arguments)
    (Lua.Script.document records)
  have hannotationsStage := leads_writeDocument h filter (annotationsPath arguments)
    (Lua.Annotations.document records)
  obtain hscript | ⟨_, scripted, hscript, hannotations⟩ := exec_bind_eq_error hrun
  · obtain ⟨hchanges, hfault⟩ := hscriptStage.of_exec hscript
    obtain ⟨error, rfl⟩ := hfault fault rfl
    rw [hplace, place_scriptPath] at hchanges
    exact .inl ⟨error, rfl, hmade.cons hchanges⟩
  · obtain ⟨hchanges, -⟩ := hscriptStage.of_exec hscript
    obtain ⟨hlast, hfault⟩ := hannotationsStage.of_exec hannotations
    obtain ⟨error, rfl⟩ := hfault fault rfl
    rw [FileTree.place_congr hchanges.workingDir, hplace, place_annotationsPath] at hlast
    rw [hplace, place_scriptPath] at hchanges
    exact .inr ⟨error, rfl, (hmade.cons hchanges).cons hlast⟩

/-- What is left where a stage has failed. -/
theorem confined_of_generate {filter : Log.Filter} {arguments : CommandLine.Arguments}
    {fault : Fault} {s t : σ}
    (hrun : exec (generate system filter arguments) s = (.error fault, t)) :
    Confined arguments (session s) (session t) fault := by
  have hreadStage := leads_readExport h filter arguments.input
  have hdirStage := leads_makeOutputDirectory h arguments.outputDir
  rw [generate_eq_stages] at hrun
  obtain hread | ⟨records, started, hread, hrun⟩ := exec_bind_eq_error hrun
  · obtain ⟨hwork, hfault⟩ := hreadStage.of_exec hread
    obtain ⟨error, rfl⟩ | ⟨cause, rfl⟩ := hfault fault rfl
    · exact Session.work_eq_iff.mp hwork
    · exact Session.work_eq_iff.mp hwork
  obtain ⟨hwork, -⟩ := hreadStage.of_exec hread
  suffices hstarted : Confined arguments (session started) (session t) fault from
    hstarted.congr hwork.symm rfl
  have hlistStage := leads_list h arguments records
  obtain hlist | ⟨_, listed, hlist, hrun⟩ := exec_bind_eq_error hrun
  · obtain ⟨⟨-, hlisted⟩, hfault⟩ := hlistStage.of_exec hlist
    obtain ⟨cause, rfl⟩ := hfault fault rfl
    exact hlisted
  obtain ⟨⟨hworkingDir, hlisted⟩, -⟩ := hlistStage.of_exec hlist
  obtain hmake | ⟨_, made, hmake, hrun⟩ := exec_bind_eq_error hrun
  · obtain ⟨hgains, hfault⟩ := hdirStage.of_exec hmake
    obtain ⟨error, rfl⟩ := hfault fault rfl
    exact unchangedButDirectories_of_gains hlisted hgains
  obtain ⟨hgains, -⟩ := hdirStage.of_exec hmake
  have hplace := FileTree.place_congr (hgains.workingDir.trans hworkingDir)
  obtain ⟨error, rfl, hchanges⟩ | ⟨error, rfl, hchanges⟩ :=
    changes_of_writeDocuments h hplace (unchangedButDirectories_of_gains hlisted hgains) hrun
  · exact .inl ⟨rfl, scriptPlace_ne_annotationsPlace _ _, hchanges⟩
  · exact .inr ⟨rfl, hchanges⟩

end System

/-- **A failed run stops where it failed.** Whatever goes wrong, a command that cannot be read
changes nothing and shows nothing, and neither does a run that cannot read its export. Without its
listing, a run changes at most the listing file, without its output directory at most that and
directories that are new, and without its script at most the script besides. -/
theorem changes_of_failed_run (command : List String) (setting? : Option String)
    (s : FallibleSession) :
    ∃ code final, (run fallibleSystem command setting?).run s = (code, final) ∧
      match CommandLine.parse command.tail with
      | .error (.fault _) =>
        code = 2 ∧ final.session.tree = s.session.tree ∧ final.session.shown = s.session.shown
      | .error .help | .error .version => code = 0
      | .ok arguments =>
        match exec (generate fallibleSystem ((readFilter fallibleSystem setting?).run s).1 arguments)
          ((readFilter fallibleSystem setting?).run s).2 with
        | (.ok (), _) => code = 0
        | (.error fault, last) =>
          code = 1 ∧ final = ((fallibleSystem.report fault.diagnostic).run last).2 ∧
            Confined arguments s.session final.session fault := by
  have h := actsLocally_fallibleSystem
  have hstart : SameWork FallibleSession.session s
      ((readFilter fallibleSystem setting?).run s).2 := (leads_readFilter h setting? s).1
  cases hparse : CommandLine.parse command.tail with
  | error stop =>
    cases stop with
    | help => exact ⟨_, _, rfl, code_of_text fallibleSystem setting? s (.inl hparse)⟩
    | version => exact ⟨_, _, rfl, code_of_text fallibleSystem setting? s (.inr hparse)⟩
    | fault fault =>
      refine ⟨2, _, run_of_fault fallibleSystem setting? s hparse, rfl, ?_⟩
      exact Session.work_eq_iff.mp ((h.report _ _).trans hstart)
  | ok arguments =>
    have hrun := run_of_arguments fallibleSystem arguments setting? s hparse
    rcases hexec : exec (generate fallibleSystem ((readFilter fallibleSystem setting?).run s).1
      arguments) ((readFilter fallibleSystem setting?).run s).2 with ⟨fault | u, last⟩
    · rw [hexec] at hrun
      refine ⟨1, _, hrun, ?_⟩
      simp only [hexec, true_and]
      exact (confined_of_generate h hexec).congr hstart.symm (h.report fault.diagnostic last)
    · rw [hexec] at hrun
      refine ⟨0, last, hrun, ?_⟩
      simp only [hexec]

/-- An export, an older script and older annotations. -/
def writtenTree (script : List UInt8) : FileTree where
  entries := [(["in.csv"], .file lightExport), (["out"], .directory),
    (["out", "ADDRESSES.lua"], .file [45, 45]), (["out", "createGroupAddresses.lua"], .file script)]
  workingDir := []

/-- A write to a file that is cut. -/
theorem run_write_cut (path : String) (pieces : List (List UInt8)) (session : Session)
    (mishaps : List (Option Mishap)) (size index : Nat) (error : SystemError) :
    (fallibleSystem.write (.file path) pieces).run
        ⟨session, some (.cut size index error) :: mishaps⟩ =
      ((session.tree.writePart path pieces size index error).1,
        ⟨{ session with tree := (session.tree.writePart path pieces size index error).2 },
          mishaps⟩) := rfl

/-- The first bytes of the script are kept where the old one was. -/
theorem writePart_writtenTree (script : List UInt8) (size : Nat) :
    (writtenTree [45, 45]).writePart "out/createGroupAddresses.lua" [script] size 0 .noSpace =
      (.error (.piece 0 .noSpace), writtenTree (script.take size)) := by
  have hcreate : (writtenTree [45, 45]).create "out/createGroupAddresses.lua" =
      .ok (["out", "createGroupAddresses.lua"], writtenTree []) := by rfl
  have hentry : (writtenTree []).get? ["out", "createGroupAddresses.lua"] = some (.file []) := by
    rfl
  have hset : (writtenTree []).set ["out", "createGroupAddresses.lua"] (.file (script.take size)) =
      writtenTree (script.take size) := by rfl
  rw [FileTree.writePart, hcreate]
  simp [FileTree.append, hentry, hset]

/-- A disk that is full after some operations: the next one is a write, which keeps five bytes. -/
def fullDisk (operations : Nat) : FallibleSession :=
  ⟨{ tree := writtenTree [45, 45] }, List.replicate operations none ++ [some (.cut 5 0 .noSpace)]⟩

/-- The disk is full when five bytes of the script have been written. -/
theorem changes_of_failed_run_cut :
    ∃ final, (run fallibleSystem ["", "in.csv", "out"] none).run (fullDisk 3) = (1, final) ∧
      final.session.tree.get? ["out", "createGroupAddresses.lua"] =
        some (.file ((Utf8.encode (Lua.Script.document [lightA])).take 5)) ∧
      final.session.tree.get? ["out", "ADDRESSES.lua"] = some (.file [45, 45]) := by
  have hparse : CommandLine.parse ["", "in.csv", "out"].tail =
      .ok ⟨"in.csv", "out", none, none⟩ := by rfl
  have hfilter : (readFilter fallibleSystem none).run (fullDisk 3) =
      (Log.Filter.standard, fullDisk 3) := rfl
  have hread : exec (readExport fallibleSystem Log.Filter.standard "in.csv") (fullDisk 3) =
      (.ok [lightA], fullDisk 2) := by
    rw [exec_readExport_of_isSilent isSilent_standard]
    show ((Export.ingest lightExport).mapError _, _) = _
    rw [ingest_lightExport]
    rfl
  have hlist : exec (list fallibleSystem ⟨"in.csv", "out", none, none⟩ [lightA]) (fullDisk 2) =
      (.ok (), fullDisk 2) := rfl
  have hdir : exec (makeOutputDirectory fallibleSystem "out") (fullDisk 2) =
      (.ok (), fullDisk 0) := by rfl
  have hpath : Path.join "out" Lua.Script.fileName = "out/createGroupAddresses.lua" := by rfl
  have hscript : exec (writeDocument fallibleSystem Log.Filter.standard
      "out/createGroupAddresses.lua" (Lua.Script.document [lightA])) (fullDisk 0) =
      (.error (.writeOutput "out/createGroupAddresses.lua" .noSpace),
        ⟨{ tree := writtenTree ((Utf8.encode (Lua.Script.document [lightA])).take 5) }, []⟩) := by
    have hdisk : fullDisk 0 =
        ⟨{ tree := writtenTree [45, 45] }, [some (.cut 5 0 .noSpace)]⟩ := rfl
    rw [exec_writeDocument_of_isSilent isSilent_standard, hdisk, run_write_cut,
      writePart_writtenTree]
    rfl
  have hgenerate : exec (generate fallibleSystem Log.Filter.standard ⟨"in.csv", "out", none, none⟩)
      (fullDisk 3) = (.error (.writeOutput "out/createGroupAddresses.lua" .noSpace),
        ⟨{ tree := writtenTree ((Utf8.encode (Lua.Script.document [lightA])).take 5) }, []⟩) := by
    rw [generate_eq_stages, exec_bind_of_ok hread, exec_bind_of_ok hlist, exec_bind_of_ok hdir,
      writeDocuments, hpath, exec_bind, hscript]
  obtain ⟨code, final, hrun, hchanges⟩ :=
    changes_of_failed_run ["", "in.csv", "out"] none (fullDisk 3)
  simp only [hparse, hfilter, hgenerate] at hchanges
  obtain ⟨rfl, rfl, hconfined⟩ := hchanges
  refine ⟨_, hrun, rfl, ?_⟩
  obtain ⟨-, -, hmost⟩ | ⟨hpath, -⟩ := hconfined
  · obtain hsame | ⟨hnone, -⟩ := hmost ["out", "ADDRESSES.lua"] (by decide +kernel)
    · rw [hsame]
      rfl
    · cases hnone
  · exact absurd hpath (by decide +kernel)

/-- An export, and a directory in the place of the script. -/
def blockedTree : FileTree where
  entries := [(["in.csv"], .file lightExport), (["out"], .directory),
    (["out", "createGroupAddresses.lua"], .directory)]
  workingDir := []

/-- A directory that is new can have the name of the annotations, if the path of the output
directory leads through it. -/
theorem annotations_place_made_directory :
    ∃ final, (run treeSystem ["", "in.csv", "out/ADDRESSES.lua/.."] none).run
        { tree := blockedTree } = (1, final) ∧
      CommandLine.parse ["in.csv", "out/ADDRESSES.lua/.."] =
        .ok ⟨"in.csv", "out/ADDRESSES.lua/..", none, none⟩ ∧
      (outcome blockedTree ⟨"in.csv", "out/ADDRESSES.lua/..", none, none⟩).1 =
        .error (.writeOutput "out/ADDRESSES.lua/../createGroupAddresses.lua" .isDirectory) ∧
      annotationsPlace blockedTree ⟨"in.csv", "out/ADDRESSES.lua/..", none, none⟩ =
        ["out", "ADDRESSES.lua"] ∧
      blockedTree.get? ["out", "ADDRESSES.lua"] = none ∧
      final.tree.get? ["out", "ADDRESSES.lua"] = some .directory := by
  have hparse : CommandLine.parse ["", "in.csv", "out/ADDRESSES.lua/.."].tail =
      .ok ⟨"in.csv", "out/ADDRESSES.lua/..", none, none⟩ := by rfl
  have hexported : exported blockedTree "in.csv" = .ok [lightA] :=
    exported_eq_ok_iff.mpr ⟨_, rfl, ingest_lightExport⟩
  have houtcome : outcome blockedTree ⟨"in.csv", "out/ADDRESSES.lua/..", none, none⟩ =
      (.error (.writeOutput "out/ADDRESSES.lua/../createGroupAddresses.lua" .isDirectory),
        { tree := blockedTree.set ["out", "ADDRESSES.lua"] .directory }) := by
    rw [outcome, generate_eq_stages, exec_bind, exec_readExport]
    simp only [hexported]
    rfl
  obtain ⟨code, final, hrun, hwork, hcode⟩ := run_of_parse_ok hparse none blockedTree
  rw [houtcome] at hwork hcode
  obtain ⟨htree, -⟩ := Session.work_eq_iff.mp hwork
  refine ⟨final, by rw [← hcode.1, ← hrun], hparse, by rw [houtcome], rfl, rfl, ?_⟩
  rw [htree]
  rfl

end KnxExport.Run
