import KnxExport.Proofs.Export.Records
import KnxExport.Proofs.FileTree.Parents
import KnxExport.Proofs.Run.Silent

/-!
# What the stages of a run do to a tree of files

On a tree of files each stage comes down to an operation of the tree, with the fault of the stage
where that fails. Here nothing is logged.

Main statements: one lemma for each stage, and `stages_of_outcome` and `outcome_of_stages` about all
of them together where none fails.
-/

namespace KnxExport.Run

variable {s t : Session} {fault : Fault}

/-! ## Reading the export -/

/-- The records of the export at a path, or why there are none. -/
def exported (tree : FileTree) (path : String) : Except Fault (List GroupAddress) :=
  match tree.read path with
  | .error error => .error (.readInput path error)
  | .ok bytes => (Export.ingest bytes).mapError (.ingest path)

theorem exported_eq_ok_iff {tree : FileTree} {path : String} {records : List GroupAddress} :
    exported tree path = .ok records ↔
      ∃ bytes, tree.read path = .ok bytes ∧ Export.ingest bytes = .ok records := by
  rw [exported]
  cases tree.read path with
  | error error => simp
  | ok bytes => simp [mapError_eq_ok_iff]

/-- An export of one group address. -/
def lightExport : List UInt8 :=
  Utf8.encode "Light A,1/0/1,,,,1-001\n"

/-- The group address of that export. -/
def lightA : GroupAddress :=
  ⟨⟨some .lower, "Light A"⟩, "", .switch, ⟨1, 0, 1⟩, .known 1⟩

theorem ingest_lightExport : Export.ingest lightExport = .ok [lightA] := by
  rw [Export.ingest, Export.read, Export.records_eq_table]
  rfl

section Read

variable {σ : Type} {filter : Log.Filter}

/-- Without a log, nothing is done for the rows of an export but to read them. -/
theorem exec_log_each (hfilter : IsSilent filter) {events : List Log.Event}
    (hevents : ∀ event ∈ events, IsMinor event) (system : System (StateM σ)) (s : σ) :
    exec (forIn events PUnit.unit fun event _ => do
      (log system filter event : StateM σ Unit)
      return ForInStep.yield PUnit.unit : ExceptT Fault (StateM σ) PUnit) s =
      (.ok PUnit.unit, s) := by
  induction events with
  | nil => rfl
  | cons event events ih =>
    rw [List.forall_mem_cons] at hevents
    rw [List.forIn_cons, hfilter.log_eq hevents.1]
    exact ih hevents.2

/-- Without a log, an export is read and then ingested, on any system. -/
theorem exec_readExport_of_isSilent (hfilter : IsSilent filter) (system : System (StateM σ))
    (path : String) (s : σ) :
    exec (readExport system filter path) s =
      (match ((system.read path).run s).1 with
        | .error error => .error (.readInput path error)
        | .ok bytes => (Export.ingest bytes).mapError (.ingest path),
        ((system.read path).run s).2) := by
  unfold readExport
  rw [exec_lift_bind]
  rcases (system.read path).run s with ⟨error | bytes, t⟩
  · rfl
  · simp only
    rw [exec_bind_of_ok (exec_log_each hfilter isMinor_of_mem_events system t)]
    cases Export.ingest bytes with
    | error cause => rfl
    | ok records =>
      simp only
      rw [hfilter.log_eq (isMinor_ingestedEvent _)]
      rfl

end Read

/-- Reading the export changes nothing. -/
theorem exec_readExport (path : String) (s : Session) :
    exec (readExport treeSystem [] path) s = (exported s.tree path, s) :=
  exec_readExport_of_isSilent isSilent_nil treeSystem path s

/-! ## Listing the records -/

/-- The format of the listing and the path of the file that it goes to. -/
def listingFile? (arguments : CommandLine.Arguments) : Option (Listing.Format × String) :=
  arguments.format?.bind fun format => arguments.listingPath?.map fun path => (format, path)

/-- The pieces of a listing as they are written. -/
def listingBytes (format : Listing.Format) (records : List GroupAddress) : List (List UInt8) :=
  (Listing.pieces format records).map fun piece => Utf8.encode piece.text

theorem run_write_file (path : String) (pieces : List (List UInt8)) (s : Session) :
    (treeSystem.write (.file path) pieces).run s =
      ((s.tree.write path pieces).1, { s with tree := (s.tree.write path pieces).2 }) := rfl

section List

variable {arguments : CommandLine.Arguments} {records : List GroupAddress}

/-- A listing that goes to a file is written there, on any system. -/
theorem exec_list_file {σ : Type} {format : Listing.Format} {path : String}
    (h : listingFile? arguments = some (format, path)) (system : System (StateM σ)) (s : σ) :
    exec (list system arguments records) s =
      (((system.write (.file path) (listingBytes format records)).run s).1.mapError fun fault =>
          .listing (Listing.Fault.ofWrite (.file path) (Listing.pieces format records) fault),
        ((system.write (.file path) (listingBytes format records)).run s).2) := by
  obtain ⟨_, _, format?, listingPath?⟩ := arguments
  obtain ⟨_, rfl, _, rfl, hpair⟩ : ∃ format', format? = some format' ∧
      ∃ path', listingPath? = some path' ∧ (format', path') = (format, path) := by
    simpa [listingFile?, Option.bind_eq_some_iff] using h
  cases hpair
  unfold list writeListing listingBytes
  simp only [sinkOf]
  rw [exec_lift_bind]
  rcases (system.write (.file path) _).run s with ⟨_ | _, t⟩ <;> rfl

/-- A listing that does not go to a file cannot fail, and leaves the tree as it is. -/
theorem exec_list_of_none (h : listingFile? arguments = none) (records : List GroupAddress)
    (s : Session) :
    ∃ shown, exec (list treeSystem arguments records) s = (.ok (), { s with shown }) := by
  obtain ⟨_, _, format?, listingPath?⟩ := arguments
  unfold list
  cases format? with
  | none => exact ⟨s.shown, rfl⟩
  | some format =>
    cases listingPath? with
    | none => exact ⟨_, rfl⟩
    | some path => cases h

end List

/-! ## Making the output directory -/

theorem run_makeDirectory (path : String) (s : Session) :
    (treeSystem.makeDirectory path).run s =
      match s.tree.makeDirectory path with
      | .ok tree => (.ok (), { s with tree })
      | .error error => (.error error, s) := by
  show s.makeDirectory path = _
  rw [Session.makeDirectory]
  cases s.tree.makeDirectory path <;> rfl

/-- Making a directory, unless it is there. -/
theorem run_ensureDirectory (path : String) (s : Session) :
    (do match ← treeSystem.makeDirectory path with
        | .ok () => return .ok ()
        | .error error => return if ← treeSystem.isDirectory path then .ok () else .error error :
      StateM Session (Except SystemError Unit)).run s =
      match s.tree.ensureDirectory path with
      | .ok tree => (.ok (), { s with tree })
      | .error error => (.error error, s) := by
  rw [stateM_run_bind, run_makeDirectory, FileTree.ensureDirectory]
  cases s.tree.makeDirectory path with
  | ok tree => rfl
  | error error =>
    show (if s.tree.isDirectory path then _ else _, s) = _
    split <;> rfl

/-- Making a directory with those that hold it. -/
theorem run_makeDirectories (paths : List String) (s : Session) :
    (makeDirectories treeSystem paths).run s =
      ((s.tree.ensureDirectories paths).1,
        { s with tree := (s.tree.ensureDirectories paths).2 }) := by
  induction paths generalizing s with
  | nil => rfl
  | cons path parents ih =>
    unfold makeDirectories
    rw [stateM_run_bind, run_makeDirectory, FileTree.ensureDirectories, FileTree.ensureDirectory]
    cases hmake : s.tree.makeDirectory path with
    | ok tree => rfl
    | error error =>
      cases error with
      | noEntry =>
        rw [FileTree.isDirectory_of_noEntry hmake]
        simp only [Bool.false_eq_true, if_false]
        rw [stateM_run_bind, ih]
        rcases s.tree.ensureDirectories parents with ⟨error | _, tree⟩
        · rfl
        · refine (run_ensureDirectory path _).trans ?_
          simp only
          cases tree.ensureDirectory path <;> rfl
      | _ =>
        show (if s.tree.isDirectory path then _ else _, s) = _
        split <;> rfl

/-- Making the output directory makes directories in the tree. -/
theorem exec_makeOutputDirectory (dir : String) (s : Session) :
    exec (makeOutputDirectory treeSystem dir) s =
      ((s.tree.ensureDirectories (dir :: Path.parents dir)).1.mapError (.createDirectory dir),
        { s with tree := (s.tree.ensureDirectories (dir :: Path.parents dir)).2 }) := by
  unfold makeOutputDirectory
  rw [exec_lift_bind, run_makeDirectories]
  rcases s.tree.ensureDirectories _ with ⟨_ | _, tree⟩ <;> rfl

/-! ## Writing the documents -/

/-- What went wrong in writing, wherever it did. -/
def writeError : FileTree.WriteFault → SystemError
  | .opening error | .piece _ error => error

/-- Without a log, writing a document writes to its file, on any system. -/
theorem exec_writeDocument_of_isSilent {σ : Type} {filter : Log.Filter} (hfilter : IsSilent filter)
    (system : System (StateM σ)) (path text : String) (s : σ) :
    exec (writeDocument system filter path text) s =
      (((system.write (.file path) [Utf8.encode text]).run s).1.mapError fun fault =>
          .writeOutput path (writeError fault),
        ((system.write (.file path) [Utf8.encode text]).run s).2) := by
  unfold writeDocument
  rw [exec_lift_bind]
  rcases (system.write (.file path) _).run s with ⟨(error | ⟨_, error⟩) | _, t⟩
  · rfl
  · rfl
  · simp only
    rw [hfilter.log_eq (isMinor_wroteEvent _ _)]
    rfl

/-- Writing a document writes to its file. -/
theorem exec_writeDocument (path text : String) (s : Session) :
    exec (writeDocument treeSystem [] path text) s =
      ((s.tree.write path [Utf8.encode text]).1.mapError fun fault =>
          .writeOutput path (writeError fault),
        { s with tree := (s.tree.write path [Utf8.encode text]).2 }) :=
  exec_writeDocument_of_isSilent isSilent_nil treeSystem path text s

/-! ## All stages -/

/-- The path of the script. -/
def scriptPath (arguments : CommandLine.Arguments) : String :=
  Path.join arguments.outputDir Lua.Script.fileName

/-- The path of the annotations. -/
def annotationsPath (arguments : CommandLine.Arguments) : String :=
  Path.join arguments.outputDir Lua.Annotations.fileName

/-- A tree is as another one once the listing has been written to its file, if it goes to one. -/
def Listed (arguments : CommandLine.Arguments) (records : List GroupAddress)
    (tree listed : FileTree) : Prop :=
  match listingFile? arguments with
  | none => listed = tree
  | some (format, path) => tree.write path (listingBytes format records) = (.ok (), listed)

/-- A tree is as another one once the output directory has been made. -/
def Made (arguments : CommandLine.Arguments) (listed made : FileTree) : Prop :=
  listed.ensureDirectories (arguments.outputDir :: Path.parents arguments.outputDir) =
    (.ok (), made)

/-- A tree is as another one once the script has been written. -/
def Scripted (arguments : CommandLine.Arguments) (records : List GroupAddress)
    (made scripted : FileTree) : Prop :=
  made.write (scriptPath arguments) [Utf8.encode (Lua.Script.document records)] = (.ok (), scripted)

/-- A tree is as another one once the annotations have been written. -/
def Annotated (arguments : CommandLine.Arguments) (records : List GroupAddress)
    (scripted final : FileTree) : Prop :=
  scripted.write (annotationsPath arguments) [Utf8.encode (Lua.Annotations.document records)] =
    (.ok (), final)

section Outcome

variable {arguments : CommandLine.Arguments} {records : List GroupAddress}

/-- A listing without a fault is complete. -/
theorem listed_of_list (h : exec (list treeSystem arguments records) s = (.ok (), t)) :
    Listed arguments records s.tree t.tree := by
  rw [Listed]
  cases hfile : listingFile? arguments with
  | none =>
    obtain ⟨shown, hlist⟩ := exec_list_of_none hfile records s
    rw [hlist] at h
    cases h
    rfl
  | some file =>
    rw [exec_list_file hfile] at h
    obtain ⟨hresult, rfl⟩ := Prod.mk.inj h
    exact Prod.ext (mapError_eq_ok_iff.mp hresult) rfl

theorem made_of_makeOutputDirectory
    (h : exec (makeOutputDirectory treeSystem arguments.outputDir) s = (.ok (), t)) :
    Made arguments s.tree t.tree := by
  rw [exec_makeOutputDirectory] at h
  obtain ⟨hresult, rfl⟩ := Prod.mk.inj h
  exact Prod.ext (mapError_eq_ok_iff.mp hresult) rfl

section Document

variable {path text : String}

theorem write_of_writeDocument (h : exec (writeDocument treeSystem [] path text) s = (.ok (), t)) :
    s.tree.write path [Utf8.encode text] = (.ok (), t.tree) := by
  rw [exec_writeDocument] at h
  obtain ⟨hresult, rfl⟩ := Prod.mk.inj h
  exact Prod.ext (mapError_eq_ok_iff.mp hresult) rfl

end Document

/-- A run without a fault has gone through all its stages. -/
theorem stages_of_outcome {tree : FileTree} {final : Session}
    (h : outcome tree arguments = (.ok (), final)) :
    ∃ records listed made scripted, exported tree arguments.input = .ok records ∧
      Listed arguments records tree listed ∧ Made arguments listed made ∧
      Scripted arguments records made scripted ∧
      Annotated arguments records scripted final.tree := by
  rw [outcome, generate_eq_stages] at h
  obtain ⟨records, start, hread, h⟩ := exec_bind_eq_ok h
  obtain ⟨hexported, rfl⟩ := Prod.mk.inj ((exec_readExport _ _).symm.trans hread)
  obtain ⟨_, listed, hlist, h⟩ := exec_bind_eq_ok h
  obtain ⟨_, made, hmake, h⟩ := exec_bind_eq_ok h
  obtain ⟨_, scripted, hscript, hannotations⟩ := exec_bind_eq_ok h
  exact ⟨records, listed.tree, made.tree, scripted.tree, hexported, listed_of_list hlist,
    made_of_makeOutputDirectory hmake, write_of_writeDocument hscript,
    write_of_writeDocument hannotations⟩

theorem exec_list_of_listed {listed : FileTree} (h : Listed arguments records s.tree listed) :
    ∃ shown, exec (list treeSystem arguments records) s =
      (.ok (), { s with tree := listed, shown }) := by
  rw [Listed] at h
  split at h
  · next hfile =>
    subst h
    exact exec_list_of_none hfile records s
  · next format path hfile =>
    refine ⟨s.shown, ?_⟩
    rw [exec_list_file hfile, run_write_file, h]
    rfl

/-- A run is complete if its stages are. -/
theorem outcome_of_stages {tree listed made scripted final : FileTree}
    (hlisted : Listed arguments records tree listed)
    (hread : exported tree arguments.input = .ok records) (hmade : Made arguments listed made)
    (hscripted : Scripted arguments records made scripted)
    (hannotated : Annotated arguments records scripted final) :
    (outcome tree arguments).1 = .ok () ∧ (outcome tree arguments).2.tree = final := by
  obtain ⟨shown, hlist⟩ := exec_list_of_listed (s := { tree }) hlisted
  have hreadExport := exec_readExport arguments.input { tree }
  have hdirectory := exec_makeOutputDirectory arguments.outputDir { tree := listed, shown }
  have hscript := exec_writeDocument (scriptPath arguments) (Lua.Script.document records)
    { tree := made, shown }
  have hannotations := exec_writeDocument (annotationsPath arguments)
    (Lua.Annotations.document records) { tree := scripted, shown }
  rw [Made] at hmade
  rw [Scripted] at hscripted
  rw [Annotated] at hannotated
  simp only [hread] at hreadExport
  simp only [hmade] at hdirectory
  simp only [hscripted] at hscript
  simp only [hannotated] at hannotations
  have houtcome : outcome tree arguments = (.ok (), { tree := final, shown }) := by
    rw [outcome, generate_eq_stages, exec_bind_of_ok hreadExport, exec_bind_of_ok hlist,
      exec_bind_of_ok hdirectory]
    exact (exec_bind_of_ok hscript).trans hannotations
  rw [houtcome]
  exact ⟨rfl, rfl⟩

end Outcome

end KnxExport.Run
