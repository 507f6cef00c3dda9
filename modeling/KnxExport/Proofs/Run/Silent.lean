import KnxExport.Proofs.Run.Steps

/-!
# Runs without a log

A run logs nothing that is as important as a warning, so that with the standard filter it logs
nothing at all. What is logged changes nothing else: `Alike` relates steps that give the same and
leave the same behind whatever they tell the user, and a run is alike to the same run with any other
filter.

Main statement: `run_of_parse_ok`, what a command does is what its arguments lead to without a log.
-/

namespace KnxExport.Run

/-! ## What is logged -/

/-- The event is less important than a warning. -/
def IsMinor (event : Log.Event) : Prop :=
  Log.Level.warn.rank < event.level.rank

theorem isMinor_ingestedEvent (count : Nat) : IsMinor (ingestedEvent count) :=
  (by decide : Log.Level.warn.rank < Log.Level.info.rank)

theorem isMinor_wroteEvent (path : String) (size : Nat) : IsMinor (wroteEvent path size) :=
  (by decide : Log.Level.warn.rank < Log.Level.info.rank)

/-- All that is logged about an export is minor. -/
theorem isMinor_of_mem_events {bytes : List UInt8} :
    ∀ event ∈ Export.events bytes, IsMinor event := by
  have hdebug : Log.Level.warn.rank < Log.Level.debug.rank := by decide
  have htrace : Log.Level.warn.rank < Log.Level.trace.rank := by decide
  intro event hevent
  rw [Export.events, List.mem_append] at hevent
  obtain hmark | hrow := hevent
  · split at hmark
    · obtain rfl := List.mem_singleton.mp hmark
      exact hdebug
    · cases hmark
  · obtain ⟨index, hindex, rfl⟩ := List.mem_mapIdx.mp hrow
    cases (Export.read bytes).rows[index] with
    | header => exact hdebug
    | parent address => exact hdebug
    | leaf record => exact htrace

/-- The filter lets no minor event through. -/
def IsSilent (filter : Log.Filter) : Prop :=
  ∀ event, IsMinor event → filter.enables event = false

theorem isSilent_nil : IsSilent [] := fun _ _ => rfl

/-- The standard filter lets warnings and errors through. -/
theorem isSilent_standard : IsSilent Log.Filter.standard := by
  intro event hevent
  show decide (event.level.rank ≤ Log.Level.warn.rank) = false
  rw [decide_eq_false_iff_not]
  exact Nat.not_le_of_lt hevent

/-- Nothing is done about a minor event. -/
theorem IsSilent.log_eq {filter : Log.Filter} (h : IsSilent filter) {event : Log.Event}
    (hevent : IsMinor event) {m : Type → Type} [Monad m] (system : System m) :
    log system filter event = pure () := by
  rw [log, h event hevent]
  rfl

/-! ## What is reported does not matter -/

/-- What a run leaves behind, apart from what the user has been told. -/
def Session.work (session : Session) : FileTree × List UInt8 :=
  (session.tree, session.shown)

/-- Steps give the same and leave the same behind, whatever they tell the user. -/
def Alike {α : Type} (x y : StateM Session α) : Prop :=
  ∀ s t, s.work = t.work → (x.run s).1 = (y.run t).1 ∧ (x.run s).2.work = (y.run t).2.work

namespace Alike

variable {α β : Type}

/-- Giving a value leaves everything as it is. -/
theorem pure (a : α) : Alike (Pure.pure a) (Pure.pure a) :=
  fun _ _ h => ⟨rfl, h⟩

/-- Steps one after the other. -/
theorem bind {x y : StateM Session α} {f g : α → StateM Session β} (h : Alike x y)
    (hnext : ∀ a, Alike (f a) (g a)) : Alike (x >>= f) (y >>= g) := by
  intro s t hst
  obtain ⟨hresult, hwork⟩ := h s t hst
  rw [stateM_run_bind, stateM_run_bind, ← hresult]
  exact hnext _ _ _ hwork

/-- Steps one after the other, the first of which can fail. -/
theorem bindExcept {ε : Type} {x y : ExceptT ε (StateM Session) α}
    {f g : α → ExceptT ε (StateM Session) β} (h : Alike x.run y.run)
    (hnext : ∀ a, Alike (f a).run (g a).run) : Alike (x >>= f).run (y >>= g).run := by
  show Alike (x.run >>= ExceptT.bindCont f) (y.run >>= ExceptT.bindCont g)
  refine h.bind fun result => ?_
  cases result with
  | error error => exact Alike.pure (Except.error error)
  | ok a => exact hnext a

/-- A step that cannot fail. -/
theorem lift {ε : Type} {x y : StateM Session α} (h : Alike x y) :
    Alike (liftM x : ExceptT ε (StateM Session) α).run
      (liftM y : ExceptT ε (StateM Session) α).run :=
  h.bind fun a => Alike.pure (Except.ok a)

/-- A step that is done for each element. -/
theorem forIn {ε γ : Type} {f g : γ → ExceptT ε (StateM Session) Unit}
    (h : ∀ c, Alike (f c).run (g c).run) (cs : List γ) :
    Alike
      (ForIn.forIn cs PUnit.unit fun c _ => do
        f c
        return ForInStep.yield PUnit.unit : ExceptT ε (StateM Session) PUnit).run
      (ForIn.forIn cs PUnit.unit fun c _ => do
        g c
        return ForInStep.yield PUnit.unit : ExceptT ε (StateM Session) PUnit).run := by
  induction cs with
  | nil => exact Alike.pure _
  | cons c cs ih =>
    simp only [List.forIn_cons, bind_assoc, pure_bind]
    exact (h c).bindExcept fun _ => ih

end Alike

/-- Sessions that leave the same behind have the same tree and show the same. -/
theorem Session.work_eq_iff {s t : Session} :
    s.work = t.work ↔ s.tree = t.tree ∧ s.shown = t.shown := by
  simp [Session.work]

/-- Reading depends on the tree. -/
theorem alike_read (path : String) : Alike (treeSystem.read path) (treeSystem.read path) := by
  intro s t h
  obtain ⟨htree, -⟩ := Session.work_eq_iff.mp h
  exact ⟨congrArg (FileTree.read · path) htree, h⟩

/-- Writing depends on the tree. -/
theorem alike_write (sink : Sink) (pieces : List (List UInt8)) :
    Alike (treeSystem.write sink pieces) (treeSystem.write sink pieces) := by
  intro s t h
  obtain ⟨htree, hshown⟩ := Session.work_eq_iff.mp h
  show (s.write sink pieces).1 = (t.write sink pieces).1 ∧
    (s.write sink pieces).2.work = (t.write sink pieces).2.work
  cases sink with
  | terminal => exact ⟨rfl, by simp [Session.write, Session.work, htree, hshown]⟩
  | file path => simp [Session.write, Session.work, htree, hshown]

/-- Making a directory depends on the tree. -/
theorem alike_makeDirectory (path : String) :
    Alike (treeSystem.makeDirectory path) (treeSystem.makeDirectory path) := by
  intro s t h
  obtain ⟨htree, hshown⟩ := Session.work_eq_iff.mp h
  show (s.makeDirectory path).1 = (t.makeDirectory path).1 ∧
    (s.makeDirectory path).2.work = (t.makeDirectory path).2.work
  unfold Session.makeDirectory
  rw [htree]
  cases t.tree.makeDirectory path with
  | error error => exact ⟨rfl, h⟩
  | ok tree => exact ⟨rfl, by simp [Session.work, hshown]⟩

/-- Looking for a directory depends on the tree. -/
theorem alike_isDirectory (path : String) :
    Alike (treeSystem.isDirectory path) (treeSystem.isDirectory path) := by
  intro s t h
  obtain ⟨htree, -⟩ := Session.work_eq_iff.mp h
  exact ⟨congrArg (FileTree.isDirectory · path) htree, h⟩

/-- Whatever is logged leaves the same behind. -/
theorem alike_log (filter other : Log.Filter) (event : Log.Event) :
    Alike (log treeSystem filter event) (log treeSystem other event) := by
  have hreport : ∀ (filter : Log.Filter) (s : Session),
      ((log treeSystem filter event).run s).2.work = s.work := by
    intro filter s
    unfold log
    split <;> rfl
  exact fun s t h => ⟨rfl, by rw [hreport, hreport, h]⟩

/-- Making directories depends on the tree. -/
theorem alike_makeDirectories (paths : List String) :
    Alike (makeDirectories treeSystem paths) (makeDirectories treeSystem paths) := by
  have hcheck : ∀ (path : String) (f : Bool → Except SystemError Unit),
      Alike (treeSystem.isDirectory path >>= fun found => pure (f found))
        (treeSystem.isDirectory path >>= fun found => pure (f found)) :=
    fun path f => (alike_isDirectory path).bind fun _ => .pure _
  induction paths with
  | nil => exact .pure _
  | cons path parents ih =>
    unfold makeDirectories
    refine (alike_makeDirectory path).bind fun result => ?_
    cases result with
    | ok u => exact .pure _
    | error error =>
      cases error with
      | noEntry =>
        refine ih.bind fun result => ?_
        cases result with
        | error error => exact .pure _
        | ok u =>
          refine (alike_makeDirectory path).bind fun result => ?_
          cases result with
          | ok u => exact .pure _
          | error error => exact hcheck path _
      | _ => exact hcheck path _

/-- Reading an export depends on the tree. -/
theorem alike_readExport (filter other : Log.Filter) (path : String) :
    Alike (readExport treeSystem filter path).run (readExport treeSystem other path).run := by
  unfold readExport
  refine (alike_read path).lift.bindExcept fun result => ?_
  cases result with
  | error error => exact .pure _
  | ok bytes =>
    refine (Alike.forIn (fun event => (alike_log filter other event).lift) _).bindExcept fun _ => ?_
    cases Export.ingest bytes with
    | error fault => exact .pure _
    | ok records => exact (alike_log filter other _).lift.bindExcept fun _ => .pure _

/-- Listing depends on the tree. -/
theorem alike_list (arguments : CommandLine.Arguments) (records : List GroupAddress) :
    Alike (list treeSystem arguments records).run (list treeSystem arguments records).run := by
  unfold list
  cases arguments.format? with
  | none => exact .pure _
  | some format =>
    refine (alike_write _ _).lift.bindExcept fun result => ?_
    cases result <;> exact .pure _

/-- Making the output directory depends on the tree. -/
theorem alike_makeOutputDirectory (dir : String) :
    Alike (makeOutputDirectory treeSystem dir).run (makeOutputDirectory treeSystem dir).run := by
  unfold makeOutputDirectory
  refine (alike_makeDirectories _).lift.bindExcept fun result => ?_
  cases result <;> exact .pure _

/-- Writing a document depends on the tree. -/
theorem alike_writeDocument (filter other : Log.Filter) (path text : String) :
    Alike (writeDocument treeSystem filter path text).run
      (writeDocument treeSystem other path text).run := by
  unfold writeDocument
  refine (alike_write _ _).lift.bindExcept fun result => ?_
  match result with
  | .ok () => exact (alike_log filter other _).lift
  | .error (.opening error) => exact .pure _
  | .error (.piece _ error) => exact .pure _

/-- What a run does depends on the tree, and not on what is logged. -/
theorem alike_generate (filter other : Log.Filter) (arguments : CommandLine.Arguments) :
    Alike (generate treeSystem filter arguments).run (generate treeSystem other arguments).run := by
  rw [generate_eq_stages, generate_eq_stages]
  refine (alike_readExport filter other _).bindExcept fun records => ?_
  refine (alike_list arguments records).bindExcept fun _ => ?_
  refine (alike_makeOutputDirectory _).bindExcept fun _ => ?_
  exact (alike_writeDocument filter other _ _).bindExcept fun _ =>
    alike_writeDocument filter other _ _

/-! ## What a command does -/

/-- What the arguments lead to on a tree if nothing is logged: whether the run fails, and the
session after it. -/
def outcome (tree : FileTree) (arguments : CommandLine.Arguments) : Except Fault Unit × Session :=
  exec (generate treeSystem [] arguments) { tree }

/-- Reading the filter of the log leaves everything behind as it is. -/
theorem work_readFilter (setting? : Option String) (s : Session) :
    ((readFilter treeSystem setting?).run s).2.work = s.work := by
  unfold readFilter
  cases setting? with
  | none => rfl
  | some text =>
    simp only
    split <;> rfl

/-- A command whose arguments can be read does what they lead to. It reports a fault at the end. -/
theorem run_of_parse_ok {command : List String} {arguments : CommandLine.Arguments}
    (h : CommandLine.parse command.tail = .ok arguments) (setting? : Option String)
    (tree : FileTree) :
    ∃ code final, (run treeSystem command setting?).run { tree } = (code, final) ∧
      final.work = (outcome tree arguments).2.work ∧
      match (outcome tree arguments).1 with
      | .ok () => code = 0
      | .error fault => code = 1 ∧ ∃ told, final.reported = told ++ fault.diagnostic := by
  obtain ⟨filter, start, hfilter⟩ : ∃ filter start,
      (readFilter treeSystem setting?).run { tree } = (filter, start) := ⟨_, _, rfl⟩
  have hstart : start.work = ({ tree } : Session).work := by
    rw [← work_readFilter setting? { tree }, hfilter]
  obtain ⟨hresult, hwork⟩ :
      (exec (generate treeSystem filter arguments) start).1 = (outcome tree arguments).1 ∧
        (exec (generate treeSystem filter arguments) start).2.work =
          (outcome tree arguments).2.work :=
    alike_generate filter [] arguments start { tree } hstart
  rw [run_of_arguments treeSystem arguments setting? { tree } h, hfilter, ← hresult, ← hwork]
  rcases exec (generate treeSystem filter arguments) start with ⟨fault | u, t⟩
  · exact ⟨1, _, rfl, rfl, rfl, _, rfl⟩
  · exact ⟨0, _, rfl, rfl, rfl⟩

end KnxExport.Run
