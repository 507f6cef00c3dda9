import Mathlib.Order.Defs.Unbundled
import KnxExport.Run

/-!
# The stages of a run

A run reads the export, lists its records, makes the output directory and writes the documents. Each
stage can fail, and is the last one if it does. `exec` says what a stage gives and what state it
leaves, on any system whose state is a value.

`Leads` says of a step how far the state after it can be from the one before, and what it gives.

Main statements: `generate_eq_stages`, and `run_of_arguments` and `run_of_fault` about the command
as a whole.
-/

namespace KnxExport.Run

/-! ## Steps that can fail -/

section Exec

variable {σ ε α β : Type}

/-- Steps are done one after the other. -/
theorem stateM_run_bind (x : StateM σ α) (f : α → StateM σ β) (s : σ) :
    (x >>= f).run s = (f (x.run s).1).run (x.run s).2 := rfl

/-- What a step that can fail gives, and the state after it. -/
def exec (x : ExceptT ε (StateM σ) α) (s : σ) : Except ε α × σ :=
  (ExceptT.run x).run s

/-- The second of two steps is done where the first one has not failed. -/
theorem exec_bind (x : ExceptT ε (StateM σ) α) (f : α → ExceptT ε (StateM σ) β) (s : σ) :
    exec (x >>= f) s =
      match exec x s with
      | (.ok a, t) => exec (f a) t
      | (.error error, t) => (.error error, t) := by
  have hbind : exec (x >>= f) s =
      StateT.run (ExceptT.bindCont f (exec x s).1) (exec x s).2 := rfl
  rw [hbind]
  rcases exec x s with ⟨_ | a, t⟩ <;> rfl

/-- A step that cannot fail is followed by the next one. -/
theorem exec_lift_bind (x : StateM σ α) (f : α → ExceptT ε (StateM σ) β) (s : σ) :
    exec ((liftM x : ExceptT ε (StateM σ) α) >>= f) s = exec (f (x.run s).1) (x.run s).2 := rfl

variable {x : ExceptT ε (StateM σ) α} {f : α → ExceptT ε (StateM σ) β} {s t : σ}

/-- Two steps give something if both do. -/
theorem exec_bind_eq_ok {b : β} (h : exec (x >>= f) s = (.ok b, t)) :
    ∃ a r, exec x s = (.ok a, r) ∧ exec (f a) r = (.ok b, t) := by
  rw [exec_bind] at h
  split at h
  · next a r hx => exact ⟨a, r, hx, h⟩
  · cases h

/-- Two steps fail if one of them does. -/
theorem exec_bind_eq_error {error : ε} (h : exec (x >>= f) s = (.error error, t)) :
    exec x s = (.error error, t) ∨
      ∃ a r, exec x s = (.ok a, r) ∧ exec (f a) r = (.error error, t) := by
  rw [exec_bind] at h
  split at h
  · next a r hx => exact .inr ⟨a, r, hx, h⟩
  · next first r hx =>
    cases h
    exact .inl hx

/-- Steps are done one after the other. -/
theorem exec_bind_of_ok {a : α} (h : exec x s = (.ok a, t)) :
    exec (x >>= f) s = exec (f a) t := by
  rw [exec_bind, h]

end Exec

/-! ## Steps between related states -/

section Leads

variable {σ α β : Type}

/-- A step leads from each state to a related one, and what it gives is as it should be. -/
def Leads (R : σ → σ → Prop) (P : α → Prop) (x : StateM σ α) : Prop :=
  ∀ s, R s (x.run s).2 ∧ P (x.run s).1

/-- What a stage gives is a result, or one of these faults. -/
def FailsWith (F : Fault → Prop) (result : Except Fault α) : Prop :=
  ∀ fault, result = .error fault → F fault

theorem FailsWith.ok {F : Fault → Prop} (a : α) : FailsWith F (.ok a) := nofun

theorem FailsWith.error {F : Fault → Prop} {fault : Fault} (h : F fault) :
    FailsWith F (.error fault : Except Fault α) := by
  intro other hother
  cases hother
  exact h

namespace Leads

variable {R : σ → σ → Prop} [IsPreorder σ R] {P : α → Prop} {Q : β → Prop} {F : Fault → Prop}

omit [IsPreorder σ R] in
/-- A stage that leads to related states has led to one, whether or not it has failed. -/
theorem of_exec {x : ExceptT Fault (StateM σ) α} {P : Except Fault α → Prop} {s t : σ}
    {result : Except Fault α} (h : Leads R P x.run) (hx : exec x s = (result, t)) :
    R s t ∧ P result := by
  have hs : R s (exec x s).2 ∧ P (exec x s).1 := h s
  rwa [hx] at hs

theorem pure {a : α} (h : P a) : Leads R P (Pure.pure a) :=
  fun s => ⟨refl_of R s, h⟩

theorem bind {x : StateM σ α} {f : α → StateM σ β} (hx : Leads R P x)
    (hf : ∀ a, P a → Leads R Q (f a)) : Leads R Q (x >>= f) := by
  intro s
  obtain ⟨hfirst, ha⟩ := hx s
  obtain ⟨hsecond, hb⟩ := hf _ ha (x.run s).2
  rw [stateM_run_bind]
  exact ⟨trans_of R hfirst hsecond, hb⟩

/-- Steps one after the other, which can fail. -/
theorem bindExcept {x : ExceptT Fault (StateM σ) α} {f : α → ExceptT Fault (StateM σ) β}
    (hx : Leads R (FailsWith F) x.run) (hf : ∀ a, Leads R (FailsWith F) (f a).run) :
    Leads R (FailsWith F) (x >>= f).run := by
  show Leads R _ (x.run >>= ExceptT.bindCont f)
  apply hx.bind
  intro result hresult
  cases result with
  | error fault => exact .pure (.error (hresult fault rfl))
  | ok a => exact hf a

/-- A step that cannot fail is followed by one that can. -/
theorem lift_bind {x : StateM σ α} {f : α → ExceptT Fault (StateM σ) β} {Q : Except Fault β → Prop}
    (hx : Leads R P x) (hf : ∀ a, P a → Leads R Q (f a).run) :
    Leads R Q ((liftM x : ExceptT Fault (StateM σ) α) >>= f).run :=
  bind (x := x) (f := fun a => (f a).run) hx hf

/-- A step that is done for each element. -/
theorem forIn {γ : Type} {cs : List γ} {f : γ → ExceptT Fault (StateM σ) Unit}
    (h : ∀ c ∈ cs, Leads R (FailsWith F) (f c).run) :
    Leads R (FailsWith F) (ForIn.forIn cs PUnit.unit fun c _ => do
      f c
      return ForInStep.yield PUnit.unit : ExceptT Fault (StateM σ) PUnit).run := by
  induction cs with
  | nil => exact .pure (.ok _)
  | cons c cs ih =>
    rw [List.forall_mem_cons] at h
    simp only [List.forIn_cons, bind_assoc, pure_bind]
    exact h.1.bindExcept fun _ => ih h.2

/-- Making a directory with those that hold it goes as far as making directories one by one. -/
theorem makeDirectories {system : System (StateM σ)} {P : Except SystemError Unit → Prop}
    (hmake : ∀ path, Leads R P (system.makeDirectory path))
    (hcheck : ∀ path, Leads R (fun _ => True) (system.isDirectory path)) (hdone : P (.ok ()))
    (paths : List String) : Leads R P (Run.makeDirectories system paths) := by
  have hfailed : ∀ path error, P (.error error) → Leads R P (do
      return if ← system.isDirectory path then .ok () else .error error) := by
    intro path error herror
    apply (hcheck path).bind
    rintro found -
    apply Leads.pure
    split
    · exact hdone
    · exact herror
  induction paths with
  | nil => exact .pure hdone
  | cons path parents ih =>
    unfold Run.makeDirectories
    apply (hmake path).bind
    intro result hresult
    cases result with
    | ok => exact .pure hdone
    | error error =>
      cases error with
      | noEntry =>
        apply ih.bind
        intro result hresult
        cases result with
        | error error => exact .pure hresult
        | ok =>
          apply (hmake path).bind
          intro result hresult
          cases result with
          | ok => exact .pure hdone
          | error error => exact hfailed path error hresult
      | _ => exact hfailed path _ hresult

end Leads

end Leads

/-! ## The stages -/

section Stages

variable {σ : Type} (system : System (StateM σ)) (filter : Log.Filter)
  (arguments : CommandLine.Arguments)

/-- Writes the listing if one is wanted. -/
def list (records : List GroupAddress) : ExceptT Fault (StateM σ) Unit :=
  match arguments.format? with
  | none => pure ()
  | some format => writeListing system (sinkOf arguments.listingPath?) format records

/-- Makes the output directory. -/
def makeOutputDirectory (dir : String) : ExceptT Fault (StateM σ) Unit := do
  match ← (makeDirectories system (dir :: Path.parents dir) : StateM σ _) with
  | .error error => throw (.createDirectory dir error)
  | .ok () => return

/-- Writes the script and then the annotations. -/
def writeDocuments (dir : String) (records : List GroupAddress) :
    ExceptT Fault (StateM σ) Unit := do
  writeDocument system filter (Path.join dir Lua.Script.fileName) (Lua.Script.document records)
  writeDocument system filter (Path.join dir Lua.Annotations.fileName)
    (Lua.Annotations.document records)

/-- A run goes through its stages. -/
theorem generate_eq_stages :
    generate system filter arguments = (do
      let records ← readExport system filter arguments.input
      list system arguments records
      makeOutputDirectory system arguments.outputDir
      writeDocuments system filter arguments.outputDir records) := by
  have hdirectory : ∀ records, (do
      match ← (makeDirectories system (arguments.outputDir :: Path.parents arguments.outputDir) :
          StateM σ _) with
      | .error error => throw (Fault.createDirectory arguments.outputDir error)
      | .ok () => pure ()
      writeDocuments system filter arguments.outputDir records) =
      makeOutputDirectory system arguments.outputDir >>= fun _ =>
        writeDocuments system filter arguments.outputDir records := by
    intro records
    rw [makeOutputDirectory, bind_assoc]
    refine bind_congr fun result => ?_
    cases result <;> rfl
  unfold generate list
  refine bind_congr fun records => ?_
  cases arguments.format? with
  | none =>
    rw [pure_bind]
    exact hdirectory records
  | some format => exact bind_congr fun _ => hdirectory records

/-- A command whose arguments can be read does what they lead to, with the filter that has been read
before, and reports a fault at the end. -/
theorem run_of_arguments {command : List String} (setting? : Option String) (s : σ)
    (h : CommandLine.parse command.tail = .ok arguments) :
    (run system command setting?).run s =
      match exec (generate system ((readFilter system setting?).run s).1 arguments)
        ((readFilter system setting?).run s).2 with
      | (.ok (), t) => (0, t)
      | (.error fault, t) => (1, ((system.report fault.diagnostic).run t).2) := by
  obtain ⟨filter, start, hfilter⟩ : ∃ filter start,
      (readFilter system setting?).run s = (filter, start) := ⟨_, _, rfl⟩
  unfold run
  rw [stateM_run_bind, hfilter, h]
  simp only
  rw [stateM_run_bind, ← exec]
  rcases exec (generate system filter arguments) start with ⟨_ | _, t⟩ <;> rfl

/-- A command whose arguments cannot be read does nothing but say so. -/
theorem run_of_fault {command : List String} {fault : CommandLine.Fault} (setting? : Option String)
    (s : σ) (h : CommandLine.parse command.tail = .error (.fault fault)) :
    (run system command setting?).run s =
      (2, ((system.report (fault.message ++ "\n")).run ((readFilter system setting?).run s).2).2) := by
  unfold run
  rw [stateM_run_bind, h]
  rfl

/-- A command that asks for a text gets it. -/
theorem code_of_text {command : List String} (setting? : Option String) (s : σ)
    (h : CommandLine.parse command.tail = .error .help ∨
      CommandLine.parse command.tail = .error .version) :
    ((run system command setting?).run s).1 = 0 := by
  unfold run
  rw [stateM_run_bind]
  obtain h | h := h <;>
  · rw [h]
    rfl

end Stages

end KnxExport.Run
