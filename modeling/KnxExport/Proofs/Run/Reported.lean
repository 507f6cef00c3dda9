import KnxExport.Proofs.Run.Diagnostic
import KnxExport.Proofs.Run.Stages

/-!
# What is reported about a run that fails

A run that fails reports its fault at the end, after what it has logged. Before that it reports
nothing else, and by the standard filter nothing is logged.

Main statement: `reported_of_failed_run`, on any system that describes its errors without controls.
It rests on `Orderly`: what each step of a run adds to what has been reported, and what it fails
with.
-/

namespace KnxExport

/-- The fault of a listing keeps the error of the system, wherever that comes from. -/
theorem Listing.Fault.error_ofWrite (sink : Sink) (pieces : List Piece)
    (fault : FileTree.WriteFault) : (ofWrite sink pieces fault).error = Run.writeError fault := by
  cases fault with
  | opening error => cases sink <;> rfl
  | piece index error =>
    show (ofPiece sink pieces[index]? error).error = error
    rcases pieces[index]? with _ | ⟨_⟩ | ⟨_⟩ <;> cases sink <;> rfl

namespace Run

open Text (IsPlain)

variable {σ : Type}

/-! ## Systems that report -/

/-- A step tells nothing, and what it gives is as it should be. -/
def Quiet {α : Type} (told : σ → String) (P : α → Prop) (x : StateM σ α) : Prop :=
  ∀ s, told (x.run s).2 = told s ∧ P (x.run s).1

/-- What the system gives is a result, or an error that is described without controls. -/
def DescribesError {α : Type} (result : Except SystemError α) : Prop :=
  ∀ error, result = .error error → IsPlain error.message

/-- A system that keeps what has been reported, and describes its errors without controls. -/
structure Reporting (system : System (StateM σ)) (told : σ → String) : Prop where
  read : ∀ path, Quiet told DescribesError (system.read path)
  write : ∀ sink pieces,
    Quiet told (fun result => DescribesError (result.mapError writeError)) (system.write sink pieces)
  makeDirectory : ∀ path, Quiet told DescribesError (system.makeDirectory path)
  isDirectory : ∀ path, Quiet told (fun _ => True) (system.isDirectory path)
  report : ∀ text s, told ((system.report text).run s).2 = told s ++ text

/-! ## Steps of a run -/

section Orderly

variable (told : σ → String) (filter : Log.Filter)

/-- A step reports nothing but what it logs, which is nothing by the standard filter, and fails only
with faults that the system has described without controls. -/
def Orderly {α : Type} (x : ExceptT Fault (StateM σ) α) : Prop :=
  ∀ s, (∃ logged, told (exec x s).2 = told s ++ logged ∧
      (filter = Log.Filter.standard → logged = "")) ∧
    ∀ fault, (exec x s).1 = .error fault → fault.IsDescribed

end Orderly

/-- What has been reported is what had been before, and what has been logged since. -/
def Logs (told : σ → String) (filter : Log.Filter) (s t : σ) : Prop :=
  ∃ logged, told t = told s ++ logged ∧ (filter = Log.Filter.standard → logged = "")

instance isPreorder_logs (told : σ → String) (filter : Log.Filter) :
    IsPreorder σ (Logs told filter) where
  refl _ := ⟨"", String.append_empty.symm, fun _ => rfl⟩
  trans := by
    rintro s t u ⟨first, hfirst, hnone⟩ ⟨second, hsecond, hnone'⟩
    refine ⟨first ++ second, ?_, fun hfilter => ?_⟩
    · rw [hsecond, hfirst, String.append_assoc]
    · rw [hnone hfilter, hnone' hfilter, String.append_empty]

namespace Orderly

variable {told : σ → String} {filter : Log.Filter} {α β : Type}

/-- An orderly step leads to where something may have been logged. -/
theorem iff_leads {x : ExceptT Fault (StateM σ) α} :
    Orderly told filter x ↔ Leads (Logs told filter) (FailsWith Fault.IsDescribed) x.run :=
  Iff.rfl

theorem pure (a : α) : Orderly told filter (Pure.pure a) :=
  iff_leads.mpr (.pure (.ok a))

theorem throw {fault : Fault} (h : fault.IsDescribed) :
    Orderly told filter (throw fault : ExceptT Fault (StateM σ) α) :=
  iff_leads.mpr (.pure (.error h))

/-- Steps one after the other. -/
theorem bind {x : ExceptT Fault (StateM σ) α} {f : α → ExceptT Fault (StateM σ) β}
    (hx : Orderly told filter x) (hf : ∀ a, Orderly told filter (f a)) :
    Orderly told filter (x >>= f) :=
  iff_leads.mpr ((iff_leads.mp hx).bindExcept fun a => iff_leads.mp (hf a))

/-- A quiet step is followed by one that may rely on what it gives. -/
theorem lift_bind {P : α → Prop} {x : StateM σ α} {f : α → ExceptT Fault (StateM σ) β}
    (hx : Quiet told P x) (hf : ∀ a, P a → Orderly told filter (f a)) :
    Orderly told filter ((liftM x : ExceptT Fault (StateM σ) α) >>= f) := by
  have hleads : Leads (Logs told filter) P x := by
    intro s
    obtain ⟨htold, ha⟩ := hx s
    exact ⟨⟨"", by rw [htold, String.append_empty], fun _ => rfl⟩, ha⟩
  exact iff_leads.mpr (hleads.lift_bind fun a ha => iff_leads.mp (hf a ha))

/-- A step that is done for each element. -/
theorem forIn {γ : Type} {cs : List γ} {f : γ → ExceptT Fault (StateM σ) Unit}
    (h : ∀ c ∈ cs, Orderly told filter (f c)) :
    Orderly told filter (ForIn.forIn cs PUnit.unit fun c _ => do
      f c
      return ForInStep.yield PUnit.unit : ExceptT Fault (StateM σ) PUnit) :=
  iff_leads.mpr (Leads.forIn fun c hc => iff_leads.mp (h c hc))

end Orderly

/-! ## The stages -/

section System

variable {system : System (StateM σ)} {told : σ → String} (h : Reporting system told)
  {filter : Log.Filter}

include h

/-- Logging reports at most the line of its event. -/
theorem orderly_log {event : Log.Event} (hevent : IsMinor event) :
    Orderly told filter (liftM (log system filter event) : ExceptT Fault (StateM σ) Unit) := by
  intro s
  refine ⟨?_, fun _ hfault => by cases hfault⟩
  show ∃ logged, told ((log system filter event).run s).2 = told s ++ logged ∧ _
  unfold log
  split
  · next henables =>
    refine ⟨_, h.report _ s, ?_⟩
    rintro rfl
    rw [isSilent_standard event hevent] at henables
    cases henables
  · exact ⟨"", String.append_empty.symm, fun _ => rfl⟩

theorem orderly_readExport (path : String) :
    Orderly told filter (readExport system filter path) := by
  apply Orderly.lift_bind (h.read path)
  intro result hresult
  cases result with
  | error error => exact .throw (hresult error rfl)
  | ok bytes =>
    apply Orderly.bind (Orderly.forIn fun event hevent =>
      orderly_log h (isMinor_of_mem_events event hevent))
    intro _
    cases Export.ingest bytes with
    | error fault => exact .throw trivial
    | ok records =>
      apply Orderly.bind (orderly_log h (isMinor_ingestedEvent _))
      intro _
      exact .pure records

theorem orderly_list (arguments : CommandLine.Arguments) (records : List GroupAddress) :
    Orderly told filter (list system arguments records) := by
  unfold list
  cases arguments.format? with
  | none => exact .pure ()
  | some format =>
    apply Orderly.lift_bind (h.write _ _)
    intro result hresult
    cases result with
    | ok => exact .pure ()
    | error fault =>
      apply Orderly.throw
      show IsPlain (Listing.Fault.error _).message
      rw [Listing.Fault.error_ofWrite]
      exact hresult _ rfl

theorem quiet_makeDirectories (paths : List String) :
    Quiet told DescribesError (makeDirectories system paths) := by
  have hpreorder : IsPreorder σ fun s t => told t = told s :=
    { refl := fun _ => rfl, trans := fun _ _ _ hfirst hsecond => hsecond.trans hfirst }
  exact Leads.makeDirectories (R := fun s t => told t = told s) h.makeDirectory h.isDirectory nofun
    paths

theorem orderly_makeOutputDirectory (dir : String) :
    Orderly told filter (makeOutputDirectory system dir) := by
  apply Orderly.lift_bind (quiet_makeDirectories h _)
  intro result hresult
  cases result with
  | ok => exact .pure ()
  | error error => exact .throw (hresult error rfl)

theorem orderly_writeDocument (path text : String) :
    Orderly told filter (writeDocument system filter path text) := by
  apply Orderly.lift_bind (h.write _ _)
  intro result hresult
  match result with
  | .ok () => exact orderly_log h (isMinor_wroteEvent _ _)
  | .error (.opening error) => exact .throw (hresult error rfl)
  | .error (.piece _ error) => exact .throw (hresult error rfl)

theorem orderly_generate (arguments : CommandLine.Arguments) :
    Orderly told filter (generate system filter arguments) := by
  rw [generate_eq_stages]
  apply Orderly.bind (orderly_readExport h _)
  intro records
  apply Orderly.bind (orderly_list h arguments records)
  intro _
  apply Orderly.bind (orderly_makeOutputDirectory h _)
  intro _
  apply Orderly.bind (orderly_writeDocument h _ _)
  intro _
  exact orderly_writeDocument h _ _

end System

/-! ## Trees of files -/

namespace DescribesError

variable {α β : Type}

theorem ok (a : α) : DescribesError (.ok a) := nofun

/-- The errors that have a message of their own are described without controls. -/
theorem known {error : SystemError} (h : ∀ text, error ≠ .other text) :
    DescribesError (.error error : Except SystemError α) := by
  intro other hother
  cases hother
  cases error with
  | other text => exact absurd rfl (h text)
  | _ => decide +kernel

theorem bind {x : Except SystemError α} {f : α → Except SystemError β} (hx : DescribesError x)
    (hf : ∀ a, DescribesError (f a)) : DescribesError (x >>= f) := by
  intro error herror
  obtain hfirst | ⟨a, -, hsecond⟩ := bind_eq_error_iff.mp herror
  · exact hx error hfirst
  · exact hf a error hsecond

end DescribesError

section Tree

variable (tree : FileTree) (path : String)

theorem describesError_enter (dir : Place) (name : String) :
    DescribesError (tree.enter dir name) := by
  unfold FileTree.enter
  split
  · exact .known (by simp)
  · split
    · exact .ok _
    · exact .known (by simp)
    · exact .known (by simp)

theorem describesError_foldlM_enter (names : List String) (dir : Place) :
    DescribesError (names.foldlM tree.enter dir) := by
  induction names generalizing dir with
  | nil => exact .ok dir
  | cons name names ih =>
    rw [List.foldlM_cons]
    exact (describesError_enter tree dir name).bind ih

/-- Finding what a path names fails with known errors only. -/
theorem describesError_locate : DescribesError (tree.locate path) := by
  rw [FileTree.locate_eq]
  split
  · exact .known (by simp)
  · split
    · split
      · exact .ok _
      · exact .known (by simp)
    · next last _ =>
      apply (describesError_foldlM_enter tree _ _).bind
      intro dir
      unfold FileTree.locateIn
      split
      · exact .ok _
      · split
        · exact .known (by simp)
        · exact .ok _

theorem describesError_read : DescribesError (tree.read path) := by
  apply (describesError_locate tree path).bind
  intro target
  cases target with
  | directory dir => exact .known (by simp)
  | entry place slash =>
    simp only
    split
    · exact .known (by simp)
    · exact .known (by simp)
    · split
      · exact .known (by simp)
      · exact .ok _
    · split
      · exact .known (by simp)
      · exact .ok _
    · split
      · exact .known (by simp)
      · exact .known (by simp)

theorem describesError_create : DescribesError (tree.create path) := by
  apply (describesError_locate tree path).bind
  intro target
  cases target with
  | directory dir => exact .known (by simp)
  | entry place slash =>
    cases slash with
    | true => exact .known (by simp)
    | false =>
      simp only [Bool.false_eq_true, if_false]
      split
      · exact .known (by simp)
      · exact .ok _
      · exact .ok _
      · exact .ok _

theorem describesError_makeDirectory : DescribesError (tree.makeDirectory path) := by
  apply (describesError_locate tree path).bind
  intro target
  cases target with
  | directory dir => exact .known (by simp)
  | entry place slash =>
    simp only
    split
    · exact .known (by simp)
    · exact .ok _

/-- Writing fails with known errors only, in opening as well as later. -/
theorem describesError_write (pieces : List (List UInt8)) :
    DescribesError ((tree.write path pieces).1.mapError writeError) := by
  unfold FileTree.write
  cases hcreate : tree.create path with
  | error error =>
    intro other hother
    cases hother
    exact describesError_create tree path error hcreate
  | ok opened =>
    simp only [FileTree.append]
    split
    · exact .ok _
    · exact .ok _
    · split
      · exact .known (by simp [writeError])
      · exact .ok _
    · exact .known (by simp [writeError])
    · exact .known (by simp [writeError])

end Tree

/-- A tree of files reports, and describes its errors without controls. -/
theorem reporting_treeSystem : Reporting treeSystem Session.reported where
  read path s := ⟨rfl, describesError_read s.tree path⟩
  write sink pieces s := by
    cases sink with
    | terminal => exact ⟨rfl, .ok _⟩
    | file path => exact ⟨rfl, describesError_write s.tree path pieces⟩
  makeDirectory path s := by
    have hmake := describesError_makeDirectory s.tree path
    rw [run_makeDirectory]
    cases hresult : s.tree.makeDirectory path with
    | ok tree => exact ⟨rfl, .ok _⟩
    | error error =>
      rw [hresult] at hmake
      refine ⟨rfl, ?_⟩
      intro other hother
      cases hother
      exact hmake error rfl
  isDirectory _ _ := ⟨rfl, trivial⟩
  report _ _ := rfl

/-! ## The report of a run that fails -/

/-- The filter of the log is read without a report if it is not set, and is the standard one then. -/
theorem told_readFilter {system : System (StateM σ)} {told : σ → String}
    (h : Reporting system told) (setting? : Option String) (s : σ) :
    ∃ warned, told ((readFilter system setting?).run s).2 = told s ++ warned ∧
      (setting? = none →
        warned = "" ∧ ((readFilter system setting?).run s).1 = Log.Filter.standard) := by
  cases setting? with
  | none => exact ⟨"", String.append_empty.symm, fun _ => ⟨rfl, rfl⟩⟩
  | some text =>
    unfold readFilter
    simp only
    split
    · exact ⟨"", String.append_empty.symm, nofun⟩
    · exact ⟨_, h.report _ s, nofun⟩

/-- A command that fails has arguments that lead to a fault, which it reports at the end. -/
theorem fault_of_run {system : System (StateM σ)} {command : List String}
    {setting? : Option String} {s final : σ}
    (h : (run system command setting?).run s = (1, final)) :
    ∃ filter start arguments fault t, (readFilter system setting?).run s = (filter, start) ∧
      CommandLine.parse command.tail = .ok arguments ∧
      exec (generate system filter arguments) start = (.error fault, t) ∧
      final = ((system.report fault.diagnostic).run t).2 := by
  obtain ⟨filter, start, hfilter⟩ : ∃ filter start,
      (readFilter system setting?).run s = (filter, start) := ⟨_, _, rfl⟩
  cases hparse : CommandLine.parse command.tail with
  | error stop =>
    unfold run at h
    rw [stateM_run_bind, hparse] at h
    cases stop <;> cases h
  | ok arguments =>
    rw [run_of_arguments system arguments setting? s hparse, hfilter] at h
    rcases hexec : exec (generate system filter arguments) start with ⟨fault | u, t⟩
    · rw [hexec] at h
      exact ⟨filter, start, arguments, fault, t, hfilter, rfl, hexec, (congrArg Prod.snd h).symm⟩
    · rw [hexec] at h
      cases h

/-- **What is reported about a run that fails** ends with the diagnostic of its fault. Before it
there is only what has been logged, and nothing at all if no filter is set. The diagnostic is one
line for the fault and one for each error behind it, and none of these lines holds a control,
whatever the texts of the user are. And the message about an address tells which text it is about:
no two faults of addresses have the same message. -/
theorem reported_of_failed_run :
    (∀ (system : System (StateM σ)) (told : σ → String), Reporting system told →
      ∀ (command : List String) (setting? : Option String) (s final : σ),
      (run system command setting?).run s = (1, final) →
      ∃ arguments filter start fault logged causes,
        CommandLine.parse command.tail = .ok arguments ∧
        (readFilter system setting?).run s = (filter, start) ∧
        (exec (generate system filter arguments) start).1 = .error fault ∧
        told final = told s ++ logged ++ fault.diagnostic ∧
        (setting? = none → logged = "") ∧
        Chain (some fault.source) causes ∧
        fault.diagnostic.toList.splitOn '\n' =
          ("error: " ++ fault.message).toList ::
            causes.map (fun cause => ("  because: " ++ cause.message).toList) ++ [[]] ∧
        ∀ line ∈ fault.diagnostic.toList.splitOn '\n', ∀ c ∈ line, ¬ Text.IsRawControl c) ∧
    Function.Injective Address.Fault.message := by
  refine ⟨?_, Address.Fault.message_injective⟩
  intro system told hsystem command setting? s final hrun
  obtain ⟨filter, start, arguments, fault, t, hfilter, hparse, hexec, rfl⟩ := fault_of_run hrun
  obtain ⟨warned, hwarned, hstandard⟩ := told_readFilter hsystem setting? s
  have horderly : Orderly told filter (generate system filter arguments) :=
    orderly_generate hsystem arguments
  obtain ⟨⟨logged, hlogged, hnone⟩, hfault⟩ := horderly start
  obtain ⟨causes, hchain, hcauses⟩ := fault.exists_chain
  rw [hfilter] at hwarned hstandard
  rw [hexec] at hlogged hfault
  have hdescribed := hfault fault rfl
  have hlines := Fault.splitOn_diagnostic hdescribed
  refine ⟨arguments, filter, start, fault, warned ++ logged, causes, hparse, hfilter, ?_, ?_, ?_,
    hchain, ?_, ?_⟩
  · rw [hexec]
  · show told ((system.report fault.diagnostic).run t).2 = _
    rw [hsystem.report, hlogged, hwarned]
    simp only [String.append_assoc]
  · intro hunset
    obtain ⟨rfl, rfl⟩ := hstandard hunset
    rw [hnone rfl, String.append_empty]
  · rw [hlines, Fault.lines, hcauses, List.map_cons, List.map_map, List.map_map]
    rfl
  · rw [hlines]
    intro line hline c hc
    rw [List.mem_append, List.mem_map, List.mem_singleton] at hline
    obtain ⟨text, htext, rfl⟩ | rfl := hline
    · exact Fault.isPlain_of_mem_lines hdescribed text htext c hc
    · cases hc

/-- A tree without files. -/
def bareTree : FileTree where
  entries := []
  workingDir := []

/-- A path that looks like a report does not add a line to the report. -/
theorem reported_of_failed_run_forged :
    ∃ final, (run treeSystem ["", "a\nerror: b", "out"] none).run { tree := bareTree } = (1, final) ∧
      final.reported.toList.splitOn '\n' =
        ["error: could not read the group address export at \"a\\nerror: b\"".toList,
          "  because: No such file or directory (os error 2)".toList, []] := by
  have hparse : CommandLine.parse ["", "a\nerror: b", "out"].tail =
      .ok ⟨"a\nerror: b", "out", none, none⟩ := by rfl
  have hexec : exec (generate treeSystem Log.Filter.standard ⟨"a\nerror: b", "out", none, none⟩)
      { tree := bareTree } =
      (.error (.readInput "a\nerror: b" .noEntry), { tree := bareTree }) := by
    rfl
  obtain ⟨final, hrun⟩ : ∃ final,
      (run treeSystem ["", "a\nerror: b", "out"] none).run { tree := bareTree } = (1, final) := by
    rw [run_of_arguments treeSystem _ none _ hparse]
    exact ⟨_, by rw [show (readFilter treeSystem none).run { tree := bareTree } =
      (Log.Filter.standard, { tree := bareTree }) from rfl, hexec]⟩
  obtain ⟨arguments, filter, start, fault, logged, causes, hread, hfilter, hfault, htold, hnone,
      -⟩ :=
    reported_of_failed_run.1 treeSystem Session.reported reporting_treeSystem _ none _ final hrun
  obtain rfl := Except.ok.inj (hparse.symm.trans hread)
  obtain ⟨rfl, rfl⟩ := Prod.mk.inj hfilter.symm
  obtain rfl : Fault.readInput "a\nerror: b" .noEntry = fault := by
    rw [hexec] at hfault
    exact Except.error.inj hfault
  refine ⟨final, hrun, ?_⟩
  rw [htold, hnone rfl]
  decide +kernel

end Run

end KnxExport
