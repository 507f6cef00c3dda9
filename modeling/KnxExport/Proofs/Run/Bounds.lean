import KnxExport.Proofs.Run.Changes

/-!
# How far a run can go

An operation of a system may go wrong at any time and with any error. `ActsLocally` says how far it
goes all the same: a write that fails may have left anything in its own file, but nothing in another
one. What a stage of a run can change follows from that, whether or not the stage fails, and so does
what it fails with.

Main statements: `actsLocally_treeSystem` and `actsLocally_fallibleSystem`, and one lemma for each
stage.
-/

namespace KnxExport.Run

variable {σ α β : Type}

/-! ## Systems that act locally -/

section Relations

variable (session : σ → Session)

/-- Nothing has been done but to tell the user something. -/
def SameWork (s t : σ) : Prop :=
  (session t).work = (session s).work

instance isPreorder_sameWork : IsPreorder σ (SameWork session) where
  refl _ := rfl
  trans _ _ _ h h' := h'.trans h

/-- At most directories have been made. -/
def MoreDirectories (s t : σ) : Prop :=
  (session s).tree.GainsDirectories (session t).tree

instance isPreorder_moreDirectories : IsPreorder σ (MoreDirectories session) where
  refl s := .refl (session s).tree
  trans _ _ _ := .trans

end Relations

/-- The operations of a system go no further than they are asked to, whether or not they fail. In a
file that was to be written there may be anything afterwards. -/
structure ActsLocally (system : System (StateM σ)) (session : σ → Session) : Prop where
  read : ∀ path s, SameWork session s ((system.read path).run s).2
  isDirectory : ∀ path s, SameWork session s ((system.isDirectory path).run s).2
  report : ∀ text s, SameWork session s ((system.report text).run s).2
  makeDirectory : ∀ path s, MoreDirectories session s ((system.makeDirectory path).run s).2
  writeTerminal : ∀ pieces s,
    (session ((system.write .terminal pieces).run s).2).tree = (session s).tree
  writeFile : ∀ path pieces s,
    (session s).tree.ChangesAt (session ((system.write (.file path) pieces).run s).2).tree
      ((session s).tree.place path)

/-- The operations on a tree of files act locally. -/
theorem actsLocally_treeSystem : ActsLocally treeSystem id where
  read _ _ := rfl
  isDirectory _ _ := rfl
  report _ _ := rfl
  makeDirectory path s := by
    show s.tree.GainsDirectories (s.makeDirectory path).2.tree
    rw [Session.makeDirectory]
    cases hmake : s.tree.makeDirectory path with
    | error error => exact .refl s.tree
    | ok tree => exact .of_make hmake
  writeTerminal _ _ := rfl
  writeFile path pieces s := FileTree.changesAt_write s.tree path pieces

/-- What is true of an operation, and of what it comes to if something goes wrong, is true of the
operation where something may go wrong. -/
theorem perform_ind {operation : StateM Session α} {amiss : Mishap → StateM Session α}
    (R : Session → Session → Prop) (hoperation : ∀ session, R session (operation.run session).2)
    (hamiss : ∀ mishap session, R session ((amiss mishap).run session).2) (s : FallibleSession) :
    R s.session ((perform operation amiss).run s).2.session := by
  show R s.session ((s.mishaps.head?.join.elim operation amiss).run s.session).2
  cases s.mishaps.head?.join with
  | none => exact hoperation s.session
  | some mishap => exact hamiss mishap s.session

/-- The operations on a tree of files act locally whatever goes wrong in them. -/
theorem actsLocally_fallibleSystem : ActsLocally fallibleSystem FallibleSession.session where
  read _ := perform_ind (SameWork id) (fun _ => rfl) fun _ _ => rfl
  isDirectory _ := perform_ind (SameWork id) (fun _ => rfl) fun _ _ => rfl
  report _ _ := rfl
  makeDirectory path := perform_ind (MoreDirectories id) (actsLocally_treeSystem.makeDirectory path)
    fun _ session => .refl session.tree
  writeTerminal pieces := by
    apply perform_ind (fun s t => t.tree = s.tree) (fun _ => rfl)
    rintro (_ | _) _ <;> rfl
  writeFile path pieces := by
    apply perform_ind (fun s t => s.tree.ChangesAt t.tree (s.tree.place path))
      (actsLocally_treeSystem.writeFile path pieces)
    intro mishap session
    cases mishap with
    | refused error => exact .refl session.tree _
    | cut size index error =>
      show session.tree.ChangesAt (session.tree.writePart path pieces size index error).2 _
      rw [FileTree.snd_writePart]
      exact FileTree.changesAt_write session.tree path _

/-! ## The stages -/

section Stages

variable {system : System (StateM σ)} {session : σ → Session}

/-- What is done to a tree stays done while the user is told about it. -/
theorem Leads.then_tell {T : FileTree → FileTree → Prop} {x : StateM σ α}
    {f : α → ExceptT Fault (StateM σ) β} {Q : Except Fault β → Prop}
    (hx : ∀ s, T (session s).tree (session (x.run s).2).tree)
    (hf : ∀ a, Leads (SameWork session) Q (f a).run) :
    Leads (fun s t => T (session s).tree (session t).tree) Q
      ((liftM x : ExceptT Fault (StateM σ) α) >>= f).run := by
  intro s
  obtain ⟨hwork, hresult⟩ := hf (x.run s).1 (x.run s).2
  refine ⟨?_, hresult⟩
  obtain ⟨htree, -⟩ := Session.work_eq_iff.mp hwork
  show T _ (session ((f (x.run s).1).run.run (x.run s).2).2).tree
  rw [htree]
  exact hx s

variable (h : ActsLocally system session)

include h

/-- Logging changes nothing. -/
theorem leads_log (filter : Log.Filter) (event : Log.Event) :
    Leads (SameWork session) (fun _ => True) (log system filter event) := by
  unfold log
  split
  · exact fun s => ⟨h.report event.line s, trivial⟩
  · exact .pure trivial

/-- Logging cannot fail. -/
theorem leads_lift_log {F : Fault → Prop} (filter : Log.Filter) (event : Log.Event) :
    Leads (SameWork session) (FailsWith F)
      (liftM (log system filter event) : ExceptT Fault (StateM σ) Unit).run :=
  (leads_log h filter event).bind fun u _ => .pure (.ok u)

/-- Reading the filter of the log changes nothing. -/
theorem leads_readFilter (setting? : Option String) :
    Leads (SameWork session) (fun _ => True) (readFilter system setting?) := by
  have hreport : ∀ text, Leads (SameWork session) (fun _ => True) (system.report text) :=
    fun text s => ⟨h.report text s, trivial⟩
  unfold readFilter
  cases setting? with
  | none => exact .pure trivial
  | some text =>
    simp only
    split
    · exact .pure trivial
    · exact (hreport _).bind fun _ _ => .pure trivial

/-- Reading the export changes nothing. -/
theorem leads_readExport (filter : Log.Filter) (path : String) :
    Leads (SameWork session)
      (FailsWith fun fault => (∃ error, fault = .readInput path error) ∨
        ∃ cause, fault = .ingest path cause)
      (readExport system filter path).run := by
  apply Leads.lift_bind (P := fun _ => True) (fun s => ⟨h.read path s, trivial⟩)
  rintro result -
  cases result with
  | error error => exact .pure (.error (.inl ⟨error, rfl⟩))
  | ok bytes =>
    apply (Leads.forIn fun event _ => leads_lift_log h filter event).bindExcept
    intro _
    cases Export.ingest bytes with
    | error cause => exact .pure (.error (.inr ⟨cause, rfl⟩))
    | ok records => exact (leads_lift_log h filter _).bindExcept fun _ => .pure (.ok records)

/-- A listing changes nothing but its file, if it goes to one. -/
theorem leads_list (arguments : CommandLine.Arguments) (records : List GroupAddress) :
    Leads
      (fun s t => (session t).tree.workingDir = (session s).tree.workingDir ∧
        Unchanged (listingPlaces (session s).tree arguments) (session s).tree (session t).tree)
      (FailsWith fun fault => ∃ cause, fault = .listing cause)
      (list system arguments records).run := by
  obtain ⟨input, dir, format?, listingPath?⟩ := arguments
  unfold list
  cases format? with
  | none => exact fun s => ⟨⟨rfl, fun _ _ => rfl⟩, .ok ()⟩
  | some format =>
    apply Leads.then_tell (T := fun tree final => final.workingDir = tree.workingDir ∧
      Unchanged (listingPlaces tree ⟨input, dir, some format, listingPath?⟩) tree final)
    · intro s
      cases listingPath? with
      | none =>
        rw [sinkOf, h.writeTerminal]
        exact ⟨rfl, fun _ _ => rfl⟩
      | some path =>
        have hchanges := h.writeFile path (listingBytes format records) s
        exact ⟨hchanges.workingDir, fun place hplace => hchanges.get?_of_ne place fun heq =>
          hplace (List.mem_singleton.mpr heq)⟩
    · intro result
      cases result with
      | error fault => exact .pure (.error ⟨_, rfl⟩)
      | ok u => exact .pure (.ok u)

/-- Making the output directory makes directories at most. -/
theorem leads_makeOutputDirectory (dir : String) :
    Leads (MoreDirectories session)
      (FailsWith fun fault => ∃ error, fault = .createDirectory dir error)
      (makeOutputDirectory system dir).run := by
  have hmake : ∀ path, Leads (MoreDirectories session) (fun _ => True)
      (system.makeDirectory path) := fun path s => ⟨h.makeDirectory path s, trivial⟩
  have hcheck : ∀ path, Leads (MoreDirectories session) (fun _ => True)
      (system.isDirectory path) := by
    intro path s
    obtain ⟨htree, -⟩ := Session.work_eq_iff.mp (h.isDirectory path s)
    refine ⟨?_, trivial⟩
    rw [MoreDirectories, htree]
    exact .refl _
  apply (Leads.makeDirectories hmake hcheck trivial _).lift_bind
  rintro result -
  cases result with
  | error error => exact .pure (.error ⟨error, rfl⟩)
  | ok u => exact .pure (.ok u)

/-- Writing a document changes nothing but its file. -/
theorem leads_writeDocument (filter : Log.Filter) (path text : String) :
    Leads
      (fun s t => (session s).tree.ChangesAt (session t).tree ((session s).tree.place path))
      (FailsWith fun fault => ∃ error, fault = .writeOutput path error)
      (writeDocument system filter path text).run := by
  apply Leads.then_tell (T := fun tree final => tree.ChangesAt final (tree.place path))
    (h.writeFile path _)
  intro result
  match result with
  | .ok () => exact leads_lift_log h filter _
  | .error (.opening error) => exact .pure (.error ⟨error, rfl⟩)
  | .error (.piece _ error) => exact .pure (.error ⟨error, rfl⟩)

end Stages

end KnxExport.Run
