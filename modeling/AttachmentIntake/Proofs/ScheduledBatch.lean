import AttachmentIntake.Proofs.Declarations
import AttachmentIntake.Proofs.Schedule
import AttachmentIntake.Proofs.UploadOrder

/-! Whole batches with their tasks side by side. Neither the order of upload nor what a client
declares takes part in what a schedule leads to, and two schedules differ at most in which failed
scan they report. -/

namespace AttachmentIntake.Schedule

open BatchValidation Reconciliation

/-- The outcome of a bound batch whose tasks take these actions, if they bring it to one. -/
def validate? (config : Config) (scan : Scanner Id) (actions : List Action) (batch : BoundBatch) :
    Option (Except BatchError ValidatedBatch) :=
  (run config scan (.initial batch) actions).bind (answer? batch)

/-- What becomes of parts whose files are validated by tasks that take these actions. -/
def process? (config : Config) (scan : Scanner Id) (actions : List Action) (parts : List Part) :
    Option (Except Rejection PreparedBatch) :=
  Pipeline.processBy config (validate? config scan actions) parts

variable {config : Config} {parts others : List Part} {actions later : List Action}

/-- Files one after the other are one of the schedules. -/
theorem exists_process? (config : Config) (answer : Scan.Request → Scan.Answer)
    (parts : List Part) :
    ∃ actions, process? config (Scanner.ofFunction answer) actions parts =
      some (Id.run (Pipeline.process { config, scanner := Scanner.ofFunction answer } parts)) := by
  cases hbind : Pipeline.bindParts config parts with
  | error e =>
    refine ⟨[], ?_⟩
    rw [process?, processBy_of_unbound hbind, process_of_unbound hbind]
    rfl
  | ok batch =>
    obtain ⟨actions, s, hrun, hanswer⟩ := exists_run_validateBatch config answer batch
    refine ⟨actions, ?_⟩
    rw [process?, processBy_of_bound hbind, process_of_bound hbind, validate?, hrun,
      Option.bind_some, hanswer]
    rfl

/-! ### Parts in another order -/

section Order

variable {answer : Scan.Request → Scan.Answer}

/-- The error of a file of the batch that is not cleared. -/
def IsFailure (config : Config) (answer : Scan.Request → Scan.Answer) (batch : BoundBatch)
    (e : BatchError) : Prop :=
  ∃ file ∈ batch.files, ¬ Cleared config answer file ∧
    Id.run (validateOne config (Scanner.ofFunction answer) file) = .error e

/-- Two schedules of a batch have the same outcome, or each reports the failure of a file. -/
theorem validate?_agree {batch : BoundBatch} {result result' : Except BatchError ValidatedBatch}
    (h : validate? config (Scanner.ofFunction answer) actions batch = some result)
    (h' : validate? config (Scanner.ofFunction answer) later batch = some result') :
    result = result' ∨ ∃ e e', result = .error e ∧ result' = .error e' ∧
      IsFailure config answer batch e ∧ IsFailure config answer batch e' := by
  obtain ⟨s, hrun, hanswer⟩ := Option.bind_eq_some_iff.mp h
  obtain ⟨s', hrun', hanswer'⟩ := Option.bind_eq_some_iff.mp h'
  by_cases hcleared : ∀ file ∈ batch.files, Cleared config answer file
  · left
    rw [answer_of_cleared hrun hcleared hanswer, answer_of_cleared hrun' hcleared hanswer']
  · right
    have hsome : ∃ file ∈ batch.files, ¬ Cleared config answer file := by
      simpa only [not_forall, exists_prop] using hcleared
    obtain ⟨file, hfile, hnot, e, he, rfl⟩ := answer_of_not_cleared hrun hsome hanswer
    obtain ⟨file', hfile', hnot', e', he', rfl⟩ := answer_of_not_cleared hrun' hsome hanswer'
    exact ⟨e, e', rfl, rfl, ⟨file, hfile, hnot, he⟩, ⟨file', hfile', hnot', he'⟩⟩

/-- However the parts are ordered and the tasks are scheduled, a batch comes to the same. Only if
some part is misplaced may the errors name different parts, and only if some file is not cleared may
they be the failures of different files. -/
theorem process?_perm (h : parts.Perm others)
    (hone : parts.countP (fun p => p.filename = config.manifestName) = 1)
    {result result' : Except Rejection PreparedBatch}
    (hparts : process? config (Scanner.ofFunction answer) actions parts = some result)
    (hothers : process? config (Scanner.ofFunction answer) later others = some result') :
    result = result' ∨ ∃ e e', result = .error (.fatal e) ∧ result' = .error (.fatal e') ∧
      (e.IsMisplaced ∧ e'.IsMisplaced ∨
        ∃ batch, Pipeline.bindParts config parts = .ok batch ∧
          IsFailure config answer batch e ∧ IsFailure config answer batch e') := by
  rcases bindParts_perm h hone with hsame | ⟨e, e', he, he', hmisplaced⟩
  · cases hbind : Pipeline.bindParts config parts with
    | error e =>
      left
      rw [process?, processBy_of_unbound hbind] at hparts
      rw [process?, processBy_of_unbound (hsame.symm.trans hbind)] at hothers
      cases hparts
      cases hothers
      rfl
    | ok batch =>
      rw [process?, processBy_of_bound hbind] at hparts
      rw [process?, processBy_of_bound (hsame.symm.trans hbind)] at hothers
      obtain ⟨validated, hvalidated, rfl⟩ := Option.map_eq_some_iff.mp hparts
      obtain ⟨validated', hvalidated', rfl⟩ := Option.map_eq_some_iff.mp hothers
      rcases validate?_agree hvalidated hvalidated' with rfl | ⟨e, e', rfl, rfl, hfails⟩
      · exact .inl rfl
      · exact .inr ⟨e, e', rfl, rfl, .inr ⟨batch, rfl, hfails⟩⟩
  · rw [process?, processBy_of_unbound he] at hparts
    rw [process?, processBy_of_unbound he'] at hothers
    cases hparts
    cases hothers
    exact .inr ⟨e, e', rfl, rfl, .inl hmisplaced⟩

end Order

/-! ### Parts under other names and types -/

section Declared

variable {scan : Scanner Id} {s s' : State}

/-- States whose tasks have the same results on their own. -/
structure Alike (config : Config) (scan : Scanner Id) (s s' : State) : Prop where
  waiting : s.waiting.map (completion config scan) = s'.waiting.map (completion config scan)
  running : s.running.map (completion config scan) = s'.running.map (completion config scan)
  ended : s.ended = s'.ended
  joined : s.joined = s'.joined

theorem Alike.isFailed (h : Alike config scan s s') : s.isFailed = s'.isFailed := by
  rw [State.isFailed, h.joined, State.isFailed]

theorem Alike.isExhausted (h : Alike config scan s s') : s.isExhausted = s'.isExhausted := by
  have hwaiting := congrArg List.isEmpty h.waiting
  have hrunning := congrArg List.isEmpty h.running
  simp only [List.isEmpty_map] at hwaiting hrunning
  rw [State.isExhausted, hwaiting, hrunning, h.ended, State.isExhausted]

theorem Alike.step (h : Alike config scan s s') (action : Action) :
    Option.Rel (Alike config scan) (step config scan s action) (step config scan s' action) := by
  have heraseIdx {tasks tasks' : List Task} (i : Nat)
      (htasks : tasks.map (completion config scan) = tasks'.map (completion config scan)) :
      (tasks.eraseIdx i).map (completion config scan) =
        (tasks'.eraseIdx i).map (completion config scan) := by
    rw [← List.eraseIdx_map, ← List.eraseIdx_map, htasks]
  unfold Schedule.step
  rw [h.isFailed]
  split
  · exact .none
  cases action with
  | start i =>
    have hlength : s.running.length = s'.running.length := by
      simpa only [List.length_map] using congrArg List.length h.running
    simp only [hlength]
    split
    · refine map_related (getElem?_related h.waiting i) fun task task' htask => ?_
      exact ⟨heraseIdx i h.waiting, by rw [List.map_cons, List.map_cons, htask, h.running], h.ended,
        h.joined⟩
    · exact .none
  | finish i =>
    refine map_related (getElem?_related h.running i) fun task task' htask => ?_
    exact ⟨h.waiting, heraseIdx i h.running, by rw [htask, h.ended], h.joined⟩
  | join i =>
    simp only [h.ended]
    cases s'.ended[i]? with
    | none => exact .none
    | some c => exact .some ⟨h.waiting, h.running, rfl, by rw [h.joined]⟩

theorem Alike.run (h : Alike config scan s s') (actions : List Action) :
    Option.Rel (Alike config scan) (run config scan s actions) (run config scan s' actions) := by
  induction actions generalizing s s' with
  | nil => exact .some h
  | cons action later ih =>
    have hstep := h.step action
    rw [Schedule.run, Schedule.run]
    generalize Schedule.step config scan s action = next at hstep ⊢
    generalize Schedule.step config scan s' action = next' at hstep ⊢
    cases hstep with
    | none => exact .none
    | some hnext => exact ih hnext

theorem alike_initial (config : Config) (scan : Scanner Id) {batch batch' : BoundBatch}
    (h : SameBatch Renamed batch batch') :
    Alike config scan (.initial batch) (.initial batch') where
  waiting := map_eq_map_of_related (tasks_renamed h) fun t u htask => by
    rw [completion, htask.1, validateOne_renamed htask.2, completion]
  running := rfl
  ended := rfl
  joined := rfl

/-- The same actions settle renamed parts alike, or settle neither. -/
theorem validate?_renamed {batch batch' : BoundBatch} (h : SameBatch Renamed batch batch') :
    (validate? config scan actions batch).map (Pipeline.settle config) =
      (validate? config scan actions batch').map (Pipeline.settle config) := by
  have hrun := (alike_initial config scan h).run actions
  unfold validate?
  generalize run config scan (.initial batch) actions = s at hrun ⊢
  generalize run config scan (.initial batch') actions = s' at hrun ⊢
  cases hrun with
  | none => rfl
  | some halike =>
    rw [Option.bind_some, Option.bind_some, answer?, halike.isFailed, halike.isExhausted, answer?]
    split
    · rw [Option.map_some, Option.map_some, halike.joined, settle_renamed config h]
    · rfl

/-- Whatever a client declares, the same schedule of a batch with the same content comes to the
same. Only the name of an unmatched part is given back as declared. -/
theorem process?_redeclared (scan : Scanner Id) (actions : List Action)
    (h : List.Forall₂ (Redeclared config) parts others) :
    process? config scan actions parts = process? config scan actions others ∨
      ∃ q ∈ parts.zip others,
        process? config scan actions parts =
            some (.error (.fatal (.unmatchedFile q.1.filename))) ∧
          process? config scan actions others =
            some (.error (.fatal (.unmatchedFile q.2.filename))) :=
  processBy_redeclared h fun _ _ hbatch => validate?_renamed hbatch

end Declared

end AttachmentIntake.Schedule
