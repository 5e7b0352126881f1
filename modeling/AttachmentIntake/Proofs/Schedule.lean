import AttachmentIntake.Proofs.BatchValidation
import Mathlib.Data.List.Perm.Basic

/-! Validation with its tasks side by side. At most as many tasks run as there are permits, they
start and end in any order, and what has ended is joined in any order, up to the first error. -/

namespace AttachmentIntake.Schedule

open BatchValidation

abbrev Task := Position × BoundFile

/-- Where the tasks of a batch are. The results that were joined stand in the order in which that
happened. -/
structure State where
  waiting : List Task
  running : List Task
  ended : List Completion
  joined : List Completion

def State.initial (batch : BoundBatch) : State :=
  { waiting := tasks batch, running := [], ended := [], joined := [] }

/-- What may happen next, with the place of the task in the list that it leaves. -/
inductive Action where
  | start (i : Nat)
  | finish (i : Nat)
  | join (i : Nat)
  deriving DecidableEq, Repr

/-- A limit of zero still lets one task run. -/
def permits (config : Config) : Nat := max config.concurrency 1

@[simp] theorem permits_pos (config : Config) : 0 < permits config :=
  Nat.lt_of_lt_of_le Nat.zero_lt_one (Nat.le_max_right _ 1)

/-- The result that a task has on its own. -/
def completion (config : Config) (scan : Scanner Id) (task : Task) : Completion :=
  (task.1, Id.run (validateOne config scan task.2))

/-- Whether an error was joined; the batch is given up then. -/
def State.isFailed (s : State) : Bool := s.joined.any fun c => !c.2.isOk

def State.isExhausted (s : State) : Bool :=
  s.waiting.isEmpty && s.running.isEmpty && s.ended.isEmpty

def step (config : Config) (scan : Scanner Id) (s : State) (action : Action) : Option State :=
  if s.isFailed then none
  else
    match action with
    | .start i =>
      if s.running.length < permits config then
        s.waiting[i]?.map fun task =>
          { s with waiting := s.waiting.eraseIdx i, running := task :: s.running }
      else none
    | .finish i =>
      s.running[i]?.map fun task =>
        { s with
          running := s.running.eraseIdx i
          ended := completion config scan task :: s.ended }
    | .join i =>
      s.ended[i]?.map fun c =>
        { s with ended := s.ended.eraseIdx i, joined := s.joined ++ [c] }

def run (config : Config) (scan : Scanner Id) : State → List Action → Option State
  | s, [] => some s
  | s, action :: later => (step config scan s action).bind fun next => run config scan next later

/-- The outcome of the batch, as soon as there is one. -/
def answer? (batch : BoundBatch) (s : State) : Option (Except BatchError ValidatedBatch) :=
  if s.isFailed || s.isExhausted then some (conclude batch s.joined) else none

section Runs

variable {config : Config} {scan : Scanner Id} {batch : BoundBatch} {s next : State}

/-! ### Single steps -/

theorem step_start_iff {i : Nat} : step config scan s (.start i) = some next ↔
    s.isFailed = false ∧ s.running.length < permits config ∧ ∃ task, s.waiting[i]? = some task ∧
      next = { s with waiting := s.waiting.eraseIdx i, running := task :: s.running } := by
  unfold step
  cases s.isFailed with
  | true => simp
  | false =>
    by_cases hpermit : s.running.length < permits config
    · simp [hpermit, Option.map_eq_some_iff, @eq_comm _ next]
    · simp [hpermit]

theorem step_finish_iff {i : Nat} : step config scan s (.finish i) = some next ↔
    s.isFailed = false ∧ ∃ task, s.running[i]? = some task ∧
      next = { s with
        running := s.running.eraseIdx i
        ended := completion config scan task :: s.ended } := by
  unfold step
  cases s.isFailed <;> simp [Option.map_eq_some_iff, @eq_comm _ next]

theorem step_join_iff {i : Nat} : step config scan s (.join i) = some next ↔
    s.isFailed = false ∧ ∃ c, s.ended[i]? = some c ∧
      next = { s with ended := s.ended.eraseIdx i, joined := s.joined ++ [c] } := by
  unfold step
  cases s.isFailed <;> simp [Option.map_eq_some_iff, @eq_comm _ next]

/-! ### No task is lost -/

/-- The results of all tasks, those included that are still to come. -/
def State.results (config : Config) (scan : Scanner Id) (s : State) : List Completion :=
  s.waiting.map (completion config scan) ++
    (s.running.map (completion config scan) ++ (s.ended ++ s.joined))

theorem map_eraseIdx_append_perm {α β : Type} {l : List α} {i : Nat} {a : α} (h : l[i]? = some a)
    (f : α → β) (rest : List β) :
    ((l.eraseIdx i).map f ++ f a :: rest).Perm (l.map f ++ rest) := by
  obtain ⟨hi, rfl⟩ := List.getElem?_eq_some_iff.mp h
  have hmoved := (List.getElem_cons_eraseIdx_perm hi).map f
  exact List.perm_middle.trans (hmoved.append_right rest)

theorem step_results {action : Action} (h : step config scan s action = some next) :
    (next.results config scan).Perm (s.results config scan) := by
  cases action with
  | start i =>
    obtain ⟨-, -, task, htask, rfl⟩ := step_start_iff.mp h
    exact map_eraseIdx_append_perm htask _ _
  | finish i =>
    obtain ⟨-, task, htask, rfl⟩ := step_finish_iff.mp h
    exact (map_eraseIdx_append_perm htask _ _).append_left _
  | join i =>
    obtain ⟨-, c, hc, rfl⟩ := step_join_iff.mp h
    have hmoved := map_eraseIdx_append_perm hc id s.joined
    simp only [List.map_id, id_eq] at hmoved
    have hlast : (s.ended.eraseIdx i ++ (s.joined ++ [c])).Perm
        (s.ended.eraseIdx i ++ c :: s.joined) :=
      (List.perm_append_singleton c s.joined).append_left _
    exact ((hlast.trans hmoved).append_left _).append_left _

theorem run_results {actions : List Action} (h : run config scan s actions = some next) :
    (next.results config scan).Perm (s.results config scan) := by
  induction actions generalizing s with
  | nil =>
    cases h
    exact .refl _
  | cons action later ih =>
    obtain ⟨s', hstep, hlater⟩ := Option.bind_eq_some_iff.mp h
    exact (ih hlater).trans (step_results hstep)

/-! ### Runs end -/

/-- How many steps the tasks have before them. -/
def State.remaining (s : State) : Nat :=
  3 * s.waiting.length + 2 * s.running.length + s.ended.length

theorem length_eraseIdx_add_one {α : Type} {l : List α} {i : Nat} {a : α} (h : l[i]? = some a) :
    (l.eraseIdx i).length + 1 = l.length := by
  obtain ⟨hi, -⟩ := List.getElem?_eq_some_iff.mp h
  exact List.length_eraseIdx_add_one hi

theorem step_remaining {action : Action} (h : step config scan s action = some next) :
    next.remaining + 1 = s.remaining := by
  unfold State.remaining
  cases action with
  | start i =>
    obtain ⟨-, -, task, htask, rfl⟩ := step_start_iff.mp h
    have hlength := length_eraseIdx_add_one htask
    simp only [List.length_cons]
    omega
  | finish i =>
    obtain ⟨-, task, htask, rfl⟩ := step_finish_iff.mp h
    have hlength := length_eraseIdx_add_one htask
    simp only [List.length_cons]
    omega
  | join i =>
    obtain ⟨-, c, hc, rfl⟩ := step_join_iff.mp h
    have hlength := length_eraseIdx_add_one hc
    simp only
    omega

theorem run_remaining {actions : List Action} (h : run config scan s actions = some next) :
    next.remaining + actions.length = s.remaining := by
  induction actions generalizing s with
  | nil =>
    cases h
    rfl
  | cons action later ih =>
    obtain ⟨s', hstep, hlater⟩ := Option.bind_eq_some_iff.mp h
    have hfirst := step_remaining hstep
    have hrest := ih hlater
    rw [List.length_cons]
    omega

@[simp] theorem initial_remaining : (State.initial batch).remaining = 3 * batch.fileCount := by
  have hcount : (tasks batch).length = batch.fileCount := by
    rw [BoundBatch.fileCount, ← tasks_map_snd, List.length_map]
  simp only [State.remaining, State.initial, List.length_nil]
  omega

/-- As long as the batch has no outcome, some task can go on. -/
theorem step_progress (config : Config) (scan : Scanner Id) (h : answer? batch s = none) :
    ∃ action next, step config scan s action = some next := by
  unfold answer? at h
  split at h
  next => cases h
  next hopen =>
    rw [Bool.or_eq_true, not_or, Bool.not_eq_true] at hopen
    obtain ⟨hgoing, hleft⟩ := hopen
    cases hended : s.ended with
    | cons c ended =>
      exact ⟨.join 0, _, step_join_iff.mpr ⟨hgoing, c, by rw [hended]; rfl, rfl⟩⟩
    | nil =>
    cases hrunning : s.running with
    | cons task running =>
      exact ⟨.finish 0, _, step_finish_iff.mpr ⟨hgoing, task, by rw [hrunning]; rfl, rfl⟩⟩
    | nil =>
    cases hwaiting : s.waiting with
    | cons task waiting =>
      -- No task holds a permit, and there is at least one.
      have hpermit : s.running.length < permits config := by
        rw [hrunning, List.length_nil]
        exact permits_pos config
      exact ⟨.start 0, _, step_start_iff.mpr ⟨hgoing, hpermit, task, by rw [hwaiting]; rfl, rfl⟩⟩
    | nil =>
      rw [State.isExhausted, hwaiting, hrunning, hended] at hleft
      exact absurd rfl hleft

theorem exists_answer (config : Config) (scan : Scanner Id) (batch : BoundBatch) (s : State) :
    ∃ later next result, run config scan s later = some next ∧
      answer? batch next = some result := by
  induction hn : s.remaining using Nat.strongRecOn generalizing s with
  | ind n ih =>
  cases hanswer : answer? batch s with
  | some result => exact ⟨[], s, result, rfl, hanswer⟩
  | none =>
    obtain ⟨action, s', hstep⟩ := step_progress config scan hanswer
    have hless : s'.remaining < n := by
      have hone := step_remaining hstep
      omega
    obtain ⟨later, next, result, hlater, hresult⟩ := ih _ hless s' rfl
    refine ⟨action :: later, next, result, ?_, hresult⟩
    rw [run, hstep]
    exact hlater

/-! ### Outcomes -/

theorem any_failed_iff {completions : List Completion} :
    (completions.any fun c => !c.2.isOk) = true ↔ ∃ c ∈ completions, ∃ e, c.2 = .error e := by
  have herror (x : Except BatchError Verdict) : (!x.isOk) = true ↔ ∃ e, x = .error e := by
    cases x <;> simp [Except.isOk, Except.toBool]
  simp only [List.any_eq_true, herror]

@[simp]
theorem isFailed_iff : s.isFailed = true ↔ ∃ c ∈ s.joined, ∃ e, c.2 = .error e := any_failed_iff

@[simp] theorem initial_results : (State.initial batch).results config scan =
    (tasks batch).map (completion config scan) := by
  simp [State.results, State.initial]

theorem mem_tasks_of_joined {actions : List Action}
    (h : run config scan (.initial batch) actions = some s) {c : Completion} (hc : c ∈ s.joined) :
    ∃ task ∈ tasks batch, c = completion config scan task := by
  have hmem : c ∈ s.results config scan := by simp [State.results, hc]
  rw [(run_results h).mem_iff, initial_results] at hmem
  obtain ⟨task, htask, rfl⟩ := List.mem_map.mp hmem
  exact ⟨task, htask, rfl⟩

/-- Once nothing is left to do, every task was joined. -/
theorem joined_perm {actions : List Action}
    (h : run config scan (.initial batch) actions = some s) (hleft : s.isExhausted = true) :
    s.joined.Perm ((tasks batch).map (completion config scan)) := by
  have hperm := run_results h
  simp only [State.isExhausted, Bool.and_eq_true, List.isEmpty_iff] at hleft
  obtain ⟨⟨hwaiting, hrunning⟩, hended⟩ := hleft
  rw [initial_results] at hperm
  simpa [State.results, hwaiting, hrunning, hended] using hperm

@[simp] theorem answer?_eq_some_iff {result : Except BatchError ValidatedBatch} :
    answer? batch s = some result ↔
      (s.isFailed = true ∨ s.isExhausted = true) ∧ result = conclude batch s.joined := by
  unfold answer?
  rw [← Bool.or_eq_true]
  split
  next h => simp [h, eq_comm]
  next h => simp [h]

section OfFunction

variable {answer : Scan.Request → Scan.Answer} {actions : List Action}
  {result : Except BatchError ValidatedBatch}

/-- If every file is cleared, each order of the tasks leads to the same outcome. -/
theorem answer_of_cleared
    (h : run config (Scanner.ofFunction answer) (.initial batch) actions = some s)
    (hcleared : ∀ file ∈ batch.files, Cleared config answer file)
    (hresult : answer? batch s = some result) : result = .ok (validatedOf config batch) := by
  have hcompletion : ∀ task ∈ tasks batch,
      completion config (Scanner.ofFunction answer) task =
        (task.1, .ok (verdictOf config task.2)) := by
    intro task htask
    rw [completion, validateOne_of_cleared (forall_tasks_iff.mpr hcleared task htask)]
  obtain ⟨hdone, rfl⟩ := answer?_eq_some_iff.mp hresult
  have hjoined : ∀ c ∈ s.joined, ∃ task ∈ tasks batch,
      c = (task.1, .ok (verdictOf config task.2)) := by
    intro c hc
    obtain ⟨task, htask, rfl⟩ := mem_tasks_of_joined h hc
    exact ⟨task, htask, hcompletion task htask⟩
  have hleft : s.isExhausted = true := by
    rcases hdone with hfailed | hleft
    · obtain ⟨c, hc, e, he⟩ := isFailed_iff.mp hfailed
      obtain ⟨task, -, rfl⟩ := hjoined c hc
      cases he
    · exact hleft
  apply conclude_of_all hjoined
  intro task htask
  rw [((joined_perm h hleft).map Prod.fst).mem_iff, List.map_map]
  exact List.mem_map.mpr ⟨task, htask, rfl⟩

/-- If some file is not cleared, each order of the tasks leads to the error of such a file. -/
theorem answer_of_not_cleared
    (h : run config (Scanner.ofFunction answer) (.initial batch) actions = some s)
    (hsome : ∃ file ∈ batch.files, ¬ Cleared config answer file)
    (hresult : answer? batch s = some result) :
    ∃ file ∈ batch.files, ¬ Cleared config answer file ∧
      ∃ e, Id.run (validateOne config (Scanner.ofFunction answer) file) = .error e ∧
        result = .error e := by
  obtain ⟨hdone, rfl⟩ := answer?_eq_some_iff.mp hresult
  have herror : ∃ c ∈ s.joined, ∃ e, c.2 = .error e := by
    rcases hdone with hfailed | hleft
    · exact isFailed_iff.mp hfailed
    · obtain ⟨file, hfile, hnot⟩ := hsome
      rw [← tasks_map_snd] at hfile
      obtain ⟨task, htask, rfl⟩ := List.mem_map.mp hfile
      obtain ⟨-, -, e, he⟩ := validateOne_of_not_cleared hnot
      refine ⟨_, (joined_perm h hleft).mem_iff.mpr (List.mem_map.mpr ⟨task, htask, rfl⟩), e, he⟩
  obtain ⟨c, hc, e, he, hconclude⟩ := conclude_of_error batch herror
  obtain ⟨task, htask, rfl⟩ := mem_tasks_of_joined h hc
  have hfile : task.2 ∈ batch.files := by
    rw [← tasks_map_snd]
    exact List.mem_map.mpr ⟨task, htask, rfl⟩
  refine ⟨task.2, hfile, fun hcleared => ?_, e, he, hconclude⟩
  rw [completion, validateOne_of_cleared hcleared] at he
  cases he

end OfFunction

/-! ### One task after the other -/

theorem run_append {first second : List Action} :
    run config scan s (first ++ second) =
      (run config scan s first).bind fun next => run config scan next second := by
  induction first generalizing s with
  | nil => rfl
  | cons action first ih =>
    rw [List.cons_append, run, run]
    cases step config scan s action with
    | none => rfl
    | some next => exact ih

/-- A task that is started while no other runs, and joined at once. -/
theorem run_single (config : Config) (scan : Scanner Id) (task : Task) (waiting : List Task)
    {joined : List Completion} (h : (joined.any fun c => !c.2.isOk) = false) :
    run config scan { waiting := task :: waiting, running := [], ended := [], joined }
        [.start 0, .finish 0, .join 0] =
      some { waiting, running := [], ended := []
             joined := joined ++ [completion config scan task] } := by
  simp [run, step, State.isFailed, h, permits_pos config]

/-- The tasks one after the other are one of the schedules. -/
theorem exists_run_sequential (config : Config) (answer : Scan.Request → Scan.Answer)
    (waiting : List Task) {joined : List Completion} (h : (joined.any fun c => !c.2.isOk) = false) :
    ∃ actions s, run config (Scanner.ofFunction answer)
        { waiting, running := [], ended := [], joined } actions = some s ∧
      (s.isFailed = true ∨ s.isExhausted = true) ∧
      s.joined =
        joined ++ Id.run (BatchValidation.run config (Scanner.ofFunction answer) waiting) := by
  induction waiting generalizing joined with
  | nil => exact ⟨[], _, rfl, Or.inr rfl, (List.append_nil joined).symm⟩
  | cons task waiting ih =>
    have hfirst := run_single config (Scanner.ofFunction answer) task waiting h
    rw [run_cons]
    cases hresult : Id.run (validateOne config (Scanner.ofFunction answer) task.2) with
    | error e =>
      refine ⟨_, _, hfirst, Or.inl ?_, ?_⟩
      · simp [State.isFailed, completion, hresult, Except.isOk, Except.toBool]
      · simp only [completion, hresult]
    | ok verdict =>
      rw [completion, hresult] at hfirst
      have hgoing : ((joined ++ [(task.1, Except.ok verdict)]).any fun c : Completion =>
          !c.2.isOk) = false := by
        rw [List.any_append, h]
        rfl
      obtain ⟨later, s, hrun, hdone, hjoined⟩ := ih hgoing
      refine ⟨[.start 0, .finish 0, .join 0] ++ later, s, ?_, hdone, ?_⟩
      · rw [run_append, hfirst]
        exact hrun
      · rw [hjoined, List.append_assoc]
        rfl

/-- What validation of a batch gives is the outcome of one of its schedules. -/
theorem exists_run_validateBatch (config : Config) (answer : Scan.Request → Scan.Answer)
    (batch : BoundBatch) :
    ∃ actions s, run config (Scanner.ofFunction answer) (.initial batch) actions = some s ∧
      answer? batch s = some (Id.run (validateBatch config (Scanner.ofFunction answer) batch)) := by
  have hnone : (([] : List Completion).any fun c => !c.2.isOk) = false := rfl
  obtain ⟨actions, s, hrun, hdone, hjoined⟩ :=
    exists_run_sequential config answer (tasks batch) hnone
  refine ⟨actions, s, hrun, answer?_eq_some_iff.mpr ⟨hdone, ?_⟩⟩
  rw [validateBatch, Id.run_map, hjoined, List.nil_append]

/-! ### Scanners that clear a file or fail -/

/-- The answer that a verdict on a file stands for. -/
def answerOf (verdict : Scan.Request → Except Scan.Failure Unit) (request : Scan.Request) :
    Scan.Answer :=
  match verdict request with
  | .ok () => .clean
  | .error failure => .failed failure

/-- A file is handed to the scanner and fails there. -/
def FailsScan (config : Config) (verdict : Scan.Request → Except Scan.Failure Unit)
    (file : BoundFile) (failure : Scan.Failure) : Prop :=
  precheck? config file = none ∧ verdict (request file) = .error failure

variable {verdict : Scan.Request → Except Scan.Failure Unit}

@[simp] theorem not_cleared_iff {file : BoundFile} : ¬ Cleared config (answerOf verdict) file ↔
    ∃ failure, FailsScan config verdict file failure := by
  unfold Cleared FailsScan answerOf
  cases hverdict : verdict (request file) with
  | ok => simp
  | error failure => simp

theorem validateOne_of_failsScan {file : BoundFile} {failure : Scan.Failure}
    (h : FailsScan config verdict file failure) :
    Id.run (validateOne config (Scanner.ofFunction (answerOf verdict)) file) =
      .error (.scanFailure failure) := by
  obtain ⟨hpre, hverdict⟩ := h
  rw [validateOne_of_scanned hpre, answerOf, hverdict, afterScan]

theorem verdicts_of_cleared {answer : Scan.Request → Scan.Answer}
    (h : ∀ file ∈ batch.files, Cleared config answer file) :
    (validatedOf config batch).verdicts.map (fun vs => vs.map Except.ok) =
      batch.groups.map fun g => g.files.map fun file =>
        Id.run (validateOne config (Scanner.ofFunction answer) file) := by
  rw [validatedOf, allVerdicts, List.map_map]
  refine List.map_congr_left fun g hg => ?_
  rw [Function.comp_apply, List.map_map]
  refine List.map_congr_left fun file hfile => ?_
  rw [Function.comp_apply, validateOne_of_cleared (h file (List.mem_flatMap.mpr ⟨g, hg, hfile⟩))]

/-- How many tasks run side by side is nothing to the files. -/
@[simp] theorem validatedOf_concurrency (limit : Nat) :
    validatedOf { config with concurrency := limit } batch = validatedOf config batch := by
  unfold validatedOf verdictOf BatchValidation.precheck?
  rfl

end Runs

/-- Every schedule comes to an end with an outcome, however few permits there are. If no scan fails,
it is the same for all of them, with the result of each file in its place; if scans fail, it is one
of their failures. -/
theorem answer_of_run {config : Config} {limit : Nat}
    {verdict : Scan.Request → Except Scan.Failure Unit} {batch : BoundBatch}
    {actions : List Action} {s : State}
    (h : run { config with concurrency := limit } (Scanner.ofFunction (answerOf verdict))
      (.initial batch) actions = some s) :
    actions.length ≤ 3 * batch.fileCount ∧
    (∃ later next result,
      run { config with concurrency := limit } (Scanner.ofFunction (answerOf verdict)) s later =
        some next ∧ answer? batch next = some result) ∧
    ∀ result, answer? batch s = some result →
      ((∀ file ∈ batch.files, ∀ failure, ¬ FailsScan config verdict file failure) →
        ∃ validated, result = .ok validated ∧
          Id.run (validateBatch config (Scanner.ofFunction (answerOf verdict)) batch) =
            .ok validated ∧
          validated.batch = batch ∧
          validated.verdicts.map (fun vs => vs.map Except.ok) =
            batch.groups.map fun g => g.files.map fun file =>
              Id.run (validateOne config (Scanner.ofFunction (answerOf verdict)) file)) ∧
      ((∃ file ∈ batch.files, ∃ failure, FailsScan config verdict file failure) →
        ∃ file ∈ batch.files, ∃ failure, FailsScan config verdict file failure ∧
          result = .error (.scanFailure failure)) := by
  refine ⟨?_, exists_answer _ _ batch s, fun result hresult => ⟨fun hnone => ?_, fun hsome => ?_⟩⟩
  · have hremaining := run_remaining h
    rw [initial_remaining] at hremaining
    omega
  · have hcleared : ∀ file ∈ batch.files, Cleared config (answerOf verdict) file := by
      intro file hfile
      by_contra hnot
      obtain ⟨failure, hfails⟩ := not_cleared_iff.mp hnot
      exact hnone file hfile failure hfails
    have hanswer := answer_of_cleared h (fun file hfile => hcleared file hfile) hresult
    rw [validatedOf_concurrency] at hanswer
    exact ⟨validatedOf config batch, hanswer, validateBatch_eq_ok_iff.mpr ⟨hcleared, rfl⟩, rfl,
      verdicts_of_cleared hcleared⟩
  · have hnot : ∃ file ∈ batch.files,
        ¬ Cleared { config with concurrency := limit } (answerOf verdict) file := by
      obtain ⟨file, hfile, hfails⟩ := hsome
      exact ⟨file, hfile, not_cleared_iff.mpr hfails⟩
    obtain ⟨file, hfile, hfile', e, he, rfl⟩ := answer_of_not_cleared h hnot hresult
    obtain ⟨failure, hfails⟩ := not_cleared_iff.mp hfile'
    rw [validateOne_of_failsScan hfails] at he
    cases he
    exact ⟨file, hfile, failure, hfails, rfl⟩

namespace Sample

/-- Too large, so it is not scanned. -/
def large : BoundFile :=
  { expected := { originalFilename := "a.pdf", identifier := ⟨"a", by decide⟩ }
    part := { filename := "a.pdf", data := ⟨#[1, 2, 3]⟩ } }

def infected : BoundFile :=
  { expected := { originalFilename := "b.pdf", identifier := ⟨"b", by decide⟩ }
    part := { filename := "b.pdf", data := ⟨#[1]⟩ } }

def info : GroupInfo :=
  { kind := "a"
    extraInfo := none
    deadline := none
    originEvent := none
    originReference := none }

def batch : BoundBatch := { groups := [{ info, files := [large, infected] }] }

def config : Config := { Config.production with maxFileSize := 2 }

def verdict (request : Scan.Request) : Except Scan.Failure Unit :=
  .error (.infected request.filename "FOUND")

end Sample

/-- With no permits at all the rejected file is joined first, and the scan still fails the batch. -/
theorem answer_of_run_sample : ∃ s failure,
    run { Sample.config with concurrency := 0 } (Scanner.ofFunction (answerOf Sample.verdict))
        (.initial Sample.batch)
        [.start 0, .finish 0, .join 0, .start 0, .finish 0, .join 0] = some s ∧
      answer? Sample.batch s = some (.error (.scanFailure failure)) := by
  have hsome : ((run { Sample.config with concurrency := 0 }
      (Scanner.ofFunction (answerOf Sample.verdict)) (.initial Sample.batch)
      [.start 0, .finish 0, .join 0, .start 0, .finish 0, .join 0]).bind
        (answer? Sample.batch)).isSome = true := by decide +kernel
  obtain ⟨result, hresult⟩ := Option.isSome_iff_exists.mp hsome
  obtain ⟨s, hrun, hanswer⟩ := Option.bind_eq_some_iff.mp hresult
  have hpre : precheck? Sample.config Sample.infected = none := by decide +kernel
  obtain ⟨-, -, houtcome⟩ := answer_of_run hrun
  obtain ⟨file, -, failure, -, rfl⟩ := (houtcome result hanswer).2
    ⟨Sample.infected, by simp [Sample.batch, BoundBatch.files], _, hpre, rfl⟩
  exact ⟨s, failure, hrun, hanswer⟩

end AttachmentIntake.Schedule
