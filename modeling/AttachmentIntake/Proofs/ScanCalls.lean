import AttachmentIntake.Proofs.Schedule
import Mathlib.Logic.Relation

/-! What a scanner is handed while tasks run side by side and it may answer anything, at any time.
Each task runs the validation of its file, stopped at the point where the scanner is asked. -/

namespace AttachmentIntake

/-- A computation that may ask a scanner. -/
inductive Dialogue (α : Type) where
  | done (a : α)
  | asking (request : Scan.Request) (next : Scan.Answer → Dialogue α)

namespace Dialogue

def bind {α β : Type} : Dialogue α → (α → Dialogue β) → Dialogue β
  | done a, f => f a
  | asking request next, f => asking request fun answer => (next answer).bind f

instance : Monad Dialogue where
  pure := done
  bind := bind

end Dialogue

/-- The scanner that leaves every answer open. -/
def Scanner.asking : Scanner Dialogue := fun request => .asking request .done

namespace ScanCalls

open BatchValidation
open Schedule (Task permits)

/-- Where a task is. -/
inductive Phase where
  | waiting
  | running (rest : Dialogue (Except BatchError Verdict))
  /-- The scanner was asked and has not answered. -/
  | listening (next : Scan.Answer → Dialogue (Except BatchError Verdict))
  | ended (result : Except BatchError Verdict)
  | joined (result : Except BatchError Verdict)

/-- A task holds a permit from its start to its end. -/
def Phase.isActive : Phase → Bool
  | .running _ | .listening _ => true
  | .waiting | .ended _ | .joined _ => false

structure Job where
  task : Task
  phase : Phase

/-- What passes between a task and the scanner. -/
inductive Turn where
  | asked (request : Scan.Request)
  | answered (answer : Scan.Answer)

def Turn.request? : Turn → Option Scan.Request
  | .asked request => some request
  | .answered _ => none

@[simp] theorem Turn.request?_asked (r : Scan.Request) : (Turn.asked r).request? = some r := rfl

@[simp] theorem Turn.request?_answered (a : Scan.Answer) : (Turn.answered a).request? = none := rfl

/-- All that passed, in the order in which it did. -/
abbrev Log := List (Position × Turn)

/-- What passed for the file at a position. -/
def Log.turns (log : Log) (p : Position) : List Turn :=
  (log.filter fun entry => entry.1 = p).map Prod.snd

/-- The calls of the scanner. -/
def Log.calls (log : Log) : List (Position × Scan.Request) :=
  log.filterMap fun entry => entry.2.request?.map fun request => (entry.1, request)

structure State where
  jobs : List Job
  log : Log
  joined : List Completion

def State.initial (batch : BoundBatch) : State :=
  { jobs := (tasks batch).map fun task => { task, phase := .waiting }, log := [], joined := [] }

/-! ### What passed altogether -/

namespace Log

variable {log more : Log} {p q : Position} {turns : List Turn}

@[simp] theorem turns_append : Log.turns (log ++ more) p = log.turns p ++ more.turns p := by
  rw [Log.turns, List.filter_append, List.map_append]
  rfl

@[simp] theorem turns_map_self : Log.turns (turns.map (p, ·)) p = turns := by
  simp [Log.turns, List.filter_map, Function.comp_def]

theorem turns_map_of_ne (h : p ≠ q) : Log.turns (turns.map (p, ·)) q = [] := by
  simp [Log.turns, List.filter_map, Function.comp_def, h]

/-- The calls for one position are those that its turns hold. -/
theorem filter_calls (log : Log) (p : Position) :
    (log.calls.filter fun call => call.1 = p) =
      ((log.turns p).filterMap Turn.request?).map (p, ·) := by
  induction log with
  | nil => rfl
  | cons entry log ih =>
    obtain ⟨q, turn⟩ := entry
    unfold Log.calls Log.turns at *
    by_cases hq : q = p <;> cases turn <;> simp [List.filterMap_cons, hq, ih]

@[simp] theorem mem_calls_iff {r : Scan.Request} :
    (p, r) ∈ log.calls ↔ r ∈ (log.turns p).filterMap Turn.request? := by
  have hfilter : (p, r) ∈ log.calls ↔ (p, r) ∈ log.calls.filter fun call => call.1 = p := by simp
  rw [hfilter, filter_calls]
  simp

@[simp] theorem calls_append (log more : Log) : Log.calls (log ++ more) = log.calls ++ more.calls :=
  List.filterMap_append

theorem calls_map (p : Position) (turns : List Turn) :
    (Log.calls (turns.map (p, ·))).map Prod.snd = turns.filterMap Turn.request? := by
  simp [Log.calls, List.filterMap_map, List.map_filterMap, Function.comp_def]

end Log

/-! ### Steps -/

theorem forall_mem_middle {α : Type} {p : α → Prop} {before after : List α} {a : α} :
    (∀ b ∈ before ++ a :: after, p b) ↔ p a ∧ ∀ b ∈ before ++ after, p b := by
  simp only [List.perm_middle.mem_iff, List.forall_mem_cons]

theorem exists_mem_middle {α : Type} {p : α → Prop} {before after : List α} {a : α} :
    (∃ b ∈ before ++ a :: after, p b) ↔ p a ∨ ∃ b ∈ before ++ after, p b := by
  simp only [List.perm_middle.mem_iff, List.exists_mem_cons_iff]

section Runs

variable [Text.Normalization]

/-- What a task may do next, and what passes between it and the scanner then. -/
inductive Advance (config : Config) (file : BoundFile) : Phase → List Turn → Phase → Prop
  | start : Advance config file .waiting [] (.running (validateOne config Scanner.asking file))
  | ask (request : Scan.Request) (next : Scan.Answer → Dialogue (Except BatchError Verdict)) :
    Advance config file (.running (.asking request next)) [.asked request] (.listening next)
  | hear (next : Scan.Answer → Dialogue (Except BatchError Verdict)) (answer : Scan.Answer) :
    Advance config file (.listening next) [.answered answer] (.running (next answer))
  | finish (result : Except BatchError Verdict) :
    Advance config file (.running (.done result)) [] (.ended result)

/-- Some task goes on, or its result is joined. No task starts without a permit, and nothing is
joined after an error; tasks may go on then until they are stopped. -/
inductive Step (config : Config) : State → State → Prop
  | advance {before after : List Job} {task : Task} {phase phase' : Phase} {turns : List Turn}
    {log : Log} {joined : List Completion}
    (go : Advance config task.2 phase turns phase')
    (permit : phase = .waiting →
      (before ++ after).countP (·.phase.isActive) < permits config) :
    Step config { jobs := before ++ { task, phase } :: after, log, joined }
      { jobs := before ++ { task, phase := phase' } :: after
        log := log ++ turns.map (task.1, ·)
        joined }
  | join {before after : List Job} {task : Task} {result : Except BatchError Verdict} {log : Log}
    {joined : List Completion} (going : ∀ c ∈ joined, ∃ verdict, c.2 = .ok verdict) :
    Step config { jobs := before ++ { task, phase := .ended result } :: after, log, joined }
      { jobs := before ++ { task, phase := .joined result } :: after
        log
        joined := joined ++ [(task.1, result)] }

/-- The states that a run on a batch can come to. -/
def Reaches (config : Config) (batch : BoundBatch) : State → Prop :=
  Relation.ReflTransGen (Step config) (.initial batch)

/-- An error was joined, or everything was. -/
def State.Ends (s : State) : Prop :=
  (∃ c ∈ s.joined, ∃ e, c.2 = .error e) ∨ ∀ job ∈ s.jobs, ∃ result, job.phase = .joined result

/-- The outcome of a batch, once there is one. -/
def State.Returns (s : State) (batch : BoundBatch) (result : Except BatchError ValidatedBatch) :
    Prop :=
  s.Ends ∧ result = conclude batch s.joined

/-! ### What passed for single files -/

/-- The result of a file, and what passed between its task and the scanner. -/
inductive Settled (config : Config) (file : BoundFile) :
    Except BatchError Verdict → List Turn → Prop
  | rejected {outcome : Outcome} (h : precheck? config file = some outcome) :
    Settled config file (.ok (.rejected outcome)) []
  | scanned (h : precheck? config file = none) (answer : Scan.Answer) :
    Settled config file (afterScan file answer) [.asked (request file), .answered answer]

/-- What passed between the task of a file and the scanner, by where the task is. -/
inductive Trail (config : Config) (file : BoundFile) : Phase → List Turn → Prop
  | waiting : Trail config file .waiting []
  | started {rest : Dialogue (Except BatchError Verdict)}
    (h : rest = validateOne config Scanner.asking file) : Trail config file (.running rest) []
  | asked (h : precheck? config file = none) :
    Trail config file (.listening fun answer => .done (afterScan file answer))
      [.asked (request file)]
  | answered (h : precheck? config file = none) (answer : Scan.Answer) :
    Trail config file (.running (.done (afterScan file answer)))
      [.asked (request file), .answered answer]
  | ended {result : Except BatchError Verdict} {turns : List Turn}
    (h : Settled config file result turns) : Trail config file (.ended result) turns
  | joined {result : Except BatchError Verdict} {turns : List Turn}
    (h : Settled config file result turns) : Trail config file (.joined result) turns

variable {config : Config} {batch : BoundBatch} {file : BoundFile}

theorem validateOne_asking_of_rejected {outcome : Outcome}
    (h : precheck? config file = some outcome) :
    validateOne config Scanner.asking file = .done (.ok (.rejected outcome)) := by
  rw [validateOne, h]
  rfl

theorem validateOne_asking_of_scanned (h : precheck? config file = none) :
    validateOne config Scanner.asking file =
      .asking (request file) fun answer => .done (afterScan file answer) := by
  rw [validateOne, h]
  rfl

theorem Trail.advance {phase phase' : Phase} {turns more : List Turn}
    (h : Trail config file phase turns) (go : Advance config file phase more phase') :
    Trail config file phase' (turns ++ more) := by
  cases go with
  | start =>
    cases h
    exact .started rfl
  | ask request next =>
    cases h with
    | started hrest =>
      cases hpre : precheck? config file with
      | some outcome =>
        rw [validateOne_asking_of_rejected hpre] at hrest
        cases hrest
      | none =>
        rw [validateOne_asking_of_scanned hpre] at hrest
        cases hrest
        exact .asked hpre
  | hear next answer =>
    cases h with
    | asked hpre => exact .answered hpre answer
  | finish result =>
    rw [List.append_nil]
    cases h with
    | answered hpre answer => exact .ended (.scanned hpre answer)
    | started hrest =>
      cases hpre : precheck? config file with
      | some outcome =>
        rw [validateOne_asking_of_rejected hpre] at hrest
        cases hrest
        exact .ended (.rejected hpre)
      | none =>
        rw [validateOne_asking_of_scanned hpre] at hrest
        cases hrest

/-- What every reachable state keeps to. -/
structure Sound (config : Config) (batch : BoundBatch) (s : State) : Prop where
  tasks_eq : s.jobs.map Job.task = tasks batch
  trails : ∀ job ∈ s.jobs, Trail config job.task.2 job.phase (s.log.turns job.task.1)
  known : ∀ entry ∈ s.log, ∃ job ∈ s.jobs, job.task.1 = entry.1
  joined_iff : ∀ c, c ∈ s.joined ↔
    ∃ job ∈ s.jobs, ∃ result, job.phase = .joined result ∧ c = (job.task.1, result)

variable {s next : State}

theorem sound_initial : Sound config batch (.initial batch) where
  tasks_eq := by simp [State.initial, Function.comp_def]
  trails := by
    intro job hjob
    obtain ⟨task, -, rfl⟩ := List.mem_map.mp hjob
    exact .waiting
  known := nofun
  joined_iff := by simp [State.initial]

theorem Sound.positions_ne {before after : List Job} {job : Job}
    (h : Sound config batch s) (hjobs : s.jobs = before ++ job :: after) :
    ∀ other ∈ before ++ after, job.task.1 ≠ other.task.1 := by
  have hnodup : (s.jobs.map fun job => job.task.1).Nodup := by
    have hpositions := tasks_positions_nodup batch
    rwa [← h.tasks_eq, List.map_map] at hpositions
  rw [hjobs, List.map_append, List.map_cons, List.nodup_middle, List.nodup_cons,
    ← List.map_append] at hnodup
  intro other hother heq
  exact hnodup.1 (List.mem_map.mpr ⟨other, hother, heq.symm⟩)

theorem Advance.not_joined {phase phase' : Phase} {turns : List Turn}
    (go : Advance config file phase turns phase') (result : Except BatchError Verdict) :
    phase ≠ .joined result ∧ phase' ≠ .joined result := by
  cases go <;> exact ⟨nofun, nofun⟩

theorem Sound.step (h : Sound config batch s) (hstep : Step config s next) :
    Sound config batch next := by
  cases hstep with
  | @advance before after task phase phase' turns log joined go permit =>
    have hne := h.positions_ne rfl
    obtain ⟨htrail, hothers⟩ := forall_mem_middle.mp h.trails
    refine
      { tasks_eq := by simpa using h.tasks_eq
        trails := forall_mem_middle.mpr ⟨?own, ?others⟩
        known := ?known
        joined_iff := ?completions }
    case own =>
      rw [Log.turns_append, Log.turns_map_self]
      exact htrail.advance go
    case others =>
      -- The new turns stand under a position that no other task has.
      intro other hother
      rw [Log.turns_append, Log.turns_map_of_ne (hne other hother), List.append_nil]
      exact hothers other hother
    case known =>
      intro entry hentry
      rw [exists_mem_middle]
      rcases List.mem_append.mp hentry with hold | hnew
      · exact exists_mem_middle.mp (h.known entry hold)
      · obtain ⟨turn, -, rfl⟩ := List.mem_map.mp hnew
        exact Or.inl rfl
    case completions =>
      intro c
      have hjoined := h.joined_iff c
      simp only [exists_mem_middle, (go.not_joined _).1, false_and, exists_false,
        false_or] at hjoined
      simpa only [exists_mem_middle, (go.not_joined _).2, false_and, exists_false, false_or]
        using hjoined
  | @join before after task result log joined going =>
    obtain ⟨htrail, hothers⟩ := forall_mem_middle.mp h.trails
    have hsettled : Settled config task.2 result (Log.turns log task.1) := by
      cases htrail with
      | ended hsettled => exact hsettled
    refine
      { tasks_eq := by simpa using h.tasks_eq
        trails := forall_mem_middle.mpr ⟨.joined hsettled, hothers⟩
        known := fun entry hentry =>
          exists_mem_middle.mpr (exists_mem_middle.mp (h.known entry hentry))
        joined_iff := ?completions }
    case completions =>
      intro c
      have hjoined := h.joined_iff c
      simp only [exists_mem_middle, reduceCtorEq, false_and, exists_false, false_or] at hjoined
      rw [List.mem_append, hjoined, List.mem_singleton, exists_mem_middle, or_comm]
      refine or_congr_left ⟨fun hc => ⟨result, rfl, hc⟩, ?_⟩
      rintro ⟨_, ⟨⟩, hc⟩
      exact hc

theorem sound_of_reaches (h : Reaches config batch s) : Sound config batch s := by
  induction h with
  | refl => exact sound_initial
  | tail _ hstep ih => exact ih.step hstep

/-! ### Calls and outcomes -/

theorem Trail.requests {phase : Phase} {turns : List Turn} (h : Trail config file phase turns) :
    turns.filterMap Turn.request? = [] ∨
      precheck? config file = none ∧ turns.filterMap Turn.request? = [request file] := by
  have hsettled {result : Except BatchError Verdict} (hs : Settled config file result turns) :
      turns.filterMap Turn.request? = [] ∨
        precheck? config file = none ∧ turns.filterMap Turn.request? = [request file] := by
    cases hs with
    | rejected => exact Or.inl rfl
    | scanned hpre => exact Or.inr ⟨hpre, rfl⟩
  cases h with
  | waiting => exact Or.inl rfl
  | started => exact Or.inl rfl
  | asked hpre => exact Or.inr ⟨hpre, rfl⟩
  | answered hpre => exact Or.inr ⟨hpre, rfl⟩
  | ended hs => exact hsettled hs
  | joined hs => exact hsettled hs

theorem Sound.requests (h : Sound config batch s) (p : Position) :
    (s.log.turns p).filterMap Turn.request? = [] ∨
      ∃ file, (p, file) ∈ tasks batch ∧ precheck? config file = none ∧
        (s.log.turns p).filterMap Turn.request? = [request file] := by
  by_cases hjob : ∃ job ∈ s.jobs, job.task.1 = p
  · obtain ⟨job, hjob, rfl⟩ := hjob
    have htask : job.task ∈ tasks batch := by
      rw [← h.tasks_eq]
      exact List.mem_map.mpr ⟨job, hjob, rfl⟩
    exact (h.trails job hjob).requests.imp id fun ⟨hpre, hrequests⟩ =>
      ⟨job.task.2, htask, hpre, hrequests⟩
  · have hnone : s.log.turns p = [] := by
      rw [Log.turns, List.map_eq_nil_iff, List.filter_eq_nil_iff]
      intro entry hentry heq
      obtain ⟨job, hmem, hposition⟩ := h.known entry hentry
      exact hjob ⟨job, hmem, hposition.trans (of_decide_eq_true heq)⟩
    rw [hnone]
    exact Or.inl rfl

theorem Sound.of_mem_calls (h : Sound config batch s) {p : Position} {r : Scan.Request}
    (hcall : (p, r) ∈ s.log.calls) :
    ∃ file, (p, file) ∈ tasks batch ∧ precheck? config file = none ∧ r = request file := by
  rw [Log.mem_calls_iff] at hcall
  rcases h.requests p with hnone | ⟨file, htask, hpre, hone⟩
  · rw [hnone] at hcall
    cases hcall
  · rw [hone] at hcall
    exact ⟨file, htask, hpre, List.mem_singleton.mp hcall⟩

theorem Sound.calls_nodup (h : Sound config batch s) : (s.log.calls.map Prod.fst).Nodup := by
  rw [List.nodup_iff_count_le_one]
  intro p
  have hcount : (s.log.calls.map Prod.fst).count p =
      ((s.log.turns p).filterMap Turn.request?).length := by
    have hfilter := congrArg List.length (s.log.filter_calls p)
    rw [List.length_map] at hfilter
    rw [List.count_eq_countP, List.countP_map, List.countP_eq_length_filter]
    exact hfilter
  rw [hcount]
  rcases h.requests p with hnone | ⟨file, -, -, hone⟩
  · simp [hnone]
  · simp [hone]

/-- What passes for a file that validation does not stop. -/
def cleanTurns (config : Config) (file : BoundFile) : List Turn :=
  match precheck? config file with
  | some _ => []
  | none => [.asked (request file), .answered .clean]

theorem Settled.of_ok {verdict : Verdict} {turns : List Turn}
    (h : Settled config file (.ok verdict) turns) :
    verdict = verdictOf config file ∧ turns = cleanTurns config file := by
  unfold verdictOf cleanTurns
  generalize hresult : Except.ok verdict = result at h
  cases h with
  | rejected hpre =>
    cases hresult
    simp [hpre]
  | scanned hpre answer =>
    cases answer with
    | clean =>
      cases hresult
      simp [hpre]
    | failed failure => cases hresult
    | crashed text => cases hresult

/-- A batch is validated only if every file was rejected without a call, or scanned clean. -/
theorem Sound.of_returns_ok (h : Sound config batch s) {validated : ValidatedBatch}
    (hreturns : s.Returns batch (.ok validated)) :
    validated = validatedOf config batch ∧
      ∀ t ∈ tasks batch, s.log.turns t.1 = cleanTurns config t.2 := by
  obtain ⟨hends, hresult⟩ := hreturns
  have hnone : ¬ ∃ c ∈ s.joined, ∃ e, c.2 = .error e := by
    intro herror
    obtain ⟨-, -, e, -, he⟩ := conclude_of_error batch herror
    rw [he] at hresult
    cases hresult
  -- No error was joined, so everything was, and each trail ends with a result.
  have hall := hends.resolve_left hnone
  have hjob : ∀ job ∈ s.jobs, job.phase = .joined (.ok (verdictOf config job.task.2)) ∧
      s.log.turns job.task.1 = cleanTurns config job.task.2 := by
    intro job hjob
    obtain ⟨result, hphase⟩ := hall job hjob
    have htrail := h.trails job hjob
    rw [hphase] at htrail
    cases htrail with
    | joined hsettled =>
    cases result with
    | error e =>
      have hjoined := (h.joined_iff (job.task.1, .error e)).mpr ⟨job, hjob, _, hphase, rfl⟩
      exact absurd ⟨_, hjoined, e, rfl⟩ hnone
    | ok verdict =>
      obtain ⟨rfl, hturns⟩ := hsettled.of_ok
      exact ⟨hphase, hturns⟩
  have hconclude : conclude batch s.joined = .ok (validatedOf config batch) := by
    apply conclude_of_all
    · intro c hc
      obtain ⟨job, hmem, result, hphase, rfl⟩ := (h.joined_iff c).mp hc
      rw [(hjob job hmem).1] at hphase
      cases hphase
      exact ⟨job.task, h.tasks_eq ▸ List.mem_map_of_mem hmem, rfl⟩
    · intro t ht
      rw [← h.tasks_eq] at ht
      obtain ⟨job, hmem, rfl⟩ := List.mem_map.mp ht
      exact List.mem_map_of_mem ((h.joined_iff _).mpr ⟨job, hmem, _, (hjob job hmem).1, rfl⟩)
  rw [hconclude] at hresult
  refine ⟨Except.ok.inj hresult, fun t ht => ?_⟩
  rw [← h.tasks_eq] at ht
  obtain ⟨job, hmem, rfl⟩ := List.mem_map.mp ht
  exact (hjob job hmem).2

/-- The verdict that stands at a position. -/
def verdictAt? (validated : ValidatedBatch) (p : Position) : Option Verdict :=
  validated.verdicts[p.group]?.bind fun verdicts => verdicts[p.file]?

theorem verdictAt?_validatedOf {t : Task} (ht : t ∈ tasks batch) :
    verdictAt? (validatedOf config batch) t.1 = some (verdictOf config t.2) := by
  obtain ⟨group, hgroup, hfile⟩ := mem_tasks_iff.mp ht
  simp [verdictAt?, validatedOf, allVerdicts, hgroup, hfile]

/-- The files that pass the checks before a scan, with what the scanner is handed for each. -/
def expectedCalls (config : Config) (batch : BoundBatch) : List (Position × Scan.Request) :=
  ((tasks batch).filter fun t => (precheck? config t.2).isNone).map fun t => (t.1, request t.2)

theorem Sound.calls_perm (h : Sound config batch s) {validated : ValidatedBatch}
    (hreturns : s.Returns batch (.ok validated)) :
    s.log.calls.Perm (expectedCalls config batch) := by
  have hexpected : ((expectedCalls config batch).map Prod.fst).Nodup := by
    rw [expectedCalls, List.map_map]
    exact (List.filter_sublist.map Prod.fst).nodup (tasks_positions_nodup batch)
  refine (List.perm_ext_iff_of_nodup h.calls_nodup.of_map hexpected.of_map).mpr ?_
  rintro ⟨p, r⟩
  simp only [expectedCalls, List.mem_map, List.mem_filter, Option.isNone_iff_eq_none,
    Prod.mk.injEq]
  constructor
  · intro hcall
    obtain ⟨file, htask, hpre, rfl⟩ := h.of_mem_calls hcall
    exact ⟨(p, file), ⟨htask, hpre⟩, rfl, rfl⟩
  · rintro ⟨t, ⟨ht, hpre⟩, rfl, rfl⟩
    rw [Log.mem_calls_iff, (h.of_returns_ok hreturns).2 t ht, cleanTurns, hpre]
    exact List.mem_singleton_self _

/-! ### The batch as it is validated -/

theorem step_silent {before after : List Job} {task : Task} {phase phase' : Phase} {log : Log}
    {joined : List Completion} (go : Advance config task.2 phase [] phase')
    (permit : phase = .waiting →
      (before ++ after).countP (·.phase.isActive) < permits config) :
    Step config { jobs := before ++ { task, phase } :: after, log, joined }
      { jobs := before ++ { task, phase := phase' } :: after, log, joined } := by
  simpa using @Step.advance _ config before after task phase phase' [] log joined go permit

/-- A task that runs while no other does can come to any result it may have. -/
theorem reaches_joined {before after : List Job} {task : Task} {log : Log}
    {joined : List Completion} {result : Except BatchError Verdict} {turns : List Turn}
    (h : Settled config task.2 result turns)
    (hidle : (before ++ after).countP (·.phase.isActive) = 0)
    (going : ∀ c ∈ joined, ∃ verdict, c.2 = .ok verdict) :
    Relation.ReflTransGen (Step config)
      { jobs := before ++ { task, phase := .waiting } :: after, log, joined }
      { jobs := before ++ { task, phase := .joined result } :: after
        log := log ++ turns.map (task.1, ·)
        joined := joined ++ [(task.1, result)] } := by
  have hpermit : (before ++ after).countP (·.phase.isActive) < permits config := by
    rw [hidle]
    exact Schedule.permits_pos config
  have hstart := @step_silent _ config before after task _ _ log joined .start fun _ => hpermit
  refine .head hstart ?_
  cases h with
  | rejected hpre =>
    rw [validateOne_asking_of_rejected hpre, List.map_nil, List.append_nil]
    exact .head (step_silent (.finish _) nofun) (.single (.join going))
  | scanned hpre answer =>
    rw [validateOne_asking_of_scanned hpre]
    refine .head (.advance (.ask _ _) nofun) (.head (.advance (.hear _ answer) nofun)
      (.head (step_silent (.finish _) nofun) ?_))
    simpa using Relation.ReflTransGen.single (Step.join going)

section OfState

variable {σ : Type} (scan : Scanner (StateM σ))

theorem validateOne_recorded (config : Config) (file : BoundFile) (requests : List Scan.Request)
    (start : σ) :
    ∃ result turns final, Settled config file result turns ∧
      ((validateOne config (Scanner.recorded scan) file).run requests).run start =
        ((result, requests ++ turns.filterMap Turn.request?), final) := by
  cases hpre : precheck? config file with
  | some outcome =>
    refine ⟨_, _, start, .rejected hpre, ?_⟩
    rw [validateOne, hpre, List.filterMap_nil, List.append_nil]
    rfl
  | none =>
    cases hscan : (scan (request file)).run start with
    | mk answer final =>
    refine ⟨_, _, final, .scanned hpre answer, ?_⟩
    rw [validateOne, hpre]
    simp only [Scanner.recorded, StateT.run_map, StateT.run_bind, StateT.run_modify,
      StateT.run_monadLift, monadLift_self, bind_pure_comp, Functor.map_map, pure_bind, hscan]
    rfl

/-- The tasks one after the other, as they are run, are one way in which they can go. -/
theorem exists_reaches_run {waiting : List Task} {before : List Job}
    (hbefore : ∀ job ∈ before, ∃ result, job.phase = .joined result) {log : Log}
    {joined : List Completion} (going : ∀ c ∈ joined, ∃ verdict, c.2 = .ok verdict)
    {requests requests' : List Scan.Request} {start final : σ} {completions : List Completion}
    (hrun : ((run config (Scanner.recorded scan) waiting).run requests).run start =
      ((completions, requests'), final)) :
    ∃ s more, Relation.ReflTransGen (Step config)
        { jobs := before ++ waiting.map fun task => { task, phase := .waiting }, log, joined } s ∧
      s.Ends ∧ s.joined = joined ++ completions ∧ s.log = log ++ more ∧
      requests' = requests ++ more.calls.map Prod.snd := by
  induction waiting generalizing before log joined requests start completions requests' final with
  | nil =>
    cases hrun
    refine ⟨_, [], .refl, Or.inr ?_, by simp, by simp, by simp [Log.calls]⟩
    simpa using hbefore
  | cons task waiting ih =>
    obtain ⟨p, file⟩ := task
    obtain ⟨result, turns, middle, hsettled, hone⟩ :=
      validateOne_recorded scan config file requests start
    rw [run, StateT.run_bind, StateT.run_bind, hone] at hrun
    have hidle : (before ++ waiting.map fun task => ({ task, phase := .waiting } : Job)).countP
        (·.phase.isActive) = 0 := by
      rw [List.countP_eq_zero]
      intro job hjob
      rcases List.mem_append.mp hjob with hold | hnew
      · obtain ⟨result, hphase⟩ := hbefore job hold
        simp [hphase, Phase.isActive]
      · obtain ⟨task, -, rfl⟩ := List.mem_map.mp hnew
        simp [Phase.isActive]
    have hfirst := @reaches_joined _ config before _ (p, file) log joined result turns hsettled
      hidle going
    cases result with
    | error e =>
      cases hrun
      refine ⟨_, turns.map (p, ·), hfirst, Or.inl ⟨(p, .error e), by simp, e, rfl⟩, rfl, rfl, ?_⟩
      rw [Log.calls_map]
    | ok verdict =>
      cases hlater : ((run config (Scanner.recorded scan) waiting).run
          (requests ++ turns.filterMap Turn.request?)).run middle with
      | mk pair last =>
      change Prod.map (fun pair => ((p, Except.ok verdict) :: pair.1, pair.2)) id
        (((run config (Scanner.recorded scan) waiting).run
          (requests ++ turns.filterMap Turn.request?)).run middle) = _ at hrun
      rw [hlater] at hrun
      cases hrun
      have hjoined : ∀ job ∈ before ++ [({ task := (p, file), phase := .joined (.ok verdict) } :
          Job)], ∃ result, job.phase = .joined result := by
        simp only [List.forall_mem_append, List.forall_mem_singleton]
        exact ⟨hbefore, _, rfl⟩
      have hgoing : ∀ c ∈ joined ++ [(p, Except.ok verdict)], ∃ verdict, c.2 = .ok verdict := by
        simp only [List.forall_mem_append, List.forall_mem_singleton]
        exact ⟨going, _, rfl⟩
      obtain ⟨s, more, hreaches, hends, hcompletions, hlog, hrequests⟩ :=
        @ih _ hjoined (log ++ turns.map (p, ·)) _ hgoing _ _ _ _ _ hlater
      rw [List.append_assoc, List.singleton_append] at hreaches
      refine ⟨s, turns.map (p, ·) ++ more, hfirst.trans hreaches, hends, ?_, ?_, ?_⟩
      · rw [hcompletions, List.append_assoc, List.singleton_append]
      · rw [hlog, List.append_assoc]
      · rw [hrequests, Log.calls_append, List.map_append, Log.calls_map, List.append_assoc]

/-- What validation of a batch gives, and what it hands to the scanner on the way. -/
def observed (config : Config) (batch : BoundBatch) (start : σ) :
    Except BatchError ValidatedBatch × List Scan.Request :=
  (((validateBatch config (Scanner.recorded scan) batch).run []).run start).1

theorem exists_reaches_observed (config : Config) (batch : BoundBatch) (start : σ) :
    ∃ s, Reaches config batch s ∧ s.Returns batch (observed scan config batch start).1 ∧
      s.log.calls.map Prod.snd = (observed scan config batch start).2 := by
  have hnone : ∀ job ∈ ([] : List Job), ∃ result, job.phase = .joined result := nofun
  have hgoing : ∀ c ∈ ([] : List Completion), ∃ verdict, c.2 = .ok verdict := nofun
  obtain ⟨s, more, hreaches, hends, hjoined, hlog, hrequests⟩ :=
    @exists_reaches_run _ config σ scan (tasks batch) [] hnone [] [] hgoing [] _ start _ _ rfl
  refine ⟨s, hreaches, ⟨hends, ?_⟩, ?_⟩
  · rw [hjoined]
    rfl
  · rw [hlog]
    exact hrequests.symm

end OfState

end Runs

/-! ### Calls are guarded -/

/-- What the scanner was handed, and what that says once the batch is validated. -/
structure Guarded (config : Config) (batch : BoundBatch) (s : State) : Prop where
  calls : ∀ call ∈ s.log.calls, ∃ file, (call.1, file) ∈ tasks batch ∧
    file.part.size ≤ config.maxFileSize ∧
    FileName.hasIllegalCharacter (FileName.sanitize file.expected.originalFilename) = false ∧
    call.2 =
      { filename := FileName.sanitize file.expected.originalFilename
        size := file.part.data.size
        content := file.part.data }
  once : (s.log.calls.map Prod.fst).Nodup
  perm : ∀ validated, s.Returns batch (.ok validated) →
    s.log.calls.Perm (expectedCalls config batch)
  verdicts : ∀ validated, s.Returns batch (.ok validated) → ∀ t ∈ tasks batch,
    ∃ verdict, verdictAt? validated t.1 = some verdict ∧
      (verdict.outcome ∈ Validation.contentOutcomes →
        s.log.turns t.1 = [.asked (request t.2), .answered .clean]) ∧
      (verdict.outcome = .fileTooLarge ∨ verdict.outcome = .illegalFilename →
        s.log.turns t.1 = [])

theorem Sound.guarded (h : Sound config batch s) : Guarded config batch s where
  calls := by
    rintro ⟨p, r⟩ hcall
    obtain ⟨file, htask, hpre, rfl⟩ := h.of_mem_calls hcall
    obtain ⟨hsize, hname⟩ := Validation.precheck?_eq_none_iff.mp hpre
    exact ⟨file, htask, hsize, hname, rfl⟩
  once := h.calls_nodup
  perm _ hreturns := h.calls_perm hreturns
  verdicts := by
    intro validated hreturns t ht
    obtain ⟨rfl, hturns⟩ := h.of_returns_ok hreturns
    refine ⟨verdictOf config t.2, verdictAt?_validatedOf ht, fun hcontent => ?_, fun hcheck => ?_⟩
    · rw [hturns t ht, cleanTurns, verdictOf_outcome_mem_iff.mp hcontent]
    · have hnot : (verdictOf config t.2).outcome ∉ Validation.contentOutcomes := by
        rcases hcheck with hoverweight | hname
        · rw [hoverweight]
          decide
        · rw [hname]
          decide
      rw [verdictOf_outcome_mem_iff] at hnot
      obtain ⟨outcome, hpre⟩ := Option.ne_none_iff_exists'.mp hnot
      rw [hturns t ht, cleanTurns, hpre]

/-- Whatever the order of the tasks and the answers of the scanner, only files that pass the checks
are handed to it, each once; and validation itself is one of these runs. -/
theorem calls_guarded (config : Config) (batch : BoundBatch) :
    (∀ s, Reaches config batch s → Guarded config batch s) ∧
    ∀ (σ : Type) (scan : Scanner (StateM σ)) (start : σ), ∃ s, Reaches config batch s ∧
      s.Returns batch (observed scan config batch start).1 ∧
      s.log.calls.map Prod.snd = (observed scan config batch start).2 :=
  ⟨fun _ h => (sound_of_reaches h).guarded,
    fun _ scan start => exists_reaches_observed scan config batch start⟩

/-- Of a file that is too large and one that is not, the scanner is handed the second. -/
theorem calls_guarded_sample : ∃ s validated,
    Reaches Schedule.Sample.config Schedule.Sample.batch s ∧
      s.Returns Schedule.Sample.batch (.ok validated) ∧
      (s.log.calls.map Prod.fst).Perm [⟨0, 1⟩] := by
  obtain ⟨hguarded, hruns⟩ := calls_guarded Schedule.Sample.config Schedule.Sample.batch
  obtain ⟨s, hreaches, hreturns, -⟩ := hruns Unit Scanner.disabled ()
  have hok : (@observed _ Unit Scanner.disabled Schedule.Sample.config
      Schedule.Sample.batch ()).1.isOk = true := by decide +kernel
  have hexpected : (expectedCalls Schedule.Sample.config Schedule.Sample.batch).map Prod.fst =
      [⟨0, 1⟩] := by decide +kernel
  cases hresult : (@observed _ Unit Scanner.disabled Schedule.Sample.config
      Schedule.Sample.batch ()).1 with
  | error e =>
    rw [hresult] at hok
    cases hok
  | ok validated =>
    rw [hresult] at hreturns
    have hperm := ((hguarded s hreaches).perm validated hreturns).map Prod.fst
    rw [hexpected] at hperm
    exact ⟨s, validated, hreaches, hreturns, hperm⟩

end ScanCalls

end AttachmentIntake
