import AttachmentIntake.Proofs.Exchange
import AttachmentIntake.Proofs.Schedule
import Mathlib.Algebra.Ring.Nat
import Mathlib.Data.List.Forall2

/-! Tasks that are validated side by side before one scan service. Each stops where it puts content
to the service or waits, and in between other tasks go on; the service answers in the order in which
it is reached, and may remember all that came before. -/

namespace AttachmentIntake.Interleaving

open BatchValidation
open Schedule (Task permits permits_pos map_eraseIdx_append_perm length_eraseIdx_add_one)

/-- A task that was started, with what it has before it. -/
abbrev Started := Position × Exchange (Except BatchError Verdict)

/-- Where the tasks of a batch are, and what the service remembers. -/
structure State (σ : Type) where
  waiting : List Task
  running : List Started
  ended : List Completion
  joined : List Completion
  service : σ

/-- What may happen next, with the place of the task in the list that it is in. -/
inductive Action where
  | start (i : Nat)
  | advance (i : Nat)
  | join (i : Nat)
  deriving DecidableEq, Repr

/-- What tasks go by: the scanner, which stops at each request, and the way on from there. -/
structure Setting (σ : Type) where
  config : Config
  scan : Scanner Exchange
  transport : Scan.Transport (StateM σ)

variable {σ : Type}

namespace State

def initial (batch : BoundBatch) (service : σ) : State σ :=
  { waiting := tasks batch, running := [], ended := [], joined := [], service }

/-- Whether an error was joined; the batch is given up then. -/
def isFailed (s : State σ) : Bool := s.joined.any fun c => !c.2.isOk

def isExhausted (s : State σ) : Bool := s.waiting.isEmpty && s.running.isEmpty && s.ended.isEmpty

end State

/-- The outcome of the batch, as soon as there is one. -/
def answer? (batch : BoundBatch) (s : State σ) : Option (Except BatchError ValidatedBatch) :=
  if s.isFailed || s.isExhausted then some (conclude batch s.joined) else none

namespace Setting

variable (env : Setting σ)

/-- The next that a running task does: it reaches the service, waits, or ends. -/
def advance (s : State σ) (p : Position) : Exchange (Except BatchError Verdict) → State σ
  | .done result => { s with ended := (p, result) :: s.ended }
  | .putting address content next =>
    let answered := (env.transport.put address content).run s.service
    { s with running := (p, next answered.1) :: s.running, service := answered.2 }
  | .waiting milliseconds next =>
    let waited := (env.transport.wait milliseconds).run s.service
    { s with running := (p, next) :: s.running, service := waited.2 }

def step (s : State σ) (action : Action) : Option (State σ) :=
  if s.isFailed then none
  else
    match action with
    | .start i =>
      if s.running.length < permits env.config then
        s.waiting[i]?.map fun task =>
          { s with
            waiting := s.waiting.eraseIdx i
            running := (task.1, validateOne env.config env.scan task.2) :: s.running }
      else none
    | .advance i =>
      s.running[i]?.map fun t => env.advance { s with running := s.running.eraseIdx i } t.1 t.2
    | .join i =>
      s.ended[i]?.map fun c =>
        { s with ended := s.ended.eraseIdx i, joined := s.joined ++ [c] }

def run (s : State σ) (actions : List Action) : Option (State σ) := actions.foldlM env.step s

/-- The outcome of a batch whose tasks take these actions, if they bring it to one. -/
def validate? (service : σ) (actions : List Action) (batch : BoundBatch) :
    Option (Except BatchError ValidatedBatch) :=
  (env.run (.initial batch service) actions).bind (answer? batch)

end Setting

section Runs

variable {env : Setting σ} {batch : BoundBatch} {s next : State σ}

/-! ### Single steps -/

theorem step_start_iff {i : Nat} : env.step s (.start i) = some next ↔
    s.isFailed = false ∧ s.running.length < permits env.config ∧
      ∃ task, s.waiting[i]? = some task ∧ next = { s with
        waiting := s.waiting.eraseIdx i
        running := (task.1, validateOne env.config env.scan task.2) :: s.running } := by
  unfold Setting.step
  cases s.isFailed with
  | true => simp
  | false =>
    by_cases hpermit : s.running.length < permits env.config
    · simp [hpermit, Option.map_eq_some_iff, @eq_comm _ next]
    · simp [hpermit]

theorem step_advance_iff {i : Nat} : env.step s (.advance i) = some next ↔
    s.isFailed = false ∧ ∃ t, s.running[i]? = some t ∧
      next = env.advance { s with running := s.running.eraseIdx i } t.1 t.2 := by
  unfold Setting.step
  cases s.isFailed <;> simp [Option.map_eq_some_iff, @eq_comm _ next]

theorem step_join_iff {i : Nat} : env.step s (.join i) = some next ↔
    s.isFailed = false ∧ ∃ c, s.ended[i]? = some c ∧
      next = { s with ended := s.ended.eraseIdx i, joined := s.joined ++ [c] } := by
  unfold Setting.step
  cases s.isFailed <;> simp [Option.map_eq_some_iff, @eq_comm _ next]

theorem run_cons_iff {action : Action} {later : List Action} :
    env.run s (action :: later) = some next ↔
      ∃ mid, env.step s action = some mid ∧ env.run mid later = some next := by
  rw [Setting.run, List.foldlM_cons]
  exact Option.bind_eq_some_iff

theorem run_append (first second : List Action) :
    env.run s (first ++ second) = (env.run s first).bind fun mid => env.run mid second :=
  List.foldlM_append

/-! ### Verdicts -/

/-- A result of the task of a file, which has its own verdict unless the scan fails. -/
def Fits (config : Config) (file : BoundFile) (result : Except BatchError Verdict) : Prop :=
  ∀ verdict, result = .ok verdict → verdict = verdictOf config file

theorem always_validateOne (config : Config) (scan : Scanner Exchange) (file : BoundFile) :
    (validateOne config scan file).Always (Fits config file) := by
  unfold validateOne
  cases hpre : precheck? config file with
  | some outcome =>
    rintro verdict ⟨⟩
    rw [verdictOf, hpre]
  | none =>
    refine Exchange.always_bind (fun answer => ?_) _
    intro verdict hverdict
    cases answer with
    | clean =>
      cases hverdict
      rw [verdictOf, hpre]
    | failed failure => cases hverdict
    | crashed text => cases hverdict

/-- What every state keeps to: no task is lost, and none gets the verdict of another. -/
structure Sound (config : Config) (batch : BoundBatch) (s : State σ) : Prop where
  positions : (s.waiting.map Prod.fst ++ (s.running.map Prod.fst ++
    (s.ended.map Prod.fst ++ s.joined.map Prod.fst))).Perm ((tasks batch).map Prod.fst)
  waiting : ∀ task ∈ s.waiting, task ∈ tasks batch
  running : ∀ t ∈ s.running, ∃ file, (t.1, file) ∈ tasks batch ∧ t.2.Always (Fits config file)
  ended : ∀ c ∈ s.ended, ∃ file, (c.1, file) ∈ tasks batch ∧ Fits config file c.2
  joined : ∀ c ∈ s.joined, ∃ file, (c.1, file) ∈ tasks batch ∧ Fits config file c.2

theorem sound_initial (config : Config) (batch : BoundBatch) (service : σ) :
    Sound config batch (.initial batch service) where
  positions := by simp [State.initial]
  waiting _ htask := htask
  running := nofun
  ended := nofun
  joined := nofun

theorem Sound.start (h : Sound env.config batch s) {i : Nat} {task : Task}
    (htask : s.waiting[i]? = some task) :
    Sound env.config batch { s with
      waiting := s.waiting.eraseIdx i
      running := (task.1, validateOne env.config env.scan task.2) :: s.running } where
  positions := (map_eraseIdx_append_perm htask Prod.fst _).trans h.positions
  waiting t ht := h.waiting t (List.mem_of_mem_eraseIdx ht)
  running := List.forall_mem_cons.mpr
    ⟨⟨task.2, h.waiting task (List.mem_of_getElem? htask), always_validateOne _ _ _⟩, h.running⟩
  ended := h.ended
  joined := h.joined

/-- A running task goes on under its own position, with its results still to come. -/
theorem Sound.advance (h : Sound env.config batch s) {i : Nat} {t : Started}
    (ht : s.running[i]? = some t) :
    Sound env.config batch (env.advance { s with running := s.running.eraseIdx i } t.1 t.2) := by
  obtain ⟨p, rest⟩ := t
  obtain ⟨file, hfile, halways⟩ := h.running _ (List.mem_of_getElem? ht)
  have hothers : ∀ t ∈ s.running.eraseIdx i, ∃ file, (t.1, file) ∈ tasks batch ∧
      t.2.Always (Fits env.config file) := fun t ht => h.running t (List.mem_of_mem_eraseIdx ht)
  have hmoved := ((map_eraseIdx_append_perm ht Prod.fst
    (s.ended.map Prod.fst ++ s.joined.map Prod.fst)).append_left
      (s.waiting.map Prod.fst)).trans h.positions
  cases rest with
  | done result =>
    refine ⟨hmoved, h.waiting, hothers, List.forall_mem_cons.mpr ⟨⟨file, hfile, halways⟩, h.ended⟩,
      h.joined⟩
  | putting address content next =>
    exact ⟨(List.perm_middle.symm.append_left _).trans hmoved, h.waiting,
      List.forall_mem_cons.mpr ⟨⟨file, hfile, halways _⟩, hothers⟩, h.ended, h.joined⟩
  | waiting milliseconds next =>
    exact ⟨(List.perm_middle.symm.append_left _).trans hmoved, h.waiting,
      List.forall_mem_cons.mpr ⟨⟨file, hfile, halways⟩, hothers⟩, h.ended, h.joined⟩

theorem Sound.join (h : Sound env.config batch s) {i : Nat} {c : Completion}
    (hc : s.ended[i]? = some c) :
    Sound env.config batch { s with
      ended := s.ended.eraseIdx i
      joined := s.joined ++ [c] } where
  positions := by
    have hmoved := map_eraseIdx_append_perm hc Prod.fst (s.joined.map Prod.fst)
    have hlast : (s.joined ++ [c]).map Prod.fst = s.joined.map Prod.fst ++ [c.1] :=
      List.map_append
    rw [hlast]
    have hend := (List.perm_append_singleton c.1 (s.joined.map Prod.fst)).append_left
      ((s.ended.eraseIdx i).map Prod.fst)
    exact (((hend.trans hmoved).append_left _).append_left _).trans h.positions
  waiting := h.waiting
  running := h.running
  ended d hd := h.ended d (List.mem_of_mem_eraseIdx hd)
  joined := List.forall_mem_append.mpr
    ⟨h.joined, List.forall_mem_singleton.mpr (h.ended c (List.mem_of_getElem? hc))⟩

theorem Sound.step (h : Sound env.config batch s) {action : Action}
    (hstep : env.step s action = some next) : Sound env.config batch next := by
  cases action with
  | start i =>
    obtain ⟨-, -, task, htask, rfl⟩ := step_start_iff.mp hstep
    exact h.start htask
  | advance i =>
    obtain ⟨-, t, ht, rfl⟩ := step_advance_iff.mp hstep
    exact h.advance ht
  | join i =>
    obtain ⟨-, c, hc, rfl⟩ := step_join_iff.mp hstep
    exact h.join hc

theorem Sound.run (h : Sound env.config batch s) {actions : List Action}
    (hrun : env.run s actions = some next) : Sound env.config batch next := by
  induction actions generalizing s with
  | nil =>
    cases hrun
    exact h
  | cons action later ih =>
    obtain ⟨mid, hstep, hlater⟩ := run_cons_iff.mp hrun
    exact ih (h.step hstep) hlater

@[simp] theorem isFailed_iff : s.isFailed = true ↔ ∃ c ∈ s.joined, ∃ e, c.2 = .error e :=
  Schedule.any_failed_iff

@[simp] theorem answer?_eq_some_iff {result : Except BatchError ValidatedBatch} :
    answer? batch s = some result ↔
      (s.isFailed = true ∨ s.isExhausted = true) ∧ result = conclude batch s.joined := by
  unfold answer?
  rw [← Bool.or_eq_true]
  split
  next h => simp [h, eq_comm]
  next h => simp [h]

/-- Whatever the order and the replies, a batch that is validated gets the same verdicts. -/
theorem Sound.of_answer? (h : Sound env.config batch s) {validated : ValidatedBatch}
    (hanswer : answer? batch s = some (.ok validated)) :
    validated = validatedOf env.config batch := by
  obtain ⟨hdone, hvalidated⟩ := answer?_eq_some_iff.mp hanswer
  have hnone : ¬ ∃ c ∈ s.joined, ∃ e, c.2 = .error e := by
    intro herror
    obtain ⟨-, -, e, -, he⟩ := conclude_of_error batch herror
    rw [he] at hvalidated
    cases hvalidated
  have hleft : s.isExhausted = true := hdone.resolve_left (mt isFailed_iff.mp hnone)
  simp only [State.isExhausted, Bool.and_eq_true, List.isEmpty_iff] at hleft
  obtain ⟨⟨hwaiting, hrunning⟩, hended⟩ := hleft
  have hall : ∀ c ∈ s.joined, ∃ t ∈ tasks batch,
      c = (t.1, .ok (verdictOf env.config t.2)) := by
    rintro ⟨p, result⟩ hc
    obtain ⟨file, hfile, hfits⟩ := h.joined _ hc
    cases result with
    | error e => exact absurd ⟨_, hc, e, rfl⟩ hnone
    | ok verdict => exact ⟨(p, file), hfile, by rw [hfits verdict rfl]⟩
  have hpositions := h.positions
  rw [hwaiting, hrunning, hended] at hpositions
  have hconclude : conclude batch s.joined = .ok (validatedOf env.config batch) :=
    conclude_of_all hall fun t ht => hpositions.mem_iff.mpr (List.mem_map_of_mem ht)
  rw [hconclude] at hvalidated
  exact Except.ok.inj hvalidated

theorem validatedOf_of_validate? {service : σ} {actions : List Action} {validated : ValidatedBatch}
    (h : env.validate? service actions batch = some (.ok validated)) :
    validated = validatedOf env.config batch := by
  obtain ⟨s, hrun, hanswer⟩ := Option.bind_eq_some_iff.mp h
  exact ((sound_initial env.config batch service).run hrun).of_answer? hanswer

/-! ### Runs end -/

/-- At most `k` steps are left, if no task takes more than `n` stops. -/
def Remains (n k : Nat) (s : State σ) : Prop :=
  ∃ stops, List.Forall₂ (fun t j => t.2.Within j) s.running stops ∧
    (n + 3) * s.waiting.length + (stops.map (· + 2)).sum + s.ended.length = k

theorem remains_initial (n : Nat) (batch : BoundBatch) (service : σ) :
    Remains n ((n + 3) * batch.fileCount) (.initial batch service) := by
  have hcount : (tasks batch).length = batch.fileCount := by
    rw [BoundBatch.fileCount, ← tasks_map_snd, List.length_map]
  exact ⟨[], .nil, by simp [State.initial, hcount]⟩

theorem Remains.step {n k : Nat} (h : Remains n k s)
    (hlength : ∀ file, (validateOne env.config env.scan file).Within n) {action : Action}
    (hstep : env.step s action = some next) : ∃ j, j < k ∧ Remains n j next := by
  obtain ⟨stops, hstops, rfl⟩ := h
  cases action with
  | start i =>
    obtain ⟨-, -, task, htask, rfl⟩ := step_start_iff.mp hstep
    have hone := length_eraseIdx_add_one htask
    refine ⟨_, ?_, n :: stops, .cons (hlength task.2) hstops, rfl⟩
    simp only [List.map_cons, List.sum_cons]
    rw [← hone, Nat.mul_add]
    omega
  | advance i =>
    obtain ⟨-, ⟨p, rest⟩, ht, rfl⟩ := step_advance_iff.mp hstep
    obtain ⟨hi, hget⟩ := List.getElem?_eq_some_iff.mp ht
    have hperm := List.getElem_cons_eraseIdx_perm hi
    rw [hget] at hperm
    obtain ⟨moved, hmoved, hsame⟩ := List.perm_comp_forall₂ hperm hstops
    have hsum := (hsame.map (· + 2)).sum_nat
    obtain ⟨j, others, hrest, hothers, rfl⟩ := List.forall₂_cons_left_iff.mp hmoved
    rw [List.map_cons, List.sum_cons] at hsum
    cases rest with
    | done result =>
      refine ⟨_, ?_, others, hothers, rfl⟩
      simp only [Setting.advance, List.length_cons]
      omega
    | putting address content next =>
      cases j with
      | zero => cases hrest
      | succ j =>
        refine ⟨_, ?_, j :: others, .cons (hrest _) hothers, rfl⟩
        simp only [Setting.advance, List.map_cons, List.sum_cons]
        omega
    | waiting milliseconds next =>
      cases j with
      | zero => cases hrest
      | succ j =>
        refine ⟨_, ?_, j :: others, .cons hrest hothers, rfl⟩
        simp only [Setting.advance, List.map_cons, List.sum_cons]
        omega
  | join i =>
    obtain ⟨-, c, hc, rfl⟩ := step_join_iff.mp hstep
    have hone := length_eraseIdx_add_one hc
    exact ⟨_, by simp only; omega, stops, hstops, rfl⟩

theorem Remains.run {n k : Nat} (h : Remains n k s)
    (hlength : ∀ file, (validateOne env.config env.scan file).Within n) {actions : List Action}
    (hrun : env.run s actions = some next) : ∃ j, j + actions.length ≤ k ∧ Remains n j next := by
  induction actions generalizing s k with
  | nil =>
    cases hrun
    exact ⟨k, Nat.le_refl k, h⟩
  | cons action later ih =>
    obtain ⟨mid, hstep, hlater⟩ := run_cons_iff.mp hrun
    obtain ⟨i, hi, hmid⟩ := h.step hlength hstep
    obtain ⟨j, hj, hnext⟩ := ih hmid hlater
    exact ⟨j, by rw [List.length_cons]; omega, hnext⟩

/-- As long as the batch has no outcome, some task can go on. -/
theorem step_progress (env : Setting σ) (h : answer? batch s = none) :
    ∃ action next, env.step s action = some next := by
  unfold answer? at h
  split at h
  next => cases h
  next hopen =>
    rw [Bool.or_eq_true, not_or, Bool.not_eq_true] at hopen
    obtain ⟨hgoing, hleft⟩ := hopen
    cases hended : s.ended with
    | cons c ended =>
      exact ⟨.join 0, _, step_join_iff.mpr ⟨hgoing, c, by rw [hended]; rfl, rfl⟩⟩
    | nil =>
    cases hrunning : s.running with
    | cons t running =>
      exact ⟨.advance 0, _, step_advance_iff.mpr ⟨hgoing, t, by rw [hrunning]; rfl, rfl⟩⟩
    | nil =>
    cases hwaiting : s.waiting with
    | cons task waiting =>
      have hpermit : s.running.length < permits env.config := by
        rw [hrunning, List.length_nil]
        exact permits_pos env.config
      exact ⟨.start 0, _, step_start_iff.mpr ⟨hgoing, hpermit, task, by rw [hwaiting]; rfl, rfl⟩⟩
    | nil =>
      rw [State.isExhausted, hwaiting, hrunning, hended] at hleft
      exact absurd rfl hleft

theorem exists_answer {n k : Nat} (batch : BoundBatch) (h : Remains n k s)
    (hlength : ∀ file, (validateOne env.config env.scan file).Within n) :
    ∃ later next result, env.run s later = some next ∧ answer? batch next = some result := by
  induction k using Nat.strongRecOn generalizing s with
  | ind k ih =>
  cases hanswer : answer? batch s with
  | some result => exact ⟨[], s, result, rfl, hanswer⟩
  | none =>
    obtain ⟨action, mid, hstep⟩ := step_progress env hanswer
    obtain ⟨j, hj, hmid⟩ := h.step hlength hstep
    obtain ⟨later, next, result, hlater, hresult⟩ := ih j hj hmid
    exact ⟨action :: later, next, result, run_cons_iff.mpr ⟨mid, hstep, hlater⟩, hresult⟩

/-- However the tasks begin, there is an end to it, and they can be brought to it. -/
theorem validate?_ends {n : Nat}
    (hlength : ∀ file, (validateOne env.config env.scan file).Within n) {service : σ}
    {actions : List Action} (hrun : env.run (.initial batch service) actions = some s) :
    actions.length ≤ (n + 3) * batch.fileCount ∧
      ∃ later result, env.validate? service (actions ++ later) batch = some result := by
  obtain ⟨j, hj, hs⟩ := (remains_initial n batch service).run hlength hrun
  obtain ⟨later, next, result, hlater, hresult⟩ := exists_answer batch hs hlength
  refine ⟨by omega, later, result, ?_⟩
  rw [Setting.validate?, run_append, hrun, Option.bind_some, hlater, Option.bind_some, hresult]

/-! ### One task after the other -/

/-- The scanner that does not stop. -/
def Setting.unstopped (env : Setting σ) : Scanner (StateM σ) :=
  fun request => (env.scan request).eval env.transport

theorem eval_validateOne (env : Setting σ) (file : BoundFile) :
    (validateOne env.config env.scan file).eval env.transport =
      validateOne env.config env.unstopped file := by
  unfold validateOne
  cases precheck? env.config file with
  | some outcome => rfl
  | none => exact Exchange.eval_map env.transport _ _

/-- A task that goes on at once, as no other one runs. -/
theorem exists_run_alone (p : Position) (rest : Exchange (Except BatchError Verdict))
    {waiting : List Task} {joined : List Completion} {service service' : σ}
    {result : Except BatchError Verdict} (hgoing : (joined.any fun c => !c.2.isOk) = false)
    (hrest : (rest.eval env.transport).run service = (result, service')) :
    ∃ actions, env.run
        { waiting, running := [(p, rest)], ended := [], joined, service } actions =
      some { waiting, running := [], ended := [], joined := joined ++ [(p, result)],
             service := service' } := by
  induction rest generalizing service with
  | done a =>
    cases hrest
    exact ⟨[.advance 0, .join 0], by simp [Setting.run, Setting.step, State.isFailed, hgoing,
      Setting.advance]⟩
  | putting address content next ih =>
    obtain ⟨actions, hactions⟩ := ih _ hrest
    refine ⟨.advance 0 :: actions, run_cons_iff.mpr ⟨_, step_advance_iff.mpr ⟨hgoing, _, rfl, rfl⟩,
      hactions⟩⟩
  | waiting milliseconds next ih =>
    obtain ⟨actions, hactions⟩ := ih hrest
    exact ⟨.advance 0 :: actions, run_cons_iff.mpr
      ⟨_, step_advance_iff.mpr ⟨hgoing, _, rfl, rfl⟩, hactions⟩⟩

theorem exists_run_sequential {waiting : List Task} {joined completions : List Completion}
    {service service' : σ} (hgoing : (joined.any fun c => !c.2.isOk) = false)
    (hrun : (BatchValidation.run env.config env.unstopped waiting).run service =
      (completions, service')) :
    ∃ actions s, env.run { waiting, running := [], ended := [], joined, service } actions = some s ∧
      (s.isFailed = true ∨ s.isExhausted = true) ∧ s.joined = joined ++ completions := by
  induction waiting generalizing joined service completions service' with
  | nil =>
    cases hrun
    exact ⟨[], _, rfl, Or.inr rfl, (List.append_nil joined).symm⟩
  | cons task waiting ih =>
    obtain ⟨p, file⟩ := task
    cases hone : (validateOne env.config env.unstopped file).run service with
    | mk result mid =>
    have hrest : ((validateOne env.config env.scan file).eval env.transport).run service =
        (result, mid) := by rw [eval_validateOne, hone]
    have hstart : env.step
        { waiting := (p, file) :: waiting, running := [], ended := [], joined, service }
          (.start 0) =
          some { waiting, running := [(p, validateOne env.config env.scan file)], ended := []
                 joined, service } :=
      step_start_iff.mpr ⟨hgoing, permits_pos env.config, _, rfl, rfl⟩
    obtain ⟨actions, hactions⟩ :=
      @exists_run_alone σ env p _ waiting joined service mid result hgoing hrest
    have hfirst := run_cons_iff.mpr ⟨_, hstart, hactions⟩
    rw [BatchValidation.run, StateT.run_bind, hone] at hrun
    cases result with
    | error e =>
      cases hrun
      refine ⟨_, _, hfirst, Or.inl ?_, rfl⟩
      simp [State.isFailed, Except.isOk, Except.toBool]
    | ok verdict =>
      cases hlater : (BatchValidation.run env.config env.unstopped waiting).run mid with
      | mk later last =>
      change Prod.map ((p, Except.ok verdict) :: ·) id
        ((BatchValidation.run env.config env.unstopped waiting).run mid) = _ at hrun
      rw [hlater] at hrun
      cases hrun
      have hmore : ((joined ++ [(p, Except.ok verdict)]).any fun c : Completion =>
          !c.2.isOk) = false := by
        rw [List.any_append, hgoing]
        rfl
      obtain ⟨others, s, hothers, hdone, hjoined⟩ := ih hmore hlater
      refine ⟨.start 0 :: actions ++ others, s, ?_, hdone, ?_⟩
      · rw [run_append, hfirst]
        exact hothers
      · rw [hjoined, List.append_assoc]
        rfl

/-- What validation of a batch gives is the outcome of one of the ways in which its tasks can go. -/
theorem exists_validate? (env : Setting σ) (service : σ) (batch : BoundBatch) :
    ∃ actions, env.validate? service actions batch =
      some ((validateBatch env.config env.unstopped batch).run service).1 := by
  cases hrun : (BatchValidation.run env.config env.unstopped (tasks batch)).run service with
  | mk completions service' =>
  obtain ⟨actions, s, hactions, hdone, hjoined⟩ :=
    @exists_run_sequential σ env (tasks batch) [] completions service service' rfl hrun
  refine ⟨actions, Option.bind_eq_some_iff.mpr ⟨s, hactions, ?_⟩⟩
  refine answer?_eq_some_iff.mpr ⟨hdone, ?_⟩
  rw [hjoined, List.nil_append, validateBatch, StateT.run_map, hrun]
  rfl

end Runs

end AttachmentIntake.Interleaving
