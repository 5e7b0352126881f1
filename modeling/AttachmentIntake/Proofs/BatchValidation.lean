import AttachmentIntake.Proofs.Validation
import AttachmentIntake.Proofs.VerdictTable

/-! What validation makes of a batch: the verdict on a file depends on the file alone, and a scanner
can only stop the batch. -/

namespace AttachmentIntake

namespace BatchValidation

theorem forall_tasks_iff {batch : BoundBatch} {p : BoundFile → Prop} :
    (∀ t ∈ tasks batch, p t.2) ↔ ∀ file ∈ batch.files, p file := by
  simp only [← tasks_map_snd batch, List.mem_map, forall_exists_index, and_imp,
    forall_apply_eq_imp_iff₂]

variable [Text.Normalization]

/-- The verdict on a file that no scan stops. -/
def verdictOf (config : Config) (file : BoundFile) : Verdict :=
  match precheck? config file with
  | some outcome => .rejected outcome
  | none => contentVerdict file

theorem precheck?_outcome_not_mem {config : Config} {file : BoundFile} {outcome : Outcome}
    (h : precheck? config file = some outcome) : outcome ∉ Validation.contentOutcomes := by
  unfold precheck? Validation.precheck? at h
  split at h
  next =>
    cases h
    decide
  next =>
    split at h
    next =>
      cases h
      decide
    next => cases h

/-- The outcome of a file shows whether its content was looked at. -/
theorem verdictOf_outcome_mem_iff {config : Config} {file : BoundFile} :
    (verdictOf config file).outcome ∈ Validation.contentOutcomes ↔
      precheck? config file = none := by
  unfold verdictOf
  cases hpre : precheck? config file with
  | some outcome =>
    have hne := precheck?_outcome_not_mem hpre
    simpa [Verdict.rejected] using hne
  | none =>
    have hmem : (contentVerdict file).outcome ∈ Validation.contentOutcomes :=
      Validation.validate_outcome_mem _ file.part
    simpa using hmem

/-- A file is cleared if it is not handed to the scanner at all, or the scanner finds it clean. -/
def Cleared (config : Config) (answer : Scan.Request → Scan.Answer) (file : BoundFile) : Prop :=
  precheck? config file = none → answer (request file) = .clean

/-! ### Scanners that answer by what they are handed -/

section OfFunction

variable {config : Config} {answer : Scan.Request → Scan.Answer}

theorem validateOne_of_rejected {file : BoundFile} {outcome : Outcome}
    (h : precheck? config file = some outcome) :
    Id.run (validateOne config (Scanner.ofFunction answer) file) = .ok (.rejected outcome) := by
  simp [validateOne, h]

theorem validateOne_of_scanned {file : BoundFile} (h : precheck? config file = none) :
    Id.run (validateOne config (Scanner.ofFunction answer) file) =
      afterScan file (answer (request file)) := by
  simp [validateOne, h, Scanner.ofFunction]

theorem validateOne_of_cleared {file : BoundFile} (h : Cleared config answer file) :
    Id.run (validateOne config (Scanner.ofFunction answer) file) = .ok (verdictOf config file) := by
  unfold verdictOf
  cases hpre : precheck? config file with
  | some outcome => exact validateOne_of_rejected hpre
  | none => rw [validateOne_of_scanned hpre, h hpre, afterScan]

theorem validateOne_of_not_cleared {file : BoundFile} (h : ¬ Cleared config answer file) :
    precheck? config file = none ∧ answer (request file) ≠ .clean ∧
      ∃ e, Id.run (validateOne config (Scanner.ofFunction answer) file) = .error e := by
  obtain ⟨hpre, hanswer⟩ := Classical.not_imp.mp h
  refine ⟨hpre, hanswer, ?_⟩
  rw [validateOne_of_scanned hpre]
  cases ha : answer (request file) with
  | clean => exact absurd ha hanswer
  | failed failure => exact ⟨_, rfl⟩
  | crashed text => exact ⟨_, rfl⟩

theorem run_cons (t : Position × BoundFile) (ts : List (Position × BoundFile)) :
    Id.run (run config (Scanner.ofFunction answer) (t :: ts)) =
      match Id.run (validateOne config (Scanner.ofFunction answer) t.2) with
      | .ok verdict => (t.1, .ok verdict) :: Id.run (run config (Scanner.ofFunction answer) ts)
      | .error e => [(t.1, .error e)] := by
  obtain ⟨p, file⟩ := t
  simp only [run, Id.run_bind]
  cases Id.run (validateOne config (Scanner.ofFunction answer) file) <;> rfl

theorem run_of_cleared {ts : List (Position × BoundFile)}
    (h : ∀ t ∈ ts, Cleared config answer t.2) :
    Id.run (run config (Scanner.ofFunction answer) ts) =
      ts.map fun t => (t.1, .ok (verdictOf config t.2)) := by
  induction ts with
  | nil => rfl
  | cons t ts ih =>
    obtain ⟨ht, hts⟩ := List.forall_mem_cons.mp h
    rw [run_cons, validateOne_of_cleared ht, ih hts, List.map_cons]

theorem run_of_not_cleared {ts : List (Position × BoundFile)}
    (h : ∃ t ∈ ts, ¬ Cleared config answer t.2) :
    ∃ c ∈ Id.run (run config (Scanner.ofFunction answer) ts), ∃ e, c.2 = .error e := by
  induction ts with
  | nil => simp at h
  | cons t ts ih =>
    rw [run_cons]
    by_cases ht : Cleared config answer t.2
    · have hlater : ∃ t ∈ ts, ¬ Cleared config answer t.2 := by simpa [ht] using h
      obtain ⟨c, hc, e, he⟩ := ih hlater
      rw [validateOne_of_cleared ht]
      exact ⟨c, List.mem_cons_of_mem _ hc, e, he⟩
    · obtain ⟨-, -, e, he⟩ := validateOne_of_not_cleared ht
      rw [he]
      exact ⟨_, List.mem_singleton_self _, e, rfl⟩

/-- A run ends with the first task that fails. -/
theorem run_of_first {before : List (Position × BoundFile)} {t : Position × BoundFile}
    {e : BatchError} (hbefore : ∀ b ∈ before, Cleared config answer b.2)
    (ht : Id.run (validateOne config (Scanner.ofFunction answer) t.2) = .error e)
    (after : List (Position × BoundFile)) :
    Id.run (run config (Scanner.ofFunction answer) (before ++ t :: after)) =
      before.map (fun b => (b.1, .ok (verdictOf config b.2))) ++ [(t.1, .error e)] := by
  induction before with
  | nil => rw [List.nil_append, run_cons, ht, List.map_nil, List.nil_append]
  | cons b before ih =>
    obtain ⟨hb, hlater⟩ := List.forall_mem_cons.mp hbefore
    rw [List.cons_append, run_cons, validateOne_of_cleared hb, ih hlater, List.map_cons,
      List.cons_append]

end OfFunction

/-! ### Whole batches -/

variable {batch : BoundBatch}

/-- The batch with its own verdict for each file. -/
def validatedOf (config : Config) (batch : BoundBatch) : ValidatedBatch :=
  { batch, verdicts := allVerdicts batch (verdictOf config) }

theorem conclude_tasks (config : Config) (batch : BoundBatch) :
    conclude batch ((tasks batch).map fun t => (t.1, .ok (verdictOf config t.2))) =
      .ok (validatedOf config batch) := by
  apply conclude_of_all
  · intro c hc
    obtain ⟨t, ht, rfl⟩ := List.mem_map.mp hc
    exact ⟨t, ht, rfl⟩
  · intro t ht
    rw [List.map_map]
    exact List.mem_map.mpr ⟨t, ht, rfl⟩

/-- A batch is validated exactly if every file of it is cleared. -/
theorem validateBatch_eq_ok_iff {config : Config} {answer : Scan.Request → Scan.Answer}
    {validated : ValidatedBatch} :
    Id.run (validateBatch config (Scanner.ofFunction answer) batch) = .ok validated ↔
      (∀ file ∈ batch.files, Cleared config answer file) ∧
        validated = validatedOf config batch := by
  simp only [validateBatch, Id.run_map]
  by_cases h : ∀ file ∈ batch.files, Cleared config answer file
  · rw [run_of_cleared (forall_tasks_iff.mpr h), conclude_tasks, Except.ok.injEq]
    exact ⟨fun heq => ⟨h, heq.symm⟩, fun heq => heq.2.symm⟩
  · have hsome : ∃ t ∈ tasks batch, ¬ Cleared config answer t.2 := by
      rw [← forall_tasks_iff] at h
      simpa using h
    obtain ⟨-, -, e, -, he⟩ := conclude_of_error batch (run_of_not_cleared hsome)
    rw [he]
    exact ⟨nofun, fun hok => absurd hok.1 h⟩

/-- A batch fails with the first file in manifest order that is not cleared. -/
theorem validateBatch_eq_error {config : Config} {answer : Scan.Request → Scan.Answer}
    {e : BatchError}
    (h : Id.run (validateBatch config (Scanner.ofFunction answer) batch) = .error e) :
    ∃ before file after, batch.files = before ++ file :: after ∧
      (∀ f ∈ before, Cleared config answer f) ∧ precheck? config file = none ∧
      afterScan file (answer (request file)) = .error e := by
  have hsome : ∃ t ∈ tasks batch, ¬ Cleared config answer t.2 := by
    by_contra hnone
    have hcleared : ∀ t ∈ tasks batch, Cleared config answer t.2 := by simpa using hnone
    rw [validateBatch_eq_ok_iff.mpr ⟨forall_tasks_iff.mp hcleared, rfl⟩] at h
    cases h
  obtain ⟨before, t, after, htasks, hbefore, ht⟩ := exists_first hsome
  obtain ⟨hpre, -, e', he'⟩ := validateOne_of_not_cleared ht
  have hgather : gather (Verdicts.unknown batch)
      (before.map (fun b => (b.1, .ok (verdictOf config b.2))) ++ [(t.1, .error e')]) =
        .error e' := by
    apply gather_append_error
    intro c hc
    obtain ⟨b, -, rfl⟩ := List.mem_map.mp hc
    exact ⟨_, rfl⟩
  have hsame : e' = e := by
    rw [validateBatch, Id.run_map, htasks, run_of_first hbefore he', conclude, hgather] at h
    cases h
    rfl
  subst hsame
  refine ⟨before.map Prod.snd, t.2, after.map Prod.snd, ?_, ?_, hpre, ?_⟩
  · rw [← tasks_map_snd, htasks, List.map_append, List.map_cons]
  · intro f hf
    obtain ⟨b, hb, rfl⟩ := List.mem_map.mp hf
    exact hbefore b hb
  · rw [← validateOne_of_scanned hpre, he']

/-! ### Scanners with a memory -/

section OfState

variable {σ : Type} {config : Config} {scan : Scanner (StateM σ)}

theorem validateOne_state {file : BoundFile} {s : σ} {verdict : Verdict}
    (h : ((validateOne config scan file).run s).1 = .ok verdict) :
    verdict = verdictOf config file := by
  unfold verdictOf
  unfold validateOne at h
  cases hpre : precheck? config file with
  | some outcome =>
    simp only [hpre] at h
    cases h
    rfl
  | none =>
    simp only [hpre, StateT.run_map] at h
    change afterScan file ((scan (request file)).run s).1 = .ok verdict at h
    cases ha : ((scan (request file)).run s).1 with
    | clean =>
      rw [ha] at h
      cases h
      rfl
    | failed failure =>
      rw [ha] at h
      cases h
    | crashed text =>
      rw [ha] at h
      cases h

theorem run_state (ts : List (Position × BoundFile)) (s : σ) :
    ((run config scan ts).run s).1 = ts.map (fun t => (t.1, .ok (verdictOf config t.2))) ∨
      ∃ c ∈ ((run config scan ts).run s).1, ∃ e, c.2 = .error e := by
  induction ts generalizing s with
  | nil => exact Or.inl rfl
  | cons t ts ih =>
    obtain ⟨p, file⟩ := t
    simp only [run, StateT.run_bind]
    cases hone : (validateOne config scan file).run s with
    | mk result s' =>
    cases result with
    | error e => exact Or.inr ⟨_, List.mem_singleton_self _, e, rfl⟩
    | ok verdict =>
      have hverdict : verdict = verdictOf config file := validateOne_state (s := s) (by rw [hone])
      rcases ih s' with hall | ⟨c, hc, e, he⟩
      · left
        change (p, Except.ok verdict) :: ((run config scan ts).run s').1 = _
        rw [hall, hverdict, List.map_cons]
      · exact Or.inr ⟨c, List.mem_cons_of_mem _ hc, e, he⟩

/-- Whatever a scanner remembers and answers, a batch that is validated gets the same verdicts. -/
theorem validateBatch_state {s : σ} {validated : ValidatedBatch}
    (h : ((validateBatch config scan batch).run s).1 = .ok validated) :
    validated = validatedOf config batch := by
  simp only [validateBatch, StateT.run_map] at h
  change conclude batch ((run config scan (tasks batch)).run s).1 = .ok validated at h
  rcases run_state (tasks batch) s with hall | herror
  · rw [hall, conclude_tasks] at h
    cases h
    rfl
  · obtain ⟨-, -, e, -, he⟩ := conclude_of_error batch herror
    rw [he] at h
    cases h

end OfState

end BatchValidation

end AttachmentIntake
