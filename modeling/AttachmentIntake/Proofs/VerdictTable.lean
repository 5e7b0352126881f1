import AttachmentIntake.Batch.Validation
import AttachmentIntake.Proofs.Basic
import Mathlib.Data.List.Sigma

/-! The table into which the results of the tasks are put. Every result lands at the position of its
file, so the order in which tasks end leaves no trace in a full table. -/

namespace AttachmentIntake.BatchValidation

theorem mem_tasks_iff {batch : BoundBatch} {p : Position} {file : BoundFile} :
    (p, file) ∈ tasks batch ↔
      ∃ group, batch.groups[p.group]? = some group ∧ group.files[p.file]? = some file := by
  obtain ⟨g, f⟩ := p
  simp only [tasks, List.mem_flatMap, List.mem_map, Prod.exists, List.mem_zipIdx_iff_getElem?,
    Prod.mk.injEq, Position.mk.injEq]
  constructor
  · rintro ⟨group, g', hgroup, file', f', hfile, ⟨rfl, rfl⟩, rfl⟩
    exact ⟨group, hgroup, hfile⟩
  · rintro ⟨group, hgroup, hfile⟩
    exact ⟨group, g, hgroup, file, f, hfile, ⟨rfl, rfl⟩, rfl⟩

/-- Each position is the place of one file. -/
theorem tasks_positions_nodup (batch : BoundBatch) : ((tasks batch).map Prod.fst).Nodup := by
  rw [tasks, List.map_flatMap, List.nodup_flatMap]
  constructor
  · rintro ⟨group, g⟩ -
    refine List.Nodup.of_map Position.file ?_
    rw [List.map_map, List.map_map]
    exact List.nodup_zipIdx_map_snd group.files
  · have hgroups := List.nodup_zipIdx_map_snd batch.groups
    rw [List.Nodup, List.pairwise_map] at hgroups
    refine hgroups.imp fun {a b} hne => ?_
    have hgroup (t : BoundGroup × Nat) {p : Position}
        (hp : p ∈ (t.1.files.zipIdx.map fun u => ((⟨t.2, u.2⟩ : Position), u.1)).map Prod.fst) :
        p.group = t.2 := by
      rw [List.map_map] at hp
      obtain ⟨_, -, rfl⟩ := List.mem_map.mp hp
      rfl
    exact List.disjoint_left.mpr fun p ha hb => hne ((hgroup a ha).symm.trans (hgroup b hb))

theorem tasks_map_snd (batch : BoundBatch) : (tasks batch).map Prod.snd = batch.files := by
  have hfiles (files : List BoundFile) (g : Nat) :
      (files.zipIdx.map fun t => ((⟨g, t.2⟩ : Position), t.1)).map Prod.snd = files := by
    rw [List.map_map]
    exact List.zipIdx_map_fst 0 files
  have hgroups (groups : List BoundGroup) :
      groups.zipIdx.flatMap (fun t => t.1.files) = groups.flatMap (·.files) := by
    conv_rhs => rw [← List.zipIdx_map_fst 0 groups, List.flatMap_map]
  rw [tasks, List.map_flatMap, BoundBatch.files, ← hgroups]
  congr 1
  ext1 t
  exact hfiles t.1.files t.2

/-- The verdicts of a group of which those at the given positions are known. -/
def row (verdict : BoundFile → Verdict) (known : List Position) (g : Nat) (files : List BoundFile) :
    List (Option Verdict) :=
  files.zipIdx.map fun (file, f) => if ⟨g, f⟩ ∈ known then some (verdict file) else none

/-- The table in which the verdicts at the given positions are known. -/
def table (batch : BoundBatch) (verdict : BoundFile → Verdict) (known : List Position) : Verdicts :=
  batch.groups.zipIdx.map fun (group, g) => row verdict known g group.files

variable {batch : BoundBatch} {verdict : BoundFile → Verdict} {known : List Position}

@[simp] theorem getElem?_row (g f : Nat) (files : List BoundFile) :
    (row verdict known g files)[f]? =
      files[f]?.map fun file => if ⟨g, f⟩ ∈ known then some (verdict file) else none := by
  simp [row, Function.comp_def]

@[simp] theorem getElem?_table (g : Nat) :
    (table batch verdict known)[g]? =
      batch.groups[g]?.map fun group => row verdict known g group.files := by
  simp [table, Function.comp_def]

theorem set_row {p : Position} {files : List BoundFile} {file : BoundFile}
    (h : files[p.file]? = some file) :
    (row verdict known p.group files).set p.file (some (verdict file)) =
      row verdict (p :: known) p.group files := by
  apply List.ext_getElem?
  intro f
  obtain ⟨hlt, rfl⟩ := List.getElem?_eq_some_iff.mp h
  rw [List.getElem?_set, getElem?_row, getElem?_row]
  by_cases hf : p.file = f
  · subst hf
    simp [row, hlt]
  · have hp : (⟨p.group, f⟩ : Position) ≠ p := fun heq => hf (by rw [← heq])
    simp [hf, hp]

theorem row_cons_of_ne {p : Position} {g : Nat} (h : p.group ≠ g) (files : List BoundFile) :
    row verdict (p :: known) g files = row verdict known g files := by
  have hp (f : Nat) : (⟨g, f⟩ : Position) ≠ p := fun heq => h (by rw [← heq])
  simp [row, hp]

/-- A result is put where its file stands, whatever is known already. -/
theorem put_table {p : Position} {file : BoundFile} (h : (p, file) ∈ tasks batch) :
    (table batch verdict known).put p (verdict file) = table batch verdict (p :: known) := by
  obtain ⟨group, hgroup, hfile⟩ := mem_tasks_iff.mp h
  apply List.ext_getElem?
  intro g
  rw [Verdicts.put, List.getElem?_modify, getElem?_table, getElem?_table]
  by_cases hg : p.group = g
  · subst hg
    simp [hgroup, set_row hfile]
  · simp [hg, row_cons_of_ne hg]

theorem table_nil : table batch verdict [] = Verdicts.unknown batch := by
  have hrow (g : Nat) (files : List BoundFile) :
      row verdict [] g files = files.map fun _ => none := by
    apply List.ext_getElem?
    intro f
    rw [getElem?_row, List.getElem?_map]
    simp only [List.not_mem_nil, ↓reduceIte]
  apply List.ext_getElem?
  simp [Verdicts.unknown, hrow]

/-- The verdicts on all files, group by group. -/
def allVerdicts (batch : BoundBatch) (verdict : BoundFile → Verdict) : List (List Verdict) :=
  batch.groups.map fun g => g.files.map verdict

theorem table_full (h : ∀ t ∈ tasks batch, t.1 ∈ known) :
    table batch verdict known = (allVerdicts batch verdict).map fun vs => vs.map some := by
  apply List.ext_getElem?
  intro g
  rw [getElem?_table, allVerdicts, List.getElem?_map, List.getElem?_map]
  cases hgroup : batch.groups[g]? with
  | none => rfl
  | some group =>
    simp only [Option.map_some, Option.some.injEq]
    apply List.ext_getElem?
    intro f
    rw [getElem?_row, List.getElem?_map, List.getElem?_map]
    cases hfile : group.files[f]? with
    | none => rfl
    | some file =>
      have hknown : (⟨g, f⟩ : Position) ∈ known :=
        h (⟨g, f⟩, file) (mem_tasks_iff.mpr ⟨group, hgroup, hfile⟩)
      simp [hknown]

theorem complete_map_some (verdicts : List (List Verdict)) :
    Verdicts.complete (verdicts.map fun vs => vs.map some) = .ok verdicts := by
  have hrow (vs : List Verdict) : (vs.map some).mapM id = some vs := by
    induction vs with
    | nil => rfl
    | cons v vs ih => simp [ih]
  have hrows : (verdicts.map fun vs => vs.map some).mapM (fun files => files.mapM id) =
      some verdicts := by
    induction verdicts with
    | nil => rfl
    | cons vs verdicts ih => simp [ih, hrow]
  rw [Verdicts.complete, hrows]

/-! ### From completions to the outcome of the batch -/

/-- Results put in place one after the other fill the table at their positions. -/
theorem gather_table {completions : List Completion}
    (h : ∀ c ∈ completions, ∃ t ∈ tasks batch, c = (t.1, .ok (verdict t.2))) :
    gather (table batch verdict known) completions =
      .ok (table batch verdict ((completions.map Prod.fst).reverse ++ known)) := by
  induction completions generalizing known with
  | nil => rfl
  | cons c completions ih =>
    obtain ⟨⟨⟨p, file⟩, ht, rfl⟩, hlater⟩ := List.forall_mem_cons.mp h
    rw [gather, put_table ht, ih hlater]
    simp

/-- Once a result for every file is there, in whatever order they came, the batch is validated and
each verdict stands at the position of its file. -/
theorem conclude_of_all {completions : List Completion}
    (h : ∀ c ∈ completions, ∃ t ∈ tasks batch, c = (t.1, .ok (verdict t.2)))
    (hall : ∀ t ∈ tasks batch, t.1 ∈ completions.map Prod.fst) :
    conclude batch completions = .ok { batch, verdicts := allVerdicts batch verdict } := by
  have hknown : ∀ t ∈ tasks batch, t.1 ∈ (completions.map Prod.fst).reverse ++ [] := by
    intro t ht
    simpa using hall t ht
  have hgather : gather (table batch verdict []) completions =
      .ok (table batch verdict ((completions.map Prod.fst).reverse ++ [])) := gather_table h
  rw [table_nil, table_full hknown] at hgather
  exact bind_eq_ok_iff.mpr ⟨_, hgather, bind_eq_ok_iff.mpr ⟨_, complete_map_some _, rfl⟩⟩

theorem gather_of_error (table : Verdicts) {completions : List Completion}
    (h : ∃ c ∈ completions, ∃ e, c.2 = .error e) :
    ∃ c ∈ completions, ∃ e, c.2 = .error e ∧ gather table completions = .error e := by
  induction completions generalizing table with
  | nil => simp at h
  | cons c completions ih =>
    obtain ⟨p, result⟩ := c
    cases result with
    | error e => exact ⟨_, List.mem_cons_self, e, rfl, rfl⟩
    | ok v =>
      have hlater : ∃ c ∈ completions, ∃ e, c.2 = .error e := by simpa using h
      obtain ⟨c, hc, e, he, hg⟩ := ih (table.put p v) hlater
      exact ⟨c, List.mem_cons_of_mem _ hc, e, he, hg⟩

theorem gather_append_error (known : Verdicts) {completions : List Completion}
    (h : ∀ c ∈ completions, ∃ v, c.2 = .ok v) (p : Position) (e : BatchError) :
    gather known (completions ++ [(p, .error e)]) = .error e := by
  induction completions generalizing known with
  | nil => rfl
  | cons c completions ih =>
    obtain ⟨⟨v, hv⟩, hlater⟩ := List.forall_mem_cons.mp h
    obtain ⟨q, result⟩ := c
    subst hv
    exact ih _ hlater

/-- A task that failed makes the whole batch fail, with the error of a task that failed. -/
theorem conclude_of_error (batch : BoundBatch) {completions : List Completion}
    (h : ∃ c ∈ completions, ∃ e, c.2 = .error e) :
    ∃ c ∈ completions, ∃ e, c.2 = .error e ∧ conclude batch completions = .error e := by
  obtain ⟨c, hc, e, he, hg⟩ := gather_of_error (Verdicts.unknown batch) h
  refine ⟨c, hc, e, he, ?_⟩
  rw [conclude, hg]
  rfl

end AttachmentIntake.BatchValidation
