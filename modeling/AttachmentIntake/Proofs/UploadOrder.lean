import AttachmentIntake.Proofs.Correspondence
import AttachmentIntake.Proofs.Pipeline

/-! The order of upload. Parts are tied to expected files by their tokens, so the order in which
they come decides only which of several misplaced parts an error names. Everything else follows the
manifest. -/

namespace AttachmentIntake

/-- Errors that name a part without an expected file, or one that is not the first for its file. -/
def BatchError.IsMisplaced : BatchError → Prop
  | .unmatchedFile _ | .duplicateFile _ => True
  | _ => False

namespace Reconciliation

/-! ### Uploads in another order -/

theorem correspond_tagged {parts others : List Part} (h : parts.Perm others)
    (hnodup : (parts.map Part.token).Nodup) : Correspond Eq (tagged parts) (tagged others) := by
  have hothers : (others.map Part.token).Nodup := (h.map Part.token).nodup_iff.mp hnodup
  intro token
  have hsame : (tagged parts).lookup token = (tagged others).lookup token := by
    apply Option.ext
    intro part
    rw [lookup_tagged hnodup, lookup_tagged hothers, h.mem_iff]
  rw [hsame]
  cases (tagged others).lookup token with
  | none => exact .none
  | some part => exact .some rfl

theorem collect_error {known : List String} {uploads : Uploads} {parts : List Part}
    {e : BatchError} (h : collect known uploads parts = .error e) : e.IsMisplaced := by
  induction parts generalizing uploads with
  | nil => cases h
  | cons part parts ih =>
    rw [collect] at h
    split at h
    next =>
      cases h
      trivial
    next =>
      split at h
      next =>
        cases h
        trivial
      next => exact ih h

/-- Errors that are equal, or both name a misplaced part. -/
def SameOrMisplaced (e e' : BatchError) : Prop := e = e' ∨ e.IsMisplaced ∧ e'.IsMisplaced

/-- Whether all parts find their place does not depend on their order, nor where they are found
then. -/
theorem collect_perm (known : List String) {parts others : List Part} (h : parts.Perm others) :
    EndsAlike SameOrMisplaced (Correspond Eq) (collect known [] parts)
      (collect known [] others) := by
  have hok (parts : List Part) (uploads : Uploads) : collect known [] parts = .ok uploads ↔
      uploads = tagged parts ∧ (∀ p ∈ parts, p.token ∈ known) ∧
        (parts.map Part.token).Nodup := by
    simp [collect_eq_ok_iff]
  have hsame : ((∀ p ∈ parts, p.token ∈ known) ∧ (parts.map Part.token).Nodup) ↔
      (∀ p ∈ others, p.token ∈ known) ∧ (others.map Part.token).Nodup := by
    simp only [h.mem_iff, (h.map Part.token).nodup_iff]
  cases hparts : collect known [] parts with
  | ok uploads =>
    obtain ⟨rfl, hplaced⟩ := (hok parts uploads).mp hparts
    rw [(hok others _).mpr ⟨rfl, hsame.mp hplaced⟩]
    exact .ok (correspond_tagged h hplaced.2)
  | error e =>
    cases hothers : collect known [] others with
    | ok uploads =>
      obtain ⟨-, hplaced⟩ := (hok others uploads).mp hothers
      rw [(hok parts _).mpr ⟨rfl, hsame.mpr hplaced⟩] at hparts
      cases hparts
    | error e' => exact .error (.inr ⟨collect_error hparts, collect_error hothers⟩)

end Reconciliation

/-! ### The stages in another order -/

open BatchValidation Reconciliation

variable {config : Config} {parts others : List Part}

theorem manifestPart_perm (h : parts.Perm others)
    (hone : parts.countP (fun p => p.filename = config.manifestName) = 1) :
    manifestPart config parts = manifestPart config others := by
  have hfilter := h.filter fun p => p.filename = config.manifestName
  rw [List.countP_eq_length_filter, List.length_eq_one_iff] at hone
  obtain ⟨manifest, hmanifest⟩ := hone
  rw [hmanifest, List.singleton_perm] at hfilter
  unfold manifestPart
  rw [← List.head?_filter, ← List.head?_filter, hmanifest, ← hfilter]

theorem reconcile_perm (h : parts.Perm others) (groups : List UploadGroup) :
    reconcile config parts groups = reconcile config others groups ∨
      ∃ e e', reconcile config parts groups = .error e ∧
        reconcile config others groups = .error e' ∧ e.IsMisplaced ∧ e'.IsMisplaced := by
  have hfiles : (filesOf config parts).Perm (filesOf config others) := h.filter _
  have hends := reconcile_endsAlike (E := SameOrMisplaced) (fun _ => .inl rfl) hfiles.length_eq
    (collect_perm (identifiers groups) hfiles)
  generalize reconcile config parts groups = result at hends ⊢
  generalize reconcile config others groups = result' at hends ⊢
  cases hends with
  | ok hbatch => exact .inl (congrArg _ hbatch.eq)
  | error he =>
    rcases he with rfl | ⟨he, he'⟩
    · exact .inl rfl
    · exact .inr ⟨_, _, rfl, rfl, he, he'⟩

theorem bindParts_eq_reconcile {manifest : Part} {groups : List UploadGroup}
    (hmanifest : manifestPart config parts = .ok manifest)
    (hgroups : parseManifest manifest.data = .ok groups) :
    Pipeline.bindParts config parts = reconcile config parts groups := by
  rw [Pipeline.bindParts, hmanifest]
  change (parseManifest manifest.data >>= _) = _
  rw [hgroups]
  rfl

theorem bindParts_perm (h : parts.Perm others)
    (hone : parts.countP (fun p => p.filename = config.manifestName) = 1) :
    Pipeline.bindParts config parts = Pipeline.bindParts config others ∨
      ∃ e e', Pipeline.bindParts config parts = .error e ∧
        Pipeline.bindParts config others = .error e' ∧ e.IsMisplaced ∧ e'.IsMisplaced := by
  have hsame := manifestPart_perm h hone
  cases hmanifest : manifestPart config parts with
  | error e =>
    left
    rw [Pipeline.bindParts, Pipeline.bindParts, ← hsame, hmanifest]
    rfl
  | ok manifest =>
    cases hgroups : parseManifest manifest.data with
    | error e =>
      left
      rw [Pipeline.bindParts, Pipeline.bindParts, ← hsame, hmanifest]
      change (parseManifest manifest.data >>= _) = parseManifest manifest.data >>= _
      rw [hgroups]
      rfl
    | ok groups =>
      rw [bindParts_eq_reconcile hmanifest hgroups,
        bindParts_eq_reconcile (hsame.symm.trans hmanifest) hgroups]
      exact reconcile_perm h groups

/-- Parts are bound before any of them is scanned. -/
theorem bindParts_ne_scanFailure (config : Config) (parts : List Part) (failure : Scan.Failure) :
    Pipeline.bindParts config parts ≠ .error (.scanFailure failure) := by
  intro h
  rcases bind_eq_error_iff.mp h with hmanifest | ⟨manifest, -, hlater⟩
  · unfold manifestPart at hmanifest
    split at hmanifest <;> cases hmanifest
  rcases bind_eq_error_iff.mp hlater with hgroups | ⟨groups, -, hbatch⟩
  · unfold parseManifest at hgroups
    split at hgroups <;> cases hgroups
  rw [reconcile_eq] at hbatch
  split_ifs at hbatch
  · cases hbatch
  · cases hbatch
  rcases bind_eq_error_iff.mp hbatch with hcollect | ⟨uploads, -, hbound⟩
  · exact collect_error hcollect
  rcases bind_eq_error_iff.mp hbound with hmissing | ⟨_, -, hdone⟩
  · obtain ⟨f, -, he⟩ := bindGroups_error hmissing
    cases he
  · cases hdone

variable {answer : Scan.Request → Scan.Answer}

/-- A failed scan that is reported is that of the first file in manifest order whose scan fails. -/
theorem process_eq_scanFailure {failure : Scan.Failure}
    (h : Id.run (Pipeline.process { config, scanner := Scanner.ofFunction answer } parts) =
      .error (.fatal (.scanFailure failure))) :
    ∃ batch before file after, Pipeline.bindParts config parts = .ok batch ∧
      batch.files = before ++ file :: after ∧ (∀ f ∈ before, Cleared config answer f) ∧
      precheck? config file = none ∧ answer (request file) = .failed failure := by
  cases hbind : Pipeline.bindParts config parts with
  | error e =>
    rw [process_of_unbound hbind] at h
    cases h
    exact absurd hbind (bindParts_ne_scanFailure config parts failure)
  | ok batch =>
    by_cases hcleared : ∀ file ∈ batch.files, Cleared config answer file
    · rw [process_of_cleared hbind hcleared] at h
      unfold Pipeline.finish at h
      split at h <;> cases h
    · obtain ⟨e, hvalidated, he⟩ := process_of_not_cleared hbind hcleared
      rw [he] at h
      cases h
      obtain ⟨before, file, after, hfiles, hbefore, hpre, hscan⟩ :=
        validateBatch_eq_error hvalidated
      refine ⟨batch, before, file, after, rfl, hfiles, hbefore, hpre, ?_⟩
      cases hanswer : answer (request file) <;> rw [hanswer] at hscan <;> cases hscan
      rfl

/-- Parts that come in another order make the same batch: it is forwarded or reported on alike, and
fails alike. Only if some part is misplaced may the two errors name different parts. -/
theorem process_perm (h : parts.Perm others)
    (hone : parts.countP (fun p => p.filename = config.manifestName) = 1) :
    (Id.run (Pipeline.process { config, scanner := Scanner.ofFunction answer } parts) =
        Id.run (Pipeline.process { config, scanner := Scanner.ofFunction answer } others) ∨
      ∃ e e',
        Id.run (Pipeline.process { config, scanner := Scanner.ofFunction answer } parts) =
          .error (.fatal e) ∧
        Id.run (Pipeline.process { config, scanner := Scanner.ofFunction answer } others) =
          .error (.fatal e') ∧ e.IsMisplaced ∧ e'.IsMisplaced) ∧
    ∀ failure,
      Id.run (Pipeline.process { config, scanner := Scanner.ofFunction answer } parts) =
          .error (.fatal (.scanFailure failure)) →
      ∃ batch before file after, Pipeline.bindParts config parts = .ok batch ∧
        batch.files = before ++ file :: after ∧ (∀ f ∈ before, Cleared config answer f) ∧
        precheck? config file = none ∧ answer (request file) = .failed failure := by
  refine ⟨?_, fun failure => process_eq_scanFailure⟩
  rcases bindParts_perm h hone with hsame | ⟨e, e', hparts, hothers, he, he'⟩
  · left
    rw [Pipeline.process, Pipeline.process, Pipeline.processBy, hsame, Pipeline.processBy]
  · exact .inr ⟨e, e', process_of_unbound hparts, process_of_unbound hothers, he, he'⟩

/-- Four parts that are forwarded alike whichever end of the list comes first. -/
theorem process_perm_sample : ∃ prepared,
    Id.run (Pipeline.process
      { config := .production, scanner := Scanner.ofFunction fun _ => .clean } Sample.parts) =
        .ok prepared ∧
      Id.run (Pipeline.process
        { config := .production, scanner := Scanner.ofFunction fun _ => .clean }
        Sample.parts.reverse) = .ok prepared := by
  have hok : (Id.run (Pipeline.process
      { config := .production, scanner := Scanner.ofFunction fun _ => .clean }
      Sample.parts)).isOk = true := by decide +kernel
  have hone : Sample.parts.countP (fun p => p.filename = Config.production.manifestName) = 1 := by
    decide +kernel
  obtain ⟨hsame | ⟨e, e', he, -, -⟩, -⟩ :=
    @process_perm .production _ _ (fun _ => .clean) (List.reverse_perm Sample.parts).symm hone
  · cases hprepared : Id.run (Pipeline.process
        { config := .production, scanner := Scanner.ofFunction fun _ => .clean } Sample.parts) with
    | ok prepared => exact ⟨prepared, rfl, by rw [← hsame, hprepared]⟩
    | error r =>
      rw [hprepared] at hok
      cases hok
  · rw [he] at hok
    cases hok

end AttachmentIntake
