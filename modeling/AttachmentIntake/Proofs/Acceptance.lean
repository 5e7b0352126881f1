import AttachmentIntake.Proofs.Pipeline
import Mathlib.Data.Set.Function
import Mathlib.Data.List.FinRange

/-! Which batches are forwarded, said without the stages: the manifest is there and readable, parts
and expected files match one to one, and each file passes on its own. -/

namespace AttachmentIntake

open BatchValidation Reconciliation

/-- The parts besides the manifest are as many as the limit allows, and their tokens tie them one to
one to the expected files. -/
structure Matched (config : Config) (parts : List Part) (groups : List UploadGroup) : Prop where
  nonempty : 1 ≤ (filesOf config parts).length
  limit : (filesOf config parts).length ≤ config.maxFileCount
  bijection : Set.BijOn (fun i => ((filesOf config parts).get i).token) Set.univ
    {t | t ∈ identifiers groups}

/-- What an expected file and its part must be for the file to pass. -/
structure FilePasses (config : Config) (answer : Scan.Request → Scan.Answer)
    (expected : ExpectedFile) (part : Part) : Prop where
  size : part.size ≤ config.maxFileSize
  name : FileName.hasIllegalCharacter (FileName.sanitize expected.originalFilename) = false
  clean : answer { filename := FileName.sanitize expected.originalFilename
                   size := part.size
                   content := part.data } = .clean
  content : Validation.ContentPasses (FileName.sanitize expected.originalFilename) part

theorem tokens_bijOn_iff {parts : List Part} {ids : List String} :
    Set.BijOn (fun i => (parts.get i).token) Set.univ {t | t ∈ ids} ↔
      (parts.map Part.token).Nodup ∧ ∀ t, t ∈ parts.map Part.token ↔ t ∈ ids := by
  have htokens : parts.map Part.token = List.ofFn fun i => (parts.get i).token := by
    conv_lhs => rw [← List.ofFn_get parts, List.map_ofFn]
    rfl
  rw [htokens, List.nodup_ofFn, ← Set.injOn_univ]
  simp only [List.mem_ofFn]
  constructor
  · rintro ⟨hmaps, hinj, hsurj⟩
    refine ⟨hinj, fun t => ⟨?_, fun ht => ?_⟩⟩
    · rintro ⟨i, rfl⟩
      exact hmaps (Set.mem_univ i)
    · obtain ⟨i, -, hi⟩ := hsurj ht
      exact ⟨i, hi⟩
  · rintro ⟨hinj, hsame⟩
    refine ⟨fun i _ => (hsame _).mp ⟨i, rfl⟩, hinj, fun t ht => ?_⟩
    obtain ⟨i, hi⟩ := (hsame t).mpr ht
    exact ⟨i, Set.mem_univ i, hi⟩

theorem exists_reconcile_iff_matched {config : Config} {parts : List Part}
    {groups : List UploadGroup} (hids : (identifiers groups).Nodup) :
    (∃ batch, reconcile config parts groups = .ok batch) ↔ Matched config parts groups := by
  rw [exists_reconcile_iff hids, ← tokens_bijOn_iff]
  constructor
  · rintro ⟨hsome, hlimit, hbij⟩
    exact ⟨List.length_pos_iff.mpr hsome, hlimit, hbij⟩
  · rintro ⟨hsome, hlimit, hbij⟩
    exact ⟨List.length_pos_iff.mp hsome, hlimit, hbij⟩

/-- A bound file is cleared and found to be fine exactly if it passes. -/
theorem filePasses_iff {config : Config} {answer : Scan.Request → Scan.Answer} {file : BoundFile} :
    Cleared config answer file ∧ (verdictOf config file).isOk = true ↔
      FilePasses config answer file.expected file.part := by
  have hpre : precheck? config file = none ↔ file.part.size ≤ config.maxFileSize ∧
      FileName.hasIllegalCharacter (FileName.sanitize file.expected.originalFilename) = false :=
    Validation.precheck?_eq_none_iff
  have hcontent : (contentVerdict file).isOk = true ↔
      Validation.ContentPasses (FileName.sanitize file.expected.originalFilename) file.part :=
    Validation.validate_isOk_iff
  rw [verdictOf_isOk_iff]
  constructor
  · rintro ⟨hcleared, hnone, hok⟩
    obtain ⟨hsize, hname⟩ := hpre.mp hnone
    exact ⟨hsize, hname, hcleared hnone, hcontent.mp hok⟩
  · rintro ⟨hsize, hname, hclean, hpasses⟩
    exact ⟨fun _ => hclean, hpre.mpr ⟨hsize, hname⟩, hcontent.mpr hpasses⟩

theorem identifiers_nodup_of_parse {data : ByteArray} {groups : List UploadGroup}
    (h : parseManifest data = .ok groups) : (identifiers groups).Nodup := by
  obtain ⟨-, -, -, hshort⟩ := Manifest.parse_eq_ok_iff.mp (parseManifest_eq_ok_iff.mp h)
  exact Manifest.identifiers_nodup hshort

/-- Every bound file passes exactly if every expected file passes with the part of its token. -/
theorem forall_bound_iff {config : Config} {parts : List Part} {groups : List UploadGroup}
    {batch : BoundBatch} (h : reconcile config parts groups = .ok batch)
    {p : ExpectedFile → Part → Prop} :
    (∀ file ∈ batch.files, p file.expected file.part) ↔
      ∀ expected ∈ Manifest.expectedFiles groups, ∀ part ∈ filesOf config parts,
        part.token = expected.identifier.text → p expected part := by
  obtain ⟨-, -, -, hnodup, -, htied⟩ := reconcile_eq_ok_iff.mp h
  have hfiles := tied_files htied
  constructor
  · intro hall expected hexpected part hpart htoken
    obtain ⟨file, hfile, ht⟩ := exists_related hfiles hexpected
    rw [tied_part_unique hnodup ht hpart htoken, ← ht.same]
    exact hall file hfile
  · intro hall file hfile
    obtain ⟨expected, hexpected, ht⟩ := exists_related_left hfiles hfile
    rw [ht.same]
    exact hall expected hexpected file.part ht.uploaded ht.token

/-- A batch is forwarded exactly if the first part named like the manifest can be read as one, the
other parts match the files it expects, and each expected file passes with its part. -/
theorem process_accepts_iff (config : Config) (answer : Scan.Request → Scan.Answer)
    (parts : List Part) :
    (∃ prepared, Id.run (Pipeline.process { config, scanner := Scanner.ofFunction answer } parts) =
        .ok prepared) ↔
      ∃ manifest groups,
        parts.find? (fun p => p.filename = config.manifestName) = some manifest ∧
        parseManifest manifest.data = .ok groups ∧ Matched config parts groups ∧
        ∀ expected ∈ Manifest.expectedFiles groups, ∀ part ∈ filesOf config parts,
          part.token = expected.identifier.text → FilePasses config answer expected part := by
  simp only [process_eq_ok_iff, bindParts_eq_ok_iff, filePasses_iff]
  constructor
  · rintro ⟨-, batch, ⟨manifest, groups, hmanifest, hgroups, hbatch⟩, hall, -⟩
    have hids := identifiers_nodup_of_parse hgroups
    exact ⟨manifest, groups, hmanifest, hgroups,
      (exists_reconcile_iff_matched hids).mp ⟨batch, hbatch⟩, (forall_bound_iff hbatch).mp hall⟩
  · rintro ⟨manifest, groups, hmanifest, hgroups, hmatched, hall⟩
    have hids := identifiers_nodup_of_parse hgroups
    obtain ⟨batch, hbatch⟩ := (exists_reconcile_iff_matched hids).mpr hmatched
    exact ⟨batch.prepared config, batch, ⟨manifest, groups, hmanifest, hgroups, hbatch⟩,
      (forall_bound_iff hbatch).mpr hall, rfl⟩

end AttachmentIntake
