import AttachmentIntake.Proofs.FinalName
import Mathlib

/-! What is forwarded for a batch: the groups of its manifest in their order, each file under the
metadata, the content, the digest and the type that belong together. -/

namespace AttachmentIntake

open BatchValidation Reconciliation

/-! ### Digests -/

namespace Digest.Sha512

@[simp] theorem numberBytes_length (value n : Nat) : (numberBytes value n).length = n := by
  induction n with
  | zero => rfl
  | succ n ih => rw [numberBytes, List.length_cons, ih]

@[simp] theorem digest_length (data : ByteArray) : (digest data).length = 64 := by
  simp [digest, State.words]

end Digest.Sha512

/-- A text is the digest of some data, in digits of lower case. -/
structure IsDigestText (data : ByteArray) (text : String) : Prop where
  length : text.length = 128
  digits : ∀ c ∈ text.toList, c ∈ Text.Hex.digits
  decoded : Text.Hex.decode? text.toList = some (Digest.Sha512.digest data)

theorem isDigestText (data : ByteArray) : IsDigestText data (digestText data) where
  length := by
    rw [digestText, String.length_ofList, Text.Hex.encode_length, Digest.Sha512.digest_length]
  digits := by
    intro c hc
    rw [digestText, String.toList_ofList] at hc
    exact Text.Hex.mem_digits_of_mem_encode hc
  decoded := by rw [digestText, String.toList_ofList, Text.Hex.decode?_encode]

/-! ### Files and groups -/

theorem Category.mimeType_ne {category : Category} (h : category ≠ .unknown) :
    category.mimeType ≠ "application/octet-stream" := by
  cases category with
  | pdf | jpeg | png => decide
  | unknown => exact absurd rfl h

theorem Category.extension?_ne {category : Category} (h : category ≠ .unknown) :
    category.extension? ≠ some "" := by
  cases category with
  | pdf | jpeg | png => decide
  | unknown => exact absurd rfl h

/-- A file is what is forwarded for an expected one: it carries the bytes of the only part with its
identifier, and all that is said of it is said of these bytes. -/
structure FilePrepared (config : Config) (parts : List Part) (expected : ExpectedFile)
    (file : PreparedFile) : Prop where
  identifier : file.identifier = expected.identifier
  data : ∃ part, (filesOf config parts).filter (fun p => p.token = expected.identifier.text) =
    [part] ∧ file.data = part.data
  size : file.size = file.data.size
  digest : IsDigestText file.data file.sha512
  name : file.finalFilename = FileName.finalize expected.originalFilename
    (Validation.categoryOf file.data) expected.identifier config.maxBaseNameLength
  mimeType : file.mimeType = (Validation.categoryOf file.data).mimeType
  mimeType_ne : file.mimeType ≠ "application/octet-stream"
  extension : some (FileName.split file.finalFilename).extension =
    (Validation.categoryOf file.data).extension?
  extension_ne : (FileName.split file.finalFilename).extension ≠ ""

/-- A group is forwarded under its own metadata, file by file. -/
structure GroupPrepared (config : Config) (parts : List Part) (group : UploadGroup)
    (prepared : PreparedGroup) : Prop where
  info : prepared.info = group.info
  files : List.Forall₂ (FilePrepared config parts) group.files prepared.files

variable {config : Config} {parts : List Part}

theorem filePrepared {wanted : ExpectedFile} {file : BoundFile}
    (hnodup : ((filesOf config parts).map Part.token).Nodup)
    (htied : Tied (filesOf config parts) wanted file)
    (hok : (verdictOf config file).isOk = true) :
    FilePrepared config parts wanted (file.prepared config) := by
  have hknown := (verdictOf_eq_accepted hok).2
  have hextension := FileName.split_finalize file.expected.originalFilename
    file.expected.identifier config.maxBaseNameLength hknown
  obtain rfl := htied.same
  unfold BoundFile.prepared
  constructor
  case identifier => rfl
  case data => exact ⟨file.part, tied_part_filter hnodup htied, rfl⟩
  case size => rfl
  case digest => exact isDigestText file.part.data
  case name => dsimp only
  case mimeType => dsimp only
  case mimeType_ne =>
    dsimp only
    exact Category.mimeType_ne hknown
  case extension =>
    dsimp only
    exact hextension
  case extension_ne =>
    dsimp only
    intro hempty
    apply Category.extension?_ne hknown
    rw [← hextension, hempty]

theorem groupsPrepared {groups : List UploadGroup} {batch : BoundBatch}
    (hnodup : ((filesOf config parts).map Part.token).Nodup)
    (htied : List.Forall₂ (TiedGroup (filesOf config parts)) groups batch.groups)
    (hok : ∀ file ∈ batch.files, (verdictOf config file).isOk = true) :
    List.Forall₂ (GroupPrepared config parts) groups (batch.prepared config).groups := by
  rw [BoundBatch.prepared, List.forall₂_map_right_iff]
  refine related_imp htied fun group bound hbound hgroup => ?_
  obtain ⟨hinfo, hfiles⟩ := hgroup
  refine ⟨hinfo, ?_⟩
  rw [List.forall₂_map_right_iff]
  refine related_imp hfiles fun wanted file hfile ht => ?_
  exact filePrepared hnodup ht (hok file (List.mem_flatMap.mpr ⟨bound, hbound, hfile⟩))

/-! ### Whole batches -/

theorem totalSize_eq_sum (b : PreparedBatch) :
    b.totalSize = (b.files.map fun f => f.size).sum := by
  rw [PreparedBatch.totalSize, List.sum_eq_foldl, List.foldl_map]

theorem totalSize_prepared {groups : List UploadGroup} {batch : BoundBatch}
    (h : reconcile config parts groups = .ok batch) :
    (batch.prepared config).totalSize = ((filesOf config parts).map Part.size).sum := by
  have hsizes : (batch.prepared config).files.map (fun f => f.size) =
      (batch.files.map fun f => f.part).map Part.size := by
    rw [BoundBatch.prepared_files, List.map_map, List.map_map]
    rfl
  rw [totalSize_eq_sum, hsizes]
  exact ((reconcile_parts_perm h).map Part.size).sum_nat

theorem specification_pairs (b : PreparedBatch) :
    b.specification.attachments.map (fun a => a.files.map fun f => (f.filename, f.sha512)) =
      b.groups.map fun g => g.files.map fun f => (f.finalFilename, f.sha512) := by
  simp only [PreparedBatch.specification, PreparedGroup.specification,
    PreparedFile.specification, List.map_map, Function.comp_def]

/-- What is forwarded is the manifest's groups that have files, each file with the part of its
identifier, together with their total size and a specification that names each in its place. -/
theorem process_prepares {σ : Type} {p : Pipeline (StateM σ)} {s : σ} {parts : List Part}
    {prepared : PreparedBatch} (h : ((p.process parts).run s).1 = .ok prepared) :
    ∃ manifest groups,
      parts.find? (fun q => q.filename = p.config.manifestName) = some manifest ∧
      Manifest.readGroups manifest.data.data.toList = .ok groups ∧
      List.Forall₂ (GroupPrepared p.config parts) (groups.filter fun g => !g.files.isEmpty)
        prepared.groups ∧
      prepared.totalSize = ((filesOf p.config parts).map Part.size).sum ∧
      prepared.specification.attachments.map
          (fun a => a.files.map fun f => (f.filename, f.sha512)) =
        prepared.groups.map fun g => g.files.map fun f => (f.finalFilename, f.sha512) := by
  obtain ⟨batch, hbind, hok, rfl⟩ := process_state h
  obtain ⟨manifest, kept, hmanifest, hkept, hbatch⟩ := bindParts_eq_ok_iff.mp hbind
  obtain ⟨groups, hgroups, rfl, -⟩ := Manifest.parse_eq_ok_iff.mp (parseManifest_eq_ok_iff.mp hkept)
  obtain ⟨-, -, -, hnodup, -, htied⟩ := reconcile_eq_ok_iff.mp hbatch
  exact ⟨manifest, groups, hmanifest, hgroups, groupsPrepared hnodup htied hok,
    totalSize_prepared hbatch, specification_pairs _⟩

theorem process_prepares_sample : ∃ prepared manifest groups,
    ((Sample.pipeline.process Sample.parts).run []).1 = .ok prepared ∧
      Sample.parts.find? (fun q => q.filename = Sample.pipeline.config.manifestName) =
        some manifest ∧
      Manifest.readGroups manifest.data.data.toList = .ok groups ∧
      List.Forall₂ (GroupPrepared Sample.pipeline.config Sample.parts)
        (groups.filter fun g => !g.files.isEmpty) prepared.groups := by
  obtain ⟨prepared, h⟩ := Sample.exists_prepared
  obtain ⟨manifest, groups, hmanifest, hgroups, hprepared, -⟩ := process_prepares h
  exact ⟨prepared, manifest, groups, h, hmanifest, hgroups, hprepared⟩

/-! ### Parts that are left out -/

/-- The parts named like the manifest. -/
def Reconciliation.namesakes (config : Config) (parts : List Part) : List Part :=
  parts.filter fun p => p.filename = config.manifestName

theorem namesakes_append_perm (config : Config) (parts : List Part) :
    (namesakes config parts ++ filesOf config parts).Perm parts := by
  have hsplit := List.filter_append_perm (fun p : Part => p.filename = config.manifestName) parts
  simpa only [namesakes, filesOf, decide_not] using hsplit

theorem namesakes_eq_cons {manifest : Part}
    (h : parts.find? (fun q => q.filename = config.manifestName) = some manifest) :
    ∃ others, namesakes config parts = manifest :: others := by
  rw [← List.head?_filter, List.head?_eq_some_iff] at h
  exact h

/-- Besides the parts of its files, what was uploaded for a batch that is forwarded are the parts
named like the manifest, of which the first was read. So nothing is left out exactly if no second
part has that name. -/
theorem process_leaves_out {σ : Type} {p : Pipeline (StateM σ)} {s : σ} {parts : List Part}
    {prepared : PreparedBatch} (h : ((p.process parts).run s).1 = .ok prepared) :
    ∃ manifest others bound,
      parts.find? (fun q => q.filename = p.config.manifestName) = some manifest ∧
      namesakes p.config parts = manifest :: others ∧
      Pipeline.bindParts p.config parts = .ok bound ∧ prepared = bound.prepared p.config ∧
      parts.Perm (manifest :: others ++ bound.files.map fun f => f.part) ∧
      parts.length = prepared.files.length + 1 + others.length ∧
      (parts.Perm (manifest :: bound.files.map fun f => f.part) ↔ others = []) := by
  obtain ⟨bound, hbind, -, rfl⟩ := process_state h
  obtain ⟨manifest, groups, hmanifest, -, hbound⟩ := bindParts_eq_ok_iff.mp hbind
  obtain ⟨others, hothers⟩ := namesakes_eq_cons hmanifest
  have hparts : parts.Perm (manifest :: others ++ bound.files.map fun f => f.part) := by
    have hall := namesakes_append_perm p.config parts
    rw [hothers] at hall
    exact hall.symm.trans ((reconcile_parts_perm hbound).symm.append_left _)
  have hcount : parts.length = (bound.prepared p.config).files.length + 1 + others.length := by
    rw [hparts.length_eq, BoundBatch.prepared_files]
    simp only [List.length_append, List.length_cons, List.length_map]
    omega
  refine ⟨manifest, others, bound, hmanifest, hothers, hbind, rfl, hparts, hcount, ?_⟩
  constructor
  · intro hnone
    have hlength := hparts.length_eq.symm.trans hnone.length_eq
    simp only [List.length_append, List.length_cons, List.length_map] at hlength
    exact List.length_eq_zero_iff.mp (by omega)
  · rintro rfl
    exact hparts

/-- A second part named like the manifest is left out of a batch that is forwarded, whatever it
holds. -/
theorem process_leaves_out_namesake : ∃ prepared, ∃ parts : List Part,
    parts = Sample.parts ++ [{ filename := "metadata.json", data := Sample.png }] ∧
      ((Sample.pipeline.process parts).run []).1 = .ok prepared ∧
      parts.length ≠ prepared.files.length + 1 ∧
      ∃ manifest bound,
        parts.find? (fun q => q.filename = Sample.pipeline.config.manifestName) = some manifest ∧
        Pipeline.bindParts Sample.pipeline.config parts = .ok bound ∧
        ¬ parts.Perm (manifest :: bound.files.map fun f => f.part) := by
  generalize hparts : Sample.parts ++ [{ filename := "metadata.json", data := Sample.png }] = parts
  have hok : ((Sample.pipeline.process parts).run []).1.isOk = true := by
    rw [← hparts]
    decide +kernel
  have hnames : (namesakes Sample.pipeline.config parts).length = 2 := by
    rw [← hparts]
    decide +kernel
  cases h : ((Sample.pipeline.process parts).run []).1 with
  | error e =>
    rw [h] at hok
    cases hok
  | ok prepared =>
    obtain ⟨manifest, others, bound, hmanifest, hothers, hbound, -, -, hcount, hperm⟩ :=
      process_leaves_out h
    have hone : others.length = 1 := by
      rw [hothers] at hnames
      simpa using hnames
    refine ⟨prepared, parts, rfl, h, by omega, manifest, bound, hmanifest, hbound, ?_⟩
    rw [hperm]
    rintro rfl
    cases hone

end AttachmentIntake
