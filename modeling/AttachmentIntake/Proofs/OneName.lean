import AttachmentIntake.Proofs.NamePolicy
import AttachmentIntake.Proofs.Report
import AttachmentIntake.Proofs.ScanCalls

/-! One name for a file in all stages. Some of them are given a sanitized name and sanitize it again,
others sanitize the original one, and the scanner takes what it is handed; as sanitizing twice is
sanitizing once, all of them go by the same text. -/

namespace AttachmentIntake

namespace FileName

variable [Text.Normalization]

/-- The final name that is made of a sanitized name as it stands. -/
def assemble (name : String) (category : Category) (identifier : Identifier) (limit : Nat) :
    String :=
  String.ofList (Text.trimEnd ((split name).name.toList.take limit)) ++ "-" ++ identifier.short ++
    category.extension?.getD ""

theorem finalize_eq_assemble (name : String) (category : Category) (identifier : Identifier)
    (limit : Nat) :
    finalize name category identifier limit =
      assemble (sanitize name) category identifier limit := rfl

theorem hasIllegalCharacter_iff {name : String} :
    hasIllegalCharacter name = true ↔ ∃ c ∈ (sanitize name).toList, isAllowed c = false := by
  simp [hasIllegalCharacter]

end FileName

/-- The text that stands for the original name of a file. -/
def BoundFile.name [Text.Normalization] (file : BoundFile) : String :=
  FileName.sanitize file.expected.originalFilename

namespace ScanCalls

open BatchValidation

section Runs

variable [Text.Normalization] {config : Config} {batch : BoundBatch} {file : BoundFile} {s : State}

theorem precheck?_eq_illegalFilename_iff [Text.LawfulNormalization] :
    precheck? config file = some .illegalFilename ↔
      file.part.size ≤ config.maxFileSize ∧
        ∃ c ∈ file.name.toList, FileName.isAllowed c = false := by
  have hname : FileName.hasIllegalCharacter file.name = true ↔
      ∃ c ∈ file.name.toList, FileName.isAllowed c = false := by
    rw [BoundFile.name, FileName.hasIllegalCharacter_sanitize, FileName.hasIllegalCharacter_iff]
  rw [← hname, ← Nat.not_lt, precheck?, Validation.precheck?, ← BoundFile.name]
  split_ifs with hsize hillegal
  · simp [hsize]
  · simp [hsize, hillegal]
  · simp [hillegal]

/-- What each stage makes of the names of files, told by the one text that stands for each. -/
structure OneName (config : Config) (batch : BoundBatch) (s : State) : Prop where
  checked : ∀ file ∈ batch.files, precheck? config file = some .illegalFilename ↔
    file.part.size ≤ config.maxFileSize ∧ ∃ c ∈ file.name.toList, FileName.isAllowed c = false
  scanned : ∀ call ∈ s.log.calls, ∃ file, (call.1, file) ∈ tasks batch ∧
    call.2.filename = file.name
  reported : ∀ validated, s.Returns batch (.ok validated) →
    (validated.report.groups.map fun g => g.files.map fun f => f.filename) =
      batch.groups.map fun g => g.files.map fun f => f.name
  prepared : ∀ validated prepared, s.Returns batch (.ok validated) →
    Pipeline.finish config validated = .ok prepared →
    (prepared.groups.map fun g => g.files.map fun f => f.finalFilename) =
      batch.groups.map fun g => g.files.map fun f =>
        FileName.assemble f.name (Validation.categoryOf f.part.data) f.expected.identifier
          config.maxBaseNameLength

theorem oneName_of_reaches [Text.LawfulNormalization] (h : Reaches config batch s) :
    OneName config batch s where
  checked _ _ := precheck?_eq_illegalFilename_iff
  scanned := by
    rintro ⟨p, r⟩ hcall
    obtain ⟨file, htask, -, rfl⟩ := (sound_of_reaches h).of_mem_calls hcall
    exact ⟨file, htask, rfl⟩
  reported := by
    intro validated hreturns
    obtain ⟨rfl, -⟩ := (sound_of_reaches h).of_returns_ok hreturns
    rw [report_validatedOf]
    simp only [List.map_map, Function.comp_def]
    rfl
  prepared := by
    intro validated prepared hreturns hfinish
    obtain ⟨rfl, -⟩ := (sound_of_reaches h).of_returns_ok hreturns
    obtain ⟨-, rfl⟩ := finish_eq_ok_iff.mp hfinish
    simp only [BoundBatch.prepared, BoundFile.prepared, FileName.finalize_eq_assemble,
      List.map_map, Function.comp_def]
    rfl

end Runs

/-- Of the normal form nothing is used but that it is settled and that its pieces are. Sanitizing a
name again then changes neither the name nor what is said of it or made of it, so in every run,
whatever its order and the answers of the scanner, all stages go by one text. -/
theorem oneName [Text.Normalization] [Text.LawfulNormalization] :
    (∀ name, FileName.sanitize (FileName.sanitize name) = FileName.sanitize name ∧
      FileName.hasIllegalCharacter (FileName.sanitize name) = FileName.hasIllegalCharacter name ∧
      ∀ category identifier limit,
        FileName.finalize (FileName.sanitize name) category identifier limit =
          FileName.finalize name category identifier limit) ∧
    ∀ config batch s, Reaches config batch s → OneName config batch s :=
  ⟨fun name => ⟨FileName.sanitize_sanitize name, FileName.hasIllegalCharacter_sanitize name,
    FileName.finalize_sanitize name⟩, fun _ _ _ => oneName_of_reaches⟩

namespace Sample

/-- A file with white space around its name. -/
def padded : BoundFile :=
  { expected := { originalFilename := " x y.JPG\t", identifier := ⟨"ab-1", rfl⟩ }
    part := { filename := "ab-1.jpg", data := AttachmentIntake.Sample.jpeg } }

def batch : BoundBatch := { groups := [{ info := Schedule.Sample.info, files := [padded] }] }

end Sample

/-- The name is reported without the white space, and made final without it. -/
theorem oneName_sample : ∃ s validated prepared, Reaches .production Sample.batch s ∧
    s.Returns Sample.batch (.ok validated) ∧
    Pipeline.finish .production validated = .ok prepared ∧
    (validated.report.groups.map fun g => g.files.map fun f => f.filename) = [["x y.JPG"]] ∧
    (prepared.groups.map fun g => g.files.map fun f => f.finalFilename) = [["x y-ab.jpg"]] := by
  have hvalid : (observed Scanner.disabled .production Sample.batch ()).1.isOk = true := by
    decide +kernel
  have hprepares : ∀ validated ∈ (observed Scanner.disabled .production Sample.batch ()).1.toOption,
      (Pipeline.finish .production validated).isOk = true := by decide +kernel
  obtain ⟨s, hreaches, hreturns, -⟩ :=
    exists_reaches_observed Scanner.disabled .production Sample.batch ()
  obtain ⟨validated, hvalidated⟩ := exists_ok_of_isOk hvalid
  rw [hvalidated] at hprepares hreturns
  obtain ⟨prepared, hfinish⟩ := exists_ok_of_isOk (hprepares validated rfl)
  have hone := oneName.2 .production Sample.batch s hreaches
  refine ⟨s, validated, prepared, hreaches, hreturns, hfinish, ?_, ?_⟩
  · rw [hone.reported validated hreturns]
    decide +kernel
  · rw [hone.prepared validated prepared hreturns hfinish]
    decide +kernel

end ScanCalls

end AttachmentIntake
