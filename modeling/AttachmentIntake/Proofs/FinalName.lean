import AttachmentIntake.Proofs.Identifier
import AttachmentIntake.Proofs.Pipeline
import AttachmentIntake.Proofs.Text
import Mathlib.Data.Option.Basic

/-! Final names tell files apart. Whatever is left of the name that a file had, the short form of
its identifier can be read back from the name that it gets. -/

namespace AttachmentIntake

/-! ### Reading a final name -/

namespace FileName

/-- The extension of a known category is one dot with letters behind it. -/
theorem exists_extension {category : Category} (h : category ≠ .unknown) :
    ∃ letters : List Char, '.' ∉ letters ∧ isAmong recognizedExtensions letters = true ∧
      category.extension? = some (String.ofList ('.' :: letters)) := by
  cases category with
  | pdf => exact ⟨"pdf".toList, by decide, by decide, rfl⟩
  | jpeg => exact ⟨"jpg".toList, by decide, by decide, rfl⟩
  | png => exact ⟨"png".toList, by decide, by decide, rfl⟩
  | unknown => exact absurd rfl h

variable {name : String} {category : Category} {i : Identifier} {limit : Nat}

theorem finalize_toList {letters : List Char}
    (h : category.extension? = some (String.ofList ('.' :: letters))) :
    (finalize name category i limit).toList =
      (base name limit ++ '-' :: i.short.toList) ++ '.' :: letters := by
  rw [finalize, h]
  simp

/-- What stands between the last dash in front of the last dot, and that dot. -/
def writtenShort? (name : String) : Option String := do
  let (stem, _) ← Text.splitLast? '.' name.toList
  let (_, short) ← Text.splitLast? '-' stem
  return String.ofList short

/-- Dashes and dots in the base name do not matter, as what follows it has only one of each. -/
theorem writtenShort?_finalize (h : category ≠ .unknown) :
    writtenShort? (finalize name category i limit) = some i.short := by
  obtain ⟨letters, hdot, -, hextension⟩ := exists_extension h
  rw [writtenShort?, finalize_toList hextension, Text.splitLast?_append hdot]
  simp [Text.splitLast?_append Identifier.dash_not_mem_short]

/-- A final name has the extension of its category, whatever the base name looks like. -/
theorem split_finalize (name : String) (i : Identifier) (limit : Nat) (h : category ≠ .unknown) :
    some (split (finalize name category i limit)).extension = category.extension? := by
  obtain ⟨letters, hdot, hknown, hextension⟩ := exists_extension h
  rw [split, finalize_toList hextension, Text.splitLast?_append hdot, hextension]
  simp [hknown]

end FileName

/-! ### The files of a batch -/

open BatchValidation Reconciliation

@[simp] theorem BoundBatch.prepared_files (config : Config) (batch : BoundBatch) :
    (batch.prepared config).files = batch.files.map (·.prepared config) := by
  simp only [PreparedBatch.files, BoundBatch.prepared, BoundBatch.files, List.flatMap_map,
    List.map_flatMap]

/-- The files of a bound batch have different short forms, as the manifest was checked for that. -/
theorem bindParts_short_nodup {config : Config} {parts : List Part} {batch : BoundBatch}
    (h : Pipeline.bindParts config parts = .ok batch) :
    (batch.files.map fun f => f.expected.identifier.short).Nodup := by
  obtain ⟨manifest, groups, -, hgroups, hbatch⟩ := bindParts_eq_ok_iff.mp h
  obtain ⟨-, -, -, hshort⟩ := Manifest.parse_eq_ok_iff.mp (parseManifest_eq_ok_iff.mp hgroups)
  obtain ⟨-, -, -, -, -, htied⟩ := reconcile_eq_ok_iff.mp hbatch
  rwa [tied_expected htied, List.map_map] at hshort

/-- No two files of a forwarded batch get the same name. -/
theorem finalFilenames_nodup {σ : Type} {p : Pipeline (StateM σ)} {s : σ} {parts : List Part}
    {prepared : PreparedBatch} (h : ((p.process parts).run s).1 = .ok prepared) :
    (prepared.files.map fun f => f.finalFilename).Nodup := by
  obtain ⟨batch, hbatch, hok, rfl⟩ := process_state h
  have hread : ∀ file ∈ batch.files,
      FileName.writtenShort? (file.prepared p.config).finalFilename =
        some file.expected.identifier.short := by
    intro file hfile
    rw [BoundFile.prepared]
    exact FileName.writtenShort?_finalize (verdictOf_eq_accepted (hok file hfile)).2
  have hshorts : ((batch.prepared p.config).files.map fun f => f.finalFilename).map
        FileName.writtenShort? =
      (batch.files.map fun f => f.expected.identifier.short).map some := by
    simp only [BoundBatch.prepared_files, List.map_map]
    exact List.map_congr_left hread
  apply List.Nodup.of_map FileName.writtenShort?
  rw [hshorts]
  exact (bindParts_short_nodup hbatch).map (Option.some_injective _)

theorem finalFilenames_nodup_sample : ∃ prepared,
    ((Sample.pipeline.process Sample.parts).run []).1 = .ok prepared ∧
      (prepared.files.map fun f => f.finalFilename).Nodup := by
  obtain ⟨prepared, h⟩ := Sample.exists_prepared
  exact ⟨prepared, h, finalFilenames_nodup h⟩

end AttachmentIntake
