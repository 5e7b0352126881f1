import AttachmentIntake.Proofs.FinalName
import AttachmentIntake.Proofs.UnicodeTables

/-! Names that leave the system. A sanitized name is a piece of a text in normal form, so it stays as
it is when it is sanitized again, and the name that was checked is the one that a final name begins
with. Of an identifier only the characters are checked that would cut a name, and these rules let
through more than the policy for names. -/

namespace AttachmentIntake

/-! ### Sanitized names -/

namespace Text

/-- A text in normal form stays as it is, and so does every piece of it. -/
class LawfulNormalization [Normalization] : Prop where
  normalize_normalize : ∀ cs, normalize (normalize cs) = normalize cs
  normalize_of_isInfix : ∀ {cs piece : List Char}, normalize cs = cs → piece <:+: cs →
    normalize piece = piece

@[simp] theorem normalize_trim [Normalization] [LawfulNormalization] (cs : List Char) :
    normalize (trim (normalize cs)) = trim (normalize cs) := by
  obtain ⟨before, after, htrim, -⟩ := exists_trim (normalize cs)
  refine LawfulNormalization.normalize_of_isInfix
    (LawfulNormalization.normalize_normalize cs) ⟨before, after, ?_⟩
  rw [List.append_assoc, htrim]

namespace Canonical

variable {cs piece : List Char}

theorem compose_of_all_isPlain (h : cs.all isPlain = true) : compose cs = cs := if_pos h

theorem compose_of_not_all_isPlain (h : ¬ cs.all isPlain = true) :
    compose cs = unicode.compose cs := if_neg h

@[simp] theorem compose_compose (cs : List Char) : compose (compose cs) = compose cs := by
  by_cases hplain : (compose cs).all isPlain = true
  · exact compose_of_all_isPlain hplain
  · have hcs : compose cs = unicode.compose cs :=
      compose_of_not_all_isPlain fun hall => hplain (by rwa [compose_of_all_isPlain hall])
    rw [compose_of_not_all_isPlain hplain, hcs, lawful_unicode.compose_compose]

theorem compose_of_isInfix (h : compose cs = cs) (hpiece : piece <:+: cs) :
    compose piece = piece := by
  by_cases hplain : piece.all isPlain = true
  · exact compose_of_all_isPlain hplain
  · have hcs : ¬ cs.all isPlain = true := fun hall => hplain
      (List.all_eq_true.mpr fun c hc => List.all_eq_true.mp hall c (hpiece.subset hc))
    rw [compose_of_not_all_isPlain hcs] at h
    rw [compose_of_not_all_isPlain hplain, lawful_unicode.compose_of_isInfix h hpiece]

end Canonical

instance : LawfulNormalization where
  normalize_normalize := Canonical.compose_compose
  normalize_of_isInfix := Canonical.compose_of_isInfix

end Text

namespace FileName

section Sanitized

variable [Text.Normalization] [Text.LawfulNormalization]

@[simp] theorem sanitize_sanitize (name : String) : sanitize (sanitize name) = sanitize name := by
  rw [sanitize, sanitize, String.toList_ofList, Text.normalize_trim, Text.trim_trim]

@[simp] theorem hasIllegalCharacter_sanitize (name : String) :
    hasIllegalCharacter (sanitize name) = hasIllegalCharacter name := by
  rw [hasIllegalCharacter, hasIllegalCharacter, sanitize_sanitize]

@[simp] theorem finalize_sanitize (name : String) (category : Category) (identifier : Identifier)
    (limit : Nat) :
    finalize (sanitize name) category identifier limit =
      finalize name category identifier limit := by
  rw [finalize, finalize, base, base, sanitize_sanitize]

end Sanitized

theorem allowed_of_sanitize {name : String} (h : hasIllegalCharacter (sanitize name) = false)
    {c : Char} (hc : c ∈ (sanitize name).toList) : isAllowed c = true := by
  rw [hasIllegalCharacter_sanitize, hasIllegalCharacter, List.any_eq_false] at h
  simpa using h c hc

theorem mem_of_mem_split {name : String} {c : Char} (h : c ∈ (split name).name.toList) :
    c ∈ name.toList := by
  unfold split at h
  split at h
  next stem extension hsplit =>
    split_ifs at h
    · rw [String.toList_ofList] at h
      rw [(Text.splitLast?_eq_some_iff.mp hsplit).1]
      exact List.mem_append_left _ h
    · exact h
  next => exact h

/-- What a final name keeps of a sanitized name is a part of it. -/
theorem mem_sanitize_of_mem_base {name : String} {limit : Nat} {c : Char}
    (h : c ∈ base name limit) : c ∈ (sanitize name).toList := by
  have hkept : c ∈ (split (sanitize name)).name.toList.take limit := by
    rw [← Text.trimEnd_append (List.take _ _)]
    exact List.mem_append_left _ h
  exact mem_of_mem_split (List.mem_of_mem_take hkept)

theorem extension?_allowed : ∀ category : Category,
    ∀ c ∈ (category.extension?.getD "").toList, isAllowed c = true := by
  intro category
  apply List.all_eq_true.mp
  cases category <;> decide +kernel

end FileName

/-! ### Final names -/

open BatchValidation

/-- Around the short form of the identifier a final name holds only characters that names may hold.
In the short form itself only those are missing that no identifier has. -/
theorem finalFilenames_allowed {σ : Type} {p : Pipeline (StateM σ)} {s : σ} {parts : List Part}
    {prepared : PreparedBatch} (h : ((p.process parts).run s).1 = .ok prepared) :
    ∀ file ∈ prepared.files, ∃ base extension : List Char,
      file.finalFilename.toList = base ++ '-' :: file.identifier.short.toList ++ extension ∧
      (∀ c ∈ base ++ '-' :: extension, FileName.isAllowed c = true) ∧
      ∀ c ∈ file.identifier.short.toList, c ≠ '-' ∧ Identifier.isReserved c = false := by
  obtain ⟨batch, -, hok, rfl⟩ := process_state h
  intro file hfile
  rw [BoundBatch.prepared_files] at hfile
  obtain ⟨bound, hbound, rfl⟩ := List.mem_map.mp hfile
  have hpre : precheck? p.config bound = none := (verdictOf_isOk_iff.mp (hok bound hbound)).1
  have hname := (Validation.precheck?_eq_none_iff.mp hpre).2
  refine ⟨FileName.base bound.expected.originalFilename p.config.maxBaseNameLength,
    ((Validation.categoryOf bound.part.data).extension?.getD "").toList, ?_, ?_, ?_⟩
  · simp [BoundFile.prepared, FileName.finalize]
  · simp only [List.forall_mem_append, List.forall_mem_cons]
    refine ⟨fun c hc => ?_, by decide, FileName.extension?_allowed _⟩
    exact FileName.allowed_of_sanitize hname (FileName.mem_sanitize_of_mem_base hc)
  · intro c hc
    exact ⟨fun hdash => Identifier.dash_not_mem_short (hdash ▸ hc),
      Identifier.not_reserved_of_mem_short hc⟩

theorem finalFilenames_allowed_sample : ∃ prepared,
    ((Sample.pipeline.process Sample.parts).run []).1 = .ok prepared ∧
      ∀ file ∈ prepared.files, ∃ base extension : List Char,
        file.finalFilename.toList = base ++ '-' :: file.identifier.short.toList ++ extension ∧
        (∀ c ∈ base ++ '-' :: extension, FileName.isAllowed c = true) ∧
        ∀ c ∈ file.identifier.short.toList, c ≠ '-' ∧ Identifier.isReserved c = false := by
  obtain ⟨prepared, h⟩ := Sample.exists_prepared
  exact ⟨prepared, h, finalFilenames_allowed h⟩

namespace Sample

/-- A batch whose only file has a colon in its identifier. -/
def colonParts : List Part :=
  [{ filename := "metadata.json"
     data := ("[\x7b\"type\":\"a\",\"files\":[\x7b\"original_filename\":\"x.jpg\"," ++
       "\"identifier\":\"ab:cd\"\x7d]\x7d]").toUTF8 },
    { filename := "ab:cd.jpg", data := jpeg }]

def production : Pipeline (StateM (List Scan.Request)) :=
  { pipeline with config := .production }

end Sample

/-- A colon in an identifier gets into a final name, though no name may hold one. -/
theorem finalFilenames_not_allowed_colon : ∃ prepared,
    ((Sample.production.process Sample.colonParts).run []).1 = .ok prepared ∧
      (prepared.files.map fun f => f.finalFilename) = ["x-ab:cd.jpg"] ∧
      ¬ ∀ file ∈ prepared.files, ∀ c ∈ file.finalFilename.toList, FileName.isAllowed c = true := by
  have hnames : ((Sample.production.process Sample.colonParts).run []).1.toOption.map
      (fun prepared => prepared.files.map fun f => f.finalFilename) = some ["x-ab:cd.jpg"] := by
    decide +kernel
  cases h : ((Sample.production.process Sample.colonParts).run []).1 with
  | error e =>
    rw [h] at hnames
    cases hnames
  | ok prepared =>
    rw [h] at hnames
    have hname : (prepared.files.map fun f => f.finalFilename) = ["x-ab:cd.jpg"] :=
      Option.some.inj hnames
    refine ⟨prepared, rfl, hname, fun hall => ?_⟩
    obtain ⟨file, hfile, hcolon⟩ := List.mem_map.mp (hname ▸ List.mem_singleton_self "x-ab:cd.jpg")
    have hnot : FileName.isAllowed ':' = false := by decide +kernel
    rw [hall file hfile ':' (hcolon ▸ by decide)] at hnot
    cases hnot

end AttachmentIntake
