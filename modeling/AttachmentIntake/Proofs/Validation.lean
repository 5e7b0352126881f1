import AttachmentIntake.Proofs.Text
import AttachmentIntake.Validation

/-! What a single file must be to pass, before the scan and after it. -/

namespace AttachmentIntake

/-! ### Categories and extensions -/

namespace FileName

/-- The text after the last dot of a name, white space at its ends aside, is an extension that is
refused for images. -/
def CarriesRefusedExtension (name : String) : Prop :=
  ∃ stem extension, Text.trim name.toList = stem ++ '.' :: extension ∧ '.' ∉ extension ∧
    ∃ refused ∈ ["jfif", "pjpeg", "pjp"], Text.sameIgnoringCase refused.toList extension = true

theorem isAmong_nil (extensions : List String) (h : "" ∉ extensions) :
    isAmong extensions [] = false := by
  rw [isAmong, List.any_eq_false]
  intro e he hsame
  have hnil : e.toList = [] := by simpa [Text.sameIgnoringCase] using hsame
  rw [String.toList_eq_nil_iff.mp hnil] at he
  exact h he

theorem refusedExtension?_eq_none_iff {category : Category} (h : category.isImage = true)
    {name : String} :
    refusedExtension? category name = none ↔ ¬ CarriesRefusedExtension name := by
  have hrefused : refusedExtensions category = ["jfif", "pjpeg", "pjp"] := by
    cases category <;> first | rfl | cases h
  unfold refusedExtension? claimedExtension? CarriesRefusedExtension
  rw [hrefused]
  cases hsplit : Text.splitLast? '.' (Text.trim name.toList) with
  | none =>
    have hdot := Text.splitLast?_eq_none_iff.mp hsplit
    simp only [Option.filter_none, true_iff, not_exists]
    rintro stem extension ⟨htrim, -⟩
    exact hdot (by simp [htrim])
  | some p =>
    obtain ⟨stem, extension⟩ := p
    obtain ⟨htrim, hdot⟩ := Text.splitLast?_eq_some_iff.mp hsplit
    have hamong : (∃ stem' extension', Text.trim name.toList = stem' ++ '.' :: extension' ∧
        '.' ∉ extension' ∧ ∃ refused ∈ ["jfif", "pjpeg", "pjp"],
          Text.sameIgnoringCase refused.toList extension' = true) ↔
        isAmong ["jfif", "pjpeg", "pjp"] extension = true := by
      rw [isAmong, List.any_eq_true]
      constructor
      · rintro ⟨stem', extension', htrim', hdot', hmem⟩
        obtain ⟨-, rfl⟩ := Text.append_cons_inj hdot hdot' (htrim.symm.trans htrim')
        exact hmem
      · exact fun hmem => ⟨stem, extension, htrim, hdot, hmem⟩
    rw [hamong]
    by_cases hnil : extension = []
    · subst hnil
      simp [isAmong_nil]
    · simp [hnil]

end FileName

namespace Signature

@[simp]
theorem category_resolve_eq_jpeg_iff (s : Signature) : s.resolve.category = .jpeg ↔ s = .jpeg := by
  cases s <;> decide

@[simp]
theorem category_resolve_eq_png_iff (s : Signature) : s.resolve.category = .png ↔ s = .png := by
  cases s <;> decide

@[simp] theorem category_resolve_eq_pdf_iff (s : Signature) :
    s.resolve.category = .pdf ↔ s.resolve = .pdf := by
  cases s <;> decide

end Signature

/-! ### The checks -/

namespace Validation

theorem precheck?_eq_none_iff {name : String} {part : Part} {limit : Nat} :
    precheck? name part limit = none ↔
      part.size ≤ limit ∧ FileName.hasIllegalCharacter name = false := by
  unfold precheck?
  split
  next hsize => exact ⟨nofun, fun h => absurd hsize (Nat.not_lt.mpr h.1)⟩
  next hsize =>
    split
    next hname => simp [hname]
    next hname => simpa [hname] using hsize

/-- Content that passes: an image neither of whose names carries a refused extension, or what
resolves to a PDF document that can be opened and read. -/
def ContentPasses (name : String) (part : Part) : Prop :=
  ((Signature.sniff part.data = .jpeg ∨ Signature.sniff part.data = .png) ∧
      ¬ FileName.CarriesRefusedExtension name ∧
      ¬ FileName.CarriesRefusedExtension part.filename) ∨
    ((Signature.sniff part.data).resolve = .pdf ∧ (Pdf.inspect part.data).outcome = .ok)

theorem refusedExtension?_eq_none_iff {category : Category} (h : category.isImage = true)
    {name : String} {part : Part} : refusedExtension? category name part = none ↔
      ¬ FileName.CarriesRefusedExtension name ∧
        ¬ FileName.CarriesRefusedExtension part.filename := by
  rw [← FileName.refusedExtension?_eq_none_iff h, ← FileName.refusedExtension?_eq_none_iff h]
  unfold refusedExtension?
  cases FileName.refusedExtension? category name <;> simp

theorem judge_image {category : Category} (h : category.isImage = true) {name : String}
    {part : Part} : (judge category name part).1 =
      match refusedExtension? category name part with
      | some _ => .rejected .illegalFileType
      | none => .accepted category := by
  cases category with
  | jpeg =>
    simp only [judge]
    cases refusedExtension? .jpeg name part <;> rfl
  | png =>
    simp only [judge]
    cases refusedExtension? .png name part <;> rfl
  | pdf | unknown => cases h

theorem judge_image_isOk_iff {category : Category} (h : category.isImage = true) {name : String}
    {part : Part} : (judge category name part).1.isOk = true ↔
      ¬ FileName.CarriesRefusedExtension name ∧
        ¬ FileName.CarriesRefusedExtension part.filename := by
  rw [← refusedExtension?_eq_none_iff h, judge_image h]
  cases refusedExtension? category name part <;>
    simp [Verdict.isOk, Verdict.accepted, Verdict.rejected, Outcome.isOk]

theorem judge_pdf_isOk_iff {name : String} {part : Part} :
    (judge .pdf name part).1.isOk = true ↔ (Pdf.inspect part.data).outcome = .ok := by
  unfold judge
  by_cases h : (Pdf.inspect part.data).outcome = .ok
  · simp [h, Outcome.isOk, Verdict.isOk, Verdict.accepted]
  · simp [h, Outcome.isOk, Verdict.isOk, Verdict.rejected]

@[simp] theorem validate_fst (name : String) (part : Part) :
    (validate name part).1 = (judge (categoryOf part.data) name part).1 := by
  simp only [validate]

/-- Content is found to be fine exactly if it passes. -/
theorem validate_isOk_iff {name : String} {part : Part} :
    (validate name part).1.isOk = true ↔ ContentPasses name part := by
  unfold ContentPasses
  rw [validate_fst, ← Signature.category_resolve_eq_jpeg_iff,
    ← Signature.category_resolve_eq_png_iff, ← Signature.category_resolve_eq_pdf_iff, ← categoryOf]
  cases hc : categoryOf part.data with
  | jpeg =>
    have himage : Category.jpeg.isImage = true := rfl
    simp [judge_image_isOk_iff himage]
  | png =>
    have himage : Category.png.isImage = true := rfl
    simp [judge_image_isOk_iff himage]
  | pdf => simp [judge_pdf_isOk_iff]
  | unknown => simp [judge, Verdict.isOk, Verdict.rejected, Outcome.isOk]

/-- What can come out of a look at the content of a file. -/
def contentOutcomes : List Outcome :=
  [.ok, .illegalFileType, .pdfIsEncrypted, .couldNotLoadDocument]

@[simp]
theorem finding_outcome_mem (finding : Pdf.Finding) : finding.outcome ∈ contentOutcomes := by
  cases finding <;> decide

theorem judge_outcome_mem (category : Category) (name : String) (part : Part) :
    (judge category name part).1.outcome ∈ contentOutcomes := by
  have himage (hi : category.isImage = true) :
      (judge category name part).1.outcome ∈ contentOutcomes := by
    rw [judge_image hi]
    cases refusedExtension? category name part <;>
      simp [contentOutcomes, Verdict.rejected, Verdict.accepted]
  cases category with
  | jpeg | png => exact himage rfl
  | unknown => simp [judge, contentOutcomes, Verdict.rejected]
  | pdf =>
    unfold judge
    by_cases hsound : (Pdf.inspect part.data).outcome.isOk = true
    · simp [hsound, contentOutcomes, Verdict.accepted]
    · simp [hsound, Verdict.rejected]

/-- Neither its size nor its name is held against the content of a file. -/
@[simp] theorem validate_outcome_mem (name : String) (part : Part) :
    (validate name part).1.outcome ∈ contentOutcomes := by
  rw [validate_fst]
  exact judge_outcome_mem _ name part

/-- Whatever is accepted is accepted under the category it was judged by, which is a known one. -/
theorem judge_eq_accepted {category : Category} {name : String} {part : Part}
    (h : (judge category name part).1.isOk = true) :
    (judge category name part).1 = .accepted category ∧ category ≠ .unknown := by
  have himage (hi : category.isImage = true) :
      (judge category name part).1 = .accepted category := by
    rw [judge_image hi] at h ⊢
    cases hr : refusedExtension? category name part with
    | none => rfl
    | some extension =>
      rw [hr] at h
      cases h
  cases category with
  | jpeg => exact ⟨himage rfl, nofun⟩
  | png => exact ⟨himage rfl, nofun⟩
  | pdf =>
    have hsound := judge_pdf_isOk_iff.mp h
    exact ⟨by simp [judge, hsound, Outcome.isOk], nofun⟩
  | unknown => cases h

/-- Whatever is rejected is rejected without a category. -/
theorem judge_eq_rejected {category : Category} {name : String} {part : Part}
    (h : (judge category name part).1.isOk = false) :
    (judge category name part).1 = .rejected (judge category name part).1.outcome := by
  have himage (hi : category.isImage = true) : (judge category name part).1 =
      .rejected (judge category name part).1.outcome := by
    rw [judge_image hi] at h ⊢
    cases hr : refusedExtension? category name part with
    | some extension => rfl
    | none =>
      rw [hr] at h
      cases h
  cases category with
  | jpeg | png => exact himage rfl
  | unknown => rfl
  | pdf =>
    have hunsound : (Pdf.inspect part.data).outcome.isOk = false := by
      rw [← Bool.not_eq_true] at h
      simpa [Outcome.isOk] using mt judge_pdf_isOk_iff.mpr h
    simp [judge, hunsound, Verdict.rejected]

end Validation

end AttachmentIntake
