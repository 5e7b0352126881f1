import AttachmentIntake.Proofs.Validation
import AttachmentIntake.Proofs.Bytes

/-! What a file leaves in the log when it is validated. An override is noted first, whatever comes of
it; a rejection is noted once, in an event that starts with the outcome, and nothing else is noted.
For content of no known category the event tells what the file claimed to be. -/

namespace AttachmentIntake

namespace FileName

/-- The text after the last dot of a name, white space at its ends aside, or nothing. -/
inductive ClaimedExtension (name : String) : String → Prop
  | named {stem extension : List Char} (cut : Text.trim name.toList = stem ++ '.' :: extension)
    (last : '.' ∉ extension) : ClaimedExtension name (String.ofList extension)
  | unnamed (dotless : '.' ∉ Text.trim name.toList) : ClaimedExtension name ""

theorem claimedExtension?_getD (name : String) :
    ClaimedExtension name ((claimedExtension? name).getD "") := by
  unfold claimedExtension?
  cases h : Text.splitLast? '.' (Text.trim name.toList) with
  | none => exact .unnamed (Text.splitLast?_eq_none_iff.mp h)
  | some cut =>
    obtain ⟨stem, extension⟩ := cut
    obtain ⟨htrim, hlast⟩ := Text.splitLast?_eq_some_iff.mp h
    cases extension with
    | nil => exact .named htrim hlast
    | cons c extension => exact .named htrim hlast

end FileName

namespace Validation

/-- Nothing is noted of what is accepted; of what is rejected, one warning that names the outcome. -/
inductive Warned : Outcome → List Event → Prop
  | accepted : Warned .ok []
  | rejected {outcome : Outcome} {event : Event} (refused : outcome ≠ .ok)
    (level : event.level = .warn) (text : outcome.name.toList <+: event.message.toList) :
    Warned outcome [event]

/-- The notice for content that only looks like a document with something in front of it. -/
def overrideNotice : Event where
  level := .info
  message := "detected text/x-matlab; assuming a PDF without correct leading magic bytes (%PDF)"
  fields := [("detected", "text/x-matlab"), ("actual", "application/pdf")]

/-- The override of a signature is noted, and no other signature. -/
inductive Noticed (data : ByteArray) : List Event → Prop
  | overridden (matlab : Signature.sniff data = .matlab) : Noticed data [overrideNotice]
  | plain (other : Signature.sniff data ≠ .matlab) : Noticed data []

/-- What is said about content of no known category. -/
structure Described (name : String) (part : Part) (event : Event) : Prop where
  level : event.level = .warn
  message : event.message = "ILLEGAL_FILE_TYPE: content does not map to a supported category"
  fields : ∃ claimed, FileName.ClaimedExtension name claimed ∧
    event.fields = [
      ("claimed_extension", claimed),
      ("category", "UNKNOWN"),
      ("sniffed", (Signature.sniff part.data).name),
      ("declared_content_type", part.contentType.getD ""),
      ("leading_bytes",
        Event.listText ((part.data.data.toList.take 8).map fun b => toString b.toNat))]

variable {name : String} {part : Part} {category : Category}

theorem noticed_override (data : ByteArray) :
    Noticed data ((Signature.sniff data).override?.map overrideEvent).toList := by
  by_cases h : Signature.sniff data = .matlab
  · rw [h]
    exact .overridden h
  · have hnone : (Signature.sniff data).override? = none := by
      revert h
      generalize Signature.sniff data = s
      cases s <;> decide
    rw [hnone]
    exact .plain h

/-! ### One warning for each rejection -/

theorem warned_finding (finding : Pdf.Finding) :
    Warned finding.outcome finding.event?.toList := by
  cases finding with
  | sound => exact .accepted
  | locked | unreadable | encrypted | noCatalog | noPages =>
    exact .rejected (by decide) rfl (by decide)

theorem warned_illegalFileType {event : Event} (level : event.level = .warn)
    (text : Outcome.illegalFileType.name.toList <+: event.message.toList) :
    Warned .illegalFileType [event] :=
  .rejected nofun level text

theorem judge_of_refused {extension : String} (h : category.isImage = true)
    (hrefused : refusedExtension? category name part = some extension) :
    judge category name part =
      (.rejected .illegalFileType, some (refusedEvent category extension)) := by
  cases category with
  | jpeg | png => simp only [judge, hrefused]
  | pdf | unknown => cases h

theorem judge_of_not_refused (h : category.isImage = true)
    (hrefused : refusedExtension? category name part = none) :
    judge category name part = (.accepted category, none) := by
  cases category with
  | jpeg | png => simp only [judge, hrefused]
  | pdf | unknown => cases h

theorem warned_image (h : category.isImage = true) :
    Warned (judge category name part).1.outcome (judge category name part).2.toList := by
  cases hrefused : refusedExtension? category name part with
  | none =>
    rw [judge_of_not_refused h hrefused]
    exact .accepted
  | some extension =>
    rw [judge_of_refused h hrefused]
    refine warned_illegalFileType rfl ?_
    change _ <+: "ILLEGAL_FILE_TYPE: refused image extension".toList
    decide

theorem warned_judge (category : Category) (name : String) (part : Part) :
    Warned (judge category name part).1.outcome (judge category name part).2.toList := by
  cases category with
  | unknown =>
    refine warned_illegalFileType rfl ?_
    change _ <+: "ILLEGAL_FILE_TYPE: content does not map to a supported category".toList
    decide
  | jpeg | png => exact warned_image rfl
  | pdf =>
    have hfinding := warned_finding (Pdf.inspect part.data)
    unfold judge
    generalize Pdf.inspect part.data = finding at hfinding
    cases finding with
    | sound => exact .accepted
    | locked | unreadable | encrypted | noCatalog | noPages => exact hfinding

theorem described_unsupported (name : String) (part : Part) :
    Described name part (unsupportedEvent name part) where
  level := rfl
  message := rfl
  fields := by
    refine ⟨_, FileName.claimedExtension?_getD name, ?_⟩
    rw [← Nat.sub_zero 8, ← List.drop_zero (l := part.data.data.toList), ← Bytes.slice_eq]
    rfl

/-- Every file leaves the notice of an override, if there was one, and then one warning exactly if it
is rejected. The warning about content of no known category describes it. -/
theorem validate_events (name : String) (part : Part) :
    ∃ notices warnings, (validate name part).2 = notices ++ warnings ∧
      Noticed part.data notices ∧ Warned (validate name part).1.outcome warnings ∧
      (categoryOf part.data = .unknown →
        ∃ event, warnings = [event] ∧ Described name part event) := by
  refine ⟨_, (judge (categoryOf part.data) name part).2.toList, rfl, noticed_override part.data,
    ?_, ?_⟩
  · rw [validate_fst]
    exact warned_judge _ name part
  · intro h
    rw [h]
    exact ⟨unsupportedEvent name part, rfl, described_unsupported name part⟩

/-- A text that is called a picture. -/
def Sample.note : Part := ⟨"id.png", some "text/plain", ⟨#[0x68, 0x69]⟩⟩

theorem validate_events_sample : ∃ event, (validate "notes.txt " Sample.note).2 = [event] ∧
    Described "notes.txt " Sample.note event := by
  obtain ⟨notices, warnings, hevents, hnoticed, -, hunknown⟩ :=
    validate_events "notes.txt " Sample.note
  have hplain : Signature.sniff Sample.note.data = .plainText := by decide +kernel
  obtain ⟨event, rfl, hdescribed⟩ := hunknown (by rw [categoryOf, hplain]; rfl)
  refine ⟨event, ?_, hdescribed⟩
  cases hnoticed with
  | overridden matlab =>
    rw [hplain] at matlab
    cases matlab
  | plain other => exact hevents

example : (validate "notes.txt " Sample.note).2 =
    [{ level := .warn
       message := "ILLEGAL_FILE_TYPE: content does not map to a supported category"
       fields := [("claimed_extension", "txt"), ("category", "UNKNOWN"), ("sniffed", "text/plain"),
        ("declared_content_type", "text/plain"), ("leading_bytes", "[104, 105]")] }] := by
  decide +kernel

end Validation

end AttachmentIntake
