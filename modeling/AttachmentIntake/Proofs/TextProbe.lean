import AttachmentIntake.Proofs.FloatShare
import AttachmentIntake.Proofs.Signature
import AttachmentIntake.Proofs.Utf8Cut

/-! Which content is taken for text. Only the first 4096 bytes count, wherever they cut a character:
they have to be UTF-8, with more than four fifths of the characters printable. Where the XML
declaration is looked for, the window does not matter. -/

namespace AttachmentIntake.Signature

open Text (Utf8.encode Utf8.CutShort Utf8.Within)

/-- There are characters, and more than four fifths of them are printable. -/
def Readable (cs : List Char) : Prop :=
  cs ≠ [] ∧ 4 * cs.length < 5 * cs.countP isPrintable

/-- The bytes are those of a readable text, and behind it at most a part of a character. -/
def ReadsAsText (window : List UInt8) : Prop :=
  ∃ cs rest, window = Utf8.encode cs ++ rest ∧ Utf8.CutShort rest ∧ Readable cs

/-- What stands first behind any blanks is the start of an XML declaration. -/
def LeadsWithXml (bytes : List UInt8) : Prop :=
  ∃ before after, bytes = before ++ Bytes.ascii "<?xml" ++ after ∧ ∀ b ∈ before, b ∈ blanks

variable {window bytes : List UInt8} {cs : List Char} {content : ByteArray}

/-! ### Printable characters -/

theorem gt_share_countP_iff (hne : cs ≠ []) (hlength : cs.length < 2 ^ 50) :
    (0.80 : Float) < share (cs.countP isPrintable) cs.length ↔
      4 * cs.length < 5 * cs.countP isPrintable :=
  gt_share_iff (List.length_pos_iff.mpr hne) List.countP_le_length hlength

theorem ending_of_isLikelyText (h : isLikelyText window = true) :
    (Text.Utf8.decode window).2 ≠ .bad := by
  intro hbad
  unfold isLikelyText at h
  generalize Text.Utf8.decode window = read at h hbad
  obtain ⟨cs, ending⟩ := read
  obtain rfl : ending = .bad := hbad
  cases h

theorem isLikelyText_of_rest {rest : List UInt8} (hrest : window = Utf8.encode cs ++ rest)
    (hcut : Utf8.CutShort rest) (hwindow : window.length < 2 ^ 50) :
    isLikelyText window = true ↔ Readable cs := by
  have hlength : cs.length < 2 ^ 50 := by
    have hle := Text.Utf8.length_le_encode cs
    rw [hrest, List.length_append] at hwindow
    omega
  have hlikely : isLikelyText window = (!cs.isEmpty &&
      decide ((0.80 : Float) < share (cs.countP isPrintable) cs.length)) := by
    obtain ⟨hcs, hbad⟩ := Text.Utf8.decode_iff.mpr ⟨rest, hrest, hcut⟩
    unfold isLikelyText
    generalize Text.Utf8.decode window = read at hcs hbad
    obtain ⟨cs', ending⟩ := read
    obtain rfl : cs' = cs := hcs
    cases ending with
    | bad => exact absurd rfl hbad
    | complete => rfl
    | cut => rfl
  rw [hlikely, Bool.and_eq_true, Bool.not_eq_true', List.isEmpty_eq_false_iff, decide_eq_true_eq]
  exact and_congr_right fun hne => gt_share_countP_iff hne hlength

theorem isLikelyText_iff (hwindow : window.length < 2 ^ 50) :
    isLikelyText window = true ↔ ReadsAsText window := by
  constructor
  · intro h
    obtain ⟨rest, hrest, hcut⟩ := Text.Utf8.decode_iff.mp ⟨rfl, ending_of_isLikelyText h⟩
    exact ⟨_, rest, hrest, hcut, (isLikelyText_of_rest hrest hcut hwindow).mp h⟩
  · intro h
    obtain ⟨cs, rest, hrest, hcut, hreadable⟩ := h
    exact (isLikelyText_of_rest hrest hcut hwindow).mpr hreadable

/-! ### Windows -/

theorem length_window (bytes : List UInt8) : (bytes.take 4096).length < 2 ^ 50 := by
  rw [List.length_take]
  omega

/-- A text is judged by its characters that lie in the window. -/
theorem readsAsText_of_within {whole part : List Char} (h : Utf8.Within 4096 whole part) :
    ReadsAsText ((Utf8.encode whole).take 4096) ↔ Readable part := by
  obtain ⟨rest, hrest, hcut⟩ := Text.Utf8.take_of_within h
  rw [← isLikelyText_iff (length_window _), isLikelyText_of_rest hrest hcut (length_window _)]

/-! ### Detection of text -/

@[simp] theorem mem_blanks_iff {b : UInt8} : b ∈ blanks ↔ isBlank b = true := by
  simp [isBlank, blanks, or_assoc]

theorem leadsWithXml_iff :
    LeadsWithXml bytes ↔ (bytes.dropWhile isBlank).take 5 = [0x3C, 0x3F, 0x78, 0x6D, 0x6C] := by
  have hmark : Bytes.ascii "<?xml" = [0x3C, 0x3F, 0x78, 0x6D, 0x6C] := by decide
  constructor
  · intro h
    obtain ⟨before, after, rfl, hbefore⟩ := h
    rw [List.append_assoc,
      List.dropWhile_append_of_pos fun b hb => mem_blanks_iff.mp (hbefore b hb), hmark]
    rfl
  · intro h
    refine ⟨bytes.takeWhile isBlank, (bytes.dropWhile isBlank).drop 5, ?_, fun b hb => ?_⟩
    · rw [hmark, ← h, List.append_assoc, List.take_append_drop, List.takeWhile_append_dropWhile]
    · exact mem_blanks_iff.mpr (List.mem_takeWhile_imp hb)

theorem ofText_of_not_leadsWithPercent (h : ¬ LeadsWithPercent content.data.toList) :
    ofText content = if isLikelyText (content.data.toList.take 4096) then
      if (content.data.toList.dropWhile isBlank).take 5 = [0x3C, 0x3F, 0x78, 0x6D, 0x6C] then .xml
      else .plainText
    else .octetStream := by
  rw [leadsWithPercent_iff, ← Bytes.slice_runEnd] at h
  rw [← Bytes.slice_runEnd, ofText, if_neg h, Bytes.slice_eq, List.drop_zero, Nat.sub_zero,
    probeLength]

/-- Content that no magic number and no percent sign gives away is text if the window reads as text,
and XML if moreover it starts with the declaration. Of a text, the characters that lie in the window
decide, wherever it cuts. -/
theorem sniff_text (hsize : content.size ≠ 0) (hmagic : ofMagic? content.data.toList = none)
    (hplain : ¬ LeadsWithPercent content.data.toList) :
    (sniff content = .xml ∨ sniff content = .plainText ↔
      ReadsAsText (content.data.toList.take 4096)) ∧
    (sniff content = .xml ↔
      ReadsAsText (content.data.toList.take 4096) ∧ LeadsWithXml content.data.toList) ∧
    (sniff content = .octetStream ↔ ¬ ReadsAsText (content.data.toList.take 4096)) ∧
    ∀ whole, content.data.toList = Utf8.encode whole →
      ∃ part, Utf8.Within 4096 whole part ∧
        (sniff content = .xml ∨ sniff content = .plainText ↔ Readable part) := by
  have hsniff := sniff_eq content
  rw [hmagic, Option.getD_none, if_neg hsize, ofText_of_not_leadsWithPercent hplain] at hsniff
  have htext : sniff content = .xml ∨ sniff content = .plainText ↔
      ReadsAsText (content.data.toList.take 4096) := by
    rw [← isLikelyText_iff (length_window _), hsniff]
    split_ifs with hlikely hxml <;> simp [hlikely]
  refine ⟨htext, ?_, ?_, fun whole hwhole => ?_⟩
  · rw [leadsWithXml_iff, ← isLikelyText_iff (length_window _), hsniff]
    split_ifs with hlikely hxml
    · simp [hlikely, hxml]
    · simp [hlikely, hxml]
    · simp [hlikely]
  · rw [← isLikelyText_iff (length_window _), hsniff]
    split_ifs with hlikely hxml <;> simp [hlikely]
  · obtain ⟨part, hpart⟩ := Text.Utf8.exists_within 4096 whole
    refine ⟨part, hpart, ?_⟩
    rw [htext, hwhole]
    exact readsAsText_of_within hpart

/-- A character that the window cuts does not keep content from being text. -/
theorem sniff_text_cut : sniff ⟨#[0x68, 0x69, 0xE2, 0x82]⟩ = .plainText := by
  have hlead : ¬ LeadsWithPercent [0x68, 0x69, 0xE2, 0x82] := by
    rw [leadsWithPercent_iff]
    decide
  have hxml : ¬ LeadsWithXml [0x68, 0x69, 0xE2, 0x82] := by
    rw [leadsWithXml_iff]
    decide
  obtain ⟨htext, honly, -, -⟩ :=
    @sniff_text ⟨#[0x68, 0x69, 0xE2, 0x82]⟩ (by decide) (by decide) hlead
  have hreads : ReadsAsText [0x68, 0x69, 0xE2, 0x82] :=
    ⟨['h', 'i'], [0xE2, 0x82], by decide, ⟨'€', by decide, by decide⟩, by decide, by decide⟩
  rcases htext.mpr hreads with h | h
  · exact absurd (honly.mp h).2 hxml
  · exact h

end AttachmentIntake.Signature
