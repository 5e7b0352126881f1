import AttachmentIntake.Proofs.Bytes
import AttachmentIntake.Proofs.Validation

/-! Which content is of which category, told by its bytes alone. Images are known by their magic
number. A PDF document is known by the percent sign that comes first behind any blanks, unless the
bytes in front make it a still image. -/

namespace AttachmentIntake

namespace Signature

/-- The magic number of PDF documents, `%PDF-`. -/
def pdfMark : List UInt8 := [0x25, 0x50, 0x44, 0x46, 0x2D]

example : pdfMark = Bytes.ascii "%PDF-" := by decide

/-- The magic number of JPEG images. -/
def jpegMark : List UInt8 := [0xFF, 0xD8, 0xFF]

/-- The magic number of PNG images. -/
def pngMark : List UInt8 := [0x89, 0x50, 0x4E, 0x47, 0x0D, 0x0A, 0x1A, 0x0A]

/-- Space, tab, line feed, form feed and carriage return. -/
def blanks : List UInt8 := [0x20, 0x09, 0x0A, 0x0C, 0x0D]

/-- The first byte behind any blanks is a percent sign. -/
def LeadsWithPercent (bytes : List UInt8) : Prop :=
  ∃ before after, bytes = before ++ 0x25 :: after ∧ ∀ b ∈ before, b ∈ blanks

/-- A brand of still images stands behind the type mark at offset 4. -/
def CarriesBrand (bytes : List UInt8) : Prop :=
  ∃ size brand after, bytes = size ++ Bytes.ascii "ftyp" ++ Bytes.ascii brand ++ after ∧
    size.length = 4 ∧ brand ∈ ["heic", "heix", "hevc", "heim", "mif1", "msf1"]

variable {bytes expected : List UInt8} {offset : Nat} {b : UInt8} {content : ByteArray}

/-! ### Magic numbers -/

@[simp]
theorem holdsAt_iff : holdsAt offset expected bytes = true ↔ expected <+: bytes.drop offset :=
  List.isPrefixOf_iff_prefix

/-- What the first twelve bytes tell is told by all of them. -/
theorem holdsAt_take {n : Nat} (h : offset + expected.length ≤ n) :
    holdsAt offset expected (bytes.take n) = holdsAt offset expected bytes := by
  rw [Bool.eq_iff_iff, holdsAt_iff, holdsAt_iff, List.drop_take, List.prefix_take_iff]
  exact and_iff_left (by omega)

theorem length_of_mem_heicBrands : ∀ brand ∈ heicBrands, brand.length = 4 := by decide

theorem isHeic_take : isHeic (bytes.take 12) = isHeic bytes := by
  have hbrands : (heicBrands.any fun brand => holdsAt 8 brand (bytes.take 12)) =
      heicBrands.any fun brand => holdsAt 8 brand bytes := by
    rw [Bool.eq_iff_iff, List.any_eq_true, List.any_eq_true]
    refine exists_congr fun brand => and_congr_right fun hbrand => ?_
    rw [holdsAt_take (by rw [length_of_mem_heicBrands brand hbrand])]
  rw [isHeic, isHeic, hbrands, holdsAt_take (by decide)]

theorem ofMagic?_take : ofMagic? (bytes.take 12) = ofMagic? bytes := by
  unfold ofMagic?
  rw [isHeic_take]
  repeat rw [holdsAt_take]
  all_goals decide

theorem heicBrands_eq :
    heicBrands = ["heic", "heix", "hevc", "heim", "mif1", "msf1"].map Bytes.ascii := by decide

theorem isHeic_iff : isHeic bytes = true ↔ CarriesBrand bytes := by
  have htype : Bytes.ascii "ftyp" = [0x66, 0x74, 0x79, 0x70] := by decide
  rw [isHeic, Bool.and_eq_true, List.any_eq_true, holdsAt_iff, heicBrands_eq, ← htype]
  simp only [holdsAt_iff, List.mem_map]
  constructor
  · rintro ⟨⟨rest, hrest⟩, _, ⟨brand, hbrand, rfl⟩, after, hafter⟩
    have hlater : bytes.drop 8 = rest := by
      rw [← List.drop_drop (i := 4), ← hrest, htype]
      rfl
    have hlength : 4 ≤ bytes.length := by
      have hlength := congrArg List.length hrest
      rw [List.length_append, List.length_drop, htype] at hlength
      simp only [List.length_cons, List.length_nil] at hlength
      omega
    refine ⟨bytes.take 4, brand, after, ?_, List.length_take_of_le hlength, hbrand⟩
    rw [List.append_assoc, hafter, hlater, List.append_assoc, hrest, List.take_append_drop]
  · rintro ⟨size, brand, after, rfl, hsize, hbrand⟩
    have hmark : (size ++ Bytes.ascii "ftyp").length = 8 := by
      rw [List.length_append, hsize, htype]
      rfl
    refine ⟨?_, _, ⟨brand, hbrand, rfl⟩, ?_⟩
    · rw [List.append_assoc, List.append_assoc, List.drop_left' hsize]
      exact List.prefix_append _ _
    · rw [List.append_assoc, List.drop_left' hmark]
      exact List.prefix_append _ _

/-- What the bytes must be for a magic number of a signature. Those of most signatures do not matter
here, and some have none. -/
def Marked (bytes : List UInt8) : Signature → Prop
  | .pdf => pdfMark <+: bytes
  | .jpeg => jpegMark <+: bytes
  | .png => pngMark <+: bytes
  | .xml | .matlab | .plainText | .octetStream => False
  | _ => True

theorem marked_of_ite {c : Bool} {s t : Signature} {rest : Option Signature}
    (hc : c = true → Marked bytes s) (hrest : rest = some t → Marked bytes t)
    (h : (if c then some s else rest) = some t) : Marked bytes t := by
  cases c with
  | false => exact hrest h
  | true =>
    obtain rfl : s = t := Option.some.inj h
    exact hc rfl

theorem marked_of_ofMagic? {s : Signature} (h : ofMagic? bytes = some s) : Marked bytes s := by
  refine marked_of_ite holdsAt_iff.mp ?_ h
  refine marked_of_ite holdsAt_iff.mp ?_
  refine marked_of_ite holdsAt_iff.mp ?_
  repeat refine marked_of_ite (fun _ => trivial) ?_
  nofun

theorem ofMagic?_of_jpegMark (h : jpegMark <+: bytes) : ofMagic? bytes = some .jpeg := by
  obtain ⟨rest, rfl⟩ := h
  rfl

theorem ofMagic?_of_pngMark (h : pngMark <+: bytes) : ofMagic? bytes = some .png := by
  obtain ⟨rest, rfl⟩ := h
  rfl

/-! ### The first byte -/

/-- Of all magic numbers, only that of PDF documents and the one with a wildcard in front go with a
blank or a percent sign as the first byte. -/
theorem ofMagic?_of_head (h : bytes.head? = some b) (hb : b ∈ 0x25 :: blanks) :
    ofMagic? bytes =
      if holdsAt 0 pdfMark bytes then some .pdf
      else if isHeic bytes then some .heic else none := by
  obtain ⟨rest, rfl⟩ := List.head?_eq_some_iff.mp h
  have hfirst {x : UInt8} {expected : List UInt8} (hx : x ∉ 0x25 :: blanks) :
      holdsAt 0 (x :: expected) (b :: rest) = false := by
    rw [Bool.eq_false_iff, ne_eq, holdsAt_iff, List.drop_zero, List.cons_prefix_cons]
    rintro ⟨rfl, -⟩
    exact hx hb
  refine ite_congr rfl (fun _ => rfl) fun _ => ?_
  repeat rw [hfirst]
  · rfl
  all_goals decide

theorem leadsWithPercent_iff :
    LeadsWithPercent bytes ↔ (bytes.dropWhile isBlank).take 1 = [0x25] := by
  have hblank (b : UInt8) : isBlank b = true ↔ b ∈ blanks := by simp [isBlank, blanks, or_assoc]
  constructor
  · rintro ⟨before, after, rfl, hbefore⟩
    rw [List.dropWhile_append_of_pos fun b hb => (hblank b).mpr (hbefore b hb)]
    rfl
  · intro h
    refine ⟨bytes.takeWhile isBlank, (bytes.dropWhile isBlank).drop 1, ?_, fun b hb => ?_⟩
    · calc bytes = bytes.takeWhile isBlank ++ bytes.dropWhile isBlank :=
            List.takeWhile_append_dropWhile.symm
        _ = bytes.takeWhile isBlank ++ ([0x25] ++ (bytes.dropWhile isBlank).drop 1) := by
            rw [← h, List.take_append_drop]
    · exact (hblank b).mp (List.mem_takeWhile_imp hb)

theorem LeadsWithPercent.head (h : LeadsWithPercent bytes) :
    ∃ b ∈ 0x25 :: blanks, bytes.head? = some b := by
  obtain ⟨before, after, rfl, hbefore⟩ := h
  cases before with
  | nil => exact ⟨0x25, List.mem_cons_self, rfl⟩
  | cons b before => exact ⟨b, List.mem_cons_of_mem _ (hbefore b List.mem_cons_self), rfl⟩

/-! ### Detection -/

/-- What content without a magic number is taken for. -/
def textual : List Signature := [.matlab, .xml, .plainText, .octetStream]

@[simp] theorem ofText_mem (content : ByteArray) : ofText content ∈ textual := by
  simp only [ofText]
  split_ifs <;> decide

theorem ofText_eq_matlab_iff : ofText content = .matlab ↔ LeadsWithPercent content.data.toList := by
  rw [leadsWithPercent_iff, ← Bytes.slice_runEnd]
  simp only [ofText]
  split_ifs with h
  · exact iff_of_true rfl h
  all_goals exact iff_of_false nofun h

theorem sniff_eq (content : ByteArray) :
    sniff content = (ofMagic? content.data.toList).getD
      (if content.size = 0 then .octetStream else ofText content) := by
  rw [sniff, Bytes.slice_eq, List.drop_zero, Nat.sub_zero, ofMagic?_take]
  cases ofMagic? content.data.toList <;> rfl

theorem sniff_of_ofMagic? {s : Signature} (h : ofMagic? content.data.toList = some s) :
    sniff content = s := by
  rw [sniff_eq, h, Option.getD_some]

theorem ofMagic?_of_sniff {s : Signature} (h : sniff content = s) (hs : s ∉ textual) :
    ofMagic? content.data.toList = some s := by
  rw [sniff_eq] at h
  cases hmagic : ofMagic? content.data.toList with
  | some t => rw [← h, hmagic, Option.getD_some]
  | none =>
    rw [hmagic, Option.getD_none] at h
    refine absurd ?_ hs
    rw [← h]
    split_ifs
    · decide
    · exact ofText_mem content

@[simp] theorem sniff_eq_jpeg_iff : sniff content = .jpeg ↔ jpegMark <+: content.data.toList :=
  ⟨fun h => marked_of_ofMagic? (ofMagic?_of_sniff h (by decide)),
    fun h => sniff_of_ofMagic? (ofMagic?_of_jpegMark h)⟩

@[simp] theorem sniff_eq_png_iff : sniff content = .png ↔ pngMark <+: content.data.toList :=
  ⟨fun h => marked_of_ofMagic? (ofMagic?_of_sniff h (by decide)),
    fun h => sniff_of_ofMagic? (ofMagic?_of_pngMark h)⟩

/-- With a percent sign in front, only the brand of a still image can make content anything but a
document. -/
theorem sniff_of_leadsWithPercent (h : LeadsWithPercent content.data.toList) :
    sniff content =
      if holdsAt 0 pdfMark content.data.toList then .pdf
      else if isHeic content.data.toList then .heic else .matlab := by
  obtain ⟨b, hb, hhead⟩ := h.head
  have hsize : content.size ≠ 0 := by
    rw [Bytes.size_eq_length, ne_eq, List.length_eq_zero_iff]
    intro hnil
    rw [hnil] at hhead
    cases hhead
  rw [sniff_eq, ofMagic?_of_head hhead hb, if_neg hsize, ofText_eq_matlab_iff.mpr h]
  split_ifs <;> rfl

theorem leadsWithPercent_of_sniff (h : sniff content = .pdf ∨ sniff content = .matlab) :
    LeadsWithPercent content.data.toList := by
  rcases h with h | h
  · obtain ⟨after, hafter⟩ : pdfMark <+: content.data.toList :=
      marked_of_ofMagic? (ofMagic?_of_sniff h (by decide))
    refine ⟨[], [0x50, 0x44, 0x46, 0x2D] ++ after, ?_, nofun⟩
    rw [← hafter]
    rfl
  · rw [sniff_eq] at h
    cases hmagic : ofMagic? content.data.toList with
    | some s =>
      rw [hmagic, Option.getD_some] at h
      rw [h] at hmagic
      exact (marked_of_ofMagic? hmagic).elim
    | none =>
      rw [hmagic, Option.getD_none] at h
      split_ifs at h
      exact ofText_eq_matlab_iff.mp h

@[simp] theorem resolve_eq_pdf_iff (s : Signature) : s.resolve = .pdf ↔ s = .pdf ∨ s = .matlab := by
  cases s <;> decide

theorem isHeic_of_pdfMark (h : pdfMark <+: bytes) : isHeic bytes = false := by
  obtain ⟨rest, rfl⟩ := h
  rfl

theorem resolve_sniff_eq_pdf_iff :
    (sniff content).resolve = .pdf ↔
      LeadsWithPercent content.data.toList ∧ ¬ CarriesBrand content.data.toList := by
  rw [resolve_eq_pdf_iff, ← isHeic_iff, Bool.not_eq_true]
  refine ⟨fun h => ⟨leadsWithPercent_of_sniff h, ?_⟩, fun ⟨hleads, hplain⟩ => ?_⟩
  · rw [sniff_of_leadsWithPercent (leadsWithPercent_of_sniff h)] at h
    by_cases hpdf : holdsAt 0 pdfMark content.data.toList = true
    · exact isHeic_of_pdfMark (holdsAt_iff.mp hpdf)
    · rw [if_neg hpdf] at h
      by_contra hheic
      rw [if_pos (Bool.not_eq_false _ ▸ hheic)] at h
      rcases h with h | h <;> cases h
  · rw [sniff_of_leadsWithPercent hleads, hplain]
    by_cases hpdf : holdsAt 0 pdfMark content.data.toList = true <;> simp [hpdf]

/-- Behind nothing but blanks, the mark of a document leaves no room for the brand of an image. -/
theorem not_carriesBrand_of_pdfMark {before after : List UInt8} (hbefore : before ⊆ blanks) :
    ¬ CarriesBrand (before ++ pdfMark ++ after) := by
  rintro ⟨size, brand, rest, hbytes, hsize, -⟩
  have hbrand : (before ++ pdfMark ++ after)[4]? = some 0x66 := by
    rw [hbytes, List.append_assoc, List.append_assoc, List.getElem?_append_right (by omega), hsize]
    rfl
  have hlength : 4 < (before ++ pdfMark).length := by
    rw [List.length_append, Nat.add_comm]
    exact Nat.lt_add_right _ (by decide)
  rw [List.getElem?_append_left hlength] at hbrand
  rcases List.mem_append.mp (List.mem_of_getElem? hbrand) with hmem | hmem
  · exact absurd (hbefore hmem) (by decide)
  · exact absurd hmem (by decide)

end Signature

namespace Validation

@[simp] theorem categoryOf_eq_jpeg_iff {data : ByteArray} :
    categoryOf data = .jpeg ↔ Signature.jpegMark <+: data.data.toList := by
  rw [categoryOf, Signature.category_resolve_eq_jpeg_iff, Signature.sniff_eq_jpeg_iff]

@[simp] theorem categoryOf_eq_png_iff {data : ByteArray} :
    categoryOf data = .png ↔ Signature.pngMark <+: data.data.toList := by
  rw [categoryOf, Signature.category_resolve_eq_png_iff, Signature.sniff_eq_png_iff]

@[simp] theorem categoryOf_eq_pdf_iff {data : ByteArray} : categoryOf data = .pdf ↔
    Signature.LeadsWithPercent data.data.toList ∧ ¬ Signature.CarriesBrand data.data.toList := by
  rw [categoryOf, Signature.category_resolve_eq_pdf_iff, Signature.resolve_sniff_eq_pdf_iff]

theorem categoryOf_eq_pdf_of_pdfMark {data : ByteArray} {before after : List UInt8}
    (h : data.data.toList = before ++ Signature.pdfMark ++ after)
    (hbefore : before ⊆ Signature.blanks) : categoryOf data = .pdf := by
  rw [categoryOf_eq_pdf_iff, h]
  refine ⟨⟨before, [0x50, 0x44, 0x46, 0x2D] ++ after, List.append_assoc _ _ _, hbefore⟩, ?_⟩
  exact Signature.not_carriesBrand_of_pdfMark hbefore

/-- Nothing is asked of what is taken for a document but that it passes the inspection. -/
theorem validate_outcome_of_pdf {name : String} {part : Part} (h : categoryOf part.data = .pdf) :
    (validate name part).1.outcome = (Pdf.inspect part.data).outcome := by
  rw [validate_fst, h]
  simp only [judge]
  generalize Pdf.inspect part.data = finding
  cases finding <;> rfl

/-- The category of content is read off its bytes. Whatever starts with the mark of a document,
blanks in front of it aside, is inspected as one. -/
theorem categoryOf_content (data : ByteArray) :
    (categoryOf data = .jpeg ↔ Signature.jpegMark <+: data.data.toList) ∧
    (categoryOf data = .png ↔ Signature.pngMark <+: data.data.toList) ∧
    (categoryOf data = .pdf ↔
      Signature.LeadsWithPercent data.data.toList ∧ ¬ Signature.CarriesBrand data.data.toList) ∧
    (categoryOf data = .unknown ↔
      ¬ Signature.jpegMark <+: data.data.toList ∧ ¬ Signature.pngMark <+: data.data.toList ∧
      ¬ (Signature.LeadsWithPercent data.data.toList ∧
        ¬ Signature.CarriesBrand data.data.toList)) ∧
    ∀ before after, data.data.toList = before ++ Signature.pdfMark ++ after →
      before ⊆ Signature.blanks →
        categoryOf data = .pdf ∧
        ∀ name (part : Part), part.data = data →
          (validate name part).1.outcome = (Pdf.inspect data).outcome := by
  refine ⟨categoryOf_eq_jpeg_iff, categoryOf_eq_png_iff, categoryOf_eq_pdf_iff, ?_, ?_⟩
  · rw [← categoryOf_eq_jpeg_iff, ← categoryOf_eq_png_iff, ← categoryOf_eq_pdf_iff]
    cases categoryOf data <;> decide
  · intro before after hdata hbefore
    have hpdf := categoryOf_eq_pdf_of_pdfMark hdata hbefore
    refine ⟨hpdf, fun name part hpart => ?_⟩
    rw [← hpart] at hpdf ⊢
    exact validate_outcome_of_pdf hpdf

end Validation

end AttachmentIntake
