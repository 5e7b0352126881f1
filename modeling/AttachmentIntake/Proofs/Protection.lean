import AttachmentIntake.Pdf.Inspection
import AttachmentIntake.Proofs.TrailerRegion

/-! What the search for keywords finds in a document that cannot be loaded, and what it makes of a
file of a single stream, whose content may hold the keywords itself. -/

namespace AttachmentIntake.Pdf

open Bytes (ascii OccursAt IsLast)

namespace Protection

variable {data : ByteArray}

/-! ### Regions by position -/

/-- Behind the last trailer keyword, an encryption dictionary is named. -/
def TrailerNames (bytes : List UInt8) : Prop :=
  ∃ start i, IsLast (ascii "trailer") bytes bytes.length start ∧ start ≤ i ∧
    OccursAt (ascii "/Encrypt") bytes i

/-- Around the last mark of a cross-reference stream, from the object keyword in front of it to the
first stream keyword behind it, an encryption dictionary is named. -/
def StreamNames (bytes : List UInt8) : Prop :=
  ∃ mark start i, IsLast (ascii "/XRef") bytes bytes.length mark ∧
    IsLast (ascii "obj") bytes mark start ∧ start ≤ i ∧ OccursAt (ascii "/Encrypt") bytes i ∧
    ∀ stop, mark ≤ stop → OccursAt (ascii "stream") bytes stop →
      i + (ascii "/Encrypt").length ≤ stop

/-- The search finds what the positions of the keywords tell. -/
theorem isDeclared_iff : isDeclared data = true ↔
    TrailerNames data.data.toList ∨
      ¬ ascii "trailer" <:+: data.data.toList ∧ StreamNames data.data.toList := by
  have hencrypt : ascii "/Encrypt" ≠ [] := by decide
  have hstream : ascii "stream" ≠ [] := by decide
  rw [isDeclared_iff_region]
  constructor
  · rintro ⟨start, stop, ⟨hstart⟩ | ⟨hnone, mark, hmark, hstart, hstop⟩, i, hi, hend, hoccurs⟩
    · exact .inl ⟨start, i, hstart, hi, hoccurs⟩
    · exact .inr ⟨hnone, mark, start, i, hmark, hstart, hi, hoccurs,
        ((hstop.le_iff hstream).mp hend).2⟩
  · rintro (⟨start, i, hstart, hi, hoccurs⟩ |
      ⟨hnone, mark, start, i, hmark, hstart, hi, hoccurs, hbefore⟩)
    · exact ⟨start, _, .trailer hstart, i, hi, hoccurs.add_length_le hencrypt, hoccurs⟩
    · obtain ⟨stop, hstop⟩ := Bytes.exists_endsAt hstream data.data.toList mark
      refine ⟨start, stop, .dictionary hnone ⟨mark, hmark, hstart, hstop⟩, i, hi, ?_, hoccurs⟩
      exact (hstop.le_iff hstream).mpr ⟨hoccurs.add_length_le hencrypt, hbefore⟩

/-! ### A file of a single stream -/

/-- What stands in front of the content of a stream, less the line feed. -/
def opening (length : Int) : List UInt8 :=
  ascii "%PDF-1.4\n1 0 obj\n<< /Length " ++ ascii (toString length) ++ ascii " >>\nstream"

/-- A file of one object, a stream, with no trailer and no cross-reference stream. -/
def streamFile (length : Int) (content : List UInt8) : ByteArray :=
  ⟨(opening length ++ ascii "\n" ++ content ++ ascii "\nendstream").toArray⟩

/-- Around the last mark of a cross-reference stream, between the keywords next to it if there are
any, an encryption dictionary is named. -/
def InnerNames (content : List UInt8) : Prop :=
  ∃ mark i, IsLast (ascii "/XRef") content content.length mark ∧
    (∀ start, OccursAt (ascii "obj") content start →
      start + (ascii "obj").length ≤ mark → start ≤ i) ∧
    OccursAt (ascii "/Encrypt") content i ∧
    ∀ stop, mark ≤ stop → OccursAt (ascii "stream") content stop →
      i + (ascii "/Encrypt").length ≤ stop

/-- The content of a stream passes for the trailer of its file, or for the dictionary of a
cross-reference stream, and names an encryption dictionary. -/
def Misleads (content : List UInt8) : Prop :=
  TrailerNames content ∨ ¬ ascii "trailer" <:+: content ∧ InnerNames content

variable {length : Int} {content pattern : List UInt8} {i k : Nat}

theorem toList_streamFile : (streamFile length content).data.toList =
    opening length ++ 0x0A :: (content ++ 0x0A :: ascii "endstream") := by
  have hline : ascii "\n" = [0x0A] := by decide
  have hend : ascii "\nendstream" = 0x0A :: ascii "endstream" := by decide
  rw [streamFile, hline, hend, List.append_assoc, List.append_assoc, List.singleton_append]

theorem lt_of_mem_toString {c : Char} (hc : c ∈ (toString length).toList) : c.toNat < 0x3A := by
  have hdigits {n : Nat} (hn : c ∈ n.repr.toList) : c.toNat < 0x3A := by
    rw [Nat.toList_repr] at hn
    have hdigit := Nat.isDigit_of_mem_toDigits (by decide) (by decide) hn
    exact Nat.lt_succ_of_le (Char.isDigit_iff_toNat.mp hdigit).2
  rw [Int.toString_eq_repr, Int.repr_eq_if] at hc
  split at hc
  next => exact hdigits hc
  next =>
    rw [String.toList_append, List.mem_append] at hc
    rcases hc with hc | hc
    · obtain rfl : c = '-' := by simpa using hc
      decide
    · exact hdigits hc

theorem toNat_lt_of_mem_toString : ∀ b ∈ ascii (toString length), b.toNat < 0x3A := by
  intro b hb
  obtain ⟨c, hc, rfl⟩ := List.mem_map.mp hb
  have hlt := lt_of_mem_toString hc
  rw [Nat.toUInt8_eq, UInt8.toNat_ofNat']
  omega

/-- A keyword with a letter in it stands in the opening only if it stands in the fixed text. -/
theorem infix_opening_iff (hspace : 0x20 ∉ pattern) (hletter : ∃ b ∈ pattern, 0x3A ≤ b.toNat) :
    pattern <:+: opening length ↔
      pattern <:+: ascii "%PDF-1.4\n1 0 obj\n<< /Length" ∨ pattern <:+: ascii ">>\nstream" := by
  obtain ⟨b, hb, hletter⟩ := hletter
  have hne : pattern ≠ [] := List.ne_nil_of_mem hb
  have hnumber : ¬ pattern <:+: ascii (toString length) := by
    intro h
    have hlt := toNat_lt_of_mem_toString b (h.subset hb)
    omega
  have hopening : opening length = ascii "%PDF-1.4\n1 0 obj\n<< /Length" ++
      0x20 :: (ascii (toString length) ++ 0x20 :: ascii ">>\nstream") := by
    have hfront : ascii "%PDF-1.4\n1 0 obj\n<< /Length " =
        ascii "%PDF-1.4\n1 0 obj\n<< /Length" ++ [0x20] := by decide
    have hback : ascii " >>\nstream" = 0x20 :: ascii ">>\nstream" := by decide
    rw [opening, hfront, hback, List.append_assoc, List.append_assoc, List.singleton_append]
  rw [hopening, Bytes.infix_append_cons_iff hspace hne, Bytes.infix_append_cons_iff hspace hne,
    or_iff_right hnumber]

theorem occursAt_opening : OccursAt (ascii "obj") (opening length) 13 := by
  rw [opening, List.append_assoc]
  refine (Bytes.occursAt_append_left ?_).mpr ?_
  · decide
  · unfold OccursAt
    decide

/-- Where the content of the stream starts. -/
def offset (length : Int) : Nat := (opening length).length + 1

theorem occursAt_streamFile_iff (hline : 0x0A ∉ pattern) (hpattern : pattern ≠ []) :
    OccursAt pattern (streamFile length content).data.toList i ↔
      OccursAt pattern (opening length) i ∨
        ∃ k, i = offset length + k ∧
          (OccursAt pattern content k ∨
            ∃ m, k = content.length + 1 + m ∧ OccursAt pattern (ascii "endstream") m) := by
  simp only [toList_streamFile, Bytes.occursAt_append_cons_iff hline hpattern, offset]

/-- A keyword that the fixed text of the file does not hold. -/
structure Foreign (pattern : List UInt8) : Prop where
  ne_nil : pattern ≠ []
  oneLine : 0x0A ∉ pattern
  not_opening : ∀ length, ¬ pattern <:+: opening length
  not_closing : ¬ pattern <:+: ascii "endstream"

theorem foreign_of (hspace : 0x20 ∉ pattern) (hline : 0x0A ∉ pattern)
    (hletter : ∃ b ∈ pattern, 0x3A ≤ b.toNat)
    (habsent : ∀ text ∈ ["%PDF-1.4\n1 0 obj\n<< /Length", ">>\nstream", "endstream"],
      ¬ pattern <:+: ascii text) : Foreign pattern where
  ne_nil := by
    obtain ⟨b, hb, -⟩ := hletter
    exact List.ne_nil_of_mem hb
  oneLine := hline
  not_opening length := by
    rw [infix_opening_iff hspace hletter, not_or]
    exact ⟨habsent _ (by decide), habsent _ (by decide)⟩
  not_closing := habsent _ (by decide)

theorem foreign_trailer : Foreign (ascii "trailer") :=
  foreign_of (by decide) (by decide) (by decide) (by decide)

theorem foreign_xref : Foreign (ascii "/XRef") :=
  foreign_of (by decide) (by decide) (by decide) (by decide)

theorem foreign_encrypt : Foreign (ascii "/Encrypt") :=
  foreign_of (by decide) (by decide) (by decide) (by decide)

theorem Foreign.occursAt_iff (h : Foreign pattern) :
    OccursAt pattern (streamFile length content).data.toList i ↔
      ∃ k, i = offset length + k ∧ OccursAt pattern content k := by
  have hopening := mt Bytes.infix_iff_occursAt.mpr (h.not_opening length)
  have hclosing := mt Bytes.infix_iff_occursAt.mpr h.not_closing
  rw [occursAt_streamFile_iff h.oneLine h.ne_nil, or_iff_right fun hi => hopening ⟨i, hi⟩]
  refine exists_congr fun k => and_congr_right fun _ => or_iff_left ?_
  rintro ⟨m, -, hm⟩
  exact hclosing ⟨m, hm⟩

theorem occursAt_streamFile (length : Int) (hline : 0x0A ∉ pattern) (hpattern : pattern ≠ [])
    (hk : OccursAt pattern content k) :
    OccursAt pattern (streamFile length content).data.toList (offset length + k) :=
  (occursAt_streamFile_iff hline hpattern).mpr (.inr ⟨k, rfl, .inl hk⟩)

theorem Foreign.infix_iff (h : Foreign pattern) :
    pattern <:+: (streamFile length content).data.toList ↔ pattern <:+: content := by
  simp only [Bytes.infix_iff_occursAt, h.occursAt_iff]
  exact ⟨fun ⟨_, k, _, hk⟩ => ⟨k, hk⟩, fun ⟨k, hk⟩ => ⟨_, k, rfl, hk⟩⟩

theorem Foreign.isLast_iff (h : Foreign pattern) :
    IsLast pattern (streamFile length content).data.toList
        (streamFile length content).data.toList.length i ↔
      ∃ k, i = offset length + k ∧ IsLast pattern content content.length k := by
  constructor
  · rintro ⟨-, hoccurs, hlast⟩
    obtain ⟨k, rfl, hk⟩ := h.occursAt_iff.mp hoccurs
    refine ⟨k, rfl, hk.add_length_le h.ne_nil, hk, fun j hj _ => ?_⟩
    have hfile := occursAt_streamFile length h.oneLine h.ne_nil hj
    have hle := hlast _ hfile (hfile.add_length_le h.ne_nil)
    omega
  · rintro ⟨k, rfl, -, hk, hlast⟩
    have hfile := occursAt_streamFile length h.oneLine h.ne_nil hk
    refine ⟨hfile.add_length_le h.ne_nil, hfile, fun j hj _ => ?_⟩
    obtain ⟨m, rfl, hm⟩ := h.occursAt_iff.mp hj
    have hle := hlast m hm (hm.add_length_le h.ne_nil)
    omega

theorem trailerNames_streamFile_iff :
    TrailerNames (streamFile length content).data.toList ↔ TrailerNames content := by
  unfold TrailerNames
  simp only [foreign_trailer.isLast_iff, foreign_encrypt.occursAt_iff]
  constructor
  · rintro ⟨_, _, ⟨start, rfl, hstart⟩, hle, i, rfl, hi⟩
    exact ⟨start, i, hstart, by omega, hi⟩
  · rintro ⟨start, i, hstart, hle, hi⟩
    exact ⟨_, _, ⟨start, rfl, hstart⟩, by omega, i, rfl, hi⟩

theorem streamNames_streamFile_iff :
    StreamNames (streamFile length content).data.toList ↔ InnerNames content := by
  have hobj : 0x0A ∉ ascii "obj" ∧ ascii "obj" ≠ [] := by decide
  have hstream : 0x0A ∉ ascii "stream" ∧ ascii "stream" ≠ [] := by decide
  constructor
  · rintro ⟨_, start, _, hmarkFile, hstart, hle, hiFile, hstop⟩
    obtain ⟨mark, rfl, hmark⟩ := foreign_xref.isLast_iff.mp hmarkFile
    obtain ⟨i, rfl, hi⟩ := foreign_encrypt.occursAt_iff.mp hiFile
    refine ⟨mark, i, hmark, fun inner hinner hend => ?_, hi, fun inner hinner hoccurs => ?_⟩
    · have hlast := hstart.last _ (occursAt_streamFile length hobj.1 hobj.2 hinner) (by omega)
      omega
    · have hbefore := hstop _ (by omega) (occursAt_streamFile length hstream.1 hstream.2 hoccurs)
      omega
  · rintro ⟨mark, i, hmark, hinner, hi, hstop⟩
    have hmarkEnd := hmark.ends
    have hiEnd := hi.add_length_le foreign_encrypt.ne_nil
    have hfirst : OccursAt (ascii "obj") (opening length) 13 := occursAt_opening
    have hfirstEnd := hfirst.add_length_le hobj.2
    -- the object keyword of the opening, if there is none in the content
    have hbound : 13 + (ascii "obj").length ≤ offset length + mark := by
      unfold offset
      omega
    obtain ⟨start, hstart⟩ := Bytes.exists_isLast hobj.2
      ((occursAt_streamFile_iff hobj.1 hobj.2).mpr (.inl hfirst)) hbound
    have hstartEnd := hstart.ends
    refine ⟨_, start, _, foreign_xref.isLast_iff.mpr ⟨mark, rfl, hmark⟩, hstart, ?_,
      foreign_encrypt.occursAt_iff.mpr ⟨i, rfl, hi⟩, fun stop hle hoccurs => ?_⟩
    · rcases (occursAt_streamFile_iff hobj.1 hobj.2).mp hstart.occurs with
        h | ⟨k, rfl, h | ⟨m, rfl, -⟩⟩
      · have hopening := h.add_length_le hobj.2
        unfold offset
        omega
      · have hle := hinner k h (by omega)
        omega
      · omega
    · rcases (occursAt_streamFile_iff hstream.1 hstream.2).mp hoccurs with
        h | ⟨k, rfl, h | ⟨m, rfl, -⟩⟩
      · have hopening := h.add_length_le hstream.2
        unfold offset at hle
        omega
      · have hbefore := hstop k (by omega) h
        omega
      · omega

/-- Of a file of a single stream, the content alone decides. -/
theorem isDeclared_streamFile_iff (length : Int) :
    isDeclared (streamFile length content) = true ↔ Misleads content := by
  rw [isDeclared_iff, trailerNames_streamFile_iff, foreign_trailer.infix_iff,
    streamNames_streamFile_iff, Misleads]

/-- Content without either of the keywords that start a region misleads nobody. -/
theorem not_misleads (htrailer : ¬ ascii "trailer" <:+: content)
    (hxref : ¬ ascii "/XRef" <:+: content) : ¬ Misleads content := by
  rw [Bytes.infix_iff_occursAt] at htrailer hxref
  rintro (⟨start, -, hstart, -⟩ | ⟨-, mark, -, hmark, -⟩)
  · exact htrailer ⟨start, hstart.occurs⟩
  · exact hxref ⟨mark, hmark.occurs⟩

theorem outcome_inspect_of_load? (h : Document.load? data = none) :
    (inspect data).outcome =
      if isDeclared data then .pdfIsEncrypted else .couldNotLoadDocument := by
  unfold inspect
  generalize isDeclared data = declared
  rw [h]
  cases declared <;> rfl

end Protection

open Protection in
/-- A file of a single stream that cannot be loaded is found to be encrypted exactly if the content
of the stream misleads the search. -/
theorem inspect_streamFile (length : Int) (content : List UInt8)
    (h : Document.load? (streamFile length content) = none) :
    ((inspect (streamFile length content)).outcome = .couldNotLoadDocument ↔ ¬ Misleads content) ∧
    ((inspect (streamFile length content)).outcome = .pdfIsEncrypted ↔ Misleads content) := by
  rw [← isDeclared_streamFile_iff length, outcome_inspect_of_load? h]
  by_cases hdeclared : isDeclared (streamFile length content) = true <;> simp [hdeclared]

open Protection in
theorem inspect_streamFile_sample :
    (Document.load? (streamFile 20 (ascii "(trailer /Encrypt) Tj")) = none ∧
      Misleads (ascii "(trailer /Encrypt) Tj") ∧
      (inspect (streamFile 20 (ascii "(trailer /Encrypt) Tj"))).outcome = .pdfIsEncrypted) ∧
    Document.load? (streamFile 20 (ascii "(/Encrypt) Tj")) = none ∧
      ¬ Misleads (ascii "(/Encrypt) Tj") ∧
      (inspect (streamFile 20 (ascii "(/Encrypt) Tj"))).outcome = .couldNotLoadDocument := by
  have hlocked : Document.load? (streamFile 20 (ascii "(trailer /Encrypt) Tj")) = none := by
    rw [← Option.isNone_iff_eq_none]
    decide +kernel
  have hunreadable : Document.load? (streamFile 20 (ascii "(/Encrypt) Tj")) = none := by
    rw [← Option.isNone_iff_eq_none]
    decide +kernel
  have hfound : Bytes.findLast? (ascii "trailer") ⟨(ascii "(trailer /Encrypt) Tj").toArray⟩ 21 =
      some 1 := by decide +kernel
  have hlast : IsLast (ascii "trailer") (ascii "(trailer /Encrypt) Tj") 21 1 :=
    (Bytes.findLast?_eq_some_iff (by decide)).mp hfound
  have hmisleads : Misleads (ascii "(trailer /Encrypt) Tj") := by
    refine .inl ⟨1, 9, hlast, by decide, ?_⟩
    unfold OccursAt
    decide
  have hplain : ¬ Misleads (ascii "(/Encrypt) Tj") := not_misleads (by decide) (by decide)
  exact ⟨⟨hlocked, hmisleads, (inspect_streamFile 20 _ hlocked).2.mpr hmisleads⟩,
    hunreadable, hplain, (inspect_streamFile 20 _ hunreadable).1.mpr hplain⟩

end AttachmentIntake.Pdf
