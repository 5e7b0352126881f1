import AttachmentIntake.Pdf.Protection
import AttachmentIntake.Proofs.Basic
import AttachmentIntake.Proofs.Bytes

/-! Where the search for an encryption dictionary looks, told by the positions of the keywords. The
same search made on slices stays inside the content, and what stands in front of the last trailer
decides nothing. -/

namespace AttachmentIntake.Pdf.Protection

open Bytes (ascii OccursAt IsLast EndsAt)

/-- What stands around the last mark of a cross-reference stream, from the object keyword in front
of it to the first stream keyword behind it. -/
inductive Dictionary (bytes : List UInt8) (start stop : Nat) : Prop
  | around (mark : Nat) (hmark : IsLast (ascii "/XRef") bytes bytes.length mark)
      (hstart : IsLast (ascii "obj") bytes mark start)
      (hstop : EndsAt (ascii "stream") bytes mark stop)

/-- What is taken for the trailer: all from the last trailer keyword on or, without one, the
dictionary of a cross-reference stream. -/
inductive Region (bytes : List UInt8) : Nat → Nat → Prop
  | trailer {start : Nat} (hstart : IsLast (ascii "trailer") bytes bytes.length start) :
      Region bytes start bytes.length
  | dictionary {start stop : Nat} (hnone : ¬ ascii "trailer" <:+: bytes)
      (h : Dictionary bytes start stop) : Region bytes start stop

variable {data : ByteArray} {bytes before after : List UInt8} {start stop : Nat}

/-- The mark of a cross-reference stream stands between the two ends of its dictionary. -/
theorem Dictionary.bounds (h : Dictionary bytes start stop) :
    start ≤ stop ∧ stop ≤ bytes.length := by
  obtain ⟨mark, hmark, hstart, hstop⟩ := h
  have hmarkEnd := hmark.ends
  have hstartEnd := hstart.ends
  cases hstop with
  | first hle hoccurs _ =>
    have hstopEnd := hoccurs.add_length_le (by decide)
    exact ⟨by omega, by omega⟩
  | never _ => exact ⟨by omega, Nat.le_refl _⟩

theorem Region.bounds (h : Region bytes start stop) : start ≤ stop ∧ stop ≤ bytes.length := by
  cases h with
  | trailer hstart => exact ⟨Nat.le_of_add_right_le hstart.ends, Nat.le_refl _⟩
  | dictionary _ h => exact h.bounds

theorem streamRegion?_eq_some_iff :
    streamRegion? data = some (start, stop) ↔ Dictionary data.data.toList start stop := by
  rw [streamRegion?]
  cases hmark : Bytes.findLast? (ascii "/XRef") data data.size with
  | none =>
    rw [Bytes.findLast?_size_eq_none_iff (by decide)] at hmark
    refine iff_of_false nofun ?_
    rintro ⟨mark, hlast, -, -⟩
    exact hmark (Bytes.infix_iff_occursAt.mpr ⟨mark, hlast.occurs⟩)
  | some mark =>
    rw [Bytes.findLast?_eq_some_iff (by decide), Bytes.size_eq_length] at hmark
    simp only [Option.map_eq_some_iff, Prod.mk.injEq,
      Bytes.findLast?_eq_some_iff (show ascii "obj" ≠ [] by decide),
      Bytes.getD_find?_eq_iff (show ascii "stream" ≠ [] by decide)]
    constructor
    · rintro ⟨_, hstart, rfl, hstop⟩
      exact ⟨mark, hmark, hstart, hstop⟩
    · rintro ⟨mark', hmark', hstart, hstop⟩
      rw [← hmark.unique hmark'] at hstart hstop
      exact ⟨start, hstart, rfl, hstop⟩

theorem trailerRegion?_eq_some_iff :
    trailerRegion? data = some (start, stop) ↔ Region data.data.toList start stop := by
  rw [trailerRegion?]
  cases hlast : Bytes.findLast? (ascii "trailer") data data.size with
  | some first =>
    rw [Bytes.findLast?_eq_some_iff (by decide), Bytes.size_eq_length] at hlast
    rw [Option.some.injEq, Prod.mk.injEq, Bytes.size_eq_length]
    constructor
    · rintro ⟨rfl, rfl⟩
      exact .trailer hlast
    · rintro (⟨hstart⟩ | ⟨hnone, -⟩)
      · exact ⟨hlast.unique hstart, rfl⟩
      · exact absurd (Bytes.infix_iff_occursAt.mpr ⟨first, hlast.occurs⟩) hnone
  | none =>
    rw [Bytes.findLast?_size_eq_none_iff (by decide)] at hlast
    rw [streamRegion?_eq_some_iff]
    constructor
    · exact .dictionary hlast
    · rintro (⟨hstart⟩ | ⟨-, hdictionary⟩)
      · exact absurd (Bytes.infix_iff_occursAt.mpr ⟨start, hstart.occurs⟩) hlast
      · exact hdictionary

/-- The content between the ends of a region. -/
def contentOf (data : ByteArray) (region : Nat × Nat) : ByteArray :=
  data.extract region.1 region.2

/-- A region names an encryption dictionary: the keyword stands wholly inside it. -/
def NamesInside (bytes : List UInt8) (start stop : Nat) : Prop :=
  ∃ i, start ≤ i ∧ i + (ascii "/Encrypt").length ≤ stop ∧ OccursAt (ascii "/Encrypt") bytes i

theorem isDeclared_iff_region : isDeclared data = true ↔
    ∃ start stop, Region data.data.toList start stop ∧ NamesInside data.data.toList start stop := by
  have hencrypt : ascii "/Encrypt" ≠ [] := by decide
  simp only [NamesInside, ← Bytes.isSome_find?_iff hencrypt, ← trailerRegion?_eq_some_iff,
    isDeclared]
  cases trailerRegion? data with
  | none => simp
  | some region =>
    obtain ⟨first, last⟩ := region
    simp

/-! ### The same search on slices -/

namespace Checked

/-- A slice from one position to another is no part of content of this size. -/
structure OutOfRange where
  start : Nat
  stop : Nat
  size : Nat

/-- The content between two positions, which must be in order and lie inside it. -/
def slice (content : ByteArray) (start stop : Nat) : Except OutOfRange ByteArray :=
  if start ≤ stop ∧ stop ≤ content.size then .ok (content.extract start stop)
  else .error { start, stop, size := content.size }

def first? (pattern : List UInt8) (content : ByteArray) : Option Nat :=
  Bytes.find? pattern content 0 content.size

def last? (pattern : List UInt8) (content : ByteArray) : Option Nat :=
  Bytes.findLast? pattern content content.size

/-- The dictionary of the last cross-reference stream. The keywords around the mark are looked for
in the slices on its two sides, and the second one is found at a position counted from the mark. -/
def dictionary? (data : ByteArray) : Except OutOfRange (Option ByteArray) :=
  match last? (ascii "/XRef") data with
  | none => .ok none
  | some mark => do
    let front ← slice data 0 mark
    match last? (ascii "obj") front with
    | none => return none
    | some start =>
      let back ← slice data mark data.size
      let stop := ((first? (ascii "stream") back).map (mark + ·)).getD data.size
      return some (← slice data start stop)

def region? (data : ByteArray) : Except OutOfRange (Option ByteArray) :=
  match last? (ascii "trailer") data with
  | some start => return some (← slice data start data.size)
  | none => dictionary? data

def isDeclared (data : ByteArray) : Except OutOfRange Bool := do
  let region ← region? data
  return region.any fun trailer => (first? (ascii "/Encrypt") trailer).isSome

variable {content : ByteArray} {pattern : List UInt8}

theorem slice_of_le (h : start ≤ stop) (h' : stop ≤ content.size) :
    slice content start stop = .ok (content.extract start stop) := if_pos ⟨h, h'⟩

theorem size_extract (h : stop ≤ content.size) : (content.extract start stop).size = stop - start := by
  rw [ByteArray.size_extract, Nat.min_eq_left h]

theorem first?_extract (hpattern : pattern ≠ []) (h : stop ≤ content.size) :
    (first? pattern (content.extract start stop)).map (start + ·) =
      Bytes.find? pattern content start stop := by
  rw [first?, size_extract h, Bytes.find?_extract hpattern]

theorem last?_extract (hpattern : pattern ≠ []) (h : stop ≤ content.size) :
    last? pattern (content.extract 0 stop) = Bytes.findLast? pattern content stop := by
  rw [last?, size_extract h, Nat.sub_zero, Bytes.findLast?_extract hpattern]

theorem dictionary?_eq (data : ByteArray) :
    dictionary? data = .ok ((streamRegion? data).map (contentOf data)) := by
  rw [dictionary?, last?]
  cases hmark : Bytes.findLast? (ascii "/XRef") data data.size with
  | none =>
    rw [streamRegion?, hmark]
    rfl
  | some mark =>
    have hregion : streamRegion? data = (Bytes.findLast? (ascii "obj") data mark).map fun start =>
        (start, (Bytes.find? (ascii "stream") data mark data.size).getD data.size) := by
      rw [streamRegion?, hmark]
    have hsize : mark ≤ data.size :=
      Nat.le_of_add_right_le ((Bytes.findLast?_eq_some_iff (by decide)).mp hmark).ends
    refine bind_eq_ok_iff.mpr ⟨_, slice_of_le (Nat.zero_le mark) hsize, ?_⟩
    rw [last?_extract (by decide) hsize]
    cases hstart : Bytes.findLast? (ascii "obj") data mark with
    | none =>
      rw [hregion, hstart]
      rfl
    | some start =>
      rw [hstart, Option.map_some] at hregion
      refine bind_eq_ok_iff.mpr ⟨_, slice_of_le hsize (Nat.le_refl _), ?_⟩
      rw [first?_extract (by decide) (Nat.le_refl _)]
      obtain ⟨hle, hstop⟩ := (streamRegion?_eq_some_iff.mp hregion).bounds
      rw [← Bytes.size_eq_length] at hstop
      refine bind_eq_ok_iff.mpr ⟨_, slice_of_le hle hstop, ?_⟩
      rw [hregion]
      rfl

/-- No slice is out of range, and the last one is the region between its two positions. -/
theorem region?_eq (data : ByteArray) :
    region? data = .ok ((trailerRegion? data).map (contentOf data)) := by
  rw [region?, trailerRegion?, last?]
  cases hlast : Bytes.findLast? (ascii "trailer") data data.size with
  | none => exact dictionary?_eq data
  | some start =>
    have hsize : start ≤ data.size :=
      Nat.le_of_add_right_le ((Bytes.findLast?_eq_some_iff (by decide)).mp hlast).ends
    exact bind_eq_ok_iff.mpr ⟨_, slice_of_le hsize (Nat.le_refl _), rfl⟩

theorem isDeclared_eq (data : ByteArray) :
    isDeclared data = .ok (Protection.isDeclared data) := by
  refine bind_eq_ok_iff.mpr ⟨_, region?_eq data, congrArg Except.ok ?_⟩
  rw [Protection.isDeclared]
  cases hregion : trailerRegion? data with
  | none => rfl
  | some region =>
    obtain ⟨start, stop⟩ := region
    have hstop := (trailerRegion?_eq_some_iff.mp hregion).bounds.2
    rw [← Bytes.size_eq_length] at hstop
    have hfound : (first? (ascii "/Encrypt") (data.extract start stop)).map (start + ·) =
        Bytes.find? (ascii "/Encrypt") data start stop := first?_extract (by decide) hstop
    dsimp only
    rw [Option.map_some, Option.any_some, contentOf, ← hfound, Option.isSome_map]

end Checked

/-! ### What stands in front of the last trailer -/

theorem isDeclared_append_iff (h : ascii "trailer" <+: after) :
    Protection.isDeclared ⟨(before ++ after).toArray⟩ = true ↔
      ∃ k, IsLast (ascii "trailer") after after.length k ∧ NamesInside after k after.length := by
  rw [isDeclared_iff_region]
  constructor
  · rintro ⟨start, stop, hregion, i, hi, hend, hoccurs⟩
    cases hregion with
    | trailer hstart =>
      obtain ⟨k, rfl, hk⟩ := (Bytes.isLast_append_iff h).mp hstart
      obtain ⟨m, rfl⟩ := Nat.exists_eq_add_of_le (Nat.le_of_add_right_le hi)
      rw [List.length_append] at hend
      exact ⟨k, hk, m, by omega, by omega, Bytes.occursAt_append_right.mp hoccurs⟩
    | dictionary hnone _ =>
      exact absurd (h.isInfix.trans (List.suffix_append before after).isInfix) hnone
  · rintro ⟨k, hk, m, hm, hend, hoccurs⟩
    refine ⟨_, _, .trailer ((Bytes.isLast_append_iff h).mpr ⟨k, rfl, hk⟩), before.length + m, ?_⟩
    rw [List.length_append]
    exact ⟨by omega, by omega, Bytes.occursAt_append_right.mpr hoccurs⟩

/-- The search never leaves the content, on slices or by position, and finds what the positions of
the keywords tell. From the last trailer on, nothing in front of it decides anything. -/
theorem isDeclared_by_region :
    (∀ data : ByteArray,
      Checked.region? data = .ok ((trailerRegion? data).map (contentOf data)) ∧
      Checked.isDeclared data = .ok (isDeclared data) ∧
      (∀ start stop, trailerRegion? data = some (start, stop) ↔
        Region data.data.toList start stop) ∧
      (∀ start stop, Region data.data.toList start stop → start ≤ stop ∧ stop ≤ data.size) ∧
      (isDeclared data = true ↔ ∃ start stop, Region data.data.toList start stop ∧
        NamesInside data.data.toList start stop)) ∧
    ∀ before before' after : List UInt8, ascii "trailer" <+: after →
      isDeclared ⟨(before ++ after).toArray⟩ = isDeclared ⟨(before' ++ after).toArray⟩ := by
  refine ⟨fun data => ⟨Checked.region?_eq data, Checked.isDeclared_eq data,
    fun _ _ => trailerRegion?_eq_some_iff, fun start stop hregion => ?_, isDeclared_iff_region⟩,
    fun before before' after h => ?_⟩
  · rw [Bytes.size_eq_length]
    exact hregion.bounds
  · rw [Bool.eq_iff_iff, isDeclared_append_iff h, isDeclared_append_iff h]

namespace Sample

def earlier : List UInt8 := ascii "trailer << /Encrypt 5 0 R >> "

def latest : List UInt8 := ascii "trailer << /Root 1 0 R >>"

/-- A cross-reference stream whose content is missing. -/
def indexed : ByteArray := ⟨(ascii "9 0 obj << /Type /XRef /Encrypt 5 0 R >> stream").toArray⟩

end Sample

/-- An earlier trailer does not count, though it names an encryption dictionary. -/
theorem isDeclared_by_region_sample :
    (isDeclared ⟨Sample.earlier.toArray⟩ = true ∧ ascii "trailer" <+: Sample.latest ∧
      isDeclared ⟨(Sample.earlier ++ Sample.latest).toArray⟩ = false) ∧
    ∃ start stop, Region Sample.indexed.data.toList start stop ∧ start ≤ stop ∧
      stop ≤ Sample.indexed.size ∧ NamesInside Sample.indexed.data.toList start stop := by
  obtain ⟨hdata, happend⟩ := isDeclared_by_region
  have hlatest : ascii "trailer" <+: Sample.latest := by decide
  have halone : isDeclared ⟨([] ++ Sample.latest).toArray⟩ = false := by decide +kernel
  obtain ⟨-, -, -, hbounds, hiff⟩ := hdata Sample.indexed
  obtain ⟨start, stop, hregion, hnames⟩ := hiff.mp (by decide +kernel)
  obtain ⟨hle, hstop⟩ := hbounds start stop hregion
  refine ⟨⟨by decide +kernel, hlatest, ?_⟩, start, stop, hregion, hle, hstop, hnames⟩
  rw [happend Sample.earlier [] Sample.latest hlatest, halone]

end AttachmentIntake.Pdf.Protection
