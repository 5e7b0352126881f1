import AttachmentIntake.Proofs.NamePolicy

/-! How a file is named. The sanitized name loses a recognized extension, is cut to a limit and loses
the white space that the cut exposes; the short form of the identifier and the extension of the
category follow. A higher limit only ever adds to the name, and the extension that a file claimed to
have does not matter. -/

namespace AttachmentIntake.FileName

/-- Letters of an extension that is taken off, in any case. -/
def Recognized (letters : List Char) : Prop :=
  ∃ known ∈ ["jpg", "jpeg", "png", "pdf"], Text.sameIgnoringCase known.toList letters = true

/-- A name is its stem and its extension. The extension is the text from the last dot on if that is
a recognized one, and else the stem is the whole name. -/
inductive Parted (full : List Char) : List Char → List Char → Prop
  | known {stem letters : List Char} (cut : full = stem ++ '.' :: letters)
    (last : '.' ∉ letters) (recognized : Recognized letters) : Parted full stem ('.' :: letters)
  | whole (unknown : ∀ stem letters, full = stem ++ '.' :: letters → '.' ∉ letters →
    ¬ Recognized letters) : Parted full full []

/-- The base is what the first `limit` characters of the stem are without white space at the end. -/
structure Kept (stem : List Char) (limit : Nat) (base : List Char) : Prop where
  within : base.length ≤ limit
  cut : ∃ white, stem.take limit = base ++ white ∧ ∀ c ∈ white, Text.isBlank c = true
  trimmed : ∀ c ∈ base.getLast?, Text.isBlank c = false

/-- What the names are that a file gets under all limits. -/
structure Naming (name : String) (category : Category) (i : Identifier)
    (stem extension : List Char) : Prop where
  parted : Parted (sanitize name).toList stem extension
  split : split (sanitize name) = ⟨String.ofList stem, String.ofList extension⟩
  rejoined : stem ++ extension = (sanitize name).toList
  written (limit : Nat) : (finalize name category i limit).toList =
    base name limit ++ '-' :: i.short.toList ++ (category.extension?.getD "").toList
  kept (limit : Nat) : Kept stem limit (base name limit)
  starts (limit : Nat) :
    ∃ c, (finalize name category i limit).toList.head? = some c ∧ Text.isBlank c = false
  ends (limit : Nat) :
    ∃ c, (finalize name category i limit).toList.getLast? = some c ∧ Text.isBlank c = false
  growing {m n : Nat} : m ≤ n → base name m <+: base name n
  settled {limit : Nat} : stem.length ≤ limit →
    finalize name category i limit = finalize name category i stem.length

variable {name : String} {letters stem extension : List Char} {category : Category}
  {i : Identifier}

/-! ### Stem and extension -/

@[simp] theorem isAmong_recognized_iff :
    isAmong recognizedExtensions letters = true ↔ Recognized letters := by
  simp only [isAmong, List.any_eq_true, Recognized, recognizedExtensions]

/-- No recognized extension holds another dot. -/
theorem Recognized.dot_not_mem (h : Recognized letters) : '.' ∉ letters := by
  obtain ⟨known, hknown, hsame⟩ := h
  intro hdot
  have hlower : '.' ∈ letters.map Char.toLower := List.mem_map.mpr ⟨'.', hdot, by decide⟩
  have hnot : ∀ known ∈ ["jpg", "jpeg", "png", "pdf"], '.' ∉ known.toList.map Char.toLower := by
    decide
  rw [← eq_of_beq hsame] at hlower
  exact hnot known hknown hlower

theorem split_of_recognized (h : Recognized letters) (hname : name.toList = stem ++ '.' :: letters) :
    split name = ⟨String.ofList stem, String.ofList ('.' :: letters)⟩ := by
  rw [split, hname, Text.splitLast?_append h.dot_not_mem]
  simp only [isAmong_recognized_iff.mpr h, if_true]

theorem split_of_unrecognized (h : ∀ stem letters, name.toList = stem ++ '.' :: letters →
    '.' ∉ letters → ¬ Recognized letters) : split name = ⟨name, ""⟩ := by
  unfold split
  split
  next stem letters hsplit =>
    obtain ⟨hname, hlast⟩ := Text.splitLast?_eq_some_iff.mp hsplit
    rw [if_neg (mt isAmong_recognized_iff.mp (h stem letters hname hlast))]
  next => rfl

theorem exists_parted (name : String) : ∃ stem extension, Parted name.toList stem extension := by
  by_cases h : ∃ stem letters, name.toList = stem ++ '.' :: letters ∧ '.' ∉ letters ∧
      Recognized letters
  · obtain ⟨stem, letters, hname, hlast, hrecognized⟩ := h
    exact ⟨stem, '.' :: letters, .known hname hlast hrecognized⟩
  · refine ⟨name.toList, [], .whole fun stem letters hname hlast hrecognized => ?_⟩
    exact h ⟨stem, letters, hname, hlast, hrecognized⟩

theorem Parted.split (h : Parted name.toList stem extension) :
    split name = ⟨String.ofList stem, String.ofList extension⟩ := by
  cases h with
  | known cut last recognized => exact split_of_recognized recognized cut
  | whole unknown => rw [split_of_unrecognized unknown, String.ofList_toList, String.ofList_nil]

theorem Parted.rejoined {full : List Char} (h : Parted full stem extension) :
    stem ++ extension = full := by
  cases h with
  | known cut last recognized => exact cut.symm
  | whole unknown => exact List.append_nil _

/-! ### The base name -/

theorem base_of_parted (h : Parted (sanitize name).toList stem extension) (limit : Nat) :
    base name limit = Text.trimEnd (stem.take limit) := by
  rw [base, h.split, String.toList_ofList]

theorem kept_trimEnd (stem : List Char) (limit : Nat) :
    Kept stem limit (Text.trimEnd (stem.take limit)) where
  within := (Text.trimEnd_isPrefix _).length_le.trans (List.length_take_le _ _)
  cut := by
    refine ⟨_, (Text.trimEnd_append _).symm, fun c hc => ?_⟩
    exact List.mem_takeWhile_imp (List.mem_reverse.mp hc)
  trimmed := Text.isBlank_getLast?_trimEnd

/-- Nothing of a sanitized name comes before its stem, so a base name starts like it. -/
theorem base_isPrefix (name : String) (limit : Nat) : base name limit <+: (sanitize name).toList := by
  obtain ⟨stem, extension, h⟩ := exists_parted (sanitize name)
  rw [base_of_parted h, ← h.rejoined]
  exact (Text.trimEnd_isPrefix _).trans ((List.take_prefix _ _).trans (List.prefix_append _ _))

theorem isBlank_head?_base (name : String) (limit : Nat) :
    ∀ c ∈ (base name limit).head?, Text.isBlank c = false := by
  intro c hc
  obtain ⟨more, hmore⟩ := base_isPrefix name limit
  have hhead : c ∈ (sanitize name).toList.head? := by
    rw [← hmore, List.head?_append, Option.mem_def.mp hc]
    rfl
  rw [sanitize, String.toList_ofList] at hhead
  exact Text.isBlank_head?_trim c hhead

/-! ### What follows it -/

theorem finalize_eq (name : String) (category : Category) (i : Identifier) (limit : Nat) :
    (finalize name category i limit).toList =
      base name limit ++ '-' :: i.short.toList ++ (category.extension?.getD "").toList := by
  simp [finalize]

theorem not_isBlank_extension (category : Category) :
    ∀ c ∈ (category.extension?.getD "").toList, Text.isBlank c = false := by
  have hnone : (category.extension?.getD "").toList.any Text.isBlank = false := by
    cases category <;> decide
  intro c hc
  rw [← Bool.not_eq_true]
  exact List.any_eq_false.mp hnone c hc

theorem not_isBlank_ending (category : Category) (i : Identifier) :
    ∀ c ∈ '-' :: i.short.toList ++ (category.extension?.getD "").toList,
      Text.isBlank c = false := by
  intro c hc
  rcases List.mem_append.mp hc with hshort | hextension
  · rcases List.mem_cons.mp hshort with rfl | hshort
    · decide
    · have hreserved := Identifier.not_reserved_of_mem_short hshort
      exact (Identifier.isReserved_eq_false_iff.mp hreserved).2.2.2
  · exact not_isBlank_extension category c hextension

theorem finalize_starts (name : String) (category : Category) (i : Identifier) (limit : Nat) :
    ∃ c, (finalize name category i limit).toList.head? = some c ∧ Text.isBlank c = false := by
  rw [finalize_eq, List.append_assoc]
  cases hbase : (base name limit).head? with
  | none =>
    refine ⟨'-', ?_, by decide⟩
    rw [List.head?_append, hbase]
    rfl
  | some c =>
    refine ⟨c, ?_, isBlank_head?_base name limit c hbase⟩
    rw [List.head?_append, hbase]
    rfl

theorem finalize_ends (name : String) (category : Category) (i : Identifier) (limit : Nat) :
    ∃ c, (finalize name category i limit).toList.getLast? = some c ∧ Text.isBlank c = false := by
  rw [finalize_eq, List.append_assoc]
  have hsome : '-' :: i.short.toList ++ (category.extension?.getD "").toList ≠ [] := by simp
  refine ⟨_, ?_, not_isBlank_ending category i _ (List.getLast_mem hsome)⟩
  rw [List.getLast?_append, List.getLast?_eq_some_getLast hsome]
  rfl

/-! ### All limits -/

theorem finalize_congr {other : String} {m n : Nat} (h : base name m = base other n) :
    finalize name category i m = finalize other category i n := by
  rw [finalize, finalize, h]

theorem naming_of_parted (category : Category) (i : Identifier)
    (h : Parted (sanitize name).toList stem extension) :
    Naming name category i stem extension where
  parted := h
  split := h.split
  rejoined := h.rejoined
  written := finalize_eq name category i
  kept limit := by
    rw [base_of_parted h]
    exact kept_trimEnd stem limit
  starts := finalize_starts name category i
  ends := finalize_ends name category i
  growing {m n} hmn := by
    rw [base_of_parted h, base_of_parted h]
    exact Text.trimEnd_isPrefix_trimEnd (List.take_prefix_take_left hmn)
  settled {limit} hlimit := by
    apply finalize_congr
    rw [base_of_parted h, base_of_parted h, List.take_of_length_le hlimit, List.take_length]

/-- Names that only differ in the extension that is taken off are the same stem. -/
theorem base_of_recognized {limit : Nat} (h : Recognized letters)
    (hsanitized : sanitize name = name) (hname : name.toList = stem ++ '.' :: letters) :
    base name limit = Text.trimEnd (stem.take limit) := by
  rw [base, hsanitized, split_of_recognized h hname, String.toList_ofList]

/-- Every file is named by these rules, under every limit and for every category; and sanitized
names with the same stem before a recognized extension lead to the same final name. -/
theorem finalize_naming (category : Category) (i : Identifier) :
    (∀ name, ∃ stem extension, Naming name category i stem extension) ∧
    ∀ (stem : List Char) (name other : String) (letters others : List Char),
      name.toList = stem ++ '.' :: letters → other.toList = stem ++ '.' :: others →
      Recognized letters → Recognized others → sanitize name = name → sanitize other = other →
      ∀ limit, finalize name category i limit = finalize other category i limit := by
  constructor
  · intro name
    obtain ⟨stem, extension, h⟩ := exists_parted (sanitize name)
    exact ⟨stem, extension, naming_of_parted category i h⟩
  · intro stem name other letters others hname hother hletters hothers hsanitized hsame limit
    apply finalize_congr
    rw [base_of_recognized hletters hsanitized hname, base_of_recognized hothers hsame hother]

/-- A picture and a document with the same stem get the same name. -/
theorem finalize_naming_sample :
    finalize "July 4 .jpeg" .png ⟨"7c9e-42", by decide⟩ 40 =
      finalize "July 4 .PDF" .png ⟨"7c9e-42", by decide⟩ 40 :=
  (finalize_naming .png ⟨"7c9e-42", by decide⟩).2 "July 4 ".toList "July 4 .jpeg" "July 4 .PDF"
    "jpeg".toList "PDF".toList (by decide) (by decide) ⟨"jpeg", by decide, by decide⟩
    ⟨"pdf", by decide, by decide⟩ (by decide +kernel) (by decide +kernel) 40

/-! The blank in front of the extension goes with it. -/

example : finalize "July 4 .jpeg" .png ⟨"7c9e-42", by decide⟩ 40 = "July 4-7c9e.png" := by
  decide +kernel

end AttachmentIntake.FileName
