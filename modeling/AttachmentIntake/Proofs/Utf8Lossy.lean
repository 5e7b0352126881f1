import AttachmentIntake.Proofs.Utf8Cut

/-! Lossy decoding. Every byte string has one reading in which the bytes of a character give that
character, and where no character begins, the longest run of bytes that could have been the beginning
of one gives U+FFFD. -/

namespace AttachmentIntake.Text.Utf8

/-- No character begins the bytes, and this much of them is replaced as a whole: as many as begin
some character, but one at least. -/
structure MaximalSubpart (bytes part : List UInt8) : Prop where
  isPrefix : part <+: bytes
  unreadable : ∀ c, ¬ encode [c] <+: bytes
  begins : part.length = 1 ∨ (part ≠ [] ∧ CutShort part)
  longest : ∀ other, other <+: bytes → CutShort other → other.length ≤ part.length

/-- The text reads the bytes, with a replacement character for each maximal subpart that is none. -/
inductive Lossy : List UInt8 → List Char → Prop where
  | nil : Lossy [] []
  | char {c : Char} {rest : List UInt8} {cs : List Char} :
      Lossy rest cs → Lossy (encode [c] ++ rest) (c :: cs)
  | replaced {part rest : List UInt8} {cs : List Char} :
      MaximalSubpart (part ++ rest) part → Lossy rest cs → Lossy (part ++ rest) ('\uFFFD' :: cs)

variable {lead : UInt8} {bytes rest more taken : List UInt8} {c d : Char} {cs ds : List Char}

/-! ### A text has one reading -/

theorem encode_append_inj (h : encode [c] ++ rest = encode [d] ++ more) : c = d ∧ rest = more := by
  obtain ⟨lead, tail, hc, hstep⟩ := step_encode c
  obtain ⟨lead', tail', hd, hstep'⟩ := step_encode d
  rw [hc, hd, List.cons_append, List.cons_append] at h
  injection h with hlead htail
  have hread := hstep rest
  rw [hlead, htail, hstep' more] at hread
  injection hread with heq hmore
  exact ⟨heq.symm, hmore.symm⟩

theorem MaximalSubpart.ne_nil (h : MaximalSubpart bytes taken) : taken ≠ [] := by
  rcases h.begins with hone | ⟨hne, -⟩
  · exact List.ne_nil_of_length_eq_add_one hone
  · exact hne

theorem MaximalSubpart.length_le {other : List UInt8} (h : MaximalSubpart bytes taken)
    (h' : MaximalSubpart bytes other) : other.length ≤ taken.length := by
  have hpos := List.length_pos_iff.mpr h.ne_nil
  rcases h'.begins with hone | ⟨-, hcut⟩
  · omega
  · exact h.longest other h'.isPrefix hcut

theorem MaximalSubpart.eq {other : List UInt8} (h : MaximalSubpart bytes taken)
    (h' : MaximalSubpart bytes other) : taken = other :=
  (List.prefix_of_prefix_length_le h.isPrefix h'.isPrefix (h'.length_le h)).eq_of_length
    (Nat.le_antisymm (h'.length_le h) (h.length_le h'))

/-- What begins with a character does so in one way only. -/
theorem Lossy.of_encode_append (h : Lossy (encode [c] ++ rest) ds) :
    ∃ cs, ds = c :: cs ∧ Lossy rest cs := by
  generalize hbytes : encode [c] ++ rest = bytes at h
  cases h with
  | nil => exact absurd (List.append_eq_nil_iff.mp hbytes).1 (encode_ne_nil c)
  | char h =>
    obtain ⟨rfl, rfl⟩ := encode_append_inj hbytes
    exact ⟨_, rfl, h⟩
  | replaced hpart => exact absurd ⟨rest, hbytes⟩ (hpart.unreadable c)

theorem Lossy.of_maximalSubpart (hpart : MaximalSubpart (taken ++ rest) taken)
    (h : Lossy (taken ++ rest) ds) : ∃ cs, ds = '\uFFFD' :: cs ∧ Lossy rest cs := by
  generalize hbytes : taken ++ rest = bytes at h hpart
  cases h with
  | nil => exact absurd (List.append_eq_nil_iff.mp hbytes).1 hpart.ne_nil
  | @char c more => exact absurd ⟨more, rfl⟩ (hpart.unreadable c)
  | replaced hother h =>
    obtain rfl := hpart.eq hother
    obtain rfl := List.append_cancel_left hbytes
    exact ⟨_, rfl, h⟩

theorem Lossy.unique (h : Lossy bytes cs) (h' : Lossy bytes ds) : cs = ds := by
  induction h generalizing ds with
  | nil =>
    generalize hbytes : ([] : List UInt8) = bytes at h'
    cases h' with
    | nil => rfl
    | char => exact absurd (List.append_eq_nil_iff.mp hbytes.symm).1 (encode_ne_nil _)
    | replaced hpart => exact absurd (List.append_eq_nil_iff.mp hbytes.symm).1 hpart.ne_nil
  | char _ ih =>
    obtain ⟨cs, rfl, hrest⟩ := Lossy.of_encode_append h'
    rw [ih hrest]
  | replaced hpart _ ih =>
    obtain ⟨cs, rfl, hrest⟩ := Lossy.of_maximalSubpart hpart h'
    rw [ih hrest]

/-! ### The bytes that a step gives up -/

/-- Having read `taken`, the reader stops at the first of the bytes `more`, whatever follows. -/
structure StopsBehind (read : List UInt8 → Step) (taken more : List UInt8) : Prop where
  begins : taken = [] ∨ read taken = .cut
  stuck : ∀ tail, read (taken ++ more.take 1 ++ tail) ≠ .cut

theorem stops_of_stepTwo (h : stepTwo lead bytes = .bad more) :
    ∃ taken, bytes = taken ++ more ∧ StopsBehind (stepTwo lead) taken more := by
  cases bytes with
  | nil => cases h
  | cons b rest =>
    simp only [stepTwo] at h
    split_ifs at h with hb
    cases h
    exact ⟨[], rfl, .inl rfl, fun tail => by simp [stepTwo, hb]⟩

theorem stops_of_stepThree (h : stepThree lead bytes = .bad more) :
    ∃ taken, bytes = taken ++ more ∧ StopsBehind (stepThree lead) taken more := by
  rcases bytes with _ | ⟨b, _ | ⟨d, rest⟩⟩
  · cases h
  · simp only [stepThree] at h
    split_ifs at h with hb
    cases h
    exact ⟨[], rfl, .inl rfl, fun tail => by simp [stepThree, hb]⟩
  · simp only [stepThree] at h
    split_ifs at h with hb hd <;> cases h
    · exact ⟨[b], rfl, .inr (by simp [stepThree, hb]), fun tail => by simp [stepThree, hb, hd]⟩
    · exact ⟨[], rfl, .inl rfl, fun tail => by simp [stepThree, hb]⟩

theorem stops_of_stepFour (h : stepFour lead bytes = .bad more) :
    ∃ taken, bytes = taken ++ more ∧ StopsBehind (stepFour lead) taken more := by
  rcases bytes with _ | ⟨b, _ | ⟨d, _ | ⟨e, rest⟩⟩⟩
  · cases h
  · simp only [stepFour] at h
    split_ifs at h with hb
    cases h
    exact ⟨[], rfl, .inl rfl, fun tail => by simp [stepFour, hb]⟩
  · simp only [stepFour] at h
    split_ifs at h with hb hd <;> cases h
    · exact ⟨[b], rfl, .inr (by simp [stepFour, hb]), fun tail => by simp [stepFour, hb, hd]⟩
    · exact ⟨[], rfl, .inl rfl, fun tail => by simp [stepFour, hb]⟩
  · simp only [stepFour] at h
    split_ifs at h with hb hd he <;> cases h
    · exact ⟨[b, d], rfl, .inr (by simp [stepFour, hb, hd]),
        fun tail => by simp [stepFour, hb, hd, he]⟩
    · exact ⟨[b], rfl, .inr (by simp [stepFour, hb]), fun tail => by simp [stepFour, hb, hd]⟩
    · exact ⟨[], rfl, .inl rfl, fun tail => by simp [stepFour, hb]⟩

theorem stops_of_step (h : step lead bytes = .bad more) :
    ∃ taken, bytes = taken ++ more ∧ StopsBehind (step lead) taken more := by
  unfold step at h
  split_ifs at h with hone htwo hthree hfour
  · have hread : step lead = stepTwo lead := by
      funext bytes
      rw [step, if_neg hone, if_pos htwo]
    rw [hread]
    exact stops_of_stepTwo h
  · have hread : step lead = stepThree lead := by
      funext bytes
      rw [step, if_neg hone, if_neg htwo, if_pos hthree]
    rw [hread]
    exact stops_of_stepThree h
  · have hread : step lead = stepFour lead := by
      funext bytes
      rw [step, if_neg hone, if_neg htwo, if_neg hthree, if_pos hfour]
    rw [hread]
    exact stops_of_stepFour h
  · have hread : ∀ rest, step lead rest = .bad rest := fun rest => by
      rw [step, if_neg hone, if_neg htwo, if_neg hthree, if_neg hfour]
    cases h
    exact ⟨[], rfl, .inl rfl, fun tail => by simp [hread]⟩

theorem not_isPrefix_of_step (h : ∀ c rest, step lead bytes ≠ .char c rest) (c : Char) :
    ¬ encode [c] <+: lead :: bytes := by
  intro hprefix
  obtain ⟨rest, hrest⟩ := hprefix
  obtain ⟨b, tail, hc, hstep⟩ := step_encode c
  rw [hc, List.cons_append] at hrest
  injection hrest with hlead htail
  rw [← hlead, ← htail] at h
  exact h c rest (hstep rest)

theorem maximalSubpart_of_cut (h : step lead bytes = .cut) :
    MaximalSubpart (lead :: bytes) (lead :: bytes) where
  isPrefix := List.prefix_refl _
  unreadable := not_isPrefix_of_step fun c rest hchar => by
    rw [h] at hchar
    cases hchar
  begins := .inr ⟨List.cons_ne_nil _ _, step_eq_cut_iff.mp h⟩
  longest _ hother _ := hother.length_le

theorem maximalSubpart_of_bad (h : step lead bytes = .bad more)
    (hstop : StopsBehind (step lead) taken more) (hbytes : bytes = taken ++ more) :
    MaximalSubpart (lead :: bytes) (lead :: taken) where
  isPrefix := (List.prefix_cons_inj lead).mpr ⟨more, hbytes.symm⟩
  unreadable := not_isPrefix_of_step fun c rest hchar => by
    rw [h] at hchar
    cases hchar
  begins := by
    rcases hstop.begins with rfl | hcut
    · exact .inl rfl
    · exact .inr ⟨List.cons_ne_nil _ _, step_eq_cut_iff.mp hcut⟩
  longest other hother hcut := by
    cases other with
    | nil => exact Nat.zero_le _
    | cons b other =>
      obtain ⟨rfl, hprefix⟩ := List.cons_prefix_cons.mp hother
      rw [List.length_cons, List.length_cons, Nat.add_le_add_iff_right]
      by_contra hlong
      -- A longer run has the byte in it at which the reader stops.
      rw [hbytes] at hprefix
      obtain ⟨tail, rfl⟩ := List.prefix_of_prefix_length_le (List.prefix_append taken more) hprefix
        (Nat.le_of_not_le hlong)
      obtain ⟨behind, hmore⟩ := (List.prefix_append_right_inj taken).mp hprefix
      cases tail with
      | nil => exact hlong (Nat.le_of_eq (by rw [List.append_nil]))
      | cons stop tail =>
        have hstuck := hstop.stuck tail
        rw [← hmore, List.cons_append, List.take_succ_cons, List.take_zero, List.append_assoc,
          List.singleton_append] at hstuck
        exact hstuck (step_eq_cut_iff.mpr hcut)

/-! ### Decoding -/

theorem lossy_decodeLossy (bytes : List UInt8) : Lossy bytes (decodeLossy bytes) := by
  fun_induction decodeLossy bytes with
  | case1 => exact .nil
  | case2 lead bytes c rest hchar _ ih =>
    rw [eq_of_step hchar]
    exact .char ih
  | case3 lead bytes hcut =>
    have hpart := maximalSubpart_of_cut hcut
    rw [← List.append_nil (lead :: bytes)]
    refine .replaced ?_ .nil
    rwa [List.append_nil]
  | case4 lead bytes rest hbad _ ih =>
    obtain ⟨taken, rfl, hstop⟩ := stops_of_step hbad
    rw [← List.cons_append]
    exact .replaced (maximalSubpart_of_bad hbad hstop rfl) ih

/-- Decoding finds the only reading of the bytes. -/
theorem decodeLossy_eq_iff : decodeLossy bytes = cs ↔ Lossy bytes cs := by
  constructor
  · intro h
    rw [← h]
    exact lossy_decodeLossy bytes
  · exact (lossy_decodeLossy bytes).unique

end AttachmentIntake.Text.Utf8
