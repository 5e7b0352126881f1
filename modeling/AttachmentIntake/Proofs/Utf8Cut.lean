import AttachmentIntake.Proofs.Utf8

/-! UTF-8 that is cut short. Reading takes nothing for a character but the bytes of one, and calls
bytes cut short only if they begin one. So what is read of bytes that end anywhere is told by the
text they encode and the part of a character behind it. -/

namespace AttachmentIntake.Text.Utf8

/-- The bytes begin a character and end before it does. There may be none. -/
def CutShort (bytes : List UInt8) : Prop :=
  ∃ c, bytes <+: encode [c] ∧ bytes ≠ encode [c]

variable {lead second : UInt8} {bytes rest more : List UInt8} {c : Char} {cs : List Char}

@[simp] theorem encode_ne_nil (c : Char) : encode [c] ≠ [] := by
  obtain ⟨lead, more, hc, -⟩ := step_encode c
  rw [hc]
  exact List.cons_ne_nil _ _

theorem length_le_encode (cs : List Char) : cs.length ≤ (encode cs).length := by
  induction cs with
  | nil => exact Nat.zero_le _
  | cons c cs ih =>
    have hpos := List.length_pos_iff.mpr (encode_ne_nil c)
    rw [encode_cons, List.length_append, List.length_cons]
    omega

@[simp] theorem cutShort_nil : CutShort [] := ⟨'a', List.nil_prefix, (encode_ne_nil 'a').symm⟩

/-! ### What is read is what was written -/

theorem ofNat_eq {b : UInt8} {n : Nat} (h : b.toNat = n) : UInt8.ofNat n = b := by
  rw [← h, UInt8.ofNat_toNat]

theorem toNat_charOfNat {n : Nat} (h : n < 0xD800 ∨ (0xDFFF < n ∧ n < 0x110000)) :
    (Char.ofNat n).toNat = n := by
  have hvalid : n.isValidChar := h
  rw [Char.ofNat, dif_pos hvalid]
  rfl

@[simp] theorem isContinuation_iff {b : UInt8} :
    isContinuation b = true ↔ 0x80 ≤ b.toNat ∧ b.toNat ≤ 0xBF := by
  simp [isContinuation, UInt8.le_iff_toNat_le]

/-- Second bytes are continuation bytes, from `low` on after one lead byte and up to `high` after
another one. -/
theorem bounds_of_second {l₁ l₂ low high : UInt8} (hne : l₁ ≠ l₂) (hlow : 0x80 ≤ low.toNat)
    (hhigh : high.toNat ≤ 0xBF)
    (h : (if lead = l₁ then decide (low ≤ second) && decide (second ≤ 0xBF)
      else if lead = l₂ then decide (0x80 ≤ second) && decide (second ≤ high)
      else isContinuation second) = true) :
    0x80 ≤ second.toNat ∧ second.toNat ≤ 0xBF ∧ (lead.toNat = l₁.toNat → low.toNat ≤ second.toNat) ∧
      (lead.toNat = l₂.toNat → second.toNat ≤ high.toNat) := by
  rw [UInt8.toNat_inj, UInt8.toNat_inj]
  split_ifs at h with h₁ h₂
  · simp only [Bool.and_eq_true, decide_eq_true_eq, UInt8.le_iff_toNat_le, UInt8.reduceToNat] at h
    have h₂ : lead ≠ l₂ := h₁ ▸ hne
    simp only [h₂, false_implies, and_true]
    omega
  · simp only [Bool.and_eq_true, decide_eq_true_eq, UInt8.le_iff_toNat_le, UInt8.reduceToNat] at h
    simp only [h₁, false_implies, true_and]
    omega
  · obtain ⟨hfirst, hlast⟩ := isContinuation_iff.mp h
    exact ⟨hfirst, hlast, fun h => absurd h h₁, fun h => absurd h h₂⟩

theorem bounds_of_secondOfThree (h : secondOfThree lead second = true) :
    0x80 ≤ second.toNat ∧ second.toNat ≤ 0xBF ∧ (lead.toNat = 0xE0 → 0xA0 ≤ second.toNat) ∧
      (lead.toNat = 0xED → second.toNat ≤ 0x9F) :=
  bounds_of_second (by decide) (by decide) (by decide) h

theorem bounds_of_secondOfFour (h : secondOfFour lead second = true) :
    0x80 ≤ second.toNat ∧ second.toNat ≤ 0xBF ∧ (lead.toNat = 0xF0 → 0x90 ≤ second.toNat) ∧
      (lead.toNat = 0xF4 → second.toNat ≤ 0x8F) :=
  bounds_of_second (by decide) (by decide) (by decide) h

theorem eq_of_stepTwo (hlow : 0xC2 ≤ lead.toNat) (hhigh : lead.toNat ≤ 0xDF)
    (h : stepTwo lead rest = .char c more) : lead :: rest = encode [c] ++ more := by
  unfold stepTwo at h
  split at h
  next => cases h
  next b tail =>
    split_ifs at h with hb
    injection h with hc htail
    obtain ⟨hb, hb'⟩ := isContinuation_iff.mp hb
    have hvalue : c.toNat = (lead.toNat - 0xC0) * 0x40 + b.toNat % 0x40 := by
      rw [← hc, payload, toNat_charOfNat (by omega)]
    rw [encode_two (by omega) (by omega), ofNat_eq (b := lead) (by omega),
      ofNat_eq (b := b) (by omega), htail]
    rfl

theorem eq_of_stepThree (hlow : 0xE0 ≤ lead.toNat) (hhigh : lead.toNat ≤ 0xEF)
    (h : stepThree lead rest = .char c more) : lead :: rest = encode [c] ++ more := by
  unfold stepThree at h
  split at h
  next => cases h
  next b tail =>
    split_ifs at h with hb
    split at h
    next => cases h
    next d tail =>
      split_ifs at h with hd
      injection h with hc htail
      obtain ⟨hb, hb', hE0, hED⟩ := bounds_of_secondOfThree hb
      obtain ⟨hd, hd'⟩ := isContinuation_iff.mp hd
      have hvalue : c.toNat =
          ((lead.toNat - 0xE0) * 0x40 + b.toNat % 0x40) * 0x40 + d.toNat % 0x40 := by
        rw [← hc, payload, payload, toNat_charOfNat (by omega)]
      rw [encode_three (by omega) (by omega), ofNat_eq (b := lead) (by omega),
        ofNat_eq (b := b) (by omega), ofNat_eq (b := d) (by omega), htail]
      rfl

theorem eq_of_stepFour (hlow : 0xF0 ≤ lead.toNat) (hhigh : lead.toNat ≤ 0xF4)
    (h : stepFour lead rest = .char c more) : lead :: rest = encode [c] ++ more := by
  unfold stepFour at h
  split at h
  next => cases h
  next b tail =>
    split_ifs at h with hb
    split at h
    next => cases h
    next d tail =>
      split_ifs at h with hd
      split at h
      next => cases h
      next e tail =>
        split_ifs at h with he
        injection h with hc htail
        obtain ⟨hb, hb', hF0, hF4⟩ := bounds_of_secondOfFour hb
        obtain ⟨hd, hd'⟩ := isContinuation_iff.mp hd
        obtain ⟨he, he'⟩ := isContinuation_iff.mp he
        have hvalue : c.toNat = (((lead.toNat - 0xF0) * 0x40 + b.toNat % 0x40) * 0x40 +
            d.toNat % 0x40) * 0x40 + e.toNat % 0x40 := by
          rw [← hc, payload, payload, payload, toNat_charOfNat (by omega)]
        rw [encode_four (by omega), ofNat_eq (b := lead) (by omega),
          ofNat_eq (b := b) (by omega), ofNat_eq (b := d) (by omega),
          ofNat_eq (b := e) (by omega), htail]
        rfl

/-- A step reads the bytes of the character it returns: no overlong form and no surrogate. -/
theorem eq_of_step (h : step lead rest = .char c more) : lead :: rest = encode [c] ++ more := by
  unfold step at h
  split_ifs at h with hone htwo hthree hfour
  · injection h with hc hrest
    have hlead : lead.toNat < 0x80 := hone
    have hvalue : c.toNat = lead.toNat := by
      rw [← hc, toNat_charOfNat (by omega)]
    rw [encode_one (by omega), ofNat_eq (b := lead) hvalue.symm, hrest]
    rfl
  · simp only [Bool.and_eq_true, decide_eq_true_eq, UInt8.le_iff_toNat_le] at htwo
    exact eq_of_stepTwo htwo.1 htwo.2 h
  · simp only [Bool.and_eq_true, decide_eq_true_eq, UInt8.le_iff_toNat_le] at hthree
    exact eq_of_stepThree hthree.1 hthree.2 h
  · simp only [Bool.and_eq_true, decide_eq_true_eq, UInt8.le_iff_toNat_le] at hfour
    exact eq_of_stepFour hfour.1 hfour.2 h

/-! ### Bytes that are cut short -/

/-- The same step, with more bytes behind those that it leaves. -/
def Step.extend (more : List UInt8) : Step → Step
  | .char c rest => .char c (rest ++ more)
  | .cut => .cut
  | .bad rest => .bad (rest ++ more)

theorem stepTwo_append (h : stepTwo lead rest ≠ .cut) (more : List UInt8) :
    stepTwo lead (rest ++ more) = (stepTwo lead rest).extend more := by
  cases rest with
  | nil => exact absurd rfl h
  | cons b rest =>
    simp only [stepTwo, List.cons_append]
    split_ifs <;> rfl

theorem stepThree_append (h : stepThree lead rest ≠ .cut) (more : List UInt8) :
    stepThree lead (rest ++ more) = (stepThree lead rest).extend more := by
  rcases rest with _ | ⟨b, _ | ⟨d, rest⟩⟩
  · exact absurd rfl h
  · simp only [stepThree, List.cons_append, List.nil_append] at h ⊢
    split_ifs at h ⊢
    · exact absurd rfl h
    · rfl
  · simp only [stepThree, List.cons_append]
    split_ifs <;> rfl

theorem stepFour_append (h : stepFour lead rest ≠ .cut) (more : List UInt8) :
    stepFour lead (rest ++ more) = (stepFour lead rest).extend more := by
  rcases rest with _ | ⟨b, _ | ⟨d, _ | ⟨e, rest⟩⟩⟩
  · exact absurd rfl h
  · simp only [stepFour, List.cons_append, List.nil_append] at h ⊢
    split_ifs at h ⊢
    · exact absurd rfl h
    · rfl
  · simp only [stepFour, List.cons_append, List.nil_append] at h ⊢
    split_ifs at h ⊢
    · exact absurd rfl h
    all_goals rfl
  · simp only [stepFour, List.cons_append]
    split_ifs <;> rfl

/-- Only a step that finds the bytes cut short reads differently when more bytes follow. -/
theorem step_append (h : step lead rest ≠ .cut) (more : List UInt8) :
    step lead (rest ++ more) = (step lead rest).extend more := by
  unfold step at h ⊢
  split_ifs at h ⊢
  · rfl
  · exact stepTwo_append h more
  · exact stepThree_append h more
  · exact stepFour_append h more
  · rfl

theorem exists_stepTwo (h : stepTwo lead rest = .cut) :
    ∃ more c, stepTwo lead (rest ++ more) = .char c [] := by
  cases rest with
  | nil => exact ⟨[0x80], _, rfl⟩
  | cons b rest =>
    simp only [stepTwo] at h
    split_ifs at h

theorem exists_secondOfThree (lead : UInt8) : ∃ second, secondOfThree lead second = true := by
  by_cases hE0 : lead = 0xE0
  · exact ⟨0xA0, by rw [hE0]; decide⟩
  · refine ⟨0x80, ?_⟩
    rw [secondOfThree, if_neg hE0]
    split_ifs <;> decide

theorem exists_secondOfFour (lead : UInt8) : ∃ second, secondOfFour lead second = true := by
  by_cases hF0 : lead = 0xF0
  · exact ⟨0x90, by rw [hF0]; decide⟩
  · refine ⟨0x80, ?_⟩
    rw [secondOfFour, if_neg hF0]
    split_ifs <;> decide

theorem exists_stepThree (h : stepThree lead rest = .cut) :
    ∃ more c, stepThree lead (rest ++ more) = .char c [] := by
  rcases rest with _ | ⟨b, _ | ⟨d, rest⟩⟩
  · obtain ⟨second, hsecond⟩ := exists_secondOfThree lead
    exact ⟨[second, 0x80], _, if_pos hsecond⟩
  · simp only [stepThree] at h
    split_ifs at h with hb
    exact ⟨[0x80], _, if_pos hb⟩
  · simp only [stepThree] at h
    split_ifs at h

theorem exists_stepFour (h : stepFour lead rest = .cut) :
    ∃ more c, stepFour lead (rest ++ more) = .char c [] := by
  rcases rest with _ | ⟨b, _ | ⟨d, _ | ⟨e, rest⟩⟩⟩
  · obtain ⟨second, hsecond⟩ := exists_secondOfFour lead
    exact ⟨[second, 0x80, 0x80], _, if_pos hsecond⟩
  · simp only [stepFour] at h
    split_ifs at h with hb
    exact ⟨[0x80, 0x80], _, if_pos hb⟩
  · simp only [stepFour] at h
    split_ifs at h with hb hd
    exact ⟨[0x80], _, (if_pos hb).trans (if_pos hd)⟩
  · simp only [stepFour] at h
    split_ifs at h

/-- Bytes that a step finds cut short can be completed. -/
theorem exists_step_of_cut (h : step lead rest = .cut) :
    ∃ more c, step lead (rest ++ more) = .char c [] := by
  unfold step at h ⊢
  split_ifs at h ⊢
  · exact exists_stepTwo h
  · exact exists_stepThree h
  · exact exists_stepFour h

theorem step_eq_cut_iff : step lead rest = .cut ↔ CutShort (lead :: rest) := by
  constructor
  · intro h
    obtain ⟨more, c, hstep⟩ := exists_step_of_cut h
    have heq := eq_of_step hstep
    rw [List.append_nil] at heq
    refine ⟨c, ⟨more, heq⟩, ?_⟩
    intro hwhole
    have hmore : more = [] := by simpa [← hwhole] using heq
    rw [hmore, List.append_nil, h] at hstep
    cases hstep
  · intro h
    obtain ⟨c, ⟨more, hmore⟩, hne⟩ := h
    obtain ⟨b, tail, hc, hstep⟩ := step_encode c
    rw [hc, List.cons_append] at hmore
    injection hmore with hlead hrest
    specialize hstep []
    rw [List.append_nil, ← hlead, ← hrest] at hstep
    by_contra hcut
    rw [step_append hcut] at hstep
    cases hread : step lead rest with
    | cut => exact hcut hread
    | bad left =>
      rw [hread] at hstep
      cases hstep
    | char d left =>
      rw [hread] at hstep
      injection hstep with hd hleft
      apply hne
      rw [hc, ← hlead, ← hrest, (List.append_eq_nil_iff.mp hleft).2, List.append_nil]

/-! ### Whole texts -/

theorem decode_of_cut (h : step lead rest = .cut) : decode (lead :: rest) = ([], .cut) := by
  rw [decode]
  split
  next hchar =>
    rw [h] at hchar
    cases hchar
  next => rfl
  next hbad =>
    rw [h] at hbad
    cases hbad

theorem exists_rest_of_decode (h : (decode bytes).2 ≠ .bad) :
    ∃ rest, bytes = encode (decode bytes).1 ++ rest ∧ CutShort rest := by
  fun_induction decode bytes with
  | case1 => exact ⟨[], by rw [encode_nil]; rfl, cutShort_nil⟩
  | case2 lead bytes c left hstep hle cs ending hread ih =>
    rw [hread] at ih
    obtain ⟨rest, hleft, hcut⟩ := ih h
    refine ⟨rest, ?_, hcut⟩
    calc lead :: bytes = encode [c] ++ left := eq_of_step hstep
      _ = encode [c] ++ (encode cs ++ rest) := congrArg _ hleft
      _ = encode (c :: cs) ++ rest := by rw [encode_cons c cs, List.append_assoc]
  | case3 lead bytes hcut =>
    refine ⟨lead :: bytes, ?_, step_eq_cut_iff.mp hcut⟩
    rw [encode_nil, List.nil_append]
  | case4 => exact absurd rfl h

/-- What is read of some bytes, unless a byte among them begins no sequence. -/
theorem decode_iff : (decode bytes).1 = cs ∧ (decode bytes).2 ≠ .bad ↔
    ∃ rest, bytes = encode cs ++ rest ∧ CutShort rest := by
  constructor
  · intro h
    obtain ⟨rfl, hbad⟩ := h
    exact exists_rest_of_decode hbad
  · intro h
    obtain ⟨rest, rfl, hcut⟩ := h
    rw [decode_encode_append]
    cases rest with
    | nil => simp [decode]
    | cons lead rest => simp [decode_of_cut (step_eq_cut_iff.mpr hcut)]

/-! ### Texts cut by a window -/

/-- These are the characters of a text that lie in its first `room` bytes as a whole. -/
def Within (room : Nat) (whole part : List Char) : Prop :=
  ∃ more, whole = part ++ more ∧ (encode part).length ≤ room ∧
    ∀ c ∈ more.head?, room < (encode (part ++ [c])).length

theorem exists_within (room : Nat) (whole : List Char) : ∃ part, Within room whole part := by
  induction whole generalizing room with
  | nil => exact ⟨[], [], rfl, by simp, nofun⟩
  | cons c cs ih =>
    by_cases hc : (encode [c]).length ≤ room
    · obtain ⟨part, more, rfl, hle, hnext⟩ := ih (room - (encode [c]).length)
      refine ⟨c :: part, more, rfl, ?_, fun d hd => ?_⟩
      · rw [encode_cons, List.length_append]
        omega
      · have hlong := hnext d hd
        rw [List.cons_append, encode_cons, List.length_append]
        omega
    · refine ⟨[], c :: cs, rfl, by simp, fun d hd => ?_⟩
      obtain rfl : c = d := Option.some.inj hd
      exact Nat.not_le.mp hc

/-- A window of a text holds the characters that lie in it, and may cut one more. -/
theorem take_of_within {room : Nat} {whole part : List Char} (h : Within room whole part) :
    ∃ rest, (encode whole).take room = encode part ++ rest ∧ CutShort rest := by
  obtain ⟨more, rfl, hle, hnext⟩ := h
  refine ⟨(encode more).take (room - (encode part).length), ?_, ?_⟩
  · rw [encode_append, List.take_append, List.take_of_length_le hle]
  · cases more with
    | nil =>
      rw [encode_nil, List.take_nil]
      exact cutShort_nil
    | cons c more =>
      have hlong := hnext c rfl
      rw [encode_append, List.length_append] at hlong
      have hshort : room - (encode part).length < (encode [c]).length := by omega
      rw [encode_cons, List.take_append_of_le_length (Nat.le_of_lt hshort)]
      refine ⟨c, List.take_prefix _ _, fun heq => ?_⟩
      have hlength := congrArg List.length heq
      rw [List.length_take] at hlength
      omega

end AttachmentIntake.Text.Utf8
