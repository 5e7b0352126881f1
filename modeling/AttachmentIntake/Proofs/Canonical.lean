import AttachmentIntake.Text.Canonical
import Mathlib.Data.List.Basic
import Mathlib.Data.List.Chain
import Mathlib.Tactic.SplitIfs

/-! Canonical composition is idempotent, and every piece of a composed text is composed. Decomposing a
composed text gives back the ordered characters that it was composed from, as a mark moves past
others only if they may trade places; a piece of it is composed from a part of these characters. -/

namespace AttachmentIntake.Text.Canonical.Properties

variable {p : Properties} {a b c m : Char} {cs ds marks : List Char}

/-! ### Decomposition -/

/-- Nothing of a character can be decomposed after so many steps. -/
def Settles (p : Properties) : Nat → Char → Prop
  | 0, c => p.parts? c = none
  | steps + 1, c => ∀ cs, p.parts? c = some cs → ∀ d ∈ cs, Settles p steps d

/-- Decomposition ends in time, and undoes every composition. -/
structure Lawful (p : Properties) : Prop where
  settles : ∀ c, p.Settles 4 c
  parts?_join : ∀ {a b c}, p.join? a b = some c → p.parts? c = some [a, b]

theorem settles_of_parts?_eq_none (h : p.parts? c = none) (steps : Nat) : p.Settles steps c := by
  cases steps with
  | zero => exact h
  | succ steps =>
    intro cs hcs
    rw [h] at hcs
    cases hcs

theorem decomposeIn_of_parts?_eq_none (h : p.parts? c = none) (steps : Nat) :
    p.decomposeIn steps c = [c] := by
  cases steps with
  | zero => rfl
  | succ steps => rw [decomposeIn, h]

theorem Settles.decomposeIn_add {steps : Nat} (h : p.Settles steps c) (more : Nat) :
    p.decomposeIn (steps + more) c = p.decomposeIn steps c := by
  induction steps generalizing c with
  | zero => exact decomposeIn_of_parts?_eq_none h _
  | succ steps ih =>
    rw [Nat.add_right_comm, decomposeIn, decomposeIn]
    cases hcs : p.parts? c with
    | none => rfl
    | some cs => exact List.flatMap_congr fun d hd => ih (h cs hcs d hd)

theorem Settles.parts?_eq_none {steps : Nat} (h : p.Settles steps c) {d : Char}
    (hd : d ∈ p.decomposeIn steps c) : p.parts? d = none := by
  induction steps generalizing c with
  | zero =>
    obtain rfl := List.mem_singleton.mp hd
    exact h
  | succ steps ih =>
    rw [decomposeIn] at hd
    cases hcs : p.parts? c with
    | none =>
      rw [hcs] at hd
      obtain rfl := List.mem_singleton.mp hd
      exact hcs
    | some cs =>
      rw [hcs] at hd
      obtain ⟨e, he, hde⟩ := List.mem_flatMap.mp hd
      exact ih (h cs hcs e he) hde

theorem decompose_of_parts?_eq_none (h : p.parts? c = none) : p.decompose c = [c] :=
  decomposeIn_of_parts?_eq_none h 5

theorem flatMap_decompose (h : ∀ c ∈ cs, p.parts? c = none) : cs.flatMap p.decompose = cs := by
  rw [List.flatMap_congr fun c hc => decompose_of_parts?_eq_none (h c hc), List.flatMap_singleton']

theorem Lawful.decompose (hp : p.Lawful) (h : p.parts? c = some cs) :
    p.decompose c = cs.flatMap p.decompose := by
  rw [Properties.decompose, decomposeIn, h]
  exact List.flatMap_congr fun d _ => ((hp.settles d).decomposeIn_add 1).symm

theorem Lawful.parts?_eq_none (hp : p.Lawful) {d : Char} (hd : d ∈ p.decompose c) :
    p.parts? d = none := by
  rw [Properties.decompose, (hp.settles c).decomposeIn_add 1] at hd
  exact (hp.settles c).parts?_eq_none hd

theorem Lawful.decompose_join (hp : p.Lawful) (h : p.join? a b = some c) :
    p.decompose c = p.decompose a ++ p.decompose b := by
  rw [hp.decompose (hp.parts?_join h)]
  simp

/-! ### Marks in order -/

/-- A character is not moved behind the one that follows it. -/
def InOrder (p : Properties) (c d : Char) : Prop :=
  p.combiningClass d = 0 ∨ p.combiningClass c ≤ p.combiningClass d

@[simp] theorem not_inOrder_iff : ¬ p.InOrder m c ↔
    0 < p.combiningClass c ∧ p.combiningClass c < p.combiningClass m := by
  unfold InOrder
  omega

theorem insertMark_cons_of_inOrder (h : p.InOrder m c) :
    p.insertMark m (c :: cs) = m :: c :: cs :=
  if_neg (mt not_inOrder_iff.mpr (not_not_intro h))

theorem insertMark_cons_of_not_inOrder (h : ¬ p.InOrder m c) :
    p.insertMark m (c :: cs) = c :: p.insertMark m cs :=
  if_pos (not_inOrder_iff.mp h)

theorem insertMark_of_isChain (h : (m :: cs).IsChain p.InOrder) : p.insertMark m cs = m :: cs := by
  cases cs with
  | nil => rfl
  | cons c cs => exact insertMark_cons_of_inOrder h.rel

theorem head?_insertMark (h : c ∈ (p.insertMark m cs).head?) : c = m ∨ c ∈ cs.head? := by
  cases cs with
  | nil => exact .inl (Option.some.inj h).symm
  | cons d ds =>
    by_cases hd : p.InOrder m d
    · rw [insertMark_cons_of_inOrder hd] at h
      exact .inl (Option.some.inj h).symm
    · rw [insertMark_cons_of_not_inOrder hd] at h
      exact .inr h

theorem isChain_insertMark (h : cs.IsChain p.InOrder) :
    (p.insertMark m cs).IsChain p.InOrder := by
  induction cs with
  | nil => exact .singleton m
  | cons c cs ih =>
    by_cases hc : p.InOrder m c
    · rw [insertMark_cons_of_inOrder hc]
      exact .cons_cons hc h
    · rw [insertMark_cons_of_not_inOrder hc]
      obtain ⟨hhead, htail⟩ := List.isChain_cons.mp h
      refine List.isChain_cons.mpr ⟨fun d hd => ?_, ih htail⟩
      rcases head?_insertMark hd with rfl | hd
      · exact .inr (Nat.le_of_lt (not_inOrder_iff.mp hc).2)
      · exact hhead d hd

@[simp] theorem mem_insertMark : c ∈ p.insertMark m cs ↔ c = m ∨ c ∈ cs := by
  induction cs with
  | nil => simp [insertMark]
  | cons d ds ih =>
    by_cases hd : p.InOrder m d
    · simp [insertMark_cons_of_inOrder hd]
    · simp only [insertMark_cons_of_not_inOrder hd, List.mem_cons, ih]
      exact or_left_comm

theorem isChain_orderMarks : ∀ cs, (p.orderMarks cs).IsChain p.InOrder
  | [] => .nil
  | _ :: cs => isChain_insertMark (isChain_orderMarks cs)

@[simp] theorem mem_orderMarks : c ∈ p.orderMarks cs ↔ c ∈ cs := by
  induction cs with
  | nil => rfl
  | cons d ds ih =>
    rw [orderMarks, List.foldr_cons, mem_insertMark, ← orderMarks, ih, List.mem_cons]

theorem orderMarks_of_isChain (h : cs.IsChain p.InOrder) : p.orderMarks cs = cs := by
  induction cs with
  | nil => rfl
  | cons c cs ih =>
    rw [orderMarks, List.foldr_cons, ← orderMarks, ih h.tail, insertMark_of_isChain h]

theorem orderMarks_append :
    p.orderMarks (cs ++ ds) = cs.foldr p.insertMark (p.orderMarks ds) :=
  List.foldr_append

/-- Marks of different classes may be put in place one before the other. -/
theorem insertMark_comm (hm : 0 < p.combiningClass m)
    (hlt : p.combiningClass m < p.combiningClass c) :
    p.insertMark c (p.insertMark m cs) = p.insertMark m (p.insertMark c cs) := by
  have hcm : ¬ p.InOrder c m := not_inOrder_iff.mpr ⟨hm, hlt⟩
  have hmc : p.InOrder m c := .inr (Nat.le_of_lt hlt)
  induction cs with
  | nil => exact (insertMark_cons_of_not_inOrder hcm).trans (insertMark_cons_of_inOrder hmc).symm
  | cons d ds ih =>
    by_cases hmd : p.InOrder m d
    · rw [insertMark_cons_of_inOrder hmd, insertMark_cons_of_not_inOrder hcm]
      by_cases hcd : p.InOrder c d
      · rw [insertMark_cons_of_inOrder hcd, insertMark_cons_of_inOrder hmc]
      · rw [insertMark_cons_of_not_inOrder hcd, insertMark_cons_of_inOrder hmd]
    · have hcd : ¬ p.InOrder c d := by
        rw [not_inOrder_iff] at hmd ⊢
        omega
      rw [insertMark_cons_of_not_inOrder hmd, insertMark_cons_of_not_inOrder hcd,
        insertMark_cons_of_not_inOrder hcd, insertMark_cons_of_not_inOrder hmd, ih]

/-- So a character may be put before marks of lower classes that are to stand before it. -/
theorem orderMarks_cons_append
    (h : ∀ m ∈ marks, 0 < p.combiningClass m ∧ p.combiningClass m < p.combiningClass c) :
    p.orderMarks (c :: (marks ++ cs)) = p.orderMarks (marks ++ c :: cs) := by
  induction marks with
  | nil => rfl
  | cons m marks ih =>
    obtain ⟨⟨hm, hlt⟩, hmarks⟩ := List.forall_mem_cons.mp h
    calc p.insertMark c (p.insertMark m (p.orderMarks (marks ++ cs)))
      _ = p.insertMark m (p.orderMarks (c :: (marks ++ cs))) := insertMark_comm hm hlt
      _ = p.insertMark m (p.orderMarks (marks ++ c :: cs)) := by rw [ih hmarks]

/-! ### Decomposing what was composed -/

/-- What composition goes through behind a starter: marks in order, already passed, and the rest. -/
structure Behind (p : Properties) (marks cs : List Char) : Prop where
  final : ∀ c ∈ marks.reverse ++ cs, p.parts? c = none
  isMark : ∀ m ∈ marks, 0 < p.combiningClass m
  inOrder : (marks.reverse ++ cs).IsChain p.InOrder

/-- The class never falls from one mark to the next. -/
theorem combiningClass_le_of_isChain (hpos : ∀ d ∈ m :: marks, 0 < p.combiningClass d)
    (h : (m :: marks).IsChain fun later earlier => p.InOrder earlier later)
    (hc : c ∈ m :: marks) : p.combiningClass c ≤ p.combiningClass m := by
  induction marks generalizing m with
  | nil => rw [List.mem_singleton.mp hc]
  | cons d ds ih =>
    obtain ⟨hm, hpos⟩ := List.forall_mem_cons.mp hpos
    have hdm : p.combiningClass d ≤ p.combiningClass m :=
      h.rel.resolve_left (Nat.ne_of_gt hm)
    rcases List.mem_cons.mp hc with rfl | hc
    · exact Nat.le_refl _
    · exact Nat.le_trans (ih hpos h.tail hc) hdm

namespace Behind

/-- A character that is not blocked is of a higher class than all marks before it. -/
theorem lt_of_not_isBlocked (h : p.Behind marks cs) (hc : p.isBlocked c marks = false)
    (hm : m ∈ marks) : p.combiningClass m < p.combiningClass c := by
  cases marks with
  | nil => cases hm
  | cons d ds =>
    have hdc : p.combiningClass d < p.combiningClass c := by simpa [isBlocked] using hc
    have hchain := List.isChain_reverse.mp (List.isChain_append.mp h.inOrder).1
    exact Nat.lt_of_le_of_lt (combiningClass_le_of_isChain h.isMark hchain hm) hdc

theorem push (h : p.Behind marks (c :: cs)) (hc : p.combiningClass c ≠ 0) :
    p.Behind (c :: marks) cs := by
  have hlist : (c :: marks).reverse ++ cs = marks.reverse ++ c :: cs := by simp
  exact ⟨hlist ▸ h.final, List.forall_mem_cons.mpr ⟨Nat.pos_of_ne_zero hc, h.isMark⟩,
    hlist ▸ h.inOrder⟩

theorem restart (h : p.Behind marks (c :: cs)) : p.Behind [] cs where
  final d hd := h.final d (List.mem_append_right _ (List.mem_cons_of_mem c hd))
  isMark := nofun
  inOrder := (List.isChain_append.mp h.inOrder).2.1.tail

/-- The marks stay in order around a character that is taken out, as they are of lower classes. -/
theorem skip (h : p.Behind marks (c :: cs)) (hc : p.isBlocked c marks = false) :
    p.Behind marks cs where
  final d hd := h.final d (by
    rw [List.mem_append] at hd ⊢
    exact hd.imp_right (List.mem_cons_of_mem c))
  isMark := h.isMark
  inOrder := by
    obtain ⟨hmarks, hcs, -⟩ := List.isChain_append.mp h.inOrder
    refine List.isChain_append.mpr ⟨hmarks, hcs.tail, fun m hm d hd => ?_⟩
    have hmem : m ∈ marks := List.mem_reverse.mp (List.mem_of_mem_getLast? hm)
    have hmc := h.lt_of_not_isBlocked hc hmem
    have hcd : p.InOrder c d := (List.isChain_cons.mp hcs).1 d hd
    unfold InOrder at hcd ⊢
    omega

end Behind

theorem orderMarks_composeAfter (hp : p.Lawful) (starter : Char) (h : p.Behind marks cs) :
    p.orderMarks ((p.composeAfter starter marks cs).flatMap p.decompose) =
      p.orderMarks (p.decompose starter ++ (marks.reverse ++ cs)) := by
  -- one case for each step of composition; `Behind` holds of what the step leaves
  fun_induction p.composeAfter starter marks cs with
  | case1 starter marks =>
    rw [List.flatMap_cons, flatMap_decompose fun c hc => h.final c (by simpa using hc),
      List.append_nil]
  | case2 starter marks c cs joined hjoined ih =>
    have hblocked : p.isBlocked c marks = false := by
      by_contra hne
      simp [hne] at hjoined
    have hjoin : p.join? starter c = some joined := by simpa [hblocked] using hjoined
    have hc : p.decompose c = [c] := decompose_of_parts?_eq_none (h.final c (by simp))
    have hlower : ∀ m ∈ marks.reverse,
        0 < p.combiningClass m ∧ p.combiningClass m < p.combiningClass c := fun m hm =>
      have hm := List.mem_reverse.mp hm
      ⟨h.isMark m hm, h.lt_of_not_isBlocked hblocked hm⟩
    -- decomposed, `c` stands in front of the marks that it was taken from behind
    rw [ih (h.skip hblocked), hp.decompose_join hjoin, hc, List.append_assoc, List.singleton_append,
      orderMarks_append, orderMarks_cons_append hlower, ← orderMarks_append]
  | case3 starter marks c cs _ hc ih =>
    have hmarks : marks.reverse.flatMap p.decompose = marks.reverse :=
      flatMap_decompose fun m hm => h.final m (List.mem_append_left _ hm)
    have hc : p.decompose c = [c] := decompose_of_parts?_eq_none (h.final c (by simp))
    rw [List.flatMap_append, List.flatMap_cons, hmarks, List.append_assoc, orderMarks_append,
      orderMarks_append, ih h.restart, hc, ← orderMarks_append, ← orderMarks_append]
    rfl
  | case4 starter marks c cs _ hc ih =>
    rw [ih (h.push hc), List.reverse_cons, List.append_assoc, List.singleton_append]

theorem orderMarks_composeAll (hp : p.Lawful) (hfinal : ∀ c ∈ cs, p.parts? c = none)
    (hcs : cs.IsChain p.InOrder) :
    p.orderMarks ((p.composeAll cs).flatMap p.decompose) = cs := by
  induction cs with
  | nil => rfl
  | cons c cs ih =>
    have hc : p.decompose c = [c] := decompose_of_parts?_eq_none (hfinal c List.mem_cons_self)
    have hrest : ∀ d ∈ cs, p.parts? d = none := (List.forall_mem_cons.mp hfinal).2
    rw [composeAll]
    split_ifs with hclass
    · have hbehind : p.Behind [] cs := ⟨hrest, nofun, hcs.tail⟩
      rw [orderMarks_composeAfter hp c hbehind, hc]
      exact orderMarks_of_isChain hcs
    · rw [List.flatMap_cons, hc, orderMarks_append, ih hrest hcs.tail]
      exact insertMark_of_isChain hcs

theorem Lawful.parts?_orderMarks (hp : p.Lawful)
    (h : c ∈ p.orderMarks (cs.flatMap p.decompose)) : p.parts? c = none := by
  obtain ⟨d, -, hd⟩ := List.mem_flatMap.mp (mem_orderMarks.mp h)
  exact hp.parts?_eq_none hd

/-! ### Pieces of composed texts -/

/-- What is left of characters in order once marks are taken out and the rest is cut somewhere. -/
inductive Thins (p : Properties) : List Char → List Char → Prop
  | cut {cs : List Char} : Thins p cs []
  | keep {c : Char} {cs ds : List Char} (h : Thins p cs ds) : Thins p (c :: cs) (c :: ds)
  | drop {m : Char} {cs ds : List Char} (hm : p.combiningClass m ≠ 0) (h : Thins p cs ds) :
    Thins p (m :: cs) ds

namespace Thins

theorem subset (h : p.Thins cs ds) : ds ⊆ cs := by
  induction h with
  | cut => exact List.nil_subset _
  | keep _ ih => exact List.cons_subset_cons _ ih
  | drop _ _ ih => exact List.subset_cons_of_subset _ ih

theorem isChain_cons (h : p.Thins cs ds) (hchain : (c :: cs).IsChain p.InOrder) :
    (c :: ds).IsChain p.InOrder := by
  induction h generalizing c with
  | cut => exact .singleton c
  | keep _ ih => exact .cons_cons hchain.rel (ih hchain.tail)
  | @drop m cs ds hm _ ih =>
    -- the mark that is taken out is of a class between those of its neighbours
    have hcm : p.combiningClass c ≤ p.combiningClass m := hchain.rel.resolve_left hm
    have hmds := ih hchain.tail
    cases ds with
    | nil => exact .singleton c
    | cons d ds =>
      have hcd : p.InOrder c d := hmds.rel.imp_right (Nat.le_trans hcm)
      exact .cons_cons hcd hmds.tail

theorem isChain (h : p.Thins cs ds) (hchain : cs.IsChain p.InOrder) : ds.IsChain p.InOrder := by
  induction h with
  | cut => exact .nil
  | keep h _ => exact h.isChain_cons hchain
  | drop _ _ ih => exact ih hchain.tail

end Thins

theorem composeAll_append_of_isMark (h : ∀ m ∈ marks, 0 < p.combiningClass m) :
    p.composeAll (marks ++ cs) = marks ++ p.composeAll cs := by
  induction marks with
  | nil => rfl
  | cons m marks ih =>
    obtain ⟨hm, hmarks⟩ := List.forall_mem_cons.mp h
    rw [List.cons_append, composeAll, if_neg (Nat.ne_of_gt hm), ih hmarks, List.cons_append]

/-- A text composed from characters that are final and in order. -/
def Composed (p : Properties) (text : List Char) : Prop :=
  ∃ cs, (∀ c ∈ cs, p.parts? c = none) ∧ cs.IsChain p.InOrder ∧ p.composeAll cs = text

theorem Behind.composed (h : p.Behind marks cs) :
    p.Composed (marks.reverse ++ p.composeAll cs) :=
  ⟨marks.reverse ++ cs, h.final, h.inOrder,
    composeAll_append_of_isMark fun m hm => h.isMark m (List.mem_reverse.mp hm)⟩

/-- What follows the first starter is composed by itself. -/
theorem Behind.composed_tail (h : p.Behind marks cs) (starter : Char) :
    p.Composed (p.composeAfter starter marks cs).tail := by
  fun_induction p.composeAfter starter marks cs with
  | case1 starter marks =>
    have hcomposed := h.composed
    rwa [composeAll, List.append_nil] at hcomposed
  | case2 starter marks c cs joined hjoined ih =>
    refine ih (h.skip ?_)
    by_contra hne
    simp [hne] at hjoined
  | case3 starter marks c cs _ hc _ =>
    have hcomposed := h.composed
    rwa [composeAll, if_pos hc] at hcomposed
  | case4 starter marks c cs _ hc ih => exact ih (h.push hc)

theorem isBlocked_eq_false (h : ∀ m ∈ marks, p.combiningClass m < p.combiningClass c) :
    p.isBlocked c marks = false := by
  cases marks with
  | nil => rfl
  | cons m marks =>
    have hmc := h m List.mem_cons_self
    simpa [isBlocked] using hmc

/-- The start of what is composed behind a starter is composed from fewer marks. -/
theorem Behind.exists_thins (h : p.Behind marks cs) (starter : Char) (n : Nat) :
    ∃ ds, p.Thins cs ds ∧ (p.composeAfter starter marks cs).take (n + 1) =
      p.composeAfter starter (marks.reverse.take n).reverse ds := by
  fun_induction p.composeAfter starter marks cs generalizing n with
  | case1 starter marks => exact ⟨[], .cut, by simp [composeAfter]⟩
  | case2 starter marks c cs joined hjoined ih =>
    have hblocked : p.isBlocked c marks = false := by
      by_contra hne
      simp [hne] at hjoined
    have hjoin : p.join? starter c = some joined := by simpa [hblocked] using hjoined
    -- what does not block `c` together does not block it in part
    have hkept : p.isBlocked c (marks.reverse.take n).reverse = false :=
      isBlocked_eq_false fun m hm => h.lt_of_not_isBlocked hblocked
        (List.mem_reverse.mp (List.mem_of_mem_take (List.mem_reverse.mp hm)))
    obtain ⟨ds, hds, htake⟩ := ih (h.skip hblocked) n
    refine ⟨c :: ds, hds.keep, ?_⟩
    rw [htake, composeAfter, hkept]
    simp only [Bool.false_eq_true, if_false, hjoin]
  | case3 starter marks c cs hjoined hc ih =>
    rcases Nat.lt_or_ge marks.length n with hlt | hle
    · obtain ⟨k, rfl⟩ := Nat.exists_eq_add_of_lt hlt
      obtain ⟨ds, hds, htake⟩ := ih h.restart k
      have hall : marks.reverse.take (marks.length + k + 1) = marks.reverse :=
        List.take_of_length_le (by simp; omega)
      refine ⟨c :: ds, hds.keep, ?_⟩
      rw [hall, List.reverse_reverse, composeAfter, hjoined, List.cons_append, List.take_succ_cons,
        List.take_append, hall, List.length_reverse, Nat.add_assoc, Nat.add_sub_cancel_left, htake]
      simp [hc]
    · refine ⟨[], .cut, ?_⟩
      rw [composeAfter, List.reverse_reverse, List.cons_append, List.take_succ_cons,
        List.take_append_of_le_length (by simpa using hle)]
  | case4 starter marks c cs hjoined hc ih =>
    obtain ⟨ds, hds, htake⟩ := ih (h.push hc) n
    rw [htake, List.reverse_cons]
    rcases Nat.lt_or_ge marks.length n with hlt | hle
    · have hall : marks.reverse.take n = marks.reverse :=
        List.take_of_length_le (by simp; omega)
      have hmore : (marks.reverse ++ [c]).take n = marks.reverse ++ [c] :=
        List.take_of_length_le (by simp; omega)
      refine ⟨c :: ds, hds.keep, ?_⟩
      rw [hall, hmore, List.reverse_reverse, ← List.reverse_cons, List.reverse_reverse,
        composeAfter, hjoined]
      simp [hc]
    · refine ⟨ds, hds.drop hc, ?_⟩
      rw [List.take_append_of_le_length (by simpa using hle)]

theorem exists_thins_composeAll (hfinal : ∀ c ∈ cs, p.parts? c = none)
    (hcs : cs.IsChain p.InOrder) (n : Nat) :
    ∃ ds, p.Thins cs ds ∧ (p.composeAll cs).take n = p.composeAll ds := by
  induction cs generalizing n with
  | nil => exact ⟨[], .cut, by simp [composeAll]⟩
  | cons c cs ih =>
    cases n with
    | zero => exact ⟨[], .cut, List.take_zero⟩
    | succ n =>
      have hrest : ∀ d ∈ cs, p.parts? d = none := (List.forall_mem_cons.mp hfinal).2
      by_cases hclass : p.combiningClass c = 0
      · have hbehind : p.Behind [] cs := ⟨hrest, nofun, hcs.tail⟩
        obtain ⟨ds, hds, htake⟩ := hbehind.exists_thins c n
        exact ⟨c :: ds, hds.keep, by simpa [composeAll, hclass] using htake⟩
      · obtain ⟨ds, hds, htake⟩ := ih hrest hcs.tail n
        exact ⟨c :: ds, hds.keep, by simp [composeAll, hclass, htake]⟩

namespace Composed

variable {text piece : List Char}

theorem take (h : p.Composed text) (n : Nat) : p.Composed (text.take n) := by
  obtain ⟨cs, hfinal, hcs, rfl⟩ := h
  obtain ⟨ds, hds, htake⟩ := exists_thins_composeAll hfinal hcs n
  exact ⟨ds, fun c hc => hfinal c (hds.subset hc), hds.isChain hcs, htake.symm⟩

theorem tail (h : p.Composed text) : p.Composed text.tail := by
  obtain ⟨cs, hfinal, hcs, rfl⟩ := h
  cases cs with
  | nil => exact ⟨[], by simp, .nil, rfl⟩
  | cons c cs =>
    have hrest : ∀ d ∈ cs, p.parts? d = none := (List.forall_mem_cons.mp hfinal).2
    rw [composeAll]
    split_ifs
    · have hbehind : p.Behind [] cs := ⟨hrest, nofun, hcs.tail⟩
      exact hbehind.composed_tail c
    · exact ⟨cs, hrest, hcs.tail, rfl⟩

theorem drop (h : p.Composed text) (n : Nat) : p.Composed (text.drop n) := by
  induction n with
  | zero => exact h
  | succ n ih =>
    rw [← List.tail_drop]
    exact ih.tail

/-- Every piece of a composed text is composed. -/
theorem of_isInfix (h : p.Composed text) (hpiece : piece <:+: text) : p.Composed piece := by
  obtain ⟨before, after, rfl⟩ := hpiece
  have hdropped := (h.drop before.length).take piece.length
  simpa using hdropped

theorem compose_eq (h : p.Composed text) (hp : p.Lawful) : p.compose text = text := by
  obtain ⟨cs, hfinal, hcs, rfl⟩ := h
  rw [compose, orderMarks_composeAll hp hfinal hcs]

end Composed

theorem Lawful.composed_compose (hp : p.Lawful) (cs : List Char) : p.Composed (p.compose cs) :=
  ⟨_, fun _ => hp.parts?_orderMarks, isChain_orderMarks _, rfl⟩

/-- Composing what was composed changes nothing. -/
theorem Lawful.compose_compose (hp : p.Lawful) (cs : List Char) :
    p.compose (p.compose cs) = p.compose cs := (hp.composed_compose cs).compose_eq hp

/-- Nor does composing a piece of it. -/
theorem Lawful.compose_of_isInfix (hp : p.Lawful) {piece : List Char} (h : p.compose cs = cs)
    (hpiece : piece <:+: cs) : p.compose piece = piece := by
  rw [← h] at hpiece
  exact ((hp.composed_compose cs).of_isInfix hpiece).compose_eq hp

end AttachmentIntake.Text.Canonical.Properties
