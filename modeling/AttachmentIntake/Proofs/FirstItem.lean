import Mathlib.Data.List.Infix
import Mathlib.Data.List.Nodup

/-! The first item of a list that meets a condition, where the condition may look at the items in
front of it. Passes over a list that stop at the first fault are told by it. -/

namespace AttachmentIntake

variable {α κ : Type} {p : List α → α → Prop} {l before : List α} {x a : α}

/-- No item meets a condition with the items in front of it. -/
def NoneWith (p : List α → α → Prop) (l : List α) : Prop :=
  ∀ before a, before ++ [a] <+: l → ¬ p before a

/-- The first item that meets a condition with the items in front of it. -/
structure FirstWith (p : List α → α → Prop) (l before : List α) (a : α) : Prop where
  split : before ++ [a] <+: l
  holds : p before a
  earliest : NoneWith p before

@[simp] theorem noneWith_nil : NoneWith p [] := by
  intro before a h
  simp at h

theorem noneWith_cons_iff :
    NoneWith p (x :: l) ↔ ¬ p [] x ∧ NoneWith (fun before => p (x :: before)) l := by
  constructor
  · intro h
    refine ⟨h [] x (by simp), fun before a hsplit => h (x :: before) a ?_⟩
    simpa using hsplit
  · rintro ⟨hx, hl⟩ before a hsplit
    cases before with
    | nil =>
      obtain rfl : a = x := by simpa using hsplit
      exact hx
    | cons y before =>
      obtain ⟨rfl, hrest⟩ : y = x ∧ before ++ [a] <+: l := by simpa using hsplit
      exact hl before a hrest

theorem noneWith_concat_iff : NoneWith p (l ++ [x]) ↔ NoneWith p l ∧ ¬ p l x := by
  constructor
  · intro h
    exact ⟨fun before a hsplit => h before a (hsplit.trans (List.prefix_append l [x])),
      h l x (List.prefix_refl _)⟩
  · rintro ⟨hl, hx⟩ before a hsplit
    rcases List.prefix_concat_iff.mp hsplit with heq | hsplit
    · obtain ⟨rfl, heq⟩ := List.append_inj' heq rfl
      obtain rfl : a = x := by simpa using heq
      exact hx
    · exact hl before a hsplit

theorem firstWith_cons_iff :
    FirstWith p (x :: l) before a ↔ (before = [] ∧ a = x ∧ p [] x) ∨
      ¬ p [] x ∧ ∃ rest, before = x :: rest ∧ FirstWith (fun b => p (x :: b)) l rest a := by
  constructor
  · rintro ⟨hsplit, hholds, hearliest⟩
    cases before with
    | nil =>
      obtain rfl : a = x := by simpa using hsplit
      exact .inl ⟨rfl, rfl, hholds⟩
    | cons y rest =>
      obtain ⟨rfl, hrest⟩ : y = x ∧ rest ++ [a] <+: l := by simpa using hsplit
      obtain ⟨hx, hnone⟩ := noneWith_cons_iff.mp hearliest
      exact .inr ⟨hx, rest, rfl, hrest, hholds, hnone⟩
  · rintro (⟨rfl, rfl, hholds⟩ | ⟨hx, rest, rfl, hsplit, hholds, hearliest⟩)
    · exact ⟨by simp, hholds, noneWith_nil⟩
    · exact ⟨by simpa using hsplit, hholds, noneWith_cons_iff.mpr ⟨hx, hearliest⟩⟩

/-- A pass over a list that stops with an error at the first item that meets a condition, and goes on
behind every other one, ends with an error of that item. -/
theorem pass_iff_first {ε : Type} (p : List α → α → Prop) (fails : List α → List α → ε → Prop)
    (error : List α → α → ε → Prop) (hend : ∀ seen e, ¬ fails seen [] e)
    (hstop : ∀ seen a l e, p seen a → (fails seen (a :: l) e ↔ error seen a e))
    (hnext : ∀ seen a l e, ¬ p seen a → (fails seen (a :: l) e ↔ fails (seen ++ [a]) l e))
    (seen l : List α) (e : ε) :
    fails seen l e ↔ ∃ before a, FirstWith (fun earlier => p (seen ++ earlier)) l before a ∧
      error (seen ++ before) a e := by
  induction l generalizing seen with
  | nil =>
    refine iff_of_false (hend seen e) ?_
    rintro ⟨before, a, hfirst, -⟩
    simpa using hfirst.split
  | cons x l ih =>
    simp only [firstWith_cons_iff, List.append_nil]
    by_cases hx : p seen x
    · rw [hstop seen x l e hx]
      constructor
      · intro he
        exact ⟨[], x, .inl ⟨rfl, rfl, hx⟩, by rwa [List.append_nil]⟩
      · rintro ⟨before, a, ⟨rfl, rfl, -⟩ | ⟨hnot, -⟩, he⟩
        · rwa [List.append_nil] at he
        · exact absurd hx hnot
    · rw [hnext seen x l e hx, ih]
      simp only [List.append_assoc, List.singleton_append]
      constructor
      · rintro ⟨before, a, hrest, he⟩
        exact ⟨x :: before, a, .inr ⟨hx, before, rfl, hrest⟩, he⟩
      · rintro ⟨before, a, ⟨-, -, hyes⟩ | ⟨-, rest, rfl, hrest⟩, he⟩
        · exact absurd hyes hx
        · exact ⟨rest, a, hrest, he⟩

/-- An item that is not wanted, or whose key an item in front of it has. -/
def Clashes (wanted : α → Prop) (key : α → κ) (before : List α) (a : α) : Prop :=
  ¬ wanted a ∨ ∃ b ∈ before, key b = key a

theorem noneWith_clashes_iff {wanted : α → Prop} {key : α → κ} :
    NoneWith (Clashes wanted key) l ↔ (∀ a ∈ l, wanted a) ∧ (l.map key).Nodup := by
  induction l using List.reverseRecOn with
  | nil => simp
  | append_singleton l x ih =>
    have hnodup : ((l ++ [x]).map key).Nodup ↔ (l.map key).Nodup ∧ ∀ b ∈ l, key b ≠ key x := by
      simp [List.nodup_append]
    have hclash : ¬ Clashes wanted key l x ↔ wanted x ∧ ∀ b ∈ l, key b ≠ key x := by
      simp [Clashes]
    rw [noneWith_concat_iff, ih, hclash, hnodup, List.forall_mem_append, List.forall_mem_singleton]
    tauto

end AttachmentIntake
