import Mathlib.Data.List.Basic
import Mathlib.Data.List.Chain
import Std.Data.TreeMap.Lemmas

/-!
Search trees over rows in ascending order. They are built and searched by plain recursion, so that a
fact about every row of a long table can be settled by evaluation; a map of the same rows finds the
same values.
-/

namespace AttachmentIntake

inductive SearchTree (α : Type) where
  | leaf
  | node (left : SearchTree α) (key : Nat) (value : α) (right : SearchTree α)

namespace SearchTree

variable {α : Type} {n : Nat} {a : α} {rows : List (Nat × α)}

/-- The comparisons are those of `Nat.blt`, which evaluation has built in. -/
def find? (n : Nat) : SearchTree α → Option α
  | .leaf => none
  | .node left key value right =>
    bif n.blt key then find? n left else bif key.blt n then find? n right else some value

@[simp] theorem find?_node (left right : SearchTree α) (key : Nat) (value : α) :
    (node left key value right).find? n =
      if n < key then left.find? n else if key < n then right.find? n else some value := by
  simp [find?, cond_eq_ite, Nat.blt_eq]

def toList : SearchTree α → List (Nat × α)
  | .leaf => []
  | .node left key value right => left.toList ++ (key, value) :: right.toList

/-- A tree of at most the given height over the first rows, and the rows that are left. -/
def grow : Nat → List (Nat × α) → SearchTree α × List (Nat × α)
  | 0, rows => (.leaf, rows)
  | height + 1, rows =>
    match grow height rows with
    | (left, []) => (left, [])
    | (left, (key, value) :: rows) =>
      match grow height rows with
      | (right, rows) => (.node left key value right, rows)

theorem toList_grow (height : Nat) (rows : List (Nat × α)) :
    (grow height rows).1.toList ++ (grow height rows).2 = rows := by
  induction height generalizing rows with
  | zero => rfl
  | succ height ih =>
    have hleft := ih rows
    simp only [grow]
    split
    next left hgrow => rwa [hgrow] at hleft
    next left key value more hgrow =>
      have hright := ih more
      rw [hgrow] at hleft
      rw [← hleft, toList, List.append_assoc, List.cons_append, hright]

/-- Keys grow from row to row. -/
def Ascending (rows : List (Nat × α)) : Prop := rows.IsChain fun r s => r.1 < s.1

/-- The check of a chain, row by row. -/
def isAscending : List (Nat × α) → Bool
  | [] => true
  | [_] => true
  | r :: s :: rows => r.1.blt s.1 && isAscending (s :: rows)

@[simp] theorem isAscending_iff : isAscending rows = true ↔ Ascending rows := by
  fun_induction isAscending rows with
  | case1 => simp [Ascending]
  | case2 r => simp [Ascending]
  | case3 r s rows ih =>
    rw [Ascending, List.isChain_cons_cons, ← Ascending, ← ih, Bool.and_eq_true, Nat.blt_eq]

instance : DecidablePred (@Ascending α) := fun _ => decidable_of_iff _ isAscending_iff

theorem Ascending.pairwise (h : Ascending rows) : rows.Pairwise fun r s => r.1 < s.1 := by
  have : IsTrans (Nat × α) fun r s => r.1 < s.1 := ⟨fun _ _ _ => Nat.lt_trans⟩
  exact List.isChain_iff_pairwise.mp h

theorem Ascending.map {β : Type} {f : Nat × α → Nat × β} (h : Ascending rows)
    (hf : ∀ r, (f r).1 = r.1) : Ascending (rows.map f) := by
  rw [Ascending, List.isChain_map]
  simp only [hf]
  exact h

theorem find?_eq_some_iff {t : SearchTree α} (h : t.toList.Pairwise fun r s => r.1 < s.1) :
    t.find? n = some a ↔ (n, a) ∈ t.toList := by
  induction t with
  | leaf => simp [find?, toList]
  | node left key value right ihleft ihright =>
    simp only [toList, List.pairwise_append, List.pairwise_cons, List.forall_mem_cons] at h
    obtain ⟨hleft, ⟨hright, hright'⟩, hcross⟩ := h
    have hbelow : ∀ r ∈ left.toList, r.1 < key := fun r hr => (hcross r hr).1
    rw [find?_node]
    simp only [toList, List.mem_append, List.mem_cons, Prod.mk.injEq]
    split_ifs with hlt hgt
    · rw [ihleft hleft]
      constructor
      · exact .inl
      · rintro (hmem | ⟨rfl, -⟩ | hmem)
        · exact hmem
        · exact absurd hlt (Nat.lt_irrefl _)
        · exact absurd hlt (Nat.lt_asymm (hright _ hmem))
    · rw [ihright hright']
      constructor
      · exact fun hmem => .inr (.inr hmem)
      · rintro (hmem | ⟨rfl, -⟩ | hmem)
        · exact absurd hgt (Nat.lt_asymm (hbelow _ hmem))
        · exact absurd hgt (Nat.lt_irrefl _)
        · exact hmem
    · obtain rfl : n = key := by omega
      rw [Option.some.injEq]
      constructor
      · rintro rfl
        exact .inr (.inl ⟨rfl, rfl⟩)
      · rintro (hmem | ⟨-, rfl⟩ | hmem)
        · exact absurd (hbelow _ hmem) (Nat.lt_irrefl _)
        · rfl
        · exact absurd (hright _ hmem) (Nat.lt_irrefl _)

/-- A tree that has room for all rows finds the value of each, and nothing else. -/
theorem find?_grow_eq_some_iff {height : Nat} (h : Ascending rows)
    (hroom : (grow height rows).2 = []) :
    (grow height rows).1.find? n = some a ↔ (n, a) ∈ rows := by
  have hlist := toList_grow height rows
  rw [hroom, List.append_nil] at hlist
  rw [find?_eq_some_iff (by rw [hlist]; exact h.pairwise), hlist]

/-! ### Maps of the same rows -/

theorem mem_of_getElem?_ofList (h : (Std.TreeMap.ofList rows)[n]? = some a) : (n, a) ∈ rows := by
  induction rows using List.reverseRecOn with
  | nil => simp at h
  | append_singleton rows r ih =>
    obtain ⟨key, value⟩ := r
    rw [Std.TreeMap.ofList_eq_insertMany_empty, Std.TreeMap.insertMany_append,
      Std.TreeMap.insertMany_list_singleton, Std.TreeMap.getElem?_insert,
      ← Std.TreeMap.ofList_eq_insertMany_empty] at h
    split_ifs at h with hkey
    · obtain rfl := Nat.compare_eq_eq.mp hkey
      obtain rfl := Option.some.inj h
      exact List.mem_append_right _ (List.mem_singleton.mpr rfl)
    · exact List.mem_append_left _ (ih h)

theorem getElem?_ofList_eq_some_iff (h : Ascending rows) :
    (Std.TreeMap.ofList rows)[n]? = some a ↔ (n, a) ∈ rows := by
  have hdistinct : rows.Pairwise fun r s => ¬ compare r.1 s.1 = .eq :=
    h.pairwise.imp fun hlt heq => Nat.ne_of_lt hlt (Nat.compare_eq_eq.mp heq)
  exact ⟨mem_of_getElem?_ofList,
    Std.TreeMap.getElem?_ofList_of_mem (Nat.compare_eq_eq.mpr rfl) hdistinct⟩

end SearchTree

end AttachmentIntake
