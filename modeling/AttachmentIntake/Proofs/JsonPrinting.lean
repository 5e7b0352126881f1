import AttachmentIntake.Proofs.JsonReader

/-! Different values are printed differently. A text ends at its closing mark, every other value in
front of a comma or a line break, and the first character of a value tells which kind it is; so the
value can be read off the printed text from the left. Values with floating-point numbers are left
out, as these are printed by their shortest text. -/

namespace AttachmentIntake.Json

open Spelling

variable {rest rest' : List Char} {depth : Nat}

/-- What can stand behind a value on its line: nothing, a comma or a line break. -/
def Stops (rest : List Char) : Prop := ∀ c ∈ rest.head?, c = ',' ∨ c = '\n'

/-- Of the items that are `ok`, no other one has a line that goes on like this one. -/
def Distinct {α : Type} (ok : α → Prop) (line : α → String) (a : α) : Prop :=
  ∀ a' rest rest', ok a' → Stops rest → Stops rest' →
    (line a).toList ++ rest = (line a').toList ++ rest' → a = a' ∧ rest = rest'

/-! ### Texts and other scalars -/

/-- A text is read back from its printed form, whatever follows it. -/
theorem stringBody_writeText (s : String) (rest : List Char) :
    ∃ w, Text.Utf8.encode ((Value.writeText s).toList ++ rest) = quote :: w ∧
      Reader.stringBody w = .ok (s, Text.Utf8.encode rest) := by
  have htext := ofText_writeText s
  generalize hbytes : utf8 (Value.writeText s) = bytes at htext
  cases htext with
  | @mk w hchars =>
    refine ⟨w ++ quote :: Text.Utf8.encode rest, ?_, Reader.stringBody_of_chars hchars⟩
    rw [Text.Utf8.encode_append, ← utf8, hbytes]
    simp

theorem writeText_cancel {s s' : String}
    (h : (Value.writeText s).toList ++ rest = (Value.writeText s').toList ++ rest') :
    s = s' ∧ rest = rest' := by
  obtain ⟨w, hw, hread⟩ := stringBody_writeText s rest
  obtain ⟨w', hw', hread'⟩ := stringBody_writeText s' rest'
  rw [h, hw'] at hw
  injection hw with _ hw
  rw [← hw, hread'] at hread
  injection hread with hread
  injection hread with hs
  subst hs
  exact ⟨rfl, List.append_cancel_left h⟩

/-- Two words without commas and line breaks are told apart by what stops them. -/
theorem word_cancel {w w' : List Char} (hw : ∀ c ∈ w, c ≠ ',' ∧ c ≠ '\n')
    (hw' : ∀ c ∈ w', c ≠ ',' ∧ c ≠ '\n') (hrest : Stops rest) (hrest' : Stops rest')
    (h : w ++ rest = w' ++ rest') : w = w' ∧ rest = rest' := by
  induction w generalizing w' with
  | nil =>
    cases w' with
    | nil => exact ⟨rfl, h⟩
    | cons c w' =>
      rcases hrest c (by rw [List.nil_append] at h; rw [h]; rfl) with rfl | rfl
      · exact absurd rfl (hw' _ List.mem_cons_self).1
      · exact absurd rfl (hw' _ List.mem_cons_self).2
  | cons c w ih =>
    cases w' with
    | nil =>
      rcases hrest' c (by rw [List.nil_append] at h; rw [← h]; rfl) with rfl | rfl
      · exact absurd rfl (hw _ List.mem_cons_self).1
      · exact absurd rfl (hw _ List.mem_cons_self).2
    | cons c' w' =>
      injection h with hc h
      obtain ⟨rfl, hsame⟩ := ih (List.forall_mem_cons.mp hw).2 (List.forall_mem_cons.mp hw').2 h
      exact ⟨by rw [hc], hsame⟩

theorem toDigits_inj {m n : Nat} (h : Nat.toDigits 10 m = Nat.toDigits 10 n) : m = n := by
  rw [← Nat.ofDigitChars_ten_toDigits (n := m), h, Nat.ofDigitChars_ten_toDigits]

/-! ### Blocks -/

section Blocks

variable {α : Type} {ok : α → Prop} {line : α → String} {opening closing : String}

/-- What follows an item of a block: the other items, each on its line, and the closing bracket. -/
def following (depth : Nat) (closing : String) : List String → List Char
  | [] => '\n' :: (Value.indent depth ++ closing).toList
  | l :: ls =>
    ',' :: '\n' :: ((Value.indent (depth + 1)).toList ++ (l.toList ++ following depth closing ls))

theorem stops_following (lines : List String) :
    Stops (following depth closing lines ++ rest) := by
  intro c hc
  cases lines with
  | nil => exact .inr (Option.some.inj hc).symm
  | cons l ls => exact .inl (Option.some.inj hc).symm

theorem intercalate_toList (l : String) (ls : List String) :
    (",\n".intercalate ((l :: ls).map fun l => Value.indent (depth + 1) ++ l) ++ "\n" ++
      Value.indent depth ++ closing).toList =
        (Value.indent (depth + 1)).toList ++ (l.toList ++ following depth closing ls) := by
  induction ls generalizing l with
  | nil => simp [following]
  | cons l' ls ih =>
    have hmore := ih l'
    rw [List.map_cons] at hmore
    rw [List.map_cons, List.map_cons, String.intercalate_cons_cons]
    simp only [String.toList_append] at hmore ⊢
    simp only [List.append_assoc] at hmore ⊢
    rw [hmore]
    simp [following]

theorem block_toList (l : String) (ls : List String) :
    (Value.block opening closing depth (l :: ls)).toList = opening.toList ++ '\n' ::
      ((Value.indent (depth + 1)).toList ++ (l.toList ++ following depth closing ls)) := by
  rw [← intercalate_toList]
  simp [Value.block]

theorem following_cancel {as as' : List α} (h : ∀ a ∈ as, Distinct ok line a)
    (hok : ∀ a ∈ as', ok a) (heq : following depth closing (as.map line) ++ rest =
      following depth closing (as'.map line) ++ rest') : as = as' ∧ rest = rest' := by
  induction as generalizing as' with
  | nil =>
    cases as' with
    | nil => exact ⟨rfl, List.append_cancel_left heq⟩
    | cons a' as' =>
      injection heq with hc
      exact absurd hc (by decide)
  | cons a as ih =>
    cases as' with
    | nil =>
      injection heq with hc
      exact absurd hc (by decide)
    | cons a' as' =>
      obtain ⟨ha, has⟩ := List.forall_mem_cons.mp h
      obtain ⟨ha', has'⟩ := List.forall_mem_cons.mp hok
      simp only [List.map_cons, following, List.cons_append, List.append_assoc, List.cons.injEq,
        true_and, List.append_cancel_left_eq] at heq
      obtain ⟨rfl, hmore⟩ :=
        ha a' _ _ ha' (stops_following _) (stops_following _) heq
      obtain ⟨rfl, hrest⟩ := ih has has' hmore
      exact ⟨rfl, hrest⟩

@[simp] theorem block_nil : (Value.block opening closing depth []).toList =
    opening.toList ++ closing.toList := by
  simp [Value.block]

theorem block_cancel {as as' : List α} {c : Char} (h : ∀ a ∈ as, Distinct ok line a)
    (hok : ∀ a ∈ as', ok a) (hclosing : closing.toList = [c]) (hc : c ≠ '\n')
    (heq : (Value.block opening closing depth (as.map line)).toList ++ rest =
      (Value.block opening closing depth (as'.map line)).toList ++ rest') :
    as = as' ∧ rest = rest' := by
  cases as with
  | nil =>
    cases as' with
    | nil => exact ⟨rfl, List.append_cancel_left heq⟩
    | cons a' as' =>
      rw [List.map_nil, List.map_cons, block_nil, block_toList, hclosing] at heq
      simp only [List.append_assoc, List.append_cancel_left_eq, List.cons_append,
        List.cons.injEq] at heq
      exact absurd heq.1 hc
  | cons a as =>
    cases as' with
    | nil =>
      rw [List.map_nil, List.map_cons, block_nil, block_toList, hclosing] at heq
      simp only [List.append_assoc, List.append_cancel_left_eq, List.cons_append,
        List.cons.injEq] at heq
      exact absurd heq.1.symm hc
    | cons a' as' =>
      obtain ⟨ha, has⟩ := List.forall_mem_cons.mp h
      obtain ⟨ha', has'⟩ := List.forall_mem_cons.mp hok
      rw [List.map_cons, List.map_cons, block_toList, block_toList] at heq
      simp only [List.append_assoc, List.append_cancel_left_eq, List.cons_append, List.cons.injEq,
        true_and] at heq
      obtain ⟨rfl, hmore⟩ := ha a' _ _ ha' (stops_following _) (stops_following _) heq
      obtain ⟨rfl, hrest⟩ := following_cancel has has' hmore
      exact ⟨rfl, hrest⟩

end Blocks

/-! ### Values -/

namespace Value

mutual

/-- Whether a value has no floating-point number in it. -/
def isExact : Value → Bool
  | .null | .boolean _ | .integer _ | .text _ => true
  | .float _ => false
  | .array items => areExact items
  | .object entries => haveExact entries

def areExact : List Value → Bool
  | [] => true
  | v :: vs => isExact v && areExact vs

def haveExact : List (String × Value) → Bool
  | [] => true
  | (_, v) :: es => isExact v && haveExact es

end

@[simp] theorem areExact_iff {items : List Value} :
    areExact items = true ↔ ∀ v ∈ items, isExact v = true := by
  induction items with
  | nil => simp [areExact]
  | cons v vs ih => simp [areExact, ih]

@[simp] theorem haveExact_iff {entries : List (String × Value)} :
    haveExact entries = true ↔ ∀ e ∈ entries, isExact e.2 = true := by
  induction entries with
  | nil => simp [haveExact]
  | cons e es ih => simp [haveExact, ih]

@[simp] theorem prettyItems_eq (items : List Value) :
    prettyItems depth items = items.map (pretty (depth + 1)) := by
  induction items with
  | nil => rfl
  | cons v vs ih => rw [prettyItems, ih, List.map_cons]

/-- The line of an entry of an object. -/
def entryLine (depth : Nat) (e : String × Value) : String :=
  writeText e.1 ++ ": " ++ pretty depth e.2

@[simp] theorem prettyEntries_eq (entries : List (String × Value)) :
    prettyEntries depth entries = entries.map (entryLine (depth + 1)) := by
  induction entries with
  | nil => rfl
  | cons e es ih => rw [prettyEntries, ih, List.map_cons, entryLine]

/-- The kinds of values that are told apart by their first character. -/
inductive Kind where
  | null
  | boolean
  | number
  | text
  | array
  | object

def kind : Value → Kind
  | .null => .null
  | .boolean _ => .boolean
  | .integer _ | .float _ => .number
  | .text _ => .text
  | .array _ => .array
  | .object _ => .object

/-- The kind of the value that starts with a character. -/
def kindOf (c : Char) : Kind :=
  match c with
  | 'n' => .null
  | 't' | 'f' => .boolean
  | '"' => .text
  | '[' => .array
  | '\x7b' => .object
  | _ => .number

theorem boolean_cancel {b b' : Bool}
    (h : (toString b).toList ++ rest = (toString b').toList ++ rest') : b = b' ∧ rest = rest' := by
  cases b with
  | false =>
    cases b' with
    | false => exact ⟨rfl, List.append_cancel_left h⟩
    | true =>
      have hfirst : 'f' = 't' := Option.some.inj (congrArg List.head? h)
      exact absurd hfirst (by decide)
  | true =>
    cases b' with
    | false =>
      have hfirst : 't' = 'f' := Option.some.inj (congrArg List.head? h)
      exact absurd hfirst (by decide)
    | true => exact ⟨rfl, List.append_cancel_left h⟩

theorem toString_ofNat (n : Nat) : (toString (Int.ofNat n)).toList = Nat.toDigits 10 n :=
  String.toList_ofList

theorem toString_negSucc (n : Nat) :
    (toString (Int.negSucc n)).toList = '-' :: Nat.toDigits 10 (n + 1) := by
  change ("-" ++ String.ofList (Nat.toDigits 10 (n + 1))).toList = _
  rw [String.toList_append, String.toList_ofList, String.toList_ofList]
  rfl

theorem toString_ne_nil (n : Int) : (toString n).toList ≠ [] := by
  cases n with
  | ofNat n =>
    rw [toString_ofNat]
    exact Nat.toDigits_ne_nil
  | negSucc n =>
    rw [toString_negSucc]
    exact List.cons_ne_nil _ _

theorem mem_toString {n : Int} {c : Char} (h : c ∈ (toString n).toList) :
    c = '-' ∨ c.isDigit = true := by
  have hdigit {m : Nat} (hm : c ∈ Nat.toDigits 10 m) : c.isDigit = true :=
    Nat.isDigit_of_mem_toDigits (by decide) (by decide) hm
  cases n with
  | ofNat m => exact .inr (hdigit (toString_ofNat m ▸ h))
  | negSucc m =>
    rw [toString_negSucc, List.mem_cons] at h
    exact h.imp_right hdigit

theorem toString_inj {m n : Int} (h : (toString m).toList = (toString n).toList) : m = n := by
  have hsign {k l : Nat} (hkl : Nat.toDigits 10 k = '-' :: Nat.toDigits 10 l) : False := by
    have hmem : '-' ∈ Nat.toDigits 10 k := hkl ▸ List.mem_cons_self
    exact absurd (Nat.isDigit_of_mem_toDigits (by decide) (by decide) hmem) (by decide)
  cases m with
  | ofNat m =>
    cases n with
    | ofNat n =>
      have hdigits : Nat.toDigits 10 m = Nat.toDigits 10 n := by
        rwa [← toString_ofNat, ← toString_ofNat]
      rw [toDigits_inj hdigits]
    | negSucc n => exact (hsign ((toString_ofNat m).symm.trans (h.trans (toString_negSucc n)))).elim
  | negSucc m =>
    cases n with
    | ofNat n =>
      exact (hsign ((toString_ofNat n).symm.trans (h.symm.trans (toString_negSucc m)))).elim
    | negSucc n =>
      rw [toString_negSucc, toString_negSucc] at h
      injection h with _ hdigits
      rw [Nat.succ.inj (toDigits_inj hdigits)]

theorem not_stops_of_mem_toString {n : Int} : ∀ c ∈ (toString n).toList, c ≠ ',' ∧ c ≠ '\n' := by
  intro c hc
  rcases mem_toString hc with rfl | hdigit
  · decide
  · constructor
    · rintro rfl
      cases hdigit
    · rintro rfl
      cases hdigit

theorem integer_cancel {m n : Int} (hrest : Stops rest) (hrest' : Stops rest')
    (h : (toString m).toList ++ rest = (toString n).toList ++ rest') : m = n ∧ rest = rest' := by
  obtain ⟨hsame, hmore⟩ :=
    word_cancel not_stops_of_mem_toString not_stops_of_mem_toString hrest hrest' h
  exact ⟨toString_inj hsame, hmore⟩

theorem head?_block {opening closing : String} {c : Char} (hc : opening.toList = [c])
    (lines : List String) : (block opening closing depth lines).toList.head? = some c := by
  cases lines with
  | nil => rw [block_nil, hc]; rfl
  | cons l ls => rw [block_toList, hc]; rfl

theorem kindOf_of_mem_toString {n : Int} {c : Char} (h : c ∈ (toString n).toList) :
    kindOf c = .number := by
  rcases mem_toString h with rfl | hdigit
  · rfl
  · unfold kindOf
    split
    all_goals first | rfl | cases hdigit

/-- The first character tells the kind. -/
theorem kindOf_head? {v : Value} (h : isExact v = true) :
    (pretty depth v).toList.head?.map kindOf = some (kind v) := by
  cases v with
  | null =>
    rw [pretty]
    rfl
  | boolean b =>
    rw [pretty]
    cases b <;> rfl
  | float x => cases h
  | text s =>
    rw [pretty, writeText, String.toList_ofList]
    rfl
  | integer n =>
    rw [pretty]
    obtain ⟨c, hc⟩ := Option.isSome_iff_exists.mp (List.isSome_head?.mpr (toString_ne_nil n))
    rw [hc, Option.map_some, kindOf_of_mem_toString (List.mem_of_head? hc), kind]
  | array items =>
    rw [pretty, head?_block (c := '[') (by decide)]
    rfl
  | object entries =>
    rw [pretty, head?_block (c := '\x7b') (by decide)]
    rfl

theorem kind_eq {v v' : Value} (h : isExact v = true) (h' : isExact v' = true)
    (heq : (pretty depth v).toList ++ rest = (pretty depth v').toList ++ rest') :
    kind v = kind v' := by
  have hkind (v : Value) (h : isExact v = true) (rest : List Char) :
      ((pretty depth v).toList ++ rest).head?.map kindOf = some (kind v) := by
    have hfirst : (pretty depth v).toList.head?.map kindOf = some (kind v) := kindOf_head? h
    cases htext : (pretty depth v).toList with
    | nil => rw [htext] at hfirst; cases hfirst
    | cons c cs => rw [htext] at hfirst; exact hfirst
  have hsame := hkind v h rest
  rw [heq, hkind v' h' rest'] at hsame
  exact (Option.some.inj hsame).symm

/-- An entry is told apart by its key, and then by its value. -/
theorem distinct_entryLine {e : String × Value}
    (h : Distinct (fun v => isExact v = true) (pretty depth) e.2) :
    Distinct (fun e => isExact e.2 = true) (entryLine depth) e := by
  intro e' rest rest' hexact hrest hrest' heq
  simp only [entryLine, String.toList_append, List.append_assoc] at heq
  obtain ⟨hkey, hmore⟩ := writeText_cancel heq
  obtain ⟨hvalue, hsame⟩ := h e'.2 rest rest' hexact hrest hrest' (List.append_cancel_left hmore)
  exact ⟨Prod.ext hkey hvalue, hsame⟩

mutual

/-- A value is told by its printed form, whatever stops it. -/
theorem distinct_pretty : ∀ (v : Value) (depth : Nat), isExact v = true →
    Distinct (fun v => isExact v = true) (pretty depth) v
  | .null, depth, h, v', rest, rest', h', hrest, hrest', heq => by
    have hkind := kind_eq h h' heq
    cases v' with
    | null => exact ⟨rfl, List.append_cancel_left heq⟩
    | boolean b | integer n | float x | text s | array items | object entries => cases hkind
  | .boolean b, depth, h, v', rest, rest', h', hrest, hrest', heq => by
    have hkind := kind_eq h h' heq
    cases v' with
    | boolean b' =>
      obtain ⟨rfl, hmore⟩ := boolean_cancel heq
      exact ⟨rfl, hmore⟩
    | null | integer n | float x | text s | array items | object entries => cases hkind
  | .integer n, depth, h, v', rest, rest', h', hrest, hrest', heq => by
    have hkind := kind_eq h h' heq
    cases v' with
    | integer n' =>
      obtain ⟨rfl, hmore⟩ := integer_cancel hrest hrest' heq
      exact ⟨rfl, hmore⟩
    | float x => cases h'
    | null | boolean b | text s | array items | object entries => cases hkind
  | .float x, depth, h, v', rest, rest', h', hrest, hrest', heq => by cases h
  | .text s, depth, h, v', rest, rest', h', hrest, hrest', heq => by
    have hkind := kind_eq h h' heq
    cases v' with
    | text s' =>
      obtain ⟨rfl, hmore⟩ := writeText_cancel heq
      exact ⟨rfl, hmore⟩
    | null | boolean b | integer n | float x | array items | object entries => cases hkind
  | .array items, depth, h, v', rest, rest', h', hrest, hrest', heq => by
    have hkind := kind_eq h h' heq
    cases v' with
    | array items' =>
      rw [pretty, pretty, prettyItems_eq, prettyItems_eq] at heq
      obtain ⟨rfl, hmore⟩ := block_cancel (distinct_items items (depth + 1) h)
        (areExact_iff.mp h') (c := ']') (by decide) (by decide) heq
      exact ⟨rfl, hmore⟩
    | null | boolean b | integer n | float x | text s | object entries => cases hkind
  | .object entries, depth, h, v', rest, rest', h', hrest, hrest', heq => by
    have hkind := kind_eq h h' heq
    cases v' with
    | object entries' =>
      rw [pretty, pretty, prettyEntries_eq, prettyEntries_eq] at heq
      obtain ⟨rfl, hmore⟩ := block_cancel (distinct_entries entries (depth + 1) h)
        (haveExact_iff.mp h') (c := '\x7d') (by decide) (by decide) heq
      exact ⟨rfl, hmore⟩
    | null | boolean b | integer n | float x | text s | array items => cases hkind

theorem distinct_items : ∀ (items : List Value) (depth : Nat), areExact items = true →
    ∀ v ∈ items, Distinct (fun v => isExact v = true) (pretty depth) v
  | [], _, _ => nofun
  | v :: vs, depth, h => by
    obtain ⟨hv, hvs⟩ := Bool.and_eq_true_iff.mp h
    exact List.forall_mem_cons.mpr ⟨distinct_pretty v depth hv, distinct_items vs depth hvs⟩

theorem distinct_entries : ∀ (entries : List (String × Value)) (depth : Nat),
    haveExact entries = true →
    ∀ e ∈ entries, Distinct (fun e => isExact e.2 = true) (entryLine depth) e
  | [], _, _ => nofun
  | (key, v) :: es, depth, h => by
    obtain ⟨hv, hes⟩ := Bool.and_eq_true_iff.mp h
    exact List.forall_mem_cons.mpr
      ⟨distinct_entryLine (distinct_pretty v depth hv), distinct_entries es depth hes⟩

end

/-- What is printed tells the value. -/
theorem pretty_inj {v v' : Value} (h : isExact v = true) (h' : isExact v' = true)
    (heq : pretty depth v = pretty depth v') : v = v' := by
  have hstops : Stops [] := nofun
  exact (distinct_pretty v depth h v' [] [] h' hstops hstops (by rw [heq])).1

end Value

end AttachmentIntake.Json
