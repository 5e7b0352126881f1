import AttachmentIntake.Json.Value
import AttachmentIntake.Proofs.Utf8

/-!
How JSON values may be written: every way to spell a text, blanks wherever the format allows them.
Numbers and booleans are left out; the values that manifests are made of are `null`, texts, arrays
and objects. Of these values the compact form is a spelling, and so is the one with a line for every
item.
-/

namespace AttachmentIntake.Json

namespace Spelling

def quote : UInt8 := 0x22

def backslash : UInt8 := 0x5C

/-- Any number of spaces, tabs, line feeds and carriage returns. -/
def Blanks (w : List UInt8) : Prop := ∀ b ∈ w, b = 0x20 ∨ b = 0x09 ∨ b = 0x0A ∨ b = 0x0D

/-! ### Texts -/

/-- A digit below sixteen, with its letter in either case. -/
def HexDigit (n : Nat) (b : UInt8) : Prop :=
  n < 16 ∧ (b = (Nat.digitChar n).toUInt8 ∨ b = (Nat.digitChar n).toUpper.toUInt8)

/-- A number in four hexadecimal digits. -/
inductive HexCode : Nat → List UInt8 → Prop where
  | mk {n₁ n₂ n₃ n₄ : Nat} {b₁ b₂ b₃ b₄ : UInt8} : HexDigit n₁ b₁ → HexDigit n₂ b₂ →
      HexDigit n₃ b₃ → HexDigit n₄ b₄ →
      HexCode (((n₁ * 16 + n₂) * 16 + n₃) * 16 + n₄) [b₁, b₂, b₃, b₄]

/-- The characters that have an escape of one letter. -/
def letters : List (Char × Char) :=
  [('"', '"'), ('\\', '\\'), ('/', '/'), ('\x08', 'b'), ('\x0C', 'f'), ('\n', 'n'), ('\r', 'r'),
    ('\t', 't')]

inductive OfChar : Char → List UInt8 → Prop where
  | plain {c : Char} : 0x20 ≤ c.toNat → c ≠ '"' → c ≠ '\\' → OfChar c (Text.Utf8.encode [c])
  | letter {c l : Char} : (c, l) ∈ letters → OfChar c [backslash, l.toUInt8]
  | code {c : Char} {w : List UInt8} : HexCode c.toNat w → OfChar c (backslash :: 0x75 :: w)
  /-- Past U+FFFF, as a high and a low surrogate. -/
  | pair {c : Char} {high low : List UInt8} : 0x10000 ≤ c.toNat →
      HexCode (0xD800 + (c.toNat - 0x10000) / 0x400) high →
      HexCode (0xDC00 + (c.toNat - 0x10000) % 0x400) low →
      OfChar c (backslash :: 0x75 :: high ++ backslash :: 0x75 :: low)

inductive OfChars : List Char → List UInt8 → Prop where
  | nil : OfChars [] []
  | cons {c : Char} {cs : List Char} {v w : List UInt8} : OfChar c v → OfChars cs w →
      OfChars (c :: cs) (v ++ w)

/-- A text between its marks. -/
inductive OfText : String → List UInt8 → Prop where
  | mk {s : String} {w : List UInt8} : OfChars s.toList w → OfText s (quote :: w ++ [quote])

/-! ### Collections -/

section Collections

variable {α : Type}

/-- At least one item, with commas between them and blanks around each. -/
inductive Separated (item : α → List UInt8 → Prop) : List α → List UInt8 → Prop where
  | last {a : α} {before w after : List UInt8} : Blanks before → item a w → Blanks after →
      Separated item [a] (before ++ w ++ after)
  | more {a : α} {as : List α} {before w after ws : List UInt8} : Blanks before → item a w →
      Blanks after → Separated item as ws →
      Separated item (a :: as) (before ++ w ++ after ++ 0x2C :: ws)

/-- Any number of items. -/
inductive Items (item : α → List UInt8 → Prop) : List α → List UInt8 → Prop where
  | none {w : List UInt8} : Blanks w → Items item [] w
  | some {as : List α} {w : List UInt8} : Separated item as w → Items item as w

/-- A key and a value with a colon between them. -/
inductive OfEntry (value : α → List UInt8 → Prop) : String × α → List UInt8 → Prop where
  | mk {key : String} {a : α} {k v before after : List UInt8} : OfText key k → Blanks before →
      Blanks after → value a v → OfEntry value (key, a) (k ++ (before ++ 0x3A :: after ++ v))

theorem Separated.ne_nil {item : α → List UInt8 → Prop} {as : List α} {w : List UInt8}
    (h : Separated item as w) : as ≠ [] := by
  cases h <;> nofun

theorem Separated.singleton {item : α → List UInt8 → Prop} {a : α} {w : List UInt8}
    (h : Separated item [a] w) : ∃ before v after, w = before ++ v ++ after ∧ Blanks before ∧
      item a v ∧ Blanks after := by
  cases h with
  | last hbefore hv hafter => exact ⟨_, _, _, rfl, hbefore, hv, hafter⟩
  | more _ _ _ hnone => exact absurd rfl hnone.ne_nil

theorem Separated.pair {item : α → List UInt8 → Prop} {a b : α} {w : List UInt8}
    (h : Separated item [a, b] w) : ∃ before v after ws,
      w = before ++ v ++ after ++ 0x2C :: ws ∧ Blanks before ∧ item a v ∧ Blanks after ∧
        Separated item [b] ws := by
  cases h with
  | more hbefore hv hafter hlater => exact ⟨_, _, _, _, rfl, hbefore, hv, hafter, hlater⟩

theorem Items.separated {item : α → List UInt8 → Prop} {a : α} {as : List α} {w : List UInt8}
    (h : Items item (a :: as) w) : Separated item (a :: as) w := by
  cases h with
  | some h => exact h

end Collections

end Spelling

open Spelling

/-- The bytes spell the value. -/
inductive Spells : Value → List UInt8 → Prop where
  | null : Spells .null [0x6E, 0x75, 0x6C, 0x6C]
  | text {s : String} {w : List UInt8} : OfText s w → Spells (.text s) w
  | array {items : List Value} {w : List UInt8} : Items Spells items w →
      Spells (.array items) (0x5B :: w ++ [0x5D])
  | object {entries : List (String × Value)} {w : List UInt8} : Items (OfEntry Spells) entries w →
      Spells (.object entries) (0x7B :: w ++ [0x7D])

/-- A whole document: one value with blanks around it. -/
inductive SpellsDocument (v : Value) : List UInt8 → Prop where
  | mk {before w after : List UInt8} : Blanks before → Spells v w → Blanks after →
      SpellsDocument v (before ++ w ++ after)

/-! ### Written forms -/

/-- The bytes of a text. -/
def utf8 (s : String) : List UInt8 := Text.Utf8.encode s.toList

@[simp] theorem utf8_append (s t : String) : utf8 (s ++ t) = utf8 s ++ utf8 t := by
  simp only [utf8, String.toList_append, Text.Utf8.encode_append]

theorem ofChar_letter {c l : Char} (h : (c, l) ∈ letters) (hl : l.toNat ≤ 0x7F) :
    OfChar c (Text.Utf8.encode ['\\', l]) := by
  have hencode : Text.Utf8.encode ['\\', l] = [backslash, l.toUInt8] :=
    Text.Utf8.encode_of_ascii (by simpa using hl)
  exact hencode ▸ .letter h

theorem hexDigit_digitChar {n : Nat} (h : n < 16) : HexDigit n (Nat.digitChar n).toUInt8 :=
  ⟨h, .inl rfl⟩

theorem ofChar_control {c : Char} (h : c.toNat < 0x20) :
    OfChar c (Text.Utf8.encode ['\\', 'u', '0', '0', Nat.digitChar (c.toNat / 16),
      Nat.digitChar (c.toNat % 16)]) := by
  have hdigit : ∀ n < 16, (Nat.digitChar n).toNat ≤ 0x7F := by decide
  have hascii : ∀ d ∈ ['\\', 'u', '0', '0', Nat.digitChar (c.toNat / 16),
      Nat.digitChar (c.toNat % 16)], d.toNat ≤ 0x7F := by
    have hhigh := hdigit (c.toNat / 16) (by omega)
    have hlow := hdigit (c.toNat % 16) (by omega)
    simp [hhigh, hlow]
  have hcode : HexCode c.toNat [0x30, 0x30, (Nat.digitChar (c.toNat / 16)).toUInt8,
      (Nat.digitChar (c.toNat % 16)).toUInt8] := by
    have hmk := HexCode.mk (hexDigit_digitChar (n := 0) (by decide))
      (hexDigit_digitChar (n := 0) (by decide)) (hexDigit_digitChar (n := c.toNat / 16) (by omega))
      (hexDigit_digitChar (n := c.toNat % 16) (by omega))
    have hvalue : ((0 * 16 + 0) * 16 + c.toNat / 16) * 16 + c.toNat % 16 = c.toNat := by omega
    rwa [hvalue] at hmk
  rw [Text.Utf8.encode_of_ascii hascii]
  exact .code hcode

theorem ofChar_escapedChar (c : Char) : OfChar c (Text.Utf8.encode (Value.escapedChar c)) := by
  unfold Value.escapedChar
  split
  · exact ofChar_letter (by decide) (by decide)
  · exact ofChar_letter (by decide) (by decide)
  · exact ofChar_letter (by decide) (by decide)
  · exact ofChar_letter (by decide) (by decide)
  · exact ofChar_letter (by decide) (by decide)
  next hquote hslash _ _ _ =>
    split_ifs with hbackspace hfeed hcontrol
    · have hc : c = '\x08' := Char.toNat_inj.mp hbackspace
      exact ofChar_letter (by subst hc; decide) (by decide)
    · have hc : c = '\x0C' := Char.toNat_inj.mp hfeed
      exact ofChar_letter (by subst hc; decide) (by decide)
    · exact ofChar_control hcontrol
    · exact .plain (by omega) hquote hslash

theorem ofChars_escaped (cs : List Char) :
    OfChars cs (Text.Utf8.encode (cs.flatMap Value.escapedChar)) := by
  induction cs with
  | nil => exact Text.Utf8.encode_nil ▸ .nil
  | cons c cs ih =>
    rw [List.flatMap_cons, Text.Utf8.encode_append]
    exact .cons (ofChar_escapedChar c) ih

theorem ofText_writeText (s : String) : OfText s (utf8 (Value.writeText s)) := by
  have hquote : Text.Utf8.encode ['"'] = [quote] :=
    Text.Utf8.encode_of_ascii (List.forall_mem_singleton.mpr (by decide))
  rw [utf8, Value.writeText, String.toList_ofList, List.cons_append, Text.Utf8.encode_cons,
    Text.Utf8.encode_append, hquote]
  exact .mk (ofChars_escaped s.toList)

theorem utf8_of_ascii {s : String} (h : (s.toList.all fun c => c.toNat ≤ 0x7F) = true) :
    utf8 s = s.toList.map Char.toUInt8 :=
  Text.Utf8.encode_of_ascii fun c hc => of_decide_eq_true (List.all_eq_true.mp h c hc)

@[simp] theorem blanks_nil : Blanks [] := nofun

theorem blanks_append {v w : List UInt8} (hv : Blanks v) (hw : Blanks w) : Blanks (v ++ w) :=
  List.forall_mem_append.mpr ⟨hv, hw⟩

theorem blanks_newline : Blanks (utf8 "\n") := by
  have hbytes : utf8 "\n" = [0x0A] := utf8_of_ascii (by decide)
  rw [hbytes]
  exact List.forall_mem_singleton.mpr (by decide)

theorem blanks_indent (depth : Nat) : Blanks (utf8 (Value.indent depth)) := by
  have hspaces : ∀ c ∈ (Value.indent depth).toList, c = ' ' := by
    rw [Value.indent, String.toList_ofList]
    exact fun c hc => List.eq_of_mem_replicate hc
  rw [utf8, Text.Utf8.encode_of_ascii fun c hc => by rw [hspaces c hc]; decide]
  intro b hb
  obtain ⟨c, hc, rfl⟩ := List.mem_map.mp hb
  rw [hspaces c hc]
  decide

section Items

variable {α : Type} {item : α → List UInt8 → Prop}

/-- Items written one after the other, with blanks in front of each and behind each comma. -/
theorem separated_intercalate {gap pad : String} (hgap : Blanks (utf8 gap))
    (hpad : Blanks (utf8 pad)) {a : α} {as : List α} {t : String} {ts : List String}
    {before after : List UInt8} (hbefore : Blanks before) (ha : item a (utf8 t))
    (has : List.Forall₂ (fun a t => item a (utf8 t)) as ts) (hafter : Blanks after) :
    Separated item (a :: as)
      (before ++ utf8 (("," ++ gap).intercalate ((t :: ts).map (pad ++ ·))) ++ after) := by
  induction has generalizing a t before with
  | nil => simpa using Separated.last (blanks_append hbefore hpad) ha hafter
  | cons hb _ ih =>
    have hcomma : utf8 "," = [0x2C] := utf8_of_ascii (by decide)
    have hmore := Separated.more (blanks_append hbefore hpad) ha blanks_nil (ih hgap hb)
    rw [List.map_cons, List.map_cons, String.intercalate_cons_cons]
    simpa [hcomma] using hmore

theorem items_intercalate {as : List α} {ts : List String}
    (h : List.Forall₂ (fun a t => item a (utf8 t)) as ts) :
    Items item as (utf8 (",".intercalate ts)) := by
  have hempty : utf8 "" = [] := utf8_of_ascii (by decide)
  have hnone : Blanks (utf8 "") := hempty ▸ blanks_nil
  cases h with
  | nil => exact .none hnone
  | cons ha has =>
    simpa using Items.some (separated_intercalate hnone hnone blanks_nil ha has blanks_nil)

theorem items_block {opening closing : String} {o c : UInt8} (ho : utf8 opening = [o])
    (hc : utf8 closing = [c]) (depth : Nat) {as : List α} {ts : List String}
    (h : List.Forall₂ (fun a t => item a (utf8 t)) as ts) :
    ∃ w, utf8 (Value.block opening closing depth ts) = o :: w ++ [c] ∧ Items item as w := by
  cases h with
  | nil => exact ⟨[], by simp [Value.block, ho, hc], .none blanks_nil⟩
  | cons ha has =>
    refine ⟨_, ?_, .some (separated_intercalate blanks_newline (blanks_indent (depth + 1))
      blanks_newline ha has (blanks_append blanks_newline (blanks_indent depth)))⟩
    simp [Value.block, ho, hc]

end Items

mutual

/-- Whether a value has no number and no boolean in it. -/
def isTextual : Value → Bool
  | .null | .text _ => true
  | .boolean _ | .integer _ | .float _ => false
  | .array items => areTextual items
  | .object entries => haveTextual entries

def areTextual : List Value → Bool
  | [] => true
  | v :: vs => isTextual v && areTextual vs

def haveTextual : List (String × Value) → Bool
  | [] => true
  | (_, v) :: es => isTextual v && haveTextual es

end

@[simp] theorem areTextual_iff {items : List Value} :
    areTextual items = true ↔ ∀ v ∈ items, isTextual v = true := by
  induction items with
  | nil => simp [areTextual]
  | cons v vs ih => simp [areTextual, ih]

@[simp] theorem haveTextual_iff {entries : List (String × Value)} :
    haveTextual entries = true ↔ ∀ e ∈ entries, isTextual e.2 = true := by
  induction entries with
  | nil => simp [haveTextual]
  | cons e es ih => simp [haveTextual, ih]

mutual

theorem spells_compact : ∀ v : Value, isTextual v = true → Spells v (utf8 v.compact)
  | .null, _ => by
    have hnull : utf8 "null" = [0x6E, 0x75, 0x6C, 0x6C] := utf8_of_ascii (by decide)
    exact hnull ▸ .null
  | .text s, _ => .text (ofText_writeText s)
  | .array items, h => by
    have hopening : utf8 "[" = [0x5B] := utf8_of_ascii (by decide)
    have hclosing : utf8 "]" = [0x5D] := utf8_of_ascii (by decide)
    rw [Value.compact, utf8_append, utf8_append, hopening, hclosing]
    exact .array (items_intercalate (related_compactItems items h))
  | .object entries, h => by
    have hopening : utf8 "\x7b" = [0x7B] := utf8_of_ascii (by decide)
    have hclosing : utf8 "\x7d" = [0x7D] := utf8_of_ascii (by decide)
    rw [Value.compact, utf8_append, utf8_append, hopening, hclosing]
    exact .object (items_intercalate (related_compactEntries entries h))

theorem related_compactItems : ∀ items : List Value, areTextual items = true →
    List.Forall₂ (fun v t => Spells v (utf8 t)) items (Value.compactItems items)
  | [], _ => .nil
  | v :: vs, h => by
    obtain ⟨hv, hvs⟩ := Bool.and_eq_true_iff.mp h
    exact .cons (spells_compact v hv) (related_compactItems vs hvs)

theorem related_compactEntries : ∀ entries : List (String × Value), haveTextual entries = true →
    List.Forall₂ (fun e t => OfEntry Spells e (utf8 t)) entries (Value.compactEntries entries)
  | [], _ => .nil
  | (key, v) :: es, h => by
    obtain ⟨hv, hes⟩ := Bool.and_eq_true_iff.mp h
    have hcolon : utf8 ":" = [0x3A] := utf8_of_ascii (by decide)
    have hentry := OfEntry.mk (ofText_writeText key) blanks_nil blanks_nil (spells_compact v hv)
    refine .cons ?_ (related_compactEntries es hes)
    simpa [hcolon] using hentry

end

mutual

theorem spells_pretty : ∀ (v : Value) (depth : Nat), isTextual v = true →
    Spells v (utf8 (v.pretty depth))
  | .null, _, _ => by
    have hnull : utf8 "null" = [0x6E, 0x75, 0x6C, 0x6C] := utf8_of_ascii (by decide)
    exact hnull ▸ .null
  | .text s, _, _ => .text (ofText_writeText s)
  | .array items, depth, h => by
    have hopening : utf8 "[" = [0x5B] := utf8_of_ascii (by decide)
    have hclosing : utf8 "]" = [0x5D] := utf8_of_ascii (by decide)
    obtain ⟨w, hw, hitems⟩ :=
      items_block hopening hclosing depth (related_prettyItems items depth h)
    rw [Value.pretty, hw]
    exact .array hitems
  | .object entries, depth, h => by
    have hopening : utf8 "\x7b" = [0x7B] := utf8_of_ascii (by decide)
    have hclosing : utf8 "\x7d" = [0x7D] := utf8_of_ascii (by decide)
    obtain ⟨w, hw, hentries⟩ :=
      items_block hopening hclosing depth (related_prettyEntries entries depth h)
    rw [Value.pretty, hw]
    exact .object hentries

theorem related_prettyItems : ∀ (items : List Value) (depth : Nat), areTextual items = true →
    List.Forall₂ (fun v t => Spells v (utf8 t)) items (Value.prettyItems depth items)
  | [], _, _ => .nil
  | v :: vs, depth, h => by
    obtain ⟨hv, hvs⟩ := Bool.and_eq_true_iff.mp h
    exact .cons (spells_pretty v (depth + 1) hv) (related_prettyItems vs depth hvs)

theorem related_prettyEntries : ∀ (entries : List (String × Value)) (depth : Nat),
    haveTextual entries = true →
    List.Forall₂ (fun e t => OfEntry Spells e (utf8 t)) entries (Value.prettyEntries depth entries)
  | [], _, _ => .nil
  | (key, v) :: es, depth, h => by
    obtain ⟨hv, hes⟩ := Bool.and_eq_true_iff.mp h
    have hcolon : utf8 ": " = [0x3A, 0x20] := utf8_of_ascii (by decide)
    have hspace : Blanks [0x20] := List.forall_mem_singleton.mpr (.inl rfl)
    have hentry :=
      OfEntry.mk (ofText_writeText key) blanks_nil hspace (spells_pretty v (depth + 1) hv)
    refine .cons ?_ (related_prettyEntries es depth hes)
    simpa [hcolon] using hentry

end

/-- With the end of the line behind it. -/
theorem spellsDocument_pretty {v : Value} (h : isTextual v = true) :
    SpellsDocument v (utf8 (v.pretty 0 ++ "\n")) := by
  rw [utf8_append]
  exact .mk blanks_nil (spells_pretty v 0 h) blanks_newline

theorem spellsDocument_compact {v : Value} (h : isTextual v = true) :
    SpellsDocument v v.compact.toUTF8.data.toList := by
  have hbytes : utf8 v.compact = v.compact.toUTF8.data.toList := by
    rw [utf8, Text.Utf8.encode, String.ofList_toList]
  have hdocument := SpellsDocument.mk blanks_nil (spells_compact v h) blanks_nil
  rwa [List.nil_append, List.append_nil, hbytes] at hdocument

end AttachmentIntake.Json
