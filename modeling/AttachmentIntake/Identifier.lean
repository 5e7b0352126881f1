import AttachmentIntake.Text.Blank

/-!
Identifiers tie a manifest entry to an uploaded part. Parts are named `<identifier>.<ext>`, so an
identifier is never empty and holds no dot, slash or white space; and it does not start with a
dash, as its short form ends before the first one.
-/

namespace AttachmentIntake

namespace Identifier

def isReserved (c : Char) : Bool := c == '.' || c == '/' || c == '\\' || Text.isBlank c

inductive Fault where
  | empty
  | reservedCharacter (text : String)
  | leadingDash (text : String)
  deriving DecidableEq, Repr

def Fault.message : Fault → String
  | .empty => "identifier is empty"
  | .reservedCharacter text => s!"identifier '{text}' contains a reserved character"
  | .leadingDash text => s!"identifier '{text}' starts with '-'"

def fault? (text : String) : Option Fault :=
  if text.toList = [] then some .empty
  else if text.toList.any isReserved then some (.reservedCharacter text)
  else if text.toList.head? = some '-' then some (.leadingDash text)
  else none

end Identifier

structure Identifier where
  text : String
  valid : Identifier.fault? text = none
  deriving DecidableEq

namespace Identifier

def ofText (text : String) : Except Fault Identifier :=
  match h : fault? text with
  | some fault => .error fault
  | none => .ok ⟨text, h⟩

@[simp] theorem ofText_text (i : Identifier) : ofText i.text = .ok i := by
  unfold ofText
  split
  next fault h => exact absurd (i.valid.symm.trans h) nofun
  next => rfl

/-- What stands before the first dash, at most eight characters of it. -/
def short (i : Identifier) : String :=
  String.ofList ((i.text.toList.takeWhile (· ≠ '-')).take 8)

/-- Digit `i` of the 32 hexadecimal digits of a value, the most significant first. -/
def digit (bits : BitVec 128) (i : Nat) : Nat := (bits >>> (124 - 4 * i)).toNat % 16

/-- The digits of a random (version 4) UUID: digit 12 is the version and the two high bits of digit
16 are the variant. -/
def uuidDigit (bits : BitVec 128) (i : Nat) : Nat :=
  if i = 12 then 4 else if i = 16 then 8 + digit bits i % 4 else digit bits i

def uuidDigits (bits : BitVec 128) (first count : Nat) : List Char :=
  (List.range' first count).map fun i => Nat.digitChar (uuidDigit bits i % 16)

def uuid (bits : BitVec 128) : List Char :=
  uuidDigits bits 0 8 ++ '-' :: uuidDigits bits 8 4 ++ '-' :: uuidDigits bits 12 4 ++
    '-' :: uuidDigits bits 16 4 ++ '-' :: uuidDigits bits 20 12

theorem digitChar_not_reserved : ∀ n < 16, isReserved (Nat.digitChar n) = false := by decide

theorem digitChar_ne_dash : ∀ n < 16, Nat.digitChar n ≠ '-' := by decide

theorem uuidDigits_not_reserved (bits : BitVec 128) (first count : Nat) :
    (uuidDigits bits first count).any isReserved = false := by
  simp only [uuidDigits, List.any_map, List.any_eq_false, Function.comp_apply, Bool.not_eq_true]
  exact fun i _ => digitChar_not_reserved _ (Nat.mod_lt _ (by decide))

theorem fault?_uuid (bits : BitVec 128) : fault? (String.ofList (uuid bits)) = none := by
  have hhead : (uuid bits).head? = some (Nat.digitChar (uuidDigit bits 0 % 16)) := by
    simp [uuid, uuidDigits, List.range']
  have hany : (uuid bits).any isReserved = false := by
    have hdash : isReserved '-' = false := by decide
    simp only [uuid, List.any_append, List.any_cons, uuidDigits_not_reserved, hdash, Bool.or_false]
  have hne : uuid bits ≠ [] := by
    intro h
    simp [h] at hhead
  have hdash : Nat.digitChar (uuidDigit bits 0 % 16) ≠ '-' :=
    digitChar_ne_dash _ (Nat.mod_lt _ (by decide))
  simp [fault?, hne, hany, hhead, hdash]

def ofRandom (bits : BitVec 128) : Identifier :=
  ⟨String.ofList (uuid bits), fault?_uuid bits⟩

instance : ToString Identifier := ⟨text⟩

end Identifier

end AttachmentIntake
