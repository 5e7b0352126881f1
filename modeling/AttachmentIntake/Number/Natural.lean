/-!
Decimal text of natural numbers that have to stay below a limit.
-/

namespace AttachmentIntake.Number

inductive NaturalFault where
  | empty
  | notADigit
  | tooLarge
  deriving DecidableEq, Repr

def NaturalFault.message : NaturalFault → String
  | .empty => "cannot parse integer from empty string"
  | .notADigit => "invalid digit found in string"
  | .tooLarge => "number too large to fit in target type"

/-- Reads digits from the left, up to the first that is none or makes the number too large. -/
def digitsBelow (limit value : Nat) : List Char → Except NaturalFault Nat
  | [] => .ok value
  | c :: cs =>
    if !c.isDigit then .error .notADigit
    else
      let next := value * 10 + (c.toNat - 48)
      if next < limit then digitsBelow limit next cs else .error .tooLarge

/-- Reads a number with an optional plus sign. -/
def naturalBelow (limit : Nat) (cs : List Char) : Except NaturalFault Nat :=
  match cs with
  | [] => .error .empty
  | '+' :: c :: rest => digitsBelow limit 0 (c :: rest)
  | digits => digitsBelow limit 0 digits

/-- The quotient rounded to the nearest number, and to the even one of two. -/
def roundedQuotient (n d : Nat) : Nat :=
  let q := n / d
  let twice := 2 * (n % d)
  if d < twice ∨ (twice = d ∧ q % 2 = 1) then q + 1 else q

end AttachmentIntake.Number
