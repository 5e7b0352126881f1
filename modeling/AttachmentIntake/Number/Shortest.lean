/-!
Decimal text of binary floating-point numbers: the fewest digits that read back as the same number,
and of these the nearest to it.
-/

namespace AttachmentIntake.Number

/-- A finite magnitude `mantissa * 2 ^ exponent`, with the reals that round to it lying between
`lower` and `upper` quarters of a unit of the mantissa. The ends round to it as well if the mantissa
is even. -/
structure Binary where
  mantissa : Nat
  exponent : Int
  lower : Nat
  upper : Nat

def fractionRange : Nat := 0x10000000000000

/-- The magnitude of a finite number with given bits. The spacing halves below a power of two. -/
def Binary.ofBits (bits : UInt64) : Binary :=
  let fraction : Nat := bits.toNat % fractionRange
  let field : Nat := bits.toNat / fractionRange % 2048
  if field = 0 then ⟨fraction, -1074, 4 * fraction - 2, 4 * fraction + 2⟩
  else
    let m := fractionRange + fraction
    ⟨m, (field : Int) - 1075, 4 * m - (if fraction = 0 ∧ 1 < field then 1 else 2), 4 * m + 2⟩

/-- `digits * 10 ^ exponent`. -/
structure Decimal where
  digits : Nat
  exponent : Int
  deriving DecidableEq, Repr

def ratio (n : Nat) (base : Nat) (e : Int) : Nat × Nat :=
  if 0 ≤ e then (n * Nat.pow base e.toNat, 1) else (n, Nat.pow base (-e).toNat)

def ratioLt (a b : Nat × Nat) : Bool := a.1 * b.2 < b.1 * a.2

/-- Compares `d * 10 ^ e` with `quarters` quarter units of the binary number. -/
def below (quarters : Nat) (b : Binary) (d : Nat) (e : Int) : Bool :=
  ratioLt (ratio d 10 e) (ratio quarters 2 (b.exponent - 2))

def above (quarters : Nat) (b : Binary) (d : Nat) (e : Int) : Bool :=
  ratioLt (ratio quarters 2 (b.exponent - 2)) (ratio d 10 e)

def Binary.readsBack (b : Binary) (d : Nat) (e : Int) : Bool :=
  if b.mantissa % 2 = 0 then !below b.lower b d e && !above b.upper b d e
  else above b.lower b d e && below b.upper b d e

/-- The largest `d` with `d * 10 ^ e` at most the binary number. -/
def Binary.floorAt (b : Binary) (e : Int) : Nat :=
  let v := ratio b.mantissa 2 b.exponent
  let g := ratio 1 10 e
  v.1 * g.2 / (v.2 * g.1)

/-- The decimal exponent of the leading digit, found from an estimate that is at most one off. -/
def Binary.leadingExponent (b : Binary) : Int :=
  let estimate := Int.fdiv (((b.mantissa.log2 : Int) + b.exponent) * 1233) 4096
  if 10 ≤ b.floorAt estimate then estimate + 1
  else if b.floorAt estimate = 0 then estimate - 1 else estimate

/-- Of the two neighbours of the number on the grid of `10 ^ e`, the nearer one that reads back. -/
def Binary.onGrid? (b : Binary) (e : Int) : Option Nat :=
  let d := b.floorAt e
  match b.readsBack d e, b.readsBack (d + 1) e with
  | true, false => some d
  | false, true => some (d + 1)
  | true, true =>
    let v := ratio b.mantissa 2 b.exponent
    let g := ratio (2 * d + 1) 10 e
    if ratioLt v (g.1, 2 * g.2) || (d % 2 = 0 && !ratioLt (g.1, 2 * g.2) v) then some d
    else some (d + 1)
  | false, false => none

def Decimal.strip (d : Decimal) : Nat → Decimal
  | 0 => d
  | fuel + 1 =>
    if d.digits % 10 = 0 ∧ d.digits ≠ 0 then strip ⟨d.digits / 10, d.exponent + 1⟩ fuel else d

/-- The shortest decimal of a positive binary number; seventeen digits always suffice. -/
def Binary.shortest (b : Binary) : Decimal :=
  let lead := b.leadingExponent
  let found := (List.range 17).findSome? fun (i : Nat) =>
    (b.onGrid? (lead - i)).map fun d => Decimal.strip ⟨d, lead - i⟩ 20
  found.getD ⟨b.floorAt (lead - 16), lead - 16⟩

/-- How decimals are laid out: the leading exponents written positionally, and the least number of
digits of a written exponent. -/
structure Layout where
  leastPositional : Int
  mostPositional : Int
  exponentDigits : Nat

def padded (width : Nat) (n : Nat) : List Char :=
  let ds := Nat.toDigits 10 n
  List.replicate (width - ds.length) '0' ++ ds

def Decimal.text (layout : Layout) (d : Decimal) : List Char :=
  let ds := Nat.toDigits 10 d.digits
  let lead := d.exponent + ds.length - 1
  if d.digits = 0 then ['0', '.', '0']
  else if layout.leastPositional ≤ lead ∧ lead ≤ layout.mostPositional then
    if 0 ≤ d.exponent then ds ++ List.replicate d.exponent.toNat '0' ++ ['.', '0']
    else if 0 ≤ lead then ds.take (lead.toNat + 1) ++ '.' :: ds.drop (lead.toNat + 1)
    else ['0', '.'] ++ List.replicate (-lead - 1).toNat '0' ++ ds
  else
    ds.take 1 ++ (if ds.length = 1 then [] else '.' :: ds.drop 1) ++
      ['e', if lead < 0 then '-' else '+'] ++ padded layout.exponentDigits lead.natAbs

def floatText (layout : Layout) (x : Float) : String :=
  let bits := x.toBits
  let magnitude := Binary.ofBits bits
  let d := if magnitude.mantissa = 0 then ⟨0, 0⟩ else magnitude.shortest
  let sign := if 0x8000000000000000 ≤ bits.toNat then ['-'] else []
  String.ofList (sign ++ d.text layout)

end AttachmentIntake.Number
