import AttachmentIntake.Bytes
import AttachmentIntake.Text.Utf8

/-!
Characters of web addresses that are written as their bytes, each with a percent sign and two
hexadecimal digits.
-/

namespace AttachmentIntake.Web.Percent

def hexDigits (n : Nat) : List Char :=
  [n / 16, n % 16].map fun d => (Nat.digitChar d).toUpper

def percentByte (b : UInt8) : List Char := '%' :: hexDigits b.toNat

/-- Writes control characters, all outside ASCII and some more as their bytes. -/
def escape (more : List Char) (cs : List Char) : List Char :=
  cs.flatMap fun c =>
    if c.toNat < 0x20 || 0x7F ≤ c.toNat || c ∈ more then
      (Text.Utf8.encode [c]).flatMap percentByte
    else [c]

/-- A percent sign without two digits stands for itself. -/
def unescape : List UInt8 → List UInt8
  | 0x25 :: x :: y :: rest =>
    if Bytes.isHexDigit x && Bytes.isHexDigit y then
      (Bytes.hexValue x * 16 + Bytes.hexValue y) :: unescape rest
    else 0x25 :: unescape (x :: y :: rest)
  | b :: rest => b :: unescape rest
  | [] => []

def bytes (cs : List Char) : List UInt8 := unescape (Text.Utf8.encode cs)

end AttachmentIntake.Web.Percent
