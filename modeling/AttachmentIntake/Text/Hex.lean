/-!
Bytes as hexadecimal digits in lower case, two a byte.
-/

namespace AttachmentIntake.Text.Hex

def encode (bytes : List UInt8) : List Char :=
  bytes.flatMap fun b => [Nat.digitChar (b.toNat / 16), Nat.digitChar (b.toNat % 16)]

end AttachmentIntake.Text.Hex
