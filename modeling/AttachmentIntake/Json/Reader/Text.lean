import AttachmentIntake.Json.Reader.Basic

/-!
Reading of JSON strings. The bytes of a string that is kept must be UTF-8 and its escaped surrogates
paired; neither is asked of a string that is passed over.
-/

namespace AttachmentIntake.Json.Reader

def hexValue? (b : UInt8) : Option Nat :=
  if isDigit b then some (b.toNat - 0x30)
  else if 0x61 ≤ b && b ≤ 0x66 then some (b.toNat - 0x61 + 10)
  else if 0x41 ≤ b && b ≤ 0x46 then some (b.toNat - 0x41 + 10)
  else none

def hexEscape : Reader Nat := fun s =>
  match s with
  | a :: b :: c :: d :: rest =>
    match hexValue? a, hexValue? b, hexValue? c, hexValue? d with
    | some a, some b, some c, some d => .ok (((a * 16 + b) * 16 + c) * 16 + d, rest)
    | _, _, _, _ => .error (.placed .invalidEscape rest.length)
  | _ => .error (.placed .endInString 0)

def isLowSurrogate (n : Nat) : Bool := 0xDC00 ≤ n && n ≤ 0xDFFF

def isHighSurrogate (n : Nat) : Bool := 0xD800 ≤ n && n ≤ 0xDBFF

/-- Takes the byte that must follow inside an escaped pair of surrogates. -/
def pairByte (expected : UInt8) : Reader Unit := do
  match ← peek with
  | none => fault .endInString
  | some b => if b = expected then advance else faultAhead .endInHexEscape

def unicodeEscape : Reader (List UInt8) := do
  let n ← hexEscape
  if isLowSurrogate n then fault .loneSurrogate
  else if isHighSurrogate n then do
    pairByte (byte '\\')
    pairByte (byte 'u')
    let m ← hexEscape
    if isLowSurrogate m then
      pure (Text.Utf8.encode [Char.ofNat (0x10000 + (n - 0xD800) * 0x400 + (m - 0xDC00))])
    else fault .loneSurrogate
  else pure (Text.Utf8.encode [Char.ofNat n])

def simpleEscape? (b : UInt8) : Option UInt8 :=
  [('"', 0x22), ('\\', 0x5C), ('/', 0x2F), ('b', 0x08), ('f', 0x0C), ('n', 0x0A), ('r', 0x0D),
    ('t', 0x09)].findSome? fun (c, out) => if byte c = b then some out else none

/-- What follows a backslash; `decode` reads the digits of `\u`. -/
def escape (decode : Reader (List UInt8)) : Reader (List UInt8) := do
  match ← next with
  | none => fault .endInString
  | some b =>
    match simpleEscape? b with
    | some out => pure [out]
    | none => if b = byte 'u' then decode else fault .invalidEscape

/-- One byte or escape of a string, put in front of those read before. `refused` is the end of a
string in which a control character comes next. -/
def stringStep (decode : Reader (List UInt8)) (refused : Reader (List UInt8 ⊕ List UInt8))
    (before : List UInt8) : Reader (List UInt8 ⊕ List UInt8) := do
  match ← peek with
  | none => fault .endInString
  | some b =>
    if b < 0x20 then refused
    else do
      advance
      if b = byte '"' then pure (.inr before.reverse)
      else if b = byte '\\' then do
        let out ← escape decode
        pure (.inl (out.reverse ++ before))
      else pure (.inl (b :: before))

def keptStep : List UInt8 → Reader (List UInt8 ⊕ List UInt8) :=
  stringStep unicodeEscape (faultAhead .controlCharacter)

/-- One step in a string that is passed over, where surrogates need not be paired. -/
def skippedStep : List UInt8 → Reader (List UInt8 ⊕ List UInt8) :=
  stringStep (do let _ ← hexEscape; pure []) (fault .controlCharacter)

def stringBytes : Reader (List UInt8) := iterate keptStep []

def stringBody : Reader String := do
  match Text.Utf8.text? (← stringBytes) with
  | some cs => pure (String.ofList cs)
  | none => fault .invalidCodePoint

def skipString : Reader Unit := do
  let _ ← iterate skippedStep []
  pure ()

end AttachmentIntake.Json.Reader
