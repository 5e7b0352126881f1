/-!
UTF-8 as a reader of byte lists. A step reads one scalar value, or says whether the bytes at hand
are cut short or can begin no sequence, and how many of them belong to the fault. Strict decoding,
decoding of a window that may cut a character, and lossy decoding are built from that step.
-/

namespace AttachmentIntake.Text.Utf8

inductive Step where
  | char (c : Char) (rest : List UInt8)
  /-- The bytes end inside a sequence that could still become valid. -/
  | cut
  /-- The bytes up to `rest` begin no sequence. -/
  | bad (rest : List UInt8)

def isContinuation (b : UInt8) : Bool := 0x80 ≤ b && b ≤ 0xBF

/-- The second bytes that a lead byte of three allows: no overlong form and no surrogate. -/
def secondOfThree (lead second : UInt8) : Bool :=
  if lead = 0xE0 then 0xA0 ≤ second && second ≤ 0xBF
  else if lead = 0xED then 0x80 ≤ second && second ≤ 0x9F
  else isContinuation second

/-- The second bytes that a lead byte of four allows: no overlong form, nothing past U+10FFFF. -/
def secondOfFour (lead second : UInt8) : Bool :=
  if lead = 0xF0 then 0x90 ≤ second && second ≤ 0xBF
  else if lead = 0xF4 then 0x80 ≤ second && second ≤ 0x8F
  else isContinuation second

def payload (b : UInt8) : Nat := b.toNat % 0x40

def stepTwo (lead : UInt8) : List UInt8 → Step
  | [] => .cut
  | b :: rest =>
    if isContinuation b then .char (Char.ofNat ((lead.toNat - 0xC0) * 0x40 + payload b)) rest
    else .bad (b :: rest)

def stepThree (lead : UInt8) : List UInt8 → Step
  | [] => .cut
  | b :: rest =>
    if secondOfThree lead b then
      match rest with
      | [] => .cut
      | c :: rest =>
        if isContinuation c then
          .char (Char.ofNat (((lead.toNat - 0xE0) * 0x40 + payload b) * 0x40 + payload c)) rest
        else .bad (c :: rest)
    else .bad (b :: rest)

def stepFour (lead : UInt8) : List UInt8 → Step
  | [] => .cut
  | b :: rest =>
    if secondOfFour lead b then
      match rest with
      | [] => .cut
      | c :: rest =>
        if isContinuation c then
          match rest with
          | [] => .cut
          | d :: rest =>
            if isContinuation d then
              .char (Char.ofNat ((((lead.toNat - 0xF0) * 0x40 + payload b) * 0x40 + payload c)
                * 0x40 + payload d)) rest
            else .bad (d :: rest)
        else .bad (c :: rest)
    else .bad (b :: rest)

def step (lead : UInt8) (rest : List UInt8) : Step :=
  if lead < 0x80 then .char (Char.ofNat lead.toNat) rest
  else if 0xC2 ≤ lead && lead ≤ 0xDF then stepTwo lead rest
  else if 0xE0 ≤ lead && lead ≤ 0xEF then stepThree lead rest
  else if 0xF0 ≤ lead && lead ≤ 0xF4 then stepFour lead rest
  else .bad rest

def Step.rest : Step → List UInt8
  | .char _ rest => rest
  | .cut => []
  | .bad rest => rest

theorem step_rest_le (lead : UInt8) (bytes : List UInt8) :
    (step lead bytes).rest.length ≤ bytes.length := by
  unfold step stepTwo stepThree stepFour
  repeat' split
  all_goals simp_all [Step.rest]
  all_goals omega

inductive Ending where
  | complete
  | cut
  | bad
  deriving DecidableEq, Repr

/-- The longest valid beginning of the bytes, and why it ends there. -/
def decode : List UInt8 → List Char × Ending
  | [] => ([], .complete)
  | b :: bytes =>
    match h : step b bytes with
    | .char c rest =>
      have : rest.length ≤ bytes.length := by
        have := step_rest_le b bytes
        rwa [h] at this
      let (cs, ending) := decode rest
      (c :: cs, ending)
    | .cut => ([], .cut)
    | .bad _ => ([], .bad)
termination_by bytes => bytes.length
decreasing_by
  all_goals
    simp only [List.length_cons]
    omega

def text? (bytes : List UInt8) : Option (List Char) :=
  match decode bytes with
  | (cs, .complete) => some cs
  | _ => none

/-- Decodes every byte string: each longest ill-formed run becomes one U+FFFD. -/
def decodeLossy : List UInt8 → List Char
  | [] => []
  | b :: bytes =>
    match h : step b bytes with
    | .char c rest =>
      have : rest.length ≤ bytes.length := by
        have := step_rest_le b bytes
        rwa [h] at this
      c :: decodeLossy rest
    | .cut => ['\uFFFD']
    | .bad rest =>
      have : rest.length ≤ bytes.length := by
        have := step_rest_le b bytes
        rwa [h] at this
      '\uFFFD' :: decodeLossy rest
termination_by bytes => bytes.length
decreasing_by
  all_goals
    simp only [List.length_cons]
    omega

def encode (cs : List Char) : List UInt8 := (String.ofList cs).toUTF8.data.toList

end AttachmentIntake.Text.Utf8
