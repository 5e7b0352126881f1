import AttachmentIntake.Json.Reader.Number
import AttachmentIntake.Json.Reader.Shape
import AttachmentIntake.Json.Reader.Text

/-!
Passing over values that no field asks for: their nesting is not limited and the text of their
strings is not decoded, but their syntax is checked.
-/

namespace AttachmentIntake.Json.Reader

inductive Frame where
  | list
  | object
  deriving DecidableEq, Repr

/-- The lists and objects still open, innermost first, and whether a value has just ended. -/
abbrev Open := List Frame × Bool

def skipKey : Frame → Reader Unit
  | .list => pure ()
  | .object => do
    match ← peekToken with
    | none => fault .endInObject
    | some b => if b = byte '"' then advance else faultAhead .keyNotString
    skipString
    colon

def skipStart (frames : List Frame) : Reader Open := do
  let b ← valueStart
  if b = byte '[' then do advance; pure (.list :: frames, false)
  else if b = byte '\x7b' then do advance; pure (.object :: frames, false)
  else do
    if b = byte 'n' then do advance; word "ull"
    else if b = byte 't' then do advance; word "rue"
    else if b = byte 'f' then do advance; word "alse"
    else if b = byte '-' then do advance; skipNumber
    else if isDigit b then skipNumber
    else if b = byte '"' then do advance; skipString
    else faultAhead .expectedValue
    pure (frames, true)

def Frame.closing : Frame → UInt8
  | .list => byte ']'
  | .object => byte '\x7d'

def Frame.endProblem : Frame → Problem
  | .list => .endInList
  | .object => .endInObject

def Frame.commaProblem : Frame → Problem
  | .list => .expectedListEnd
  | .object => .expectedObjectEnd

def skipStep : Open → Reader (Open ⊕ Unit)
  | ([], _) => pure (.inr ())
  | (frame :: outer, ended) => do
    match ← peekToken with
    | none => fault frame.endProblem
    | some b =>
      if b = frame.closing then do advance; pure (.inl (outer, true))
      else if b = byte ',' && ended then do
        advance
        skipKey frame
        return .inl (← skipStart (frame :: outer))
      else if ended then faultAhead frame.commaProblem
      else do
        skipKey frame
        return .inl (← skipStart (frame :: outer))

def skipValue : Reader Unit := do
  let start ← skipStart []
  iterate skipStep start

def skipEntry : Reader Unit := do
  colon
  skipValue

end AttachmentIntake.Json.Reader
