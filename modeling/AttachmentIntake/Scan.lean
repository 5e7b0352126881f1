/-!
Virus scanning as the intake sees it: a file is handed over, and anything but a clean answer aborts
the whole batch.
-/

namespace AttachmentIntake

namespace Scan

/-- What is handed to a scanner: the file's sanitized name and its content. -/
structure Request where
  filename : String
  size : Nat
  content : ByteArray

inductive Failure where
  /-- The content was reported as infected, or could not be cleared. -/
  | infected (filename status : String)
  /-- The scanner could not be reached, or answered with an error. -/
  | unavailable (reason : String)
  /-- The scanner answered with something other than one result. -/
  | unexpectedResponse (reason : String)
  deriving DecidableEq, Repr

def Failure.message : Failure → String
  | .infected filename status => s!"virus found in uploaded file '{filename}' (status {status})"
  | .unavailable reason => s!"virus scanner unavailable: {reason}"
  | .unexpectedResponse reason => s!"unexpected virus scanner response: {reason}"

inductive Answer where
  | clean
  | failed (failure : Failure)
  /-- The scanner itself broke down. -/
  | crashed (text : String)
  deriving DecidableEq, Repr

end Scan

/-- A scanner may do anything that `m` allows before it answers. -/
abbrev Scanner (m : Type → Type) := Scan.Request → m Scan.Answer

namespace Scanner

variable {m : Type → Type}

/-- The scanner of environments without a scan service, which lets everything through. -/
def disabled [Monad m] : Scanner m := fun _ => pure .clean

/-- A scanner that answers by what it is handed alone. -/
def ofFunction [Monad m] (answer : Scan.Request → Scan.Answer) : Scanner m :=
  fun request => pure (answer request)

def recorded [Monad m] (scan : Scanner m) : Scanner (StateT (List Scan.Request) m) :=
  fun request => do
    modify fun requests => requests ++ [request]
    scan request

end Scanner

end AttachmentIntake
