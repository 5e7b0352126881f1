import AttachmentIntake.Event
import AttachmentIntake.Scan
import AttachmentIntake.Scan.Result
import AttachmentIntake.Web.Address
import AttachmentIntake.Web.Status

/-!
Scanning by a service that takes the content of a file with `PUT` and answers with one result. A
request without an answer, or one that the server fails on, is repeated after a delay that doubles
each time; nothing but one result `OK` lets a file through.
-/

namespace AttachmentIntake.Scan

/-- How a service is used. Durations are in milliseconds. -/
structure Settings where
  url : String
  timeout : Nat
  /-- How often a request is repeated at most. -/
  maxRetries : Nat
  /-- The delay before the first repetition. -/
  backoff : Nat
  /-- For test environments only: files whose names start like this count as infected. -/
  trigger : Option String
  deriving DecidableEq, Repr

namespace Settings

def forUrl (url : String) : Settings :=
  { url, timeout := 30000, maxRetries := 3, backoff := 200, trigger := none }

def testTrigger : String := "virustest"

def withTestTrigger (s : Settings) : Settings := { s with trigger := some testTrigger }

/-- The largest factor by which a delay grows, a number of 32 bits. -/
def maxFactor : Nat := 0xFFFFFFFF

/-- The delay before a repetition, of which the first has number zero. -/
def delay (s : Settings) (attempt : Nat) : Nat := s.backoff * min (Nat.pow 2 attempt) maxFactor

def isTriggered (s : Settings) (filename : String) : Bool :=
  match s.trigger with
  | some start => start.toList.isPrefixOf filename.toList
  | none => false

end Settings

inductive Reply where
  /-- No answer came. -/
  | dropped
  | answered (status : Nat) (body : List UInt8)
  deriving DecidableEq, Repr

/-- The reply that a message with this status and body amounts to. A number that is no status breaks
the connection, an interim status is followed by no other, and some statuses go without a body. -/
def Reply.ofMessage (status : Nat) (body : List UInt8) : Reply :=
  if !Web.Status.isCode status || Web.Status.isInterim status then .dropped
  else .answered status (if status = 204 ∨ status = 304 then [] else body)

inductive Attempt where
  | results (rs : List Result)
  | retryable (reason : String)
  | fatal (failure : Failure)
  deriving DecidableEq, Repr

namespace Attempt

/-- Server errors may pass, other answers without success do not. -/
def ofAnswer (status : Nat) (body : List UInt8) : Attempt :=
  if Web.Status.isServerError status then .retryable (Web.Status.text status)
  else if Web.Status.isSuccess status then
    match Result.parse body with
    | .ok rs => .results rs
    | .error _ => .fatal (.unexpectedResponse "error decoding response body")
  else .fatal (.unavailable (Web.Status.text status))

def ofReply (address : Web.Address) : Reply → Attempt
  | .dropped => .retryable s!"error sending request for url ({address.text})"
  | .answered status body => ofAnswer status body

end Attempt

def addressLimit : Nat := 65534

/-- Whether requests can be sent to an address: by the protocols of the web, and to a host without
marks that a request cannot hold. -/
def isSendable (address : Web.Address) : Bool :=
  (address.scheme = "http" || address.scheme = "https") &&
    !(address.host.getD "").toList.any (['"', '\x60', '\x7b', '\x7d'].contains ·) &&
    address.text.utf8ByteSize ≤ addressLimit

def endpoint (url : String) : Except String Web.Address :=
  match (Web.Address.parse? url).map Web.Address.withoutCredentials with
  | none => .error "builder error"
  | some address =>
    if isSendable address then .ok address
    else .error s!"builder error for url ({address.text})"

def durationText (milliseconds : Nat) : String :=
  if milliseconds = 0 then "0ns"
  else if milliseconds < 1000 then s!"{milliseconds}ms"
  else
    let places := String.ofList
      ((toString (1000 + milliseconds % 1000)).toList.tail.reverse.dropWhile (· = '0')).reverse
    if places.isEmpty then s!"{milliseconds / 1000}s" else s!"{milliseconds / 1000}.{places}s"

/-- The way to a service: how the content of a file is put to an address, and how time passes. -/
structure Transport (m : Type → Type) where
  put : Web.Address → ByteArray → m Reply
  wait : Nat → m Unit

/-- A transport that nothing is sent by. -/
def Transport.closed {m : Type → Type} [Monad m] : Transport m :=
  { put := fun _ _ => pure .dropped, wait := fun _ => pure () }

namespace Settings

variable {m : Type → Type} [Monad m]

/-- One request, which is not even sent where the URL is no address of a server. -/
def attempt (s : Settings) (transport : Transport m) (content : ByteArray) : m Attempt :=
  match endpoint s.url with
  | .error reason => pure (.retryable reason)
  | .ok address => do return Attempt.ofReply address (← transport.put address content)

def retryEvent (s : Settings) (number : Nat) (reason : String) : Event :=
  { level := .debug
    message := "Retrying virus scan"
    fields := [("attempt", toString number), ("delay", durationText (s.delay number)),
      ("reason", reason)] }

/-- Requests up to the first attempt that is not retryable, or until none are left to make after
attempt `number`. -/
def results (s : Settings) (transport : Transport m) (content : ByteArray) (number : Nat) :
    Nat → m (Except Failure (List Result) × List Event)
  | 0 => do
    match ← s.attempt transport content with
    | .results rs => return (.ok rs, [])
    | .retryable reason => return (.error (.unavailable reason), [])
    | .fatal failure => return (.error failure, [])
  | left + 1 => do
    match ← s.attempt transport content with
    | .results rs => return (.ok rs, [])
    | .retryable reason => do
      transport.wait (s.delay number)
      let (outcome, events) ← s.results transport content (number + 1) left
      return (outcome, s.retryEvent number reason :: events)
    | .fatal failure => return (.error failure, [])

def judge (request : Request) (r : Result) : Except Failure Unit × List Event :=
  let got : Event :=
    { level := .debug
      message := "Got scan result"
      fields := [("scanned", Event.optionText r.filename), ("status", r.status.name)] }
  if r.status = .ok then
    (.ok (), [got, { level := .info, message := s!"No virus in file ({request.size} bytes)" }])
  else
    (.error (.infected request.filename r.status.name),
      [got,
        { level := .warn
          message := "Virus found in uploaded file"
          fields := [("status", r.status.name)] }])

/-- What a list of results says about a file, which must be one result. -/
def judgeAll (request : Request) : List Result → Except Failure Unit × List Event
  | [r] => judge request r
  | rs =>
    (.error (.unexpectedResponse s!"expected 1 result, got {rs.length}"),
      [{ level := .warn
         message := "Virus scan returned unexpected number of results, expected 1"
         fields := [("len", toString rs.length)] }])

def triggerEvent : Event :=
  { level := .warn, message := "Test trigger prefix matched, reporting file as infected" }

def startEvent (size : Nat) : Event :=
  { level := .info, message := s!"Scanning {size} bytes for virus" }

def scan (s : Settings) (transport : Transport m) (request : Request) :
    m (Except Failure Unit × List Event) := do
  if s.isTriggered request.filename then
    return (.error (.infected request.filename "TEST_TRIGGER"), [triggerEvent])
  else
    match ← s.results transport request.content 0 s.maxRetries with
    | (.error failure, events) => return (.error failure, startEvent request.size :: events)
    | (.ok rs, events) =>
      let (outcome, judged) := judgeAll request rs
      return (outcome, startEvent request.size :: events ++ judged)

end Settings

def Settings.scanner {m : Type → Type} [Monad m] (s : Settings) (transport : Transport m) :
    Scanner m := fun request => do
  match ← s.scan transport request with
  | (.ok (), _) => return .clean
  | (.error failure, _) => return .failed failure

end AttachmentIntake.Scan
