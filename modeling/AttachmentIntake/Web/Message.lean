import AttachmentIntake.Bytes
import AttachmentIntake.Text.Blank
import AttachmentIntake.Text.Utf8
import AttachmentIntake.Web.Address
import AttachmentIntake.Web.Status

/-!
Messages of HTTP/1.1 as a client writes and reads them on a connection of its own: a request that
puts content to an address, and the status and body of the answer.
-/

namespace AttachmentIntake.Web.Message

def lineEnd : String := "\r\n"

def authority (address : Address) : String :=
  (address.host.getD "") ++ (address.port.map fun p => ":" ++ toString p).getD ""

/-- A request after which the connection is closed. -/
def put (address : Address) (content : ByteArray) : ByteArray :=
  let head := lineEnd.intercalate [
    s!"PUT {address.target} HTTP/1.1",
    s!"Host: {authority address}",
    "Accept: */*",
    s!"Content-Length: {content.size}",
    "Connection: close",
    "",
    ""]
  head.toUTF8 ++ content

def splitAt? (pattern : List UInt8) : List UInt8 → Option (List UInt8 × List UInt8)
  | [] => none
  | b :: bytes =>
    if pattern.isPrefixOf (b :: bytes) then some ([], (b :: bytes).drop pattern.length)
    else (splitAt? pattern bytes).map fun (front, back) => (b :: front, back)

def headLines (head : List UInt8) : List (List Char) :=
  ((Text.Utf8.decodeLossy head).splitOn '\n').map Text.trim

def status? (line : List Char) : Option Nat :=
  match (line.splitOn ' ').filter (· ≠ []) with
  | version :: code :: _ =>
    if "HTTP/".toList.isPrefixOf version && code.length = 3 && code.all Char.isDigit then
      some (Bytes.decimal (code.map fun c => c.toNat.toUInt8))
    else none
  | _ => none

/-- The value of a header, whose name is compared without case. -/
def header? (name : String) (lines : List (List Char)) : Option (List Char) :=
  lines.findSome? fun line =>
    match Text.splitFirst? ':' line with
    | some (key, value) =>
      if Text.sameIgnoringCase key name.toList then some (Text.trim value) else none
    | none => none

def hexNumber (digits : List UInt8) : Nat :=
  digits.foldl (fun n b => n * 16 + (Bytes.hexValue b).toNat) 0

/-- A body in pieces, each behind its size; the last one is empty. -/
def unchunked (bytes : List UInt8) : Nat → List UInt8
  | 0 => []
  | fuel + 1 =>
    match splitAt? (Bytes.ascii lineEnd) bytes with
    | none => []
    | some (line, rest) =>
      let size := hexNumber (line.takeWhile Bytes.isHexDigit)
      if size = 0 then []
      else rest.take size ++ unchunked (rest.drop (size + 2)) fuel

def body (lines : List (List Char)) (rest : List UInt8) : List UInt8 :=
  if ((header? "transfer-encoding" lines).map (·.map Char.toLower)) = some "chunked".toList then
    unchunked rest rest.length
  else
    match header? "content-length" lines with
    | some digits => rest.take (Bytes.decimal (digits.map fun c => c.toNat.toUInt8))
    | none => rest

/-- The status and body of the first answer that is not an interim one. -/
def answer? (bytes : List UInt8) : Nat → Option (Nat × List UInt8)
  | 0 => none
  | fuel + 1 => do
    let (head, rest) ← splitAt? (Bytes.ascii (lineEnd ++ lineEnd)) bytes
    let lines := headLines head
    let status ← status? (lines.head?.getD [])
    if Status.isInterim status then answer? rest fuel
    else some (status, body lines.tail rest)

def read? (bytes : List UInt8) : Option (Nat × List UInt8) := answer? bytes (bytes.length + 1)

end AttachmentIntake.Web.Message
