import AttachmentIntake.Bytes
import AttachmentIntake.Category
import AttachmentIntake.Text.Blank
import AttachmentIntake.Text.Utf8

/-!
Detection of content types from the bytes of a file. Neither the file's name nor its declared type
is consulted.
-/

namespace AttachmentIntake

inductive Signature where
  | pdf
  | jpeg
  | png
  | gif
  | tiff
  | bmp
  | webp
  | heic
  | zip
  | executable
  | elf
  | xml
  /-- Text that starts with a `%` comment, as a PDF document does with blanks in front of it. -/
  | matlab
  | plainText
  | octetStream
  deriving DecidableEq, Repr

namespace Signature

def name : Signature → String
  | .pdf => "application/pdf"
  | .jpeg => "image/jpeg"
  | .png => "image/png"
  | .gif => "image/gif"
  | .tiff => "image/tiff"
  | .bmp => "image/bmp"
  | .webp => "image/webp"
  | .heic => "image/heic"
  | .zip => "application/zip"
  | .executable => "application/x-msdownload"
  | .elf => "application/x-executable"
  | .xml => "application/xml"
  | .matlab => "text/x-matlab"
  | .plainText => "text/plain"
  | .octetStream => "application/octet-stream"

def category : Signature → Category
  | .pdf => .pdf
  | .jpeg => .jpeg
  | .png => .png
  | _ => .unknown

/-- A known misdetection, and the signature it really stands for. -/
structure Override where
  detected : Signature
  actual : Signature
  notice : String
  deriving DecidableEq, Repr

def overrides : List Override :=
  [{ detected := .matlab
     actual := .pdf
     notice :=
      "detected text/x-matlab; assuming a PDF without correct leading magic bytes (%PDF)" }]

def override? (s : Signature) : Option Override := overrides.find? fun o => o.detected = s

def resolve (s : Signature) : Signature :=
  match override? s with
  | some o => o.actual
  | none => s

def holdsAt (offset : Nat) (expected bytes : List UInt8) : Bool :=
  expected.isPrefixOf (bytes.drop offset)

/-- Brands of still images in the ISO base media format. -/
def heicBrands : List (List UInt8) :=
  ["heic", "heix", "hevc", "heim", "mif1", "msf1"].map fun s => Text.Utf8.encode s.toList

def isHeic (bytes : List UInt8) : Bool :=
  holdsAt 4 [0x66, 0x74, 0x79, 0x70] bytes && heicBrands.any fun brand => holdsAt 8 brand bytes

/-- The signature that the first twelve bytes give away. -/
def ofMagic? (bytes : List UInt8) : Option Signature :=
  if holdsAt 0 [0x25, 0x50, 0x44, 0x46, 0x2D] bytes then some .pdf
  else if holdsAt 0 [0xFF, 0xD8, 0xFF] bytes then some .jpeg
  else if holdsAt 0 [0x89, 0x50, 0x4E, 0x47, 0x0D, 0x0A, 0x1A, 0x0A] bytes then some .png
  else if holdsAt 0 [0x47, 0x49, 0x46, 0x38] bytes &&
      (holdsAt 4 [0x37, 0x61] bytes || holdsAt 4 [0x39, 0x61] bytes) then some .gif
  else if holdsAt 0 [0x49, 0x49, 0x2A, 0x00] bytes ||
      holdsAt 0 [0x4D, 0x4D, 0x00, 0x2A] bytes then some .tiff
  else if holdsAt 0 [0x52, 0x49, 0x46, 0x46] bytes &&
      holdsAt 8 [0x57, 0x45, 0x42, 0x50] bytes then some .webp
  else if isHeic bytes then some .heic
  else if holdsAt 0 [0x50, 0x4B, 0x03, 0x04] bytes then some .zip
  else if holdsAt 0 [0x4D, 0x5A] bytes then some .executable
  else if holdsAt 0 [0x7F, 0x45, 0x4C, 0x46] bytes then some .elf
  else if holdsAt 0 [0x42, 0x4D] bytes && holdsAt 6 [0x00, 0x00, 0x00, 0x00] bytes then some .bmp
  else none

def isBlank (b : UInt8) : Bool :=
  b = 0x20 || b = 0x09 || b = 0x0A || b = 0x0C || b = 0x0D

/-- How many leading bytes decide whether content is text. -/
def probeLength : Nat := 4096

/-- A character that text is expected to hold: no control character but white space. -/
def isPrintable (c : Char) : Bool := !Text.isControl c || Text.isBlank c

def share (count total : Nat) : Float := count.toUInt64.toFloat / total.toUInt64.toFloat

/-- Text is UTF-8, of which the window may cut the last character, with more than 80 percent of its
characters printable. -/
def isLikelyText (window : List UInt8) : Bool :=
  match Text.Utf8.decode window with
  | (_, .bad) => false
  | (cs, _) => !cs.isEmpty && (0.80 : Float) < share (cs.countP isPrintable) cs.length

/-- The signature of content without magic bytes. A comment sign in front is looked for first, as
such documents are binary further in. -/
def ofText (content : ByteArray) : Signature :=
  let start := Bytes.runEnd isBlank content 0
  if Bytes.slice content start (start + 1) = [0x25] then .matlab
  else if isLikelyText (Bytes.slice content 0 probeLength) then
    if Bytes.slice content start (start + 5) = [0x3C, 0x3F, 0x78, 0x6D, 0x6C] then .xml
    else .plainText
  else .octetStream

def sniff (content : ByteArray) : Signature :=
  match ofMagic? (Bytes.slice content 0 12) with
  | some s => s
  | none => if content.size = 0 then .octetStream else ofText content

end Signature

end AttachmentIntake
