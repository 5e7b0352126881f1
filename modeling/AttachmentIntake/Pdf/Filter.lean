import AttachmentIntake.Pdf.Filter.Base85
import AttachmentIntake.Pdf.Filter.Deflate
import AttachmentIntake.Pdf.Filter.Lzw
import AttachmentIntake.Pdf.Filter.RowPredictor
import AttachmentIntake.Pdf.Object

/-!
The filters that the bytes of a stream have passed through, and their removal.
-/

namespace AttachmentIntake.Pdf.Filter

def names? (d : Dictionary) : Option (List (List UInt8)) :=
  match d.get? "Filter" with
  | some (.name n) => some [n]
  | some (.array items) => items.mapM Object.name?
  | _ => none

def unpredicted (parameters : Option Dictionary) (data : ByteArray) : Option ByteArray :=
  match parameters with
  | none => some data
  | some d =>
    let value (key : String) (least : Int) : Nat := (max least ((d.integer? key).getD 1)).toNat
    let predictor := (d.integer? "Predictor").getD 1
    if 10 ≤ predictor ∧ predictor ≤ 15 then
      let step := value "Colors" 1 * value "BitsPerComponent" 8 / 8
      RowPredictor.decode step (step * value "Columns" 1) data
    else some data

def remove (parameters : Option Dictionary) (filter : List UInt8) (data : ByteArray) :
    Option ByteArray :=
  if filter = Bytes.ascii "FlateDecode" then
    unpredicted parameters (if data.isEmpty then data else Deflate.decode data)
  else if filter = Bytes.ascii "LZWDecode" then
    let early := (parameters.bind (·.integer? "EarlyChange")).getD 1
    unpredicted parameters (Lzw.decode (early ≠ 0) data)
  else if filter = Bytes.ascii "ASCII85Decode" then Base85.decode data
  else none

/-- Whether the bytes of a stream are those of an image, which keep their filters. -/
def isImage (d : Dictionary) : Bool :=
  (d.get? "Subtype").bind Object.name? == some (Bytes.ascii "Image")

/-- The bytes of a stream without its filters; an empty list of filters leaves none. -/
def decoded? (d : Dictionary) (content : ByteArray) : Option ByteArray :=
  match if isImage d then none else names? d with
  | none => none
  | some [] => some .empty
  | some filters =>
    filters.foldlM (fun data filter =>
      remove ((d.get? "DecodeParms").bind Object.dictionary?) filter data) content

end AttachmentIntake.Pdf.Filter
