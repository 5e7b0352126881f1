import AttachmentIntake.Pdf.Object

/-!
Encryption dictionaries: which of them say in a known way how the document is protected. Whether a
password is needed does not matter here, as none is ever tried.
-/

namespace AttachmentIntake.Pdf.Encryption

def isText : Object → Bool
  | .text => true
  | _ => false

def isAbsentOr (p : Object → Bool) (o : Option Object) : Bool := o.all p

def isRevision (n : Int) : Bool := 2 ≤ n && n ≤ 6

/-- Up to the fourth revision, keys are made with the first identifier of the file. -/
def hasIdentifier (trailer : Dictionary) : Bool :=
  (((trailer.get? "ID").bind Object.array?).bind List.head?).any isText

def isKnown (trailer d : Dictionary) : Bool :=
  (d.get? "Filter").bind Object.name? == some (Bytes.ascii "Standard") &&
  (d.integer? "V").isSome && (d.integer? "P").isSome &&
  (d.get? "O").any isText && (d.get? "U").any isText &&
  isAbsentOr (fun o => o matches .boolean _) (d.get? "EncryptMetadata") &&
  isAbsentOr (fun o => o.integer?.any (0 ≤ ·)) (d.get? "Length") &&
  (d.integer? "R").any fun revision =>
    isRevision revision && (4 < revision || hasIdentifier trailer)

end AttachmentIntake.Pdf.Encryption
