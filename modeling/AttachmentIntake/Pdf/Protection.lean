import AttachmentIntake.Bytes

/-!
Whether a document that cannot be loaded says that it is encrypted. This is decided by a search for
keywords, as the document's structure is not available.
-/

namespace AttachmentIntake.Pdf.Protection

/-- Where the dictionary of the last cross-reference stream starts and ends, as far as the keywords
around it tell. -/
def streamRegion? (data : ByteArray) : Option (Nat × Nat) :=
  match Bytes.findLast? (Bytes.ascii "/XRef") data data.size with
  | none => none
  | some mark =>
    (Bytes.findLast? (Bytes.ascii "obj") data mark).map fun start =>
      (start, (Bytes.find? (Bytes.ascii "stream") data mark data.size).getD data.size)

/-- From the last trailer keyword to the end; without one, the dictionary of the last
cross-reference stream. -/
def trailerRegion? (data : ByteArray) : Option (Nat × Nat) :=
  match Bytes.findLast? (Bytes.ascii "trailer") data data.size with
  | some start => some (start, data.size)
  | none => streamRegion? data

def isDeclared (data : ByteArray) : Bool :=
  match trailerRegion? data with
  | some (start, stop) => (Bytes.find? (Bytes.ascii "/Encrypt") data start stop).isSome
  | none => false

end AttachmentIntake.Pdf.Protection
