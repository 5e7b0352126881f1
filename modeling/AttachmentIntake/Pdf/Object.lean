import AttachmentIntake.Bytes

/-!
The values of a PDF document. Strings and numbers with a point are kept as their kind only, as
nothing that is decided about a document depends on them.
-/

namespace AttachmentIntake.Pdf

structure Reference where
  number : Nat
  generation : Nat
  deriving DecidableEq, Ord, Repr

inductive Object where
  | null
  | boolean (b : Bool)
  | integer (i : Int)
  | real
  | text
  | name (bytes : List UInt8)
  | array (items : List Object)
  | dictionary (entries : List (List UInt8 × Object))
  | reference (r : Reference)
  deriving Repr

abbrev Dictionary := List (List UInt8 × Object)

/-- The value of a key; of several equal keys the last one counts. -/
def Dictionary.get? (d : Dictionary) (key : String) : Option Object :=
  List.lookup (Bytes.ascii key) d.reverse

namespace Object

def integer? : Object → Option Int
  | .integer i => some i
  | _ => none

def name? : Object → Option (List UInt8)
  | .name bytes => some bytes
  | _ => none

def array? : Object → Option (List Object)
  | .array items => some items
  | _ => none

def dictionary? : Object → Option Dictionary
  | .dictionary entries => some entries
  | _ => none

def reference? : Object → Option Reference
  | .reference r => some r
  | _ => none

end Object

def Dictionary.hasType (d : Dictionary) (type : String) : Bool :=
  (d.get? "Type").bind Object.name? == some (Bytes.ascii type)

def Dictionary.integer? (d : Dictionary) (key : String) : Option Int :=
  (d.get? key).bind Object.integer?

/-- What stands under an object number: a value, or a stream of bytes with its dictionary. -/
inductive Item where
  | value (o : Object)
  | stream (d : Dictionary) (content : ByteArray)

def Item.value? : Item → Option Object
  | .value o => some o
  | .stream _ _ => none

end AttachmentIntake.Pdf
