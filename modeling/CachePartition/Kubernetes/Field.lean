import CachePartition.Kubernetes.Metadata

/-! Fields of cluster objects that this program has no use for. They are kept as they are, as long as
they have the shape that such a field has. -/
namespace CachePartition

open Json

/-- What the value of a field looks like from outside. -/
inductive FieldShape where
  | text
  | flag
  /-- An integer of 32 bits with a sign. -/
  | int32
  /-- An integer of 64 bits with a sign. -/
  | int64
  | instant
  | texts
  /-- Texts by name. -/
  | textMap
  | object
  | objects
  deriving DecidableEq, Repr

namespace FieldShape

def admits : FieldShape → Json → Bool
  | text, j => j.text?.isSome
  | flag, j => j.bool?.isSome
  | int32, j => (j.intWithin? 31).isSome
  | int64, j => j.int64?.isSome
  | instant, j => (Timestamp.ofJson? j).isSome
  | texts, j => j.texts?.isSome
  | textMap, j => (j.textMap? text?).isSome
  | object, j => j.members?.isSome
  | objects, j => (j.list? members?).isSome

/-- Fields of one shape. -/
def each (shape : FieldShape) (names : List String) : List (String × FieldShape) :=
  names.map fun n => (n, shape)

end FieldShape

/-- Fields by name that are kept without being looked into. -/
abbrev OtherFields := List (String × Json)

/-- How deep such a field may nest. -/
def otherDepth : Nat := 120

/-- The value of such a field. -/
def otherField? (shape : FieldShape) (j : Json) : Option Json :=
  if shape.admits j then canonical? otherDepth j else none

/-- The fields of known names and shapes that an object has. -/
def otherFields? (known : List (String × FieldShape)) (values : String → List Json) :
    Option OtherFields :=
  known.foldrM (fun (name, shape) rest => do
    let value ← lastOf (values name) (otherField? shape)
    some (value.elim rest fun j => (name, j) :: rest)) []

/-- An object of the fields that have a value and of others. -/
def withOthers (fields : List (String × Option Json)) (others : OtherFields) : Json :=
  .record (fields ++ others.map fun f => (f.1, some f.2))

/-- Whether an object is of a kind, as far as it says so. -/
def isKind (apiVersion kind : String) (values : String → List Json) : Bool :=
  (values "apiVersion").all (fun j => j.text? = some apiVersion) &&
    (values "kind").all fun j => j.text? = some kind

end CachePartition
