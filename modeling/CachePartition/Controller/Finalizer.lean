import CachePartition.Json.Value
import CachePartition.Kubernetes.Metadata

/-! Finalizers: marks on an object that hold back its deletion until the one who set the mark has
cleaned up. -/
namespace CachePartition

/-- A change of an object's finalizers. It holds only if they are still as they were read. -/
inductive FinalizerChange where
  | add (finalizer : String) (present : List String)
  | remove (finalizer : String) (index : Nat)
  deriving DecidableEq, Repr

namespace FinalizerChange

def operation (op path : String) (value : Option Json) : Json :=
  .record [("op", some (.string op)), ("path", some (.string path)), ("value", value)]

def listPath : String := "/metadata/finalizers"

/-- The change as a JSON patch: a test, and the change itself. -/
def toJson : FinalizerChange → Json
  | .add finalizer [] =>
    .array [operation "test" listPath (some .null),
      operation "add" listPath (some (.ofTexts [finalizer]))]
  | .add finalizer present =>
    .array [operation "test" listPath (some (.ofTexts present)),
      operation "add" (listPath ++ "/-") (some (.string finalizer))]
  | .remove finalizer index =>
    let path := listPath ++ "/" ++ Text.decimal index
    .array [operation "test" path (some (.string finalizer)), operation "remove" path none]

end FinalizerChange

/-- Where an object stands with a finalizer. -/
inductive FinalizerStage where
  /-- The mark is to be set before anything else. -/
  | unmarked (change : FinalizerChange)
  | live
  /-- Deleted, and to be cleaned up before the mark is taken away. -/
  | leaving (change : FinalizerChange)
  /-- Deleted, and no longer held back. -/
  | released
  deriving DecidableEq, Repr

def Metadata.finalizerStage (m : Metadata) (finalizer : String) : FinalizerStage :=
  let present := m.finalizers.getD []
  match present.findIdx? (· = finalizer), m.isDeleting with
  | none, false => .unmarked (.add finalizer present)
  | none, true => .released
  | some _, false => .live
  | some i, true => .leaving (.remove finalizer i)

end CachePartition
