import CachePartition.Json.Codec

/-! JSON values that are kept as they are: each name of an object once, in ascending order, and each
number as its value. -/
namespace CachePartition.Json

open Decimal

def ofNumber : Number → Json
  | .unsigned n => .ofNat n
  | .negative n => .ofInt (-n)
  | .real x => .ofBinary64 x

/-- The canonical form of a value nested at most `depth` deep; none if a number is too large. -/
def canonical? : Nat → Json → Option Json
  | _, .null => some .null
  | _, .bool b => some (.bool b)
  | _, .number n => n.number?.map ofNumber
  | _, .string s => some (.string s)
  | 0, _ => none
  | depth + 1, .array items => (items.mapM (canonical? depth)).map .array
  | depth + 1, .object fields =>
    (fields.mapM fun e => (canonical? depth e.2).map fun j => (e.1, j)).map fun fields =>
      .object (SortedMap.ofList fields).entries
  | _, .unreadable => none

end CachePartition.Json
