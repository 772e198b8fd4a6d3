import CachePartition.Decimal.Layout
import CachePartition.Text.Numeral

/-! JSON values. Object fields keep their order and may repeat, numbers keep their digits; what either
means is for the reader of a value to say. -/
namespace CachePartition

/-- A JSON value. `unreadable` is a string or an object with a string in it that is no text, which
is well formed and may stand where nobody looks. -/
inductive Json where
  | null
  | bool (b : Bool)
  | number (n : Decimal.Numeral)
  | string (s : String)
  | array (items : List Json)
  | object (fields : List (String × Json))
  | unreadable
  deriving Repr, Inhabited

namespace Json

def ofNat (n : Nat) : Json := .number (.ofNat n)

def ofInt (n : Int) : Json := .number (.ofInt n)

/-- A double precision number; one that is not finite has no numeral and is null. -/
def ofBinary64 (x : Decimal.Binary64) : Json :=
  (Decimal.dataForm.write? x).elim .null .number

def ofTexts (l : List String) : Json := .array (l.map .string)

/-- An object of the fields that have a value. -/
def record (fields : List (String × Option Json)) : Json :=
  .object (fields.filterMap fun f => f.2.map fun j => (f.1, j))

end Json

end CachePartition
