import CachePartition.Decimal.Number
import CachePartition.Json.Value
import CachePartition.SortedMap

/-! Decoding of JSON values: single values, lists, maps and records. A record is an object, in which
fields of other names are left out, or an array of its values in the order of its fields. -/
namespace CachePartition.Json

open Decimal

def text? : Json → Option String
  | .string s => some s
  | _ => none

def bool? : Json → Option Bool
  | .bool b => some b
  | _ => none

/-- An integer that is not negative and below `bound`. -/
def natBelow? (bound : Nat) : Json → Option Nat
  | .number n =>
    match n.number? with
    | some (.unsigned v) => if v < bound then some v else none
    | _ => none
  | _ => none

/-- An integer from `-2 ^ bits` to below `2 ^ bits`. -/
def intWithin? (bits : Nat) : Json → Option Int
  | .number n =>
    match n.number? with
    | some (.unsigned v) => if v < 1 <<< bits then some v else none
    | some (.negative v) => if v ≤ 1 <<< bits then some (-v) else none
    | _ => none
  | _ => none

def uint32? (j : Json) : Option UInt32 := (j.natBelow? (1 <<< 32)).map .ofNat

def uint64? (j : Json) : Option UInt64 := (j.natBelow? (1 <<< 64)).map .ofNat

def int64? (j : Json) : Option Int64 := (j.intWithin? 63).map .ofInt

def binary64? : Json → Option Binary64
  | .number n =>
    match n.number? with
    | some (.unsigned v) => some (Binary64.ofNat v)
    | some (.negative v) => some (Binary64.ofNat v).negate
    | some (.real x) => some x
    | none => none
  | _ => none

def list? {α : Type} (f : Json → Option α) : Json → Option (List α)
  | .array items => items.mapM f
  | _ => none

def texts? : Json → Option (List String) := list? text?

/-- A map with names as keys; the last of several values of one name counts, but all must decode. -/
def textMap? {α : Type} (f : Json → Option α) : Json → Option (TextMap α)
  | .object fields => (fields.mapM fun e => (f e.2).map fun v => (e.1, v)).map SortedMap.ofList
  | _ => none

/-- Null for no value. -/
def nullable? {α : Type} (f : Json → Option α) : Json → Option (Option α)
  | .null => some none
  | j => (f j).map some

def countName (name : String) (fields : List (String × Json)) : Nat :=
  (fields.filter fun e => e.1 = name).length

/-- The first value of a name. -/
def findName (name : String) (fields : List (String × Json)) : Option Json :=
  (fields.find? fun e => e.1 = name).map (·.2)

/-- The values of a record's fields by name. No field may have two, no array more than fields. -/
def record? (names : List String) : Json → Option (String → Option Json)
  | .object fields =>
    if names.any fun n => 1 < countName n fields then none else some fun n => findName n fields
  | .array items =>
    if names.length < items.length then none
    else some fun n => ((names.zip items).find? fun e => e.1 = n).map (·.2)
  | _ => none

/-- All values of an object's fields by name. -/
def members? : Json → Option (String → List Json)
  | .object fields => some fun n => (fields.filter fun e => e.1 = n).map (·.2)
  | _ => none

/-- A member that may be left out or null; the last of several counts, but all must decode. -/
def lastOf {α : Type} (values : List Json) (f : Json → Option α) : Option (Option α) :=
  (values.mapM (nullable? f)).map fun l => l.getLast?.join

/-- A field that must be there. -/
def required {α : Type} (field : Option Json) (f : Json → Option α) : Option α :=
  field.bind f

/-- A field that has a value even if it is left out. -/
def orElse {α : Type} (field : Option Json) (f : Json → Option α) (otherwise : α) : Option α :=
  field.elim (some otherwise) f

/-- A field that may be left out or null. -/
def maybe {α : Type} (field : Option Json) (f : Json → Option α) : Option (Option α) :=
  orElse field (nullable? f) none

def ofTextMap {α : Type} (f : α → Json) (m : TextMap α) : Json :=
  .object (m.entries.map fun e => (e.1, f e.2))

/-- No field for the empty text. -/
def unlessEmpty (s : String) : Option Json := if s.isEmpty then none else some (.string s)

/-- No field for no texts. -/
def unlessNone (l : List String) : Option Json := if l.isEmpty then none else some (ofTexts l)

end CachePartition.Json
