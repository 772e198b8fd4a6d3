import CachePartition.Text.Blank
import CachePartition.Text.Numeral
import CachePartition.Text.Search

/-! Resource quantities in thousandths: `2`, `1.5` and `1500m`. Other forms are not read. -/
namespace CachePartition.Quantity

open Text

/-- A numeral of 64 bits; the empty text is zero. -/
def readPart? (s : List Char) : Option Nat :=
  if s.isEmpty then some 0 else readDecimal? (1 <<< 64) s

/-- Digits after the point, filled up to three places. -/
def thousandths (digits : List Char) : List Char :=
  digits ++ List.replicate (3 - digits.length) '0'

/-- A whole part and up to three digits of a fraction. -/
def readDecimalMillis? (whole fraction : List Char) : Option Nat :=
  if 3 < fraction.length ∨ !fraction.all isDigit then none
  else
    match readPart? whole, readPart? (thousandths fraction) with
    | some w, some f => if w * 1000 + f < 1 <<< 64 then some (w * 1000 + f) else none
    | _, _ => none

/-- The thousandths of a quantity between blanks, below `2 ^ 64`. -/
def millis? (quantity : String) : Option Nat :=
  let s := trimBlanks quantity.toList
  match stripEnd? ['m'] s with
  | some digits => readDecimal? (1 <<< 64) digits
  | none =>
    match splitOnce? ['.'] s with
    | some (whole, fraction) => readDecimalMillis? whole fraction
    | none => readDecimalMillis? s []

/-- The value of a quantity that is a whole number of 32 bits. -/
def whole? (quantity : String) : Option UInt32 := do
  let millis ← millis? quantity
  if millis % 1000 = 0 ∧ millis / 1000 < 1 <<< 32 then some (.ofNat (millis / 1000)) else none

/-- Whether so many thousandths are a positive whole number. -/
def isPositiveWhole (millis : Nat) : Bool := 0 < millis && millis % 1000 = 0

end CachePartition.Quantity
