/-! Double precision numbers as their 64 bits, read as a sign, a significand and a power of two, and
the rounding of an exact ratio to the nearest of them. -/
namespace CachePartition.Decimal

/-- A number in the binary64 format. -/
structure Binary64 where
  bits : UInt64
  deriving DecidableEq, Repr, Inhabited

namespace Binary64

/-- What the bits stand for: `finite n m e` is `m * 2 ^ e`, negated if `n` holds. -/
inductive View where
  | nan
  | infinite (negative : Bool)
  | finite (negative : Bool) (significand : Nat) (exponent : Int)
  deriving DecidableEq, Repr

def isNegative (x : Binary64) : Bool :=
  1 <<< 63 ≤ x.bits.toNat

def exponentField (x : Binary64) : Nat :=
  x.bits.toNat / 1 <<< 52 % 1 <<< 11

def fraction (x : Binary64) : Nat :=
  x.bits.toNat % 1 <<< 52

def view (x : Binary64) : View :=
  if x.exponentField = 2047 then
    if x.fraction = 0 then .infinite x.isNegative else .nan
  else if x.exponentField = 0 then .finite x.isNegative x.fraction (-1074)
  else .finite x.isNegative (1 <<< 52 + x.fraction) (x.exponentField - 1075)

def isFinite (x : Binary64) : Bool :=
  x.exponentField ≠ 2047

/-- The number with a sign and the 63 bits below it. -/
def ofMagnitude (negative : Bool) (magnitude : Nat) : Binary64 :=
  ⟨.ofNat (cond negative (1 <<< 63) 0 + magnitude)⟩

def zero (negative : Bool) : Binary64 := ofMagnitude negative 0

def infinity (negative : Bool) : Binary64 := ofMagnitude negative (2047 * 1 <<< 52)

def nan : Binary64 := ofMagnitude false (2047 * 1 <<< 52 + 1 <<< 51)

def negate (x : Binary64) : Binary64 := ⟨x.bits ^^^ 0x8000000000000000⟩

/-- `num / den` rounded to the nearest integer, a half to the even neighbour. -/
def roundHalfEven (num den : Nat) : Nat :=
  let q := num / den
  let r := num % den
  if 2 * r < den then q
  else if den < 2 * r then q + 1
  else if q % 2 = 0 then q else q + 1

/-- `num / (den * 2 ^ e)` as a ratio of natural numbers. -/
def scaled (num den : Nat) (e : Int) : Nat × Nat :=
  if 0 ≤ e then (num, den <<< e.toNat) else (num <<< (-e).toNat, den)

/-- The exponent of the last place of the format at `num / den`, the least one being `-1074`. -/
def lastPlace (num den : Nat) : Int :=
  let e : Int := (num.log2 : Int) - den.log2 - 52
  let s := scaled num den e
  max (if s.1 / s.2 < 1 <<< 52 then e - 1 else e) (-1074)

/-- The magnitude bits of `m * 2 ^ e`, where `m` has at most 53 binary digits or is `2 ^ 53`. -/
def magnitude (m : Nat) (e : Int) : Nat :=
  if m < 1 <<< 52 then m
  else min ((e + 1074).toNat * 1 <<< 52 + m) (2047 * 1 <<< 52)

/-- The nearest number to `num / den`, ties to the even significand; too large becomes infinite. -/
def ofRatio (negative : Bool) (num den : Nat) : Binary64 :=
  if num = 0 then zero negative
  else
    let e := lastPlace num den
    let s := scaled num den e
    ofMagnitude negative (magnitude (roundHalfEven s.1 s.2) e)

def ofNat (n : Nat) : Binary64 := ofRatio false n 1

/-- The nearest number to `coefficient * 10 ^ exponent`. Powers that decide the answer alone are
not computed. -/
def ofDecimal (negative : Bool) (coefficient : Nat) (exponent : Int) : Binary64 :=
  let digits : Int := (Nat.toDigits 10 coefficient).length
  if coefficient = 0 then zero negative
  else if 310 < digits + exponent then infinity negative
  else if digits + exponent < -330 then zero negative
  else if 0 ≤ exponent then ofRatio negative (coefficient * Nat.pow 10 exponent.toNat) 1
  else ofRatio negative coefficient (Nat.pow 10 (-exponent).toNat)

/-- The nearest number to `10 ^ k`. -/
def powerOfTen (k : Nat) : Binary64 := ofNat (Nat.pow 10 k)

/-- `m₁ * 2 ^ e₁ * m₂ * 2 ^ e₂`, rounded. -/
def mulFinite (negative : Bool) (m₁ m₂ : Nat) (e : Int) : Binary64 :=
  if 0 ≤ e then ofRatio negative ((m₁ * m₂) <<< e.toNat) 1
  else ofRatio negative (m₁ * m₂) (1 <<< (-e).toNat)

/-- `m₁ / m₂ * 2 ^ e`, rounded. -/
def divFinite (negative : Bool) (m₁ m₂ : Nat) (e : Int) : Binary64 :=
  if 0 ≤ e then ofRatio negative (m₁ <<< e.toNat) m₂
  else ofRatio negative m₁ (m₂ <<< (-e).toNat)

/-- The rounded product of two finite numbers. -/
def times (x y : Binary64) : Binary64 :=
  match x.view, y.view with
  | .finite n₁ m₁ e₁, .finite n₂ m₂ e₂ => mulFinite (n₁ != n₂) m₁ m₂ (e₁ + e₂)
  | _, _ => nan

/-- The rounded quotient of two finite numbers, the divisor not zero. -/
def dividedBy (x y : Binary64) : Binary64 :=
  match x.view, y.view with
  | .finite n₁ m₁ e₁, .finite n₂ m₂ e₂ => divFinite (n₁ != n₂) m₁ m₂ (e₁ - e₂)
  | _, _ => nan

end Binary64

end CachePartition.Decimal
