import CachePartition.Decimal.Binary64
import CachePartition.Decimal.Numeral
import CachePartition.Text.Numeral

/-! What a numeral of a data text stands for. Integers of 64 bits are exact. Every other numeral is a double
precision number made from at most 64 bits of leading digits and one power of ten; it may differ from
the nearest one in the last place. -/
namespace CachePartition.Decimal

/-- A number as the decoders see it: an unsigned integer, a negative integer by its magnitude, or a
double precision number. -/
inductive Number where
  | unsigned (n : Nat)
  | negative (magnitude : Nat)
  | real (x : Binary64)
  deriving DecidableEq, Repr

/-- Leading digits that fit 64 bits, and the power of ten they are to be scaled by. -/
structure Leading where
  significand : Nat
  exponent : Int
  deriving DecidableEq, Repr

/-- Takes whole digits while they fit; each further one stands for a factor of ten. -/
def Leading.ofWhole (l : Leading) : List Char → Leading
  | [] => l
  | c :: rest =>
    let next := digitsValue l.significand [c]
    if next < 1 <<< 64 then Leading.ofWhole ⟨next, l.exponent⟩ rest
    else ⟨l.significand, l.exponent + (rest.length + 1)⟩

/-- Takes digits after the point while they fit; the others are dropped. -/
def Leading.ofFraction (l : Leading) : List Char → Leading
  | [] => l
  | c :: rest =>
    let next := digitsValue l.significand [c]
    if next < 1 <<< 64 then Leading.ofFraction ⟨next, l.exponent - 1⟩ rest
    else l

def Numeral.leading (n : Numeral) : Leading :=
  ((Leading.mk 0 0).ofWhole n.whole).ofFraction n.fraction

/-- Divides by powers of ten of at most 308 until the exponent is used up. -/
def scaleDown : Nat → Binary64 → Nat → Binary64
  | 0, x, _ => x
  | fuel + 1, x, k =>
    if k ≤ 308 then x.dividedBy (.powerOfTen k)
    else if x = Binary64.zero false then x
    else scaleDown fuel (x.dividedBy (.powerOfTen 308)) (k - 308)

/-- `significand * 10 ^ exponent`; none if it is too large. -/
def Leading.scaled? (l : Leading) : Option Binary64 :=
  let x := Binary64.ofNat l.significand
  if l.exponent < 0 then some (scaleDown 8 x l.exponent.natAbs)
  else if l.exponent ≤ 308 then
    some (x.times (.powerOfTen l.exponent.toNat)) |>.filter (·.isFinite)
  else if l.significand = 0 then some x
  else none

def signed (negative : Bool) (x : Binary64) : Binary64 := cond negative x.negate x

/-- The number of a numeral that is no integer of 64 bits. A power of ten of 31 bits or more is
decided by its sign alone. -/
def Numeral.real? (n : Numeral) : Option Binary64 :=
  let l := n.leading
  match n.power with
  | none => l.scaled?.map (signed n.negative)
  | some p =>
    let k := digitsValue 0 p.digits
    if k < 1 <<< 31 then
      (Leading.scaled? ⟨l.significand, if p.negative then l.exponent - k else l.exponent + k⟩).map
        (signed n.negative)
    else if l.significand = 0 || p.negative then some (Binary64.zero n.negative)
    else none

/-- The number of a numeral; none if it is too large. Minus zero is no integer. -/
def Numeral.number? (n : Numeral) : Option Number :=
  let l := n.leading
  if n.fraction.isEmpty && n.power.isNone && l.exponent = 0 then
    if !n.negative then some (.unsigned l.significand)
    else if l.significand = 0 || 1 <<< 63 < l.significand then
      some (.real (Binary64.ofNat l.significand).negate)
    else some (.negative l.significand)
  else (Numeral.real? n).map .real

end CachePartition.Decimal
