import CachePartition.Decimal.Binary64

/-! The shortest decimal that reads back as a given number: of the decimal grids, the coarsest with a
point that rounds to the number; on that grid, the point nearest to it. -/
namespace CachePartition.Decimal

/-- Which of two equally near points is taken. -/
inductive Tie where
  | even
  | up
  deriving DecidableEq, Repr

/-- `digits * 10 ^ exponent`. -/
structure Point where
  digits : Nat
  exponent : Int
  deriving DecidableEq, Repr

/-- A positive number with the bounds of what rounds to it, all as numerators over `den`; the bounds
belong to it iff `closed` holds. -/
structure Span where
  low : Nat
  value : Nat
  high : Nat
  den : Nat
  closed : Bool
  deriving DecidableEq, Repr

/-- The span of `m * 2 ^ e`. Below a power of two the neighbour is half as far away. -/
def Span.ofFinite (m : Nat) (e : Int) : Span :=
  let scale := 1 <<< (e - 2).toNat
  let below := if m = 1 <<< 52 ∧ -1074 < e then 1 else 2
  ⟨(4 * m - below) * scale, 4 * m * scale, (4 * m + 2) * scale, 1 <<< (2 - e).toNat, m % 2 = 0⟩

/-- Whether `digits * 10 ^ exponent` rounds to the number. -/
def Span.holds (s : Span) (p : Point) : Bool :=
  let x := p.digits * Nat.pow 10 p.exponent.toNat * s.den
  let scale := Nat.pow 10 (-p.exponent).toNat
  if s.closed then s.low * scale ≤ x && x ≤ s.high * scale
  else s.low * scale < x && x < s.high * scale

/-- The two points of the grid `10 ^ exponent` around the number, with twice their distance compared
to the grid's step: the number is nearer to the lower one iff this is `.lt`. -/
def Span.neighbours (s : Span) (exponent : Int) : Nat × Ordering :=
  let num := s.value * Nat.pow 10 (-exponent).toNat
  let den := s.den * Nat.pow 10 exponent.toNat
  (num / den, compare (2 * (num % den)) den)

/-- The point of the grid that rounds to the number, the nearer one if both neighbours do. -/
def Span.onGrid? (tie : Tie) (s : Span) (exponent : Int) : Option Point :=
  let n := s.neighbours exponent
  let lower : Point := ⟨n.1, exponent⟩
  let upper : Point := ⟨n.1 + 1, exponent⟩
  let preferLower : Bool :=
    match n.2, tie with
    | .lt, _ => true
    | .gt, _ => false
    | .eq, .even => n.1 % 2 = 0
    | .eq, .up => false
  match s.holds lower, s.holds upper with
  | true, true => some (if preferLower then lower else upper)
  | true, false => some lower
  | false, true => some upper
  | false, false => none

/-- The first grid with a point that rounds to the number, `fuel` grids tried at most. -/
def Span.firstGrid (tie : Tie) (s : Span) : Nat → Int → Point
  | 0, exponent => ⟨(s.neighbours exponent).1, exponent⟩
  | fuel + 1, exponent =>
    match s.onGrid? tie exponent with
    | some p => p
    | none => s.firstGrid tie fuel (exponent - 1)

/-- An exponent whose power of ten exceeds the number, and does so by less than a hundredfold. -/
def Span.ceiling (s : Span) : Int :=
  let whole := s.value / s.den
  if 0 < whole then (Nat.toDigits 10 whole).length
  else 1 - ((Nat.toDigits 10 (s.den / s.value)).length : Int)

/-- Moves the zeros at the end of the digits into the exponent, `fuel` of them at most. -/
def Point.strip : Nat → Point → Point
  | 0, p => p
  | fuel + 1, p =>
    if p.digits ≠ 0 ∧ p.digits % 10 = 0 then Point.strip fuel ⟨p.digits / 10, p.exponent + 1⟩
    else p

/-- The shortest decimal of `m * 2 ^ e`, `m` not zero. -/
def shortest (tie : Tie) (m : Nat) (e : Int) : Point :=
  let s := Span.ofFinite m e
  (s.firstGrid tie 20 s.ceiling).strip 20

end CachePartition.Decimal
