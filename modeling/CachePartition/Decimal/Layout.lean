import CachePartition.Decimal.Numeral
import CachePartition.Decimal.Shortest

/-! The two written forms of a number. Both show its shortest digits; the data form keeps a mark that
it is no integer and turns to powers of ten far from one, the plain form does neither. -/
namespace CachePartition.Decimal

/-- How a form writes a number. -/
structure Form where
  tie : Tie
  /-- Positional notation for values below ten to these exponents: from the first, up to the second. -/
  positional : Option (Int × Int)
  /-- Whether an integer is written with a fraction `.0`. -/
  pointZero : Bool

/-- Positional from `1e-5` to below `1e16`, with `.0` on integers. -/
def dataForm : Form := ⟨.even, some (-5, 16), true⟩

/-- Positional throughout. -/
def plainForm : Form := ⟨.up, none, false⟩

def zeros (n : Nat) : List Char := List.replicate n '0'

/-- The digits of a point with the decimal point in its place. -/
def Point.positional (negative : Bool) (p : Point) (pointZero : Bool) : Numeral :=
  let ds := Nat.toDigits 10 p.digits
  let whole : Int := ds.length + p.exponent
  if 0 ≤ p.exponent then
    ⟨negative, ds ++ zeros p.exponent.toNat, cond pointZero ['0'] [], none⟩
  else if 0 < whole then ⟨negative, ds.take whole.toNat, ds.drop whole.toNat, none⟩
  else ⟨negative, ['0'], zeros (-whole).toNat ++ ds, none⟩

/-- One digit before the point and a signed power of ten. -/
def Point.scientific (negative : Bool) (p : Point) : Numeral :=
  let ds := Nat.toDigits 10 p.digits
  let power : Int := ds.length + p.exponent - 1
  ⟨negative, ds.take 1, ds.drop 1, some ⟨power < 0, Nat.toDigits 10 power.natAbs⟩⟩

def Form.writePoint (f : Form) (negative : Bool) (p : Point) : Numeral :=
  let order : Int := (Nat.toDigits 10 p.digits).length + p.exponent
  match f.positional with
  | none => p.positional negative f.pointZero
  | some (low, high) =>
    if low < order ∧ order ≤ high then p.positional negative f.pointZero
    else p.scientific negative

/-- The numeral of a finite number; none for the others. -/
def Form.write? (f : Form) (x : Binary64) : Option Numeral :=
  match x.view with
  | .finite negative m e =>
    some (if m = 0 then ⟨negative, ['0'], cond f.pointZero ['0'] [], none⟩
      else f.writePoint negative (shortest f.tie m e))
  | _ => none

/-- The plain text of any number. -/
def display (x : Binary64) : String :=
  match x.view with
  | .nan => "NaN"
  | .infinite negative => cond negative "-inf" "inf"
  | .finite _ _ _ => String.ofList ((plainForm.write? x).elim [] Numeral.text)

end CachePartition.Decimal
