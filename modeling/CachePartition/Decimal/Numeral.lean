/-! Decimal numerals as they are written: digits, point and power of ten. -/
namespace CachePartition.Decimal

/-- The power of ten at the end of a numeral. -/
structure Power where
  negative : Bool
  digits : List Char
  deriving DecidableEq, Repr

/-- A numeral. It has a point iff `fraction` is not empty. -/
structure Numeral where
  negative : Bool
  whole : List Char
  fraction : List Char
  power : Option Power
  deriving DecidableEq, Repr

/-- The value of digits read after `value`. -/
def digitsValue (value : Nat) (digits : List Char) : Nat :=
  digits.foldl (fun v c => 10 * v + (c.toNat - '0'.toNat)) value

def Power.text (p : Power) : List Char :=
  'e' :: (if p.negative then '-' else '+') :: p.digits

def Numeral.text (n : Numeral) : List Char :=
  cond n.negative ['-'] [] ++ n.whole ++
    (if n.fraction.isEmpty then [] else '.' :: n.fraction) ++
    (n.power.elim [] Power.text)

def Numeral.ofNat (n : Nat) : Numeral :=
  ⟨false, Nat.toDigits 10 n, [], none⟩

def Numeral.ofInt (n : Int) : Numeral :=
  ⟨n < 0, Nat.toDigits 10 n.natAbs, [], none⟩

end CachePartition.Decimal
