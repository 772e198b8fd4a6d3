import CachePartition.Decimal.Binary64
import CachePartition.Decimal.Numeral
import CachePartition.Text.Blank
import CachePartition.Text.Numeral

/-! Reading a number from free text: the nearest double precision number to any decimal, and the words
for those that are not finite. -/
namespace CachePartition.Decimal

open Text

/-- The sign before a number, if there is one, and what follows. -/
def splitSign : List Char → Bool × List Char
  | '-' :: rest => (true, rest)
  | '+' :: rest => (false, rest)
  | s => (false, s)

/-- Whether the text is `word`, which is in small letters, in any mix of cases. -/
def isWord (word s : List Char) : Bool :=
  s.map Char.toLower = word

/-- The power of ten that ends a text; none if something else follows. -/
def readPowerEnd? : List Char → Option Int
  | [] => some 0
  | c :: rest =>
    if c = 'e' ∨ c = 'E' then
      let sign := splitSign rest
      if sign.2.isEmpty ∨ !sign.2.all isDigit then none
      else
        let k : Int := digitsValue 0 sign.2
        some (if sign.1 then -k else k)
    else none

/-- Reads digits with a point before, among or after them, and a power of ten. -/
def readMagnitude? (negative : Bool) (s : List Char) : Option Binary64 :=
  let whole := s.takeWhile isDigit
  let rest := s.dropWhile isDigit
  let pointed : List Char × List Char :=
    match rest with
    | '.' :: tail => (tail.takeWhile isDigit, tail.dropWhile isDigit)
    | _ => ([], rest)
  if whole.isEmpty ∧ pointed.1.isEmpty then none
  else (readPowerEnd? pointed.2).map fun k =>
    Binary64.ofDecimal negative (digitsValue 0 (whole ++ pointed.1)) (k - pointed.1.length)

/-- Reads a number with an optional sign. -/
def read? (s : List Char) : Option Binary64 :=
  let sign := splitSign s
  if isWord ['n', 'a', 'n'] sign.2 then some (if sign.1 then Binary64.nan.negate else Binary64.nan)
  else if isWord ['i', 'n', 'f'] sign.2 || isWord ['i', 'n', 'f', 'i', 'n', 'i', 't', 'y'] sign.2 then
    some (Binary64.infinity sign.1)
  else readMagnitude? sign.1 sign.2

end CachePartition.Decimal
