import CachePartition.Text.Blank

/-! Unsigned numerals: their canonical decimal form and the bounded reading of a numeral in a base
up to thirty-six. -/
namespace CachePartition.Text

def decimal (n : Nat) : String :=
  String.ofList (Nat.toDigits 10 n)

/-- A number is known by its decimal form. -/
theorem decimal_injective : Function.Injective decimal := by
  intro m n h
  have digits : Nat.toDigits 10 m = Nat.toDigits 10 n := String.ofList_injective h
  rw [← Nat.ofDigitChars_ten_toDigits (n := m), digits, Nat.ofDigitChars_ten_toDigits]

def signedDecimal (n : Int) : String :=
  if n < 0 then String.ofList ('-' :: Nat.toDigits 10 n.natAbs) else decimal n.natAbs

/-- The value of an ASCII digit or letter of either case below `base`. -/
def digitValue? (base : Nat) (c : Char) : Option Nat :=
  let value? : Option Nat :=
    if '0' ≤ c ∧ c ≤ '9' then some (c.toNat - '0'.toNat)
    else if 'a' ≤ c ∧ c ≤ 'z' then some (c.toNat - 'a'.toNat + 10)
    else if 'A' ≤ c ∧ c ≤ 'Z' then some (c.toNat - 'A'.toNat + 10)
    else none
  value?.filter (· < base)

def isDigit (c : Char) : Bool :=
  '0' ≤ c && c ≤ '9'

/-- Why a text is no numeral below a bound. -/
inductive NumeralError where
  | empty
  | invalidDigit
  | tooLarge
  deriving DecidableEq, Repr

def NumeralError.message : NumeralError → String
  | .empty => "cannot parse integer from empty string"
  | .invalidDigit => "invalid digit found in string"
  | .tooLarge => "number too large to fit in target type"

/-- Reads digits after `value`; the first character that is no digit or takes the value out of
bounds decides the error. -/
def readDigits (base bound : Nat) : Nat → List Char → Except NumeralError Nat
  | value, [] => .ok value
  | value, c :: rest =>
    match digitValue? base c with
    | none => .error .invalidDigit
    | some d =>
      if value * base + d < bound then readDigits base bound (value * base + d) rest
      else .error .tooLarge

/-- Reads an unsigned numeral below `bound`, one leading plus sign allowed. -/
def readUnsigned (base bound : Nat) : List Char → Except NumeralError Nat
  | [] => .error .empty
  | ['+'] => .error .invalidDigit
  | '+' :: rest => readDigits base bound 0 rest
  | s => readDigits base bound 0 s

/-- Reads a decimal numeral below `bound` that may carry a plus sign. -/
def readDecimal? (bound : Nat) (s : List Char) : Option Nat :=
  (readUnsigned 10 bound s).toOption

end CachePartition.Text
