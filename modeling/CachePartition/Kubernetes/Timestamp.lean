import CachePartition.Text.Blank
import CachePartition.Text.Numeral

/-! Instants as they stand in object metadata: a date and a time of day in UTC, to the second. -/
namespace CachePartition

/-- An instant. A second of sixty is a leap second. -/
structure Timestamp where
  year : Int
  month : Nat
  day : Nat
  hour : Nat
  minute : Nat
  second : Nat
  deriving DecidableEq, Repr

namespace Timestamp

open Text

def isLeapYear (y : Int) : Bool := y % 4 = 0 && (y % 100 ≠ 0 || y % 400 = 0)

def daysInMonth (y : Int) (m : Nat) : Nat :=
  if m = 2 then if isLeapYear y then 29 else 28
  else if m ∈ [4, 6, 9, 11] then 30 else 31

/-- Days from the first of March of the year 0 to a date. -/
def dayNumber (y : Int) (m d : Nat) : Int :=
  let y := if m ≤ 2 then y - 1 else y
  let m := if m ≤ 2 then m + 9 else m - 3
  365 * y + y / 4 - y / 100 + y / 400 + (153 * m + 2) / 5 + d - 1

/-- The date with a day number. -/
def ofDayNumber (n : Int) : Int × Nat × Nat :=
  let era := n / 146097
  let dayOfEra := (n % 146097).toNat
  let yearOfEra := (dayOfEra - dayOfEra / 1460 + dayOfEra / 36524 - dayOfEra / 146096) / 365
  let dayOfYear := dayOfEra - (365 * yearOfEra + yearOfEra / 4 - yearOfEra / 100)
  let month := (5 * dayOfYear + 2) / 153
  let day := dayOfYear - (153 * month + 2) / 5 + 1
  let year : Int := yearOfEra + era * 400
  if month < 10 then (year, month + 3, day) else (year + 1, month - 9, day)

/-- The instant some minutes earlier. -/
def backBy (t : Timestamp) (minutes : Int) : Timestamp :=
  let total := dayNumber t.year t.month t.day * 1440 + t.hour * 60 + t.minute - minutes
  let date := ofDayNumber (total / 1440)
  let ofDay := (total % 1440).toNat
  ⟨date.1, date.2.1, date.2.2, ofDay / 60, ofDay % 60, t.second⟩

def isValid (t : Timestamp) : Bool :=
  1 ≤ t.month && t.month ≤ 12 && 1 ≤ t.day && t.day ≤ daysInMonth t.year t.month &&
    t.hour < 24 && t.minute < 60 && t.second ≤ 60

/-- At most `width` digits, one at least. -/
def readNumber? (width : Nat) (s : List Char) : Option (Nat × List Char) :=
  let s := s.dropWhile isBlank
  let ds := (s.take width).takeWhile isDigit
  if ds.isEmpty then none
  else some (ds.foldl (fun n c => 10 * n + (c.toNat - '0'.toNat)) 0, s.drop ds.length)

/-- One given character between blanks. -/
def readMark? (mark : Char) (s : List Char) : Option (List Char) :=
  match s.dropWhile isBlank with
  | c :: rest => if c = mark then some rest else none
  | [] => none

/-- Drops a fraction of a second. -/
def skipFraction? : List Char → Option (List Char)
  | '.' :: rest => if (rest.takeWhile isDigit).isEmpty then none else some (rest.dropWhile isDigit)
  | s => some s

/-- The minutes east of UTC that end the text. -/
def readOffset? (s : List Char) : Option Int :=
  match s.dropWhile isBlank with
  | ['Z'] | ['z'] => some 0
  | [u, t, c] => if [u, t, c].map Char.toUpper = ['U', 'T', 'C'] then some 0 else none
  | sign :: h₁ :: h₂ :: rest =>
    let minutes? : Option Nat :=
      match rest.dropWhile fun c => c = ':' || isBlank c with
      | [m₁, m₂] =>
        if [h₁, h₂, m₁, m₂].all isDigit ∧ m₁.toNat < '6'.toNat then
          let digit (c : Char) := c.toNat - '0'.toNat
          some ((digit h₁ * 10 + digit h₂) * 60 + digit m₁ * 10 + digit m₂)
        else none
      | _ => none
    match minutes? with
    | some m =>
      if 1440 ≤ m then none
      else if sign = '+' then some m
      else if sign = '-' then some (-m)
      else none
    | none => none
  | _ => none

/-- Reads a date, a time of day and an offset from UTC. -/
def read? (text : String) : Option Timestamp := do
  let (year, s) ← readNumber? 4 text.toList
  let (month, s) ← readMark? '-' s >>= readNumber? 2
  let (day, s) ← readMark? '-' s >>= readNumber? 2
  let s ← match s with
    | c :: rest => if c = 'T' ∨ c = 't' ∨ c = ' ' then some rest else none
    | [] => none
  let (hour, s) ← readNumber? 2 s
  let (minute, s) ← readMark? ':' s >>= readNumber? 2
  let (second, s) ← readMark? ':' s >>= readNumber? 2
  let offset ← skipFraction? s >>= readOffset?
  let t : Timestamp := ⟨year, month, day, hour, minute, second⟩
  if t.isValid then some (t.backBy offset) else none

/-- A number with zeros before it up to `width` digits. -/
def padded (width n : Nat) : String :=
  let ds := Nat.toDigits 10 n
  String.ofList (List.replicate (width - ds.length) '0' ++ ds)

def write (t : Timestamp) : String :=
  (if t.year < 0 then "-" else "") ++ padded 4 t.year.natAbs ++ "-" ++ padded 2 t.month ++ "-" ++
    padded 2 t.day ++ "T" ++ padded 2 t.hour ++ ":" ++ padded 2 t.minute ++ ":" ++
    padded 2 t.second ++ "Z"

end Timestamp

end CachePartition
