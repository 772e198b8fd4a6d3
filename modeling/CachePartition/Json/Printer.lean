import CachePartition.Json.Value
import CachePartition.Text.Quoted

/-! The compact text of a JSON value. -/
namespace CachePartition.Json

/-- The four hexadecimal digits of a code unit. -/
def unitDigits (n : Nat) : List Char :=
  let ds := Text.hexadecimal n
  List.replicate (4 - ds.length) '0' ++ ds

/-- A character between the quotes of a string. -/
def escape (c : Char) : List Char :=
  if c = '"' then ['\\', '"']
  else if c = '\\' then ['\\', '\\']
  else if c = '\x08' then ['\\', 'b']
  else if c = '\x0c' then ['\\', 'f']
  else if c = '\n' then ['\\', 'n']
  else if c = '\r' then ['\\', 'r']
  else if c = '\t' then ['\\', 't']
  else if c.toNat < 0x20 then '\\' :: 'u' :: unitDigits c.toNat
  else [c]

def stringText (s : String) : List Char :=
  '"' :: s.toList.flatMap escape ++ ['"']

mutual

/-- The text of a value. What is unreadable has none of its own and shows as null. -/
def text : Json → List Char
  | .null => ['n', 'u', 'l', 'l']
  | .bool true => ['t', 'r', 'u', 'e']
  | .bool false => ['f', 'a', 'l', 's', 'e']
  | .number n => n.text
  | .string s => stringText s
  | .array items => '[' :: itemsText items
  | .object fields => '\x7b' :: fieldsText fields
  | .unreadable => ['n', 'u', 'l', 'l']

/-- The items of an array up to its end. -/
def itemsText : List Json → List Char
  | [] => [']']
  | [j] => text j ++ [']']
  | j :: rest => text j ++ ',' :: itemsText rest

/-- The fields of an object up to its end. -/
def fieldsText : List (String × Json) → List Char
  | [] => ['\x7d']
  | [(k, j)] => stringText k ++ ':' :: text j ++ ['\x7d']
  | (k, j) :: rest => stringText k ++ ':' :: text j ++ ',' :: fieldsText rest

end

def print (j : Json) : String := String.ofList (text j)

end CachePartition.Json
