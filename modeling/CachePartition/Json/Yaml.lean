import CachePartition.Json.Printer
import CachePartition.Text.Search

/-! JSON values as documents in block style: a field or an item a line, what is inside them under them,
two columns further in. Items are no further in than the name of their list. -/
namespace CachePartition.Yaml

open Json

/-- Words that would not be read as texts. -/
def reserved : List String := ["null", "true", "false", "yes", "no", "on", "off", "y", "n"]

/-- Whether a text of one line may stand as it is. -/
def isPlain (s : String) : Bool :=
  let chars := s.toList
  chars.head?.any Char.isAlpha && s ∉ reserved && !Text.occursIn [':', ' '] chars &&
    !Text.occursIn [' ', '#'] chars && chars.getLast? ≠ some ':' && chars.getLast? ≠ some ' '

def quoted (s : String) : String :=
  .ofList ('\'' :: s.toList.flatMap (fun c => if c = '\'' then ['\'', '\''] else [c]) ++ ['\''])

/-- The text of what fits on the line of its name. -/
def inline? : Json → Option String
  | .string s =>
    if '\n' ∈ s.toList then none else some (if isPlain s then s else quoted s)
  | .array [] => some "[]"
  | .array _ => none
  | .object [] => some "\x7b\x7d"
  | .object _ => none
  | j => some j.print

/-- A line further in, unless it is empty. -/
def indent (line : String) : String := if line.isEmpty then line else "  " ++ line

/-- The lines of an item, the first one marked. -/
def mark : List String → List String
  | [] => []
  | line :: rest => ("- " ++ line) :: rest.map indent

/-- A field: its name, and its value on the same line or under it. -/
def field (name : String) (value : Json) (lines : List String) : List String :=
  match inline? value with
  | some s => [name ++ ": " ++ s]
  | none =>
    match value with
    | .array _ => (name ++ ":") :: lines
    | .string _ => (name ++ ": |-") :: lines.map indent
    | _ => (name ++ ":") :: lines.map indent

mutual

def lines : Json → List String
  | .array (j :: rest) => itemLines (j :: rest)
  | .object (f :: rest) => fieldLines (f :: rest)
  | .string s => if '\n' ∈ s.toList then s.splitOn "\n" else (inline? (.string s)).toList
  | j => (inline? j).toList

def itemLines : List Json → List String
  | [] => []
  | j :: rest => mark (lines j) ++ itemLines rest

def fieldLines : List (String × Json) → List String
  | [] => []
  | (name, j) :: rest => field name j (lines j) ++ fieldLines rest

end

/-- A document. -/
def print (j : Json) : String := String.join ((lines j).map fun line => line ++ "\n")

/-- Documents one after the other. -/
def printAll (documents : List Json) : String := Text.join "---\n" (documents.map print)

end CachePartition.Yaml
