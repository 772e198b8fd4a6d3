import CachePartition.Url.Host

/-! Reading URLs. Blanks around the text and line breaks within it do not count, dot segments are
resolved, and the fragment is dropped. -/
namespace CachePartition.Url

open Text

/-- How a scheme's URLs are read. -/
inductive SchemeKind where
  | file
  | special
  | other
  deriving DecidableEq, Repr

def kindOf (scheme : String) : SchemeKind :=
  if scheme = "file" then .file
  else if (defaultPort? scheme).isSome then .special
  else .other

def isControlOrSpace (c : Char) : Bool := c.toNat ≤ 0x20

/-- The text as it counts. -/
def clean (s : List Char) : List Char :=
  let s := ((s.dropWhile isControlOrSpace).reverse.dropWhile isControlOrSpace).reverse
  s.filter fun c => c ≠ '\t' ∧ c ≠ '\n' ∧ c ≠ '\r'

def isAsciiLetter (c : Char) : Bool := ('a' ≤ c && c ≤ 'z') || ('A' ≤ c && c ≤ 'Z')

def isSchemeChar (c : Char) : Bool :=
  isAsciiLetter c || isDigit c || c = '+' || c = '-' || c = '.'

/-- The scheme, in small letters, and what follows its colon. -/
def readScheme? (s : List Char) : Option (String × List Char) :=
  let name := s.takeWhile isSchemeChar
  match s.dropWhile isSchemeChar with
  | ':' :: rest =>
    if name.head?.any isAsciiLetter then some (String.ofList (name.map Char.toLower), rest)
    else none
  | _ => none

def isSlash (k : SchemeKind) (c : Char) : Bool := c = '/' || (c = '\\' && k ≠ .other)

/-- Whether a character ends the part that names the host. -/
def endsAuthority (k : SchemeKind) (c : Char) : Bool := isSlash k c || c = '?' || c = '#'

/-- What stands after the last `@`, and whether there is one. -/
def afterLogin (s : List Char) : List Char × Bool :=
  ((s.reverse.takeWhile (· ≠ '@')).reverse, '@' ∈ s)

/-- Cuts before the first colon that is not in brackets. -/
def splitPort : Bool → List Char → List Char × List Char
  | _, [] => ([], [])
  | bracketed, c :: rest =>
    if c = ':' ∧ !bracketed then ([], c :: rest)
    else
      let r := splitPort (if c = '[' then true else if c = ']' then false else bracketed) rest
      (c :: r.1, r.2)

/-- A port of sixteen bits after its colon; no digits are no port. -/
def readPort? : List Char → Option (Option Nat)
  | [] => some none
  | [_] => some none
  | _ :: digits =>
    if digits.all isDigit then
      let n := digits.foldl (fun n c => n * 10 + (c.toNat - '0'.toNat)) 0
      if n < 65536 then some (some n) else none
    else none

def isDot (s : List Char) : Bool := s.map Char.toLower ∈ [['.'], ['%', '2', 'e']]

def isDoubleDot (s : List Char) : Bool :=
  s.map Char.toLower ∈ [['.', '.'], ['.', '%', '2', 'e'], ['%', '2', 'e', '.'],
    ['%', '2', 'e', '%', '2', 'e']]

/-- Adds a segment to those before it, which are in reverse order. The last one stays as a trailing
slash if it is a dot segment. -/
def pushSegment (done : List (List Char)) (segment : List Char) (isLast : Bool) :
    List (List Char) :=
  if isDoubleDot segment then if isLast then [] :: done.drop 1 else done.drop 1
  else if isDot segment then if isLast then [] :: done else done
  else segment :: done

def resolveSegments (done : List (List Char)) : List (List Char) → List (List Char)
  | [] => done.reverse
  | [s] => (pushSegment done s true).reverse
  | s :: rest => resolveSegments (pushSegment done s false) rest

/-- Cuts a path at its slashes. -/
def segments (k : SchemeKind) (s : List Char) : List (List Char) :=
  splitAt '/' (s.map fun c => if isSlash k c then '/' else c)

/-- The path after the host. -/
def readPath (k : SchemeKind) (s : List Char) : List Char :=
  match s with
  | [] => if k = .other then [] else ['/']
  | c :: rest =>
    let parts := segments k (if isSlash k c then rest else c :: rest)
    (resolveSegments [] parts).flatMap fun p => '/' :: encode pathReserved p

/-- The path and the query in front of a fragment. -/
def readTail (k : SchemeKind) (s : List Char) : List Char × Option (List Char) :=
  let s := s.takeWhile (· ≠ '#')
  let path := readPath k (s.takeWhile (· ≠ '?'))
  match s.dropWhile (· ≠ '?') with
  | [] => (path, none)
  | _ :: query =>
    (path, some (encode (fun c => queryReserved c && (c ≠ '\'' || k ≠ .other)) query))

/-- A URL with a part that names the host. -/
def readAuthority? (scheme : String) (k : SchemeKind) (s : List Char) : Option Url := do
  let login := afterLogin (s.takeWhile fun c => !endsAuthority k c)
  let parts := splitPort false login.1
  let host ← if k = .other then readOpaqueHost? parts.1 else readHost? parts.1
  if host = .opaqueText "" ∧ (login.2 ∨ !parts.2.isEmpty) then none
  else
    let port ← readPort? parts.2
    let tail := readTail k (s.dropWhile fun c => !endsAuthority k c)
    some {
      scheme
      host := if host = .opaqueText "" then none else some host
      port := port.filter fun p => defaultPort? scheme ≠ some p
      path := tail.1
      query := tail.2 }

/-- A URL without a host. -/
def hostless (scheme : String) (k : SchemeKind) (s : List Char) : Url :=
  let tail := readTail k s
  ⟨scheme, none, none, tail.1, tail.2⟩

def isDriveLetter (s : List Char) : Bool :=
  match s with
  | [c, d] => isAsciiLetter c && (d = ':' || d = '|')
  | _ => false

/-- A URL of a file. A drive is no host, and neither is this machine. -/
def readFile? (s : List Char) : Option Url :=
  match s with
  | a :: b :: rest =>
    if isSlash .file a ∧ isSlash .file b then
      let name := rest.takeWhile fun c => !endsAuthority .file c
      let tail := rest.dropWhile fun c => !endsAuthority .file c
      if name.isEmpty ∨ isDriveLetter name then some (hostless "file" .file rest)
      else
        (readHost? name).map fun host =>
          let first := (tail.drop 1).takeWhile fun c => !endsAuthority .file c
          let u := hostless "file" .file tail
          if host = .domain "localhost" ∨ isDriveLetter first then u
          else { u with host := some host }
    else some (hostless "file" .file s)
  | s => some (hostless "file" .file s)

/-- The URL of a text. -/
def read? (text : String) : Option Url := do
  let (scheme, s) ← readScheme? (clean text.toList)
  match kindOf scheme with
  | .file => readFile? s
  | .special => readAuthority? scheme .special (s.dropWhile (isSlash .special))
  | .other =>
    match s with
    | '/' :: '/' :: rest => readAuthority? scheme .other rest
    | s => some (hostless scheme .other s)

end CachePartition.Url
