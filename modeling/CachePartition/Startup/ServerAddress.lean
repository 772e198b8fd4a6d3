import CachePartition.Cluster.Path
import CachePartition.Text.Search

/-! The form of the address of the cluster's server. It is an authority, or a path, or a scheme with an
authority and perhaps a path after it. -/
namespace CachePartition.ServerAddress

/-- Marks that an address may hold outside its percent-encoded parts. -/
def isMark (c : Char) : Bool :=
  c ∈ ['!', '#', '$', '&', '\'', '(', ')', '*', '+', ',', '-', '.', '/', ':', ';', '=', '?', '@',
    '[', ']', '_', '~']

def isAddressChar (c : Char) : Bool := c.isAlphanum || isMark c

/-- What an authority holds up to some place. -/
structure AuthorityState where
  colons : Nat := 0
  isOpened : Bool := false
  isClosed : Bool := false
  hasPercent : Bool := false
  /-- Whether an at sign comes last. -/
  endsInAt : Bool := false
  deriving DecidableEq, Repr

/-- One character of an authority. User and password, and the address between brackets, may hold
colons and percent signs. -/
def authorityStep (s : AuthorityState) (c : Char) : Option AuthorityState :=
  let s := { s with endsInAt := false }
  match c with
  | ':' => some { s with colons := s.colons + 1 }
  | '[' => if s.hasPercent || s.isOpened then none else some { s with isOpened := true }
  | ']' =>
    if !s.isOpened || s.isClosed then none
    else some { s with isClosed := true, colons := 0, hasPercent := false }
  | '@' => some { s with colons := 0, hasPercent := false, endsInAt := true }
  | '%' => some { s with hasPercent := true }
  | c => if isAddressChar c then some s else none

def isAuthority (s : List Char) : Bool :=
  match s.foldlM authorityStep {} with
  | some s => s.isOpened = s.isClosed && s.colons ≤ 1 && !s.endsInAt && !s.hasPercent
  | none => false

/-- A path, a query after a question mark, and anything after a number sign. -/
def isPathAndQuery (s : List Char) : Bool :=
  let s := s.takeWhile (· ≠ '#')
  (s.takeWhile (· ≠ '?')).all Api.isPathChar && (s.dropWhile (· ≠ '?')).all Api.isQueryChar

def isSchemeChar (c : Char) : Bool := c.isAlphanum || c ∈ ['+', '-', '.']

/-- What follows the scheme, if there is one. -/
def afterScheme? (s : List Char) : Option (List Char) :=
  match Text.splitOnce? [':', '/', '/'] s with
  | some (scheme, rest) =>
    if scheme.all isSchemeChar && !scheme.isEmpty && scheme.length ≤ 64 then some rest else none
  | none => none

def endsAuthority (c : Char) : Bool := c = '/' || c = '?' || c = '#'

/-- Whether a text is the address of a server. -/
def isAddress (text : String) : Bool :=
  match text.toList with
  | [] => false
  | '/' :: rest => isPathAndQuery ('/' :: rest)
  | ['*'] => true
  | s =>
    match afterScheme? s with
    | some rest =>
      let authority := rest.takeWhile fun c => !endsAuthority c
      !authority.isEmpty && isAuthority authority &&
        isPathAndQuery (rest.dropWhile fun c => !endsAuthority c)
    | none => !s.any endsAuthority && isAuthority s

end CachePartition.ServerAddress
