import CachePartition.Tls.Base64
import CachePartition.Tls.Library

/-! Files of certificates and keys: sections of Base64 between a line that opens them under a label and
one that closes them. Lines outside sections mean nothing. -/
namespace CachePartition

/-- What a section holds. -/
inductive PemKind where
  | certificate
  | privateKey
  | rsaPrivateKey
  | ecPrivateKey
  /-- Something that is known and of no use here. -/
  | other
  deriving DecidableEq, Repr

structure PemSection where
  kind : PemKind
  content : List UInt8
  deriving DecidableEq, Repr

/-- The private key in a section. -/
def PemSection.privateKey? (s : PemSection) : Option PrivateKey :=
  match s.kind with
  | .privateKey => some ⟨.wrapped, s.content⟩
  | .rsaPrivateKey => some ⟨.rsa, s.content⟩
  | .ecPrivateKey => some ⟨.ec, s.content⟩
  | _ => none

/-- The sections up to the end, or up to the first fault. -/
structure PemFile where
  sections : List PemSection := []
  isWhole : Bool
  deriving DecidableEq, Repr

namespace Pem

def ascii (s : String) : List UInt8 := s.toUTF8.data.toList

def dash : UInt8 := 0x2d

def opening : List UInt8 := ascii "-----BEGIN "

/-- The start of the line that closes a section. -/
def closing (label : List UInt8) : List UInt8 := ascii "-----END " ++ label ++ ascii "-----"

/-- The kinds by label. Sections of all other labels are skipped. -/
def kinds : List (String × PemKind) :=
  [("CERTIFICATE", .certificate), ("PRIVATE KEY", .privateKey),
    ("RSA PRIVATE KEY", .rsaPrivateKey), ("EC PRIVATE KEY", .ecPrivateKey),
    ("PUBLIC KEY", .other), ("X509 CRL", .other), ("CERTIFICATE REQUEST", .other),
    ("ECHCONFIG", .other)]

def kind? (label : List UInt8) : Option PemKind :=
  (kinds.find? fun e => ascii e.1 = label).map (·.2)

/-- The lines of a file. A carriage return ends one too. -/
def lines (s : List UInt8) : List (List UInt8) := s.splitOnP fun b => b = 0x0a || b = 0x0d

/-- The label of a line that opens a section: five dashes follow it, and nothing but blanks may come
between and after those. -/
def label? (line : List UInt8) : Option (List UInt8) :=
  let isTail (b : UInt8) : Bool := b = dash || b = 0x20
  let tail := (line.reverse.takeWhile isTail).reverse
  if tail.count dash = 5 then
    some (((line.reverse.dropWhile isTail).reverse ++ tail.takeWhile (· = 0x20)).drop
      opening.length)
  else none

/-- The sections of the lines that follow a section's opening, if one is open, and its text so far. A
line that opens a section in another keeps the text. -/
def readLines : Option (List UInt8) → List UInt8 → List (List UInt8) → PemFile
  | label, _, [] => { isWhole := label.isNone }
  | label, text, line :: rest =>
    if opening.isPrefixOf line then
      match label? line with
      | some l => readLines (some l) text rest
      | none => { isWhole := false }
    else
      match label with
      | none => readLines none text rest
      | some l =>
        if (closing l).isPrefixOf line then
          match kind? l with
          | none => readLines none [] rest
          | some kind =>
            match Base64.decode? text with
            | none => { isWhole := false }
            | some content =>
              let file := readLines none [] rest
              { file with sections := ⟨kind, content⟩ :: file.sections }
        else readLines label (text ++ line) rest

def read (s : List UInt8) : PemFile := readLines none [] (lines s)

end Pem

namespace PemFile

/-- The certificates in order, and none in place of the first fault. -/
def certificates (f : PemFile) : List (Option (List UInt8)) :=
  let whole := (f.sections.filter fun s => s.kind = .certificate).map fun s => some s.content
  if f.isWhole then whole else whole ++ [none]

/-- The first private key. What comes after it may be broken. -/
def key? (f : PemFile) : Option PrivateKey := f.sections.findSome? PemSection.privateKey?

end PemFile

end CachePartition
