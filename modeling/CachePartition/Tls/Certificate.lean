import CachePartition.Kubernetes.Timestamp
import CachePartition.Tls.Der

/-! Reads certificates, as far as it takes to find the certified key and to tell whether they can be used: what is
certified, under which version, and the demands on whoever uses it. -/
namespace CachePartition

structure CertificateExtension where
  id : List UInt8
  isCritical : Bool
  value : List UInt8
  deriving DecidableEq, Repr

structure Certificate where
  /-- The version, if it is given. -/
  version : Option (List UInt8)
  /-- The algorithm of the signature, as the signed part names it and as the signature does. -/
  algorithms : List UInt8 × List UInt8
  /-- The content of the element that holds the certified key. -/
  publicKey : List UInt8
  /-- Identifiers that hardly any certificate has, and no trusted one may have. -/
  hasUniqueIds : Bool
  extensions : List CertificateExtension
  deriving DecidableEq, Repr

namespace CertificateExtension

def ofDer? (e : Der) : Option CertificateExtension := do
  match ← e.inside? Der.sequence with
  | [id, value] =>
    if id.tag = Der.objectId && value.tag = Der.octetString then
      some ⟨id.content, false, value.content⟩
    else none
  | [id, critical, value] =>
    if id.tag = Der.objectId && critical.tag = Der.boolean && value.tag = Der.octetString then
      match critical.content with
      | [0xff] => some ⟨id.content, true, value.content⟩
      | [0x00] => some ⟨id.content, false, value.content⟩
      | _ => none
    else none
  | _ => none

/-- The extensions that are understood, by the last number of their ids: uses of the key, names,
bounds and the like. -/
def knownIds : List UInt8 := [15, 17, 19, 30, 31, 37]

/-- The number of an extension that is understood. -/
def known? (x : CertificateExtension) : Option UInt8 :=
  match x.id with
  | [0x55, 0x1d, n] => if n ∈ knownIds then some n else none
  | _ => none

/-- Whether the extension does not keep the certificate from being used. All that are understood,
except the uses of the key, are rows of elements. -/
def isUsable (x : CertificateExtension) : Bool :=
  match x.known? with
  | some 15 => true
  | some _ => (Der.only? Der.sequence x.value).isSome
  | none => !x.isCritical

end CertificateExtension

namespace Certificate

/-- The version, and the elements after it. -/
def splitVersion? : List Der → Option (Option (List UInt8) × List Der)
  | e :: rest =>
    if e.tag = Der.context 0 then
      (Der.only? Der.integer e.content).map fun v => (some v, rest)
    else some (none, e :: rest)
  | [] => none

/-- The extensions among the elements at the end of the signed part. -/
def extensionsOf? (rest : List Der) : Option (List CertificateExtension) :=
  match rest.find? fun e => e.tag = Der.context 3 with
  | some e => do (← Der.row? (← Der.only? Der.sequence e.content)).mapM CertificateExtension.ofDer?
  | none => some []

/-- The number that two digits stand for. -/
def pair? (a b : UInt8) : Option Nat :=
  let digit? (c : UInt8) : Option Nat := if 0x30 ≤ c && c ≤ 0x39 then some (c.toNat - 0x30) else none
  do some (10 * (← digit? a) + (← digit? b))

/-- The numbers of pairs of digits before the letter of universal time. -/
def pairs? : List UInt8 → Option (List Nat)
  | [0x5a] => some []
  | a :: b :: rest => do some ((← pair? a b) :: (← pairs? rest))
  | _ => none

/-- A date and a time of day to the second. A year of two digits is one from 1950 to 2049. -/
def instant? (e : Der) : Option Timestamp := do
  let ofYear (year : Nat) : List Nat → Option Timestamp
    | [month, day, hour, minute, second] => some ⟨year, month, day, hour, minute, second⟩
    | _ => none
  let t ← match e.tag, ← pairs? e.content with
    | 0x17, year :: rest => ofYear (if year < 50 then 2000 + year else 1900 + year) rest
    | 0x18, century :: year :: rest => ofYear (100 * century + year) rest
    | _, _ => none
  if t.isValid && t.second < 60 then some t else none

/-- Whether an element is a span of time, from one instant to another. -/
def isValidity (e : Der) : Bool :=
  match e.inside? Der.sequence with
  | some [a, b] => (instant? a).isSome && (instant? b).isSome
  | _ => false

/-- The id of an algorithm, which may have parameters. -/
def algorithmId? (e : Der) : Option (List UInt8) := do
  match ← e.inside? Der.sequence with
  | [id] | [id, _] => if id.tag = Der.objectId && !id.content.isEmpty then some id.content else none
  | _ => none

/-- Whether an element is part of a name: values under the ids of what they tell. -/
def isNamePart (e : Der) : Bool :=
  let isAttribute (a : Der) : Bool :=
    match a.inside? Der.sequence with
    | some [id, _] => id.tag = Der.objectId && !id.content.isEmpty
    | _ => false
  match e.inside? Der.set with
  | some attributes => !attributes.isEmpty && attributes.all isAttribute
  | none => false

/-- Whether an element is a name, which may be empty. -/
def isName (e : Der) : Bool := (e.inside? Der.sequence).any fun parts => parts.all isNamePart

/-- A certificate from its signed part and the algorithm of its signature. -/
def ofSigned? (signed algorithm : Der) : Option Certificate := do
  let (version, fields) ← splitVersion? (← signed.inside? Der.sequence)
  match fields with
  | serial :: inner :: issuer :: validity :: subject :: key :: rest =>
    if serial.tag = Der.integer && (algorithmId? inner).isSome && (algorithmId? algorithm).isSome &&
        isName issuer && isValidity validity && isName subject && key.tag = Der.sequence then
      some {
        version
        algorithms := (inner.content, algorithm.content)
        publicKey := key.content
        hasUniqueIds := rest.any fun e => e.tag ≠ Der.context 3
        extensions := ← extensionsOf? rest }
    else none
  | _ => none

/-- The first certificate and what follows it. -/
def read? (s : List UInt8) : Option (Certificate × List UInt8) := do
  let (whole, rest) ← Der.read? s
  match ← whole.inside? Der.sequence with
  | [signed, algorithm, signature] =>
    if signature.bitsOf?.isSome then some (← ofSigned? signed algorithm, rest) else none
  | _ => none

/-- The content of the version that has extensions. -/
def version3 : List UInt8 := [2]

/-- Whether the certificate may be used on either side of a connection. -/
def isUsable (c : Certificate) : Bool :=
  c.version = some version3 && c.algorithms.1 = c.algorithms.2 && !c.hasUniqueIds &&
    c.extensions.all CertificateExtension.isUsable &&
    decide (c.extensions.filterMap CertificateExtension.known?).Nodup

/-- Whether the certificate is of the first version, which can still be trusted as such. -/
def isPlain (c : Certificate) : Bool :=
  c.version.isNone && !c.hasUniqueIds && c.extensions.isEmpty

/-- The certificate that stands alone in a text. -/
def readOnly? (s : List UInt8) : Option Certificate :=
  match read? s with
  | some (c, []) => some c
  | _ => none

/-- Whether a text is a certificate that others can be checked against. -/
def isAnchor (s : List UInt8) : Bool := (readOnly? s).any fun c => c.isUsable || c.isPlain

/-- The key that a usable certificate certifies. -/
def usableKey? (s : List UInt8) : Option (List UInt8) :=
  ((readOnly? s).filter isUsable).map (·.publicKey)

end Certificate

end CachePartition
