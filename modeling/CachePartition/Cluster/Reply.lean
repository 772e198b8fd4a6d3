import CachePartition.Cluster.Dialogue
import CachePartition.Json.Reader
import CachePartition.Kubernetes.Pod

/-! What replies of the cluster's server mean. -/
namespace CachePartition

open Json

/-- A reply that is no success: the code and the reason its body gives, or the status code alone. -/
structure ApiFailure where
  code : Nat
  reason : Option String
  deriving DecidableEq, Repr

namespace ApiFailure

def ofJson? (j : Json) : Option ApiFailure := do
  let field ← j.record? ["status", "message", "reason", "code"]
  let _ ← required (field "status") text?
  let _ ← orElse (field "message") text? ""
  let reason ← orElse (field "reason") text? ""
  let code ← required (field "code") (natBelow? 65536)
  some ⟨code, some reason⟩

/-- Whether the body says that there is no such object. -/
def isNotFound (f : ApiFailure) : Bool := f.reason = some "NotFound"

end ApiFailure

/-- Why a reply gives no value. -/
inductive ReplyError where
  | failed (f : ApiFailure)
  | undecodable
  deriving DecidableEq, Repr

namespace ApiReply

/-- The text of a success. -/
def success (r : ApiReply) : Except ReplyError String :=
  if 400 ≤ r.status ∧ r.status < 600 then
    .error (.failed (((read? r.body).bind ApiFailure.ofJson?).getD ⟨r.status, none⟩))
  else .ok r.body

/-- The value of a success. -/
def decode {α : Type} (ofJson? : Json → Option α) (r : ApiReply) : Except ReplyError α :=
  r.success.bind fun text => ((read? text).bind ofJson?).elim (.error .undecodable) .ok

end ApiReply

/-- The items of a list of objects. -/
def listItems? {α : Type} (ofJson? : Json → Option α) : Json → Option (List α)
  | .object fields => do
    let field ← (Json.object fields).record? ["metadata", "items"]
    let _ ← required (field "metadata") fun j => do
      let values ← j.members?
      let _ ← lastOf (values "continue") text?
      let _ ← lastOf (values "remainingItemCount") int64?
      let _ ← lastOf (values "resourceVersion") text?
      lastOf (values "selfLink") text?
    required (field "items") (list? ofJson?)
  | _ => none

/-- Why an operation had its outcome. -/
def isStatusCause (j : Json) : Bool :=
  match j.record? ["reason", "message", "field"] with
  | some field => ["reason", "message", "field"].all fun n => (orElse (field n) text? "").isSome
  | none => false

/-- The object that an operation was about. -/
def isStatusDetails (j : Json) : Bool :=
  match j.record? ["name", "group", "kind", "uid", "causes", "retryAfterSeconds"] with
  | some field =>
    (["name", "group", "kind", "uid"].all fun n => (orElse (field n) text? "").isSome) &&
      (field "causes").all (fun j => (j.list? fun c => if isStatusCause c then some () else none).isSome) &&
      (field "retryAfterSeconds").all fun j => j.uint32?.isSome
  | none => false

def isSummary (j : Json) : Bool :=
  match j with
  | .null => true
  | .string s => s = "Success" || s = "Failure"
  | _ => false

/-- Whether a value tells the outcome of an operation. -/
def isStatus (j : Json) : Bool :=
  match j.record? ["status", "code", "message", "reason", "details"] with
  | some field =>
    (field "status").all isSummary &&
      (field "code").all (fun j => (j.natBelow? 65536).isSome) &&
      (["message", "reason"].all fun n => (orElse (field n) text? "").isSome) &&
      (field "details").all fun j => j matches .null || isStatusDetails j
  | none => false

/-- The kind that an object names. -/
def namedKind? (j : Json) : Option String :=
  j.members?.bind fun values => (values "kind").getLast?.bind text?

/-- What deletion answers: the outcome, or the object on its way out. -/
def deleted? (j : Json) : Option Unit :=
  if namedKind? j = some "Status" then if isStatus j then some () else none
  else (Pod.ofJson? j).map fun _ => ()

end CachePartition
