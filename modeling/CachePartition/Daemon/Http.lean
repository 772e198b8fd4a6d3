import CachePartition.CacheReport.Codec
import CachePartition.Call
import CachePartition.Entry.Codec
import CachePartition.Json.Printer
import CachePartition.Json.Reader
import CachePartition.Text.Blank
import CachePartition.Text.Utf8
import CachePartition.Url.Reader

/-! Daemon calls over HTTP: the request that a call makes, and what an answer to it means. -/
namespace CachePartition

/-- A request as it goes over the wire. -/
structure HttpRequest where
  method : String
  url : Url
  contentType : Option String := none
  body : String := ""
  deriving DecidableEq, Repr

/-- What comes back for a request, redirections followed. -/
inductive HttpReply where
  /-- No answer. -/
  | broken
  /-- An answer that breaks off in its body. -/
  | cutOff (status : Nat) (begun : List UInt8)
  | complete (status : Nat) (body : List UInt8)
  deriving DecidableEq, Repr

namespace DaemonCall

def httpMethod : DaemonCall → String
  | .list _ => "GET"
  | .create _ _ => "POST"
  | .update _ _ _ => "PATCH"
  | .delete _ _ => "DELETE"
  | .cacheReport _ => "GET"

/-- The path below the base address. -/
def path : DaemonCall → String
  | .list _ => "/v1/workloads"
  | .create _ _ => "/v1/workloads"
  | .update _ id _ => "/v1/workloads/" ++ id
  | .delete _ id => "/v1/workloads/" ++ id
  | .cacheReport _ => "/v1/cache/l3"

/-- The entry that a call sends. -/
def body? : DaemonCall → Option Entry
  | .create _ body => some body
  | .update _ _ body => some body
  | _ => none

/-- The request of a call on a daemon at a base address. -/
def requestAt (base : String) (c : DaemonCall) : Except DaemonError HttpRequest :=
  match Url.read? (base ++ c.path) with
  | none => .error .request
  | some url =>
    if url.host.isNone then .error .header
    else
      match c.body? with
      | some e => .ok ⟨c.httpMethod, url, some "application/json", e.toJson.print⟩
      | none => .ok { method := c.httpMethod, url }

end DaemonCall

/-- The error of an answer with a status that is no success. -/
def rejectedBy (status : Nat) (body : String) : DaemonError := .rejected status (Text.trim body)

/-- A listing: a blank body stands for nothing. -/
def readBody {α : Type} (read? : Json → Option α) (blank : α) (status : Nat) (body : String) :
    Except DaemonError α :=
  if status ≠ 200 then .error (rejectedBy status body)
  else if (Text.trimBlanks body.toList).isEmpty then .ok blank
  else
    match (Json.read? body).bind read? with
    | some a => .ok a
    | none => .error .decode

/-- The summary of a change that was accepted. -/
def acceptIf (accepted : List Nat) (status : Nat) (body : String) : Except DaemonError String :=
  if status ∈ accepted then .ok ("Success: " ++ Text.decimal status)
  else .error (rejectedBy status body)

namespace DaemonCall

/-- The answer to a call that a complete reply gives. -/
def ofReply (c : DaemonCall) (status : Nat) (body : String) : c.Answer :=
  match c with
  | .list _ => readBody (Json.list? Entry.ofJson?) [] status body
  | .create _ _ => acceptIf [200, 201] status body
  | .update _ _ _ => acceptIf [200] status body
  | .delete _ _ => (acceptIf [200] status body).map fun _ => ()
  | .cacheReport _ => readBody CacheReport.ofJson? {} status body

/-- Makes a call on a daemon whose base address reads `base`, over a network. -/
def overHttp (network : HttpRequest → HttpReply) (base : String) (c : DaemonCall) : c.Answer :=
  match c.requestAt base with
  | .error e => c.failed e
  | .ok request =>
    match network request with
    | .broken => c.failed (.transport c.address)
    | .cutOff _ _ => c.failed (.transport c.address)
    | .complete status body => c.ofReply status (Text.ofUtf8Lossy body)

end DaemonCall

end CachePartition
