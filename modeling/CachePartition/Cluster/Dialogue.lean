import CachePartition.Json.Value

/-! Dialogues with the server of the cluster: requests, each with the reply that decides how to go
on. -/
namespace CachePartition

structure ApiRequest where
  method : String
  path : String
  query : String := ""
  contentType : Option String := none
  body : Option Json := none
  deriving Repr

structure ApiReply where
  status : Nat
  body : String
  deriving DecidableEq, Repr

inductive Dialogue (α : Type) where
  | done (value : α)
  | request (r : ApiRequest) (next : ApiReply → Dialogue α)

namespace Dialogue

variable {α β : Type}

def bind : Dialogue α → (α → Dialogue β) → Dialogue β
  | .done a, f => f a
  | .request r next, f => .request r fun reply => (next reply).bind f

instance : Monad Dialogue where
  pure := .done
  bind := bind

/-- The dialogue of a single request. -/
def send (r : ApiRequest) : Dialogue ApiReply := .request r .done

/-- What a server says that has nothing more to say. -/
def silence : ApiReply := ⟨500, ""⟩

/-- The result of a dialogue with a server that gives these replies in turn, and the requests made. -/
def run : Dialogue α → List ApiReply → α × List ApiRequest
  | .done a, _ => (a, [])
  | .request r next, replies =>
    let rest := (next (replies.headD silence)).run replies.tail
    (rest.1, r :: rest.2)

end Dialogue

end CachePartition
