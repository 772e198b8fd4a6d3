import CachePartition.Call

/-! Passes: programs that make calls one after the other and go on with the answers. What answers is
left open, so a pass can be run against a world, against recorded answers or against an adversary. -/
namespace CachePartition

inductive Pass (α : Type) where
  | done (value : α)
  | call (c : Call) (next : c.Answer → Pass α)

namespace Pass

variable {α β γ : Type}

def bind : Pass α → (α → Pass β) → Pass β
  | .done a, f => f a
  | .call c next, f => .call c fun a => (next a).bind f

instance : Monad Pass where
  pure := .done
  bind := bind

/-- The pass of a single call. -/
def perform (c : Call) : Pass c.Answer := .call c .done

@[simp] theorem pure_eq (a : α) : (pure a : Pass α) = .done a := rfl

@[simp] theorem bind_eq (p : Pass α) (f : α → Pass β) : p >>= f = p.bind f := rfl

@[simp] theorem done_bind (a : α) (f : α → Pass β) : (done a).bind f = f a := rfl

@[simp] theorem call_bind (c : Call) (next : c.Answer → Pass α) (f : α → Pass β) :
    (call c next).bind f = .call c fun a => (next a).bind f := rfl

@[simp] theorem bind_done (p : Pass α) : p.bind .done = p := by
  induction p with
  | done a => rfl
  | call c next ih => simp only [call_bind]; exact congrArg _ (funext ih)

theorem bind_assoc (p : Pass α) (f : α → Pass β) (g : β → Pass γ) :
    (p.bind f).bind g = p.bind fun a => (f a).bind g := by
  induction p with
  | done a => rfl
  | call c next ih => simp only [call_bind]; exact congrArg _ (funext ih)

instance : LawfulMonad Pass := .mk' Pass bind_done (fun _ _ => rfl) bind_assoc

/-- A call with the answer it got. -/
structure Exchange where
  call : Call
  answer : call.Answer

/-- What answers calls, changing its state as it does. -/
abbrev Surroundings (σ : Type) := σ → (c : Call) → c.Answer × σ

/-- The result of a run, the state it leaves and the calls it made, in order. -/
structure Outcome (σ α : Type) where
  value : α
  state : σ
  trace : List Exchange

def run {σ : Type} (answer : Surroundings σ) : Pass α → σ → Outcome σ α
  | .done a, s => ⟨a, s, []⟩
  | .call c next, s =>
    let r := answer s c
    let rest := (next r.1).run answer r.2
    { rest with trace := ⟨c, r.1⟩ :: rest.trace }

section Run

variable {σ : Type} {answer : Surroundings σ}

@[simp] theorem run_done (a : α) (s : σ) : (done a).run answer s = ⟨a, s, []⟩ := rfl

theorem run_bind (p : Pass α) (f : α → Pass β) (s : σ) :
    (p.bind f).run answer s =
      let first := p.run answer s
      let second := (f first.value).run answer first.state
      ⟨second.value, second.state, first.trace ++ second.trace⟩ := by
  induction p generalizing s with
  | done a => rfl
  | call c next ih => simp [run, ih]

end Run

/-- A pass that may fail with a report. -/
abbrev Attempt (ε α : Type) := ExceptT (Report ε) Pass α

/-- A pass with an answer that may be an error, the error becoming a report. -/
def orReport {δ ε : Type} (p : Pass (Except δ α)) (report : δ → Report ε) : Attempt ε α :=
  ExceptT.mk (p.bind fun r => .done (r.mapError report))

def fail {ε : Type} (report : Report ε) : Attempt ε α := throw report

end Pass

end CachePartition
