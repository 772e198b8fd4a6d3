import CachePartition.Proofs.Anonymity
import CachePartition.Proofs.Traces

/-! Which calls a pass can make at all. A pass made of parts makes the calls of its parts, and of a later
part only those that the answers to the earlier ones can lead to. -/
namespace CachePartition

/-- Calls to daemons, and questions that change nothing in the cluster. -/
def Call.reconciles : Call → Bool
  | .daemon _ => true
  | .cluster c => c.isQuery
  | _ => false

namespace Pass

variable {α β ε σ : Type} {P Q : Call → Prop}

/-- Whatever is answered, the pass makes only calls of this kind. -/
def Makes (P : Call → Prop) : Pass α → Prop
  | .done _ => True
  | .call c next => P c ∧ ∀ a, (next a).Makes P

namespace Makes

theorem of_yields {p : Pass α} {t : List Exchange} {a : α} (h : p.Makes P) (y : p.Yields t a) :
    ∀ x ∈ t, P x.call := by
  induction y with
  | done => exact fun x hx => absurd hx List.not_mem_nil
  | call answer _ ih =>
    intro x hx
    rcases List.mem_cons.mp hx with rfl | hx
    · exact h.1
    · exact ih (h.2 answer) x hx

theorem imp {p : Pass α} (h : p.Makes P) (weaker : ∀ c, P c → Q c) : p.Makes Q := by
  induction p with
  | done => trivial
  | call c next ih => exact ⟨weaker c h.1, fun a => ih a (h.2 a)⟩

theorem perform {c : Call} (h : P c) : (perform c).Makes P := ⟨h, fun _ => trivial⟩

theorem bind {p : Pass α} {f : α → Pass β} (hp : p.Makes P)
    (hf : ∀ t a, p.Yields t a → (f a).Makes P) : (p.bind f).Makes P := by
  induction p with
  | done a => exact hf [] a (.done a)
  | call c next ih =>
    exact ⟨hp.1, fun a => ih a (hp.2 a) fun t b y => hf _ b (.call a y)⟩

theorem attemptBind {x : Attempt ε α} {f : α → Attempt ε β} (hx : x.run.Makes P)
    (hf : ∀ t a, x.run.Yields t (.ok a) → (f a).run.Makes P) : (x >>= f).run.Makes P := by
  refine bind hx fun t r y => ?_
  cases r with
  | ok a => exact hf t a y
  | error e => trivial

theorem orReport {δ : Type} {p : Pass (Except δ α)} {report : δ → Report ε} (hp : p.Makes P) :
    (orReport p report).run.Makes P :=
  bind hp fun _ _ _ => trivial

theorem lift {p : Pass α} (hp : p.Makes P) : (ExceptT.lift p : Attempt ε α).run.Makes P :=
  bind hp fun _ _ _ => trivial

theorem mapM {f : α → Pass β} {l : List α} (hf : ∀ a ∈ l, (f a).Makes P) : (l.mapM f).Makes P := by
  induction l with
  | nil => trivial
  | cons a l ih =>
    rw [List.mapM_cons]
    refine bind (hf a List.mem_cons_self) fun _ _ _ => bind ?_ fun _ _ _ => trivial
    exact ih fun b hb => hf b (List.mem_cons_of_mem _ hb)

theorem attemptMapM {f : α → Attempt ε β} {l : List α} (hf : ∀ a ∈ l, (f a).run.Makes P) :
    (l.mapM f).run.Makes P := by
  induction l with
  | nil => rw [List.mapM_nil]; trivial
  | cons a l ih =>
    rw [List.mapM_cons]
    refine attemptBind (hf a List.mem_cons_self) fun _ _ _ => attemptBind ?_ fun _ _ _ => trivial
    exact ih fun b hb => hf b (List.mem_cons_of_mem _ hb)

theorem forM {f : α → Pass Unit} {l : List α} (hf : ∀ a ∈ l, (f a).Makes P) :
    (l.forM f).Makes P := by
  induction l with
  | nil => trivial
  | cons a l ih =>
    rw [List.forM]
    exact bind (hf a List.mem_cons_self) fun _ _ _ => ih fun b hb => hf b (List.mem_cons_of_mem _ hb)

theorem attemptForM {f : α → Attempt ε Unit} {l : List α} (hf : ∀ a ∈ l, (f a).run.Makes P) :
    (l.forM f).run.Makes P := by
  induction l with
  | nil => trivial
  | cons a l ih =>
    rw [List.forM]
    refine attemptBind (hf a List.mem_cons_self) fun _ _ _ => ?_
    exact ih fun b hb => hf b (List.mem_cons_of_mem _ hb)

/-- A pass that is alike to another asks and calls daemons, no more. -/
theorem of_alike {u : String} {R : α → β → Prop} {p : Pass α} {q : Pass β} (h : Alike u R p q) :
    p.Makes (·.reconciles = true) := by
  induction h with
  | done => trivial
  | ask c query _ ih => exact ⟨query, ih⟩
  | list address _ _ failed listed =>
    refine ⟨rfl, fun r => ?_⟩
    rcases r with e | l
    · exact failed e
    · exact listed l l rfl
  | create _ _ _ ih => exact ⟨rfl, ih⟩
  | update _ _ _ _ _ ih => exact ⟨rfl, ih⟩
  | delete _ _ _ _ ih => exact ⟨rfl, ih⟩

end Makes

namespace Yields

variable {t : List Exchange}

/-- The trace of a loop that gathers what its rounds give, round by round. -/
theorem of_mapM {f : α → Pass β} {l : List α} {bs : List β} (h : (l.mapM f).Yields t bs) :
    ∃ rounds : List (List Exchange × β), t = (rounds.map (·.1)).flatten ∧ bs = rounds.map (·.2) ∧
      List.Forall₂ (fun a round => (f a).Yields round.1 round.2) l rounds := by
  induction l generalizing t bs with
  | nil =>
    obtain ⟨rfl, rfl⟩ := h.of_done
    exact ⟨[], rfl, rfl, .nil⟩
  | cons a l ih =>
    rw [List.mapM_cons] at h
    obtain ⟨b, t₁, t₂, first, others, rfl⟩ := h.of_bind
    obtain ⟨bs', t₃, t₄, rest, last, rfl⟩ := others.of_bind
    obtain ⟨rfl, rfl⟩ := last.of_done
    obtain ⟨rounds, rfl, rfl, each⟩ := ih rest
    exact ⟨(t₁, b) :: rounds, by simp, rfl, .cons first each⟩

/-- Each round is one of an element of the list. -/
theorem round_mem {γ : Type} {R : α → γ → Prop} {l : List α} {rounds : List γ}
    (h : List.Forall₂ R l rounds) : ∀ r ∈ rounds, ∃ a ∈ l, R a r := by
  induction h with
  | nil => exact fun r hr => absurd hr List.not_mem_nil
  | cons here _ ih =>
    intro r hr
    rcases List.mem_cons.mp hr with rfl | hr
    · exact ⟨_, List.mem_cons_self, here⟩
    · obtain ⟨a, mem, there⟩ := ih r hr
      exact ⟨a, List.mem_cons_of_mem _ mem, there⟩

/-- A loop that does not fail gathers what its rounds give. -/
theorem of_attemptMapM {f : α → Attempt ε β} {l : List α} {bs : List β}
    (h : (l.mapM f).run.Yields t (.ok bs)) :
    ∃ rounds : List (List Exchange × β), t = (rounds.map (·.1)).flatten ∧ bs = rounds.map (·.2) ∧
      List.Forall₂ (fun a round => (f a).run.Yields round.1 (.ok round.2)) l rounds := by
  induction l generalizing t bs with
  | nil =>
    rw [List.mapM_nil] at h
    obtain ⟨rfl, heq⟩ := h.of_done
    obtain rfl := Except.ok.inj heq
    exact ⟨[], rfl, rfl, .nil⟩
  | cons a l ih =>
    rw [List.mapM_cons] at h
    rcases h.of_attemptBind with ⟨e, -, heq⟩ | ⟨b, t₁, t₂, first, others, rfl⟩
    · cases heq
    rcases others.of_attemptBind with ⟨e, -, heq⟩ | ⟨bs', t₃, t₄, rest, last, rfl⟩
    · cases heq
    obtain ⟨rfl, heq⟩ := last.of_done
    obtain rfl := Except.ok.inj heq
    obtain ⟨rounds, rfl, rfl, each⟩ := ih rest
    exact ⟨(t₁, b) :: rounds, by simp, rfl, .cons first each⟩

end Yields

end Pass

theorem makes_sync (scheme : Scheme) (w : Workload) :
    (sync scheme w).run.Makes (·.reconciles = true) :=
  .of_alike (alike_sync scheme w)

end CachePartition
