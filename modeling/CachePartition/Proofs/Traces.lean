import CachePartition.Proofs.Discipline
import Mathlib.Data.List.Forall2
import Mathlib.Data.List.Induction

/-! What the trace of a pass can be, when nothing is known of what answers it: the trace of a pass made of
parts is made of their traces, and in the trace of a careful pass each write follows the listing that
calls for it. -/
namespace CachePartition.Pass

variable {α β ε σ : Type} {u : String}

/-- The pass can end with this trace and value if the right answers come. -/
inductive Yields : Pass α → List Exchange → α → Prop where
  | done (a : α) : Yields (.done a) [] a
  | call {c : Call} {next : c.Answer → Pass α} {t : List Exchange} {a : α} (answer : c.Answer) :
      Yields (next answer) t a → Yields (.call c next) (⟨c, answer⟩ :: t) a

theorem run_yields (p : Pass α) (answer : Surroundings σ) (s : σ) :
    p.Yields (p.run answer s).trace (p.run answer s).value := by
  induction p generalizing s with
  | done a => exact .done a
  | call c next ih => exact .call _ (ih _ _)

section Attempts

variable {answer : Surroundings σ} {s s' : σ} {t : List Exchange} {a : α}

theorem run_attemptBind {x : Attempt ε α} (h : x.run.run answer s = ⟨.ok a, s', t⟩)
    (f : α → Attempt ε β) : (x >>= f).run.run answer s =
      let rest := (f a).run.run answer s'
      ⟨rest.value, rest.state, t ++ rest.trace⟩ := by
  refine (run_bind x.run _ s).trans ?_
  simp only [h]
  rfl

/-- One good run after the other is a run of both. -/
theorem run_attemptThen {x : Attempt ε α} {f : α → Attempt ε β} {r : Except (Report ε) β} {s'' : σ}
    {t' : List Exchange} (h : x.run.run answer s = ⟨.ok a, s', t⟩)
    (h' : (f a).run.run answer s' = ⟨r, s'', t'⟩) :
    (x >>= f).run.run answer s = ⟨r, s'', t ++ t'⟩ := by
  rw [run_attemptBind h, h']

/-- A failed run is a run of whatever was to come after it. -/
theorem run_attemptBind_failed {x : Attempt ε α} {e : Report ε}
    (h : x.run.run answer s = ⟨.error e, s', t⟩) (f : α → Attempt ε β) :
    (x >>= f).run.run answer s = ⟨.error e, s', t⟩ := by
  refine (run_bind x.run _ s).trans ?_
  simp only [h]
  exact congrArg _ (List.append_nil t)

/-- An attempt whose result is changed at its end. -/
theorem run_attemptMap (x : Attempt ε α) (g : α → β) :
    (x >>= fun a => pure (g a)).run.run answer s =
      let o := x.run.run answer s
      ⟨o.value.map g, o.state, o.trace⟩ := by
  generalize ran : x.run.run answer s = o
  obtain ⟨value, state, trace⟩ := o
  cases value with
  | error e => exact run_attemptBind_failed ran _
  | ok a =>
    apply (run_attemptBind ran _).trans
    exact congrArg _ (List.append_nil trace)

/-- What a run of one attempt after another exchanges. -/
theorem mem_trace_attemptBind {x : Attempt ε α} {f : α → Attempt ε β} {y : Exchange} :
    y ∈ ((x >>= f).run.run answer s).trace ↔ y ∈ (x.run.run answer s).trace ∨
      ∃ a, (x.run.run answer s).value = .ok a ∧
        y ∈ ((f a).run.run answer (x.run.run answer s).state).trace := by
  cases ended : (x.run.run answer s).value with
  | error e =>
    rw [run_attemptBind_failed (congrArg (Outcome.mk · _ _) ended) f]
    simp
  | ok a =>
    rw [run_attemptBind (congrArg (Outcome.mk · _ _) ended) f]
    simp

/-- A value may be changed after a run as well as in its last step. -/
theorem run_mapped (p : Pass α) (g : α → β) : (p.bind fun a => .done (g a)).run answer s =
    ⟨g (p.run answer s).value, (p.run answer s).state, (p.run answer s).trace⟩ := by
  simp only [run_bind, run_done, List.append_nil]

theorem run_lift {p : Pass α} (h : p.run answer s = ⟨a, s', t⟩) :
    (ExceptT.lift p : Attempt ε α).run.run answer s = ⟨.ok a, s', t⟩ :=
  (run_mapped p Except.ok).trans (by rw [h])

end Attempts

namespace Yields

variable {t : List Exchange} {a : α} {b : β}

theorem of_done {a' : α} (h : (Pass.done a).Yields t a') : t = [] ∧ a' = a := by
  cases h
  exact ⟨rfl, rfl⟩

theorem of_call {c : Call} {next : c.Answer → Pass α} (h : (Pass.call c next).Yields t a) :
    ∃ answer t', (next answer).Yields t' a ∧ t = ⟨c, answer⟩ :: t' := by
  cases h with
  | call answer h => exact ⟨answer, _, h, rfl⟩

theorem of_perform {c : Call} {answer : c.Answer} (h : (perform c).Yields t answer) :
    t = [⟨c, answer⟩] := by
  obtain ⟨answer', t', rest, rfl⟩ := h.of_call
  obtain ⟨rfl, rfl⟩ := rest.of_done
  rfl

theorem of_bind {p : Pass α} {f : α → Pass β} (h : (p.bind f).Yields t b) :
    ∃ a t₁ t₂, p.Yields t₁ a ∧ (f a).Yields t₂ b ∧ t = t₁ ++ t₂ := by
  induction p generalizing t with
  | done a => exact ⟨a, [], t, .done a, h, rfl⟩
  | call c next ih =>
    obtain ⟨answer, t', rest, rfl⟩ := h.of_call
    obtain ⟨a, t₁, t₂, h₁, h₂, rfl⟩ := ih _ rest
    exact ⟨a, _, t₂, .call answer h₁, h₂, rfl⟩

/-- An attempt stops at the first failure. -/
theorem of_attemptBind {x : Attempt ε α} {f : α → Attempt ε β} {r : Except (Report ε) β}
    (h : (x >>= f).run.Yields t r) :
    (∃ e, x.run.Yields t (.error e) ∧ r = .error e) ∨
      ∃ a t₁ t₂, x.run.Yields t₁ (.ok a) ∧ (f a).run.Yields t₂ r ∧ t = t₁ ++ t₂ := by
  obtain ⟨x', t₁, t₂, h₁, h₂, rfl⟩ := of_bind h
  cases x' with
  | ok a => exact .inr ⟨a, t₁, t₂, h₁, h₂, rfl⟩
  | error e =>
    obtain ⟨rfl, rfl⟩ := h₂.of_done
    rw [List.append_nil]
    exact .inl ⟨e, h₁, rfl⟩

theorem of_orReport {δ : Type} {p : Pass (Except δ α)} {report : δ → Report ε}
    {r : Except (Report ε) α} (h : (orReport p report).run.Yields t r) :
    ∃ r', p.Yields t r' ∧ r = r'.mapError report := by
  obtain ⟨r', t₁, t₂, h₁, h₂, rfl⟩ := of_bind h
  obtain ⟨rfl, rfl⟩ := h₂.of_done
  exact ⟨r', by rwa [List.append_nil], rfl⟩

/-- A question whose answer may be an error: the attempt goes on only with a good answer. -/
theorem of_asked {δ : Type} {p : Pass (Except δ α)} {report : δ → Report ε} {f : α → Attempt ε β}
    {r : Except (Report ε) β} (h : (orReport p report >>= f).run.Yields t r) :
    ∃ answer t₁ t₂, p.Yields t₁ answer ∧ t = t₁ ++ t₂ ∧
      ((∃ e, answer = .error e ∧ t₂ = [] ∧ r = .error (report e)) ∨
        ∃ a, answer = .ok a ∧ (f a).run.Yields t₂ r) := by
  rcases h.of_attemptBind with ⟨e, failed, rfl⟩ | ⟨a, t₁, t₂, succeeded, rest, rfl⟩
  · obtain ⟨answer, asked, same⟩ := failed.of_orReport
    cases answer with
    | ok a => cases same
    | error e' =>
      obtain rfl : e = report e' := Except.error.inj same
      exact ⟨_, t, [], asked, (List.append_nil t).symm, .inl ⟨e', rfl, rfl, rfl⟩⟩
  · obtain ⟨answer, asked, same⟩ := succeeded.of_orReport
    cases answer with
    | error e => cases same
    | ok a' =>
      obtain rfl : a = a' := Except.ok.inj same
      exact ⟨_, t₁, t₂, asked, rfl, .inr ⟨a, rfl, rest⟩⟩

theorem of_lift {p : Pass α} {r : Except (Report ε) α}
    (h : (ExceptT.lift p : Attempt ε α).run.Yields t r) : ∃ a, p.Yields t a ∧ r = .ok a := by
  obtain ⟨a, t₁, t₂, h₁, h₂, rfl⟩ := of_bind h
  obtain ⟨rfl, rfl⟩ := h₂.of_done
  exact ⟨a, by rwa [List.append_nil], rfl⟩

theorem of_lifted {c : Call} {f : c.Answer → Attempt ε β} {r : Except (Report ε) β}
    (h : (ExceptT.lift (perform c) >>= f).run.Yields t r) :
    ∃ answer t', t = ⟨c, answer⟩ :: t' ∧ (f answer).run.Yields t' r := by
  rcases h.of_attemptBind with ⟨e, made, -⟩ | ⟨answer, t₁, t₂, made, rest, rfl⟩
  · obtain ⟨a, -, heq⟩ := made.of_lift
    cases heq
  · obtain ⟨a, asked, heq⟩ := made.of_lift
    obtain rfl := Except.ok.inj heq
    obtain rfl := asked.of_perform
    exact ⟨answer, t₂, rfl, rest⟩

/-- The trace of a loop is made of one part for each round. -/
theorem of_foldlM {f : β → α → Pass β} {l : List α} {b b' : β} (h : (l.foldlM f b).Yields t b') :
    ∃ parts, List.Forall₂ (fun a part => ∃ b b', (f b a).Yields part b') l parts ∧
      t = parts.flatten := by
  induction l generalizing b t with
  | nil =>
    obtain ⟨rfl, -⟩ := h.of_done
    exact ⟨[], .nil, rfl⟩
  | cons a l ih =>
    rw [List.foldlM_cons] at h
    obtain ⟨b₁, t₁, t₂, h₁, h₂, rfl⟩ := of_bind h
    obtain ⟨parts, each, rfl⟩ := ih h₂
    exact ⟨t₁ :: parts, .cons ⟨b, b₁, h₁⟩ each, rfl⟩

end Yields

def Exchange.isDaemon (x : Exchange) : Bool :=
  match x.call with
  | .daemon _ => true
  | _ => false

/-- The last exchange with a daemon. -/
def lastWithDaemon (t : List Exchange) : Option Exchange := (t.filter Exchange.isDaemon).getLast?

/-- The listing that no other daemon call has followed, after a trace. -/
def listingAfter (last : Option Listing) (t : List Exchange) : Option Listing :=
  t.foldl (fun last x => Listing.after last x.call x.answer) last

theorem lastWithDaemon_append (t : List Exchange) (x : Exchange) :
    lastWithDaemon (t ++ [x]) = if x.isDaemon then some x else lastWithDaemon t := by
  by_cases h : x.isDaemon
  · simp [lastWithDaemon, List.filter_append, h]
  · simp [lastWithDaemon, List.filter_append, h]

/-- A listing known at the end of a trace is what the last exchange with a daemon was about. -/
theorem lastWithDaemon_of_listingAfter {t : List Exchange} {l : Listing}
    (h : listingAfter none t = some l) :
    lastWithDaemon t = some ⟨.daemon (.list l.address), .ok l.entries⟩ := by
  induction t using List.reverseRecOn with
  | nil => cases h
  | append_singleton t x ih =>
    have step : Listing.after (listingAfter none t) x.call x.answer = some l := by
      simpa [listingAfter] using h
    rw [lastWithDaemon_append]
    obtain ⟨c, answer⟩ := x
    cases c with
    | daemon c =>
      cases c with
      | list address =>
        cases answer with
        | ok entries =>
          obtain rfl : ⟨address, entries⟩ = l := Option.some.inj step
          rfl
        | error e => cases step
      | _ => cases step
    | _ => exact ih step

/-- In the trace of a careful pass each call is justified by what came before it. -/
theorem Careful.justified {p : Pass α} {last : Option Listing} {t : List Exchange} {a : α}
    (hp : p.Careful u last) (h : p.Yields t a) {before after : List Exchange} {x : Exchange}
    (split : t = before ++ x :: after) : x.call.Justified u (listingAfter last before) := by
  induction h generalizing last before with
  | done => cases before <;> cases split
  | @call c next t a answer _ ih =>
    cases before with
    | nil =>
      obtain ⟨rfl, rfl⟩ := List.cons.inj split
      exact hp.1
    | cons y before =>
      obtain ⟨rfl, rest⟩ := List.cons.inj split
      exact ih (hp.2 answer) rest

/-- Each write of a careful pass comes right after a listing of the same daemon, as far as daemons are
concerned, and the listing calls for it. -/
theorem Careful.write_follows_listing {p : Pass α} {t : List Exchange} {a : α}
    (hp : p.Careful u none) (h : p.Yields t a) {before after : List Exchange} {x : Exchange}
    {c : DaemonCall} (split : t = before ++ x :: after) (hx : x.call = .daemon c)
    (hw : c.writes = true) :
    ∃ entries, lastWithDaemon before = some ⟨.daemon (.list c.address), .ok entries⟩ ∧
      c.Fits u entries := by
  have justified := hp.justified h split
  rw [hx] at justified
  obtain ⟨l, known, address, fits⟩ := justified hw
  exact ⟨l.entries, address ▸ lastWithDaemon_of_listingAfter known, fits⟩

end CachePartition.Pass
