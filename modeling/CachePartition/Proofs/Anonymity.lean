import CachePartition.Proofs.Discipline
import CachePartition.Proofs.Tables

/-! Passes that see of a daemon only the entry of their own workload, and of that entry not the id. Two
runs of such a pass that are answered alike, up to ids and to the entries of others, make the same
calls up to ids and end alike. Synchronizing and removing are of this kind. -/
namespace CachePartition

open Pass

/-- The entry without the id issued for it. -/
def Entry.anonymous (e : Entry) : Entry := { e with id := "" }

def NodeOutcome.anonymous (o : NodeOutcome) : NodeOutcome := { o with id := "" }

def NodeResult.anonymous (r : NodeResult) : NodeResult := { r with outcome := r.outcome.anonymous }

/-- Both have outcomes of the same nodes, the same up to ids. -/
def WorkloadStatus.SameUpToIds (s s' : WorkloadStatus) : Prop :=
  ∀ node, (s.nodes.get? node).map NodeOutcome.anonymous =
    (s'.nodes.get? node).map NodeOutcome.anonymous

structure SyncReport.SameUpToIds (r r' : SyncReport) : Prop where
  status : r.status.SameUpToIds r'.status
  evictions : r.evictions = r'.evictions
  failedNodes : r.failedNodes = r'.failedNodes

/-- Both attempts fail alike or have related results. -/
inductive Pass.Agree {ε α β : Type} (Q : α → β → Prop) : Except ε α → Except ε β → Prop where
  | ok {a : α} {b : β} (h : Q a b) : Agree Q (.ok a) (.ok b)
  | error (e : ε) : Agree Q (.error e) (.error e)

/-- Of the workload's entries the lists show the same first one, up to its id. -/
def Entry.SameFirst (u : String) (l l' : List Entry) : Prop :=
  (Entry.findByUuid l u).map Entry.anonymous = (Entry.findByUuid l' u).map Entry.anonymous

namespace Pass

variable {α α' β β' ε : Type} {u : String}

/-- The passes make the same calls up to ids, as long as they are answered alike up to ids and to the
entries of other workloads, and have related results. -/
inductive Alike (u : String) (Q : α → β → Prop) : Pass α → Pass β → Prop where
  | done {a : α} {b : β} (h : Q a b) : Alike u Q (.done a) (.done b)
  | ask (c : ClusterCall) (query : c.isQuery = true) {next : c.Answer → Pass α}
      {next' : c.Answer → Pass β} (h : ∀ a, Alike u Q (next a) (next' a)) :
      Alike u Q (.call (.cluster c) next) (.call (.cluster c) next')
  | list (address : String) {next : (DaemonCall.list address).Answer → Pass α}
      {next' : (DaemonCall.list address).Answer → Pass β}
      (failed : ∀ e, Alike u Q (next (.error e)) (next' (.error e)))
      (listed : ∀ l l', Entry.SameFirst u l l' → Alike u Q (next (.ok l)) (next' (.ok l'))) :
      Alike u Q (.call (.daemon (.list address)) next) (.call (.daemon (.list address)) next')
  | create (address : String) (body : Entry)
      {next : (DaemonCall.create address body).Answer → Pass α}
      {next' : (DaemonCall.create address body).Answer → Pass β}
      (h : ∀ a, Alike u Q (next a) (next' a)) :
      Alike u Q (.call (.daemon (.create address body)) next)
        (.call (.daemon (.create address body)) next')
  | update (address id id' : String) (body : Entry)
      {next : (DaemonCall.update address id body).Answer → Pass α}
      {next' : (DaemonCall.update address id' body).Answer → Pass β}
      (h : ∀ a, Alike u Q (next a) (next' a)) :
      Alike u Q (.call (.daemon (.update address id body)) next)
        (.call (.daemon (.update address id' body)) next')
  | delete (address id id' : String) {next : (DaemonCall.delete address id).Answer → Pass α}
      {next' : (DaemonCall.delete address id').Answer → Pass β}
      (h : ∀ a, Alike u Q (next a) (next' a)) :
      Alike u Q (.call (.daemon (.delete address id)) next)
        (.call (.daemon (.delete address id')) next')

namespace Alike

variable {Q : α → β → Prop} {R : α' → β' → Prop}

theorem bind {p : Pass α} {p' : Pass β} {f : α → Pass α'} {f' : β → Pass β'} (h : Alike u Q p p')
    (hf : ∀ a b, Q a b → Alike u R (f a) (f' b)) : Alike u R (p.bind f) (p'.bind f') := by
  induction h with
  | done hab => exact hf _ _ hab
  | ask c query _ ih => exact .ask c query ih
  | list address _ _ failed listed => exact .list address failed listed
  | create address body _ ih => exact .create address body ih
  | update address id id' body _ ih => exact .update address id id' body ih
  | delete address id id' _ ih => exact .delete address id id' ih

theorem attemptBind {x : Attempt ε α} {x' : Attempt ε β} {f : α → Attempt ε α'}
    {f' : β → Attempt ε β'} (h : Alike u (Agree Q) x.run x'.run)
    (hf : ∀ a b, Q a b → Alike u (Agree R) (f a).run (f' b).run) :
    Alike u (Agree R) (x >>= f).run (x' >>= f').run := by
  refine Alike.bind h fun r r' agree => ?_
  cases agree with
  | ok hab => exact hf _ _ hab
  | error e => exact .done (.error e)

theorem lift {p : Pass α} {p' : Pass β} (h : Alike u Q p p') :
    Alike u (Agree Q) (ExceptT.lift p : Attempt ε α).run (ExceptT.lift p' : Attempt ε β).run :=
  Alike.bind h fun _ _ hab => .done (.ok hab)

theorem foldlM {ι : Type} {f : α → ι → Pass α} {f' : β → ι → Pass β}
    (hf : ∀ a b i, Q a b → Alike u Q (f a i) (f' b i)) (l : List ι) {a : α} {b : β} (h : Q a b) :
    Alike u Q (l.foldlM f a) (l.foldlM f' b) := by
  induction l generalizing a b with
  | nil => exact .done h
  | cons i l ih =>
    rw [List.foldlM_cons, List.foldlM_cons]
    exact Alike.bind (hf _ _ _ h) fun _ _ => ih

end Alike

end Pass

section Reconciliation

variable {α β : Type} {u : String}

theorem alike_ask (c : ClusterCall) (query : c.isQuery = true) :
    Alike u Eq (perform (.cluster c)) (perform (.cluster c)) :=
  .ask c query fun _ => .done rfl

theorem alike_orReport {δ ε : Type} {p p' : Pass (Except δ α)} (report : δ → Report ε)
    (h : Alike u Eq p p') : Alike u (Agree Eq) (orReport p report).run (orReport p' report).run := by
  refine Alike.bind h fun r _ heq => ?_
  subst heq
  cases r with
  | ok a => exact .done (.ok rfl)
  | error e => exact .done (.error _)

theorem alike_daemonHostPort (node space : String) :
    Alike u (Agree Eq) (daemonHostPort node space).run (daemonHostPort node space).run := by
  refine Alike.attemptBind (alike_orReport _ (alike_ask (.pod _ _) rfl)) fun pod? _ heq => ?_
  subst heq
  split
  · exact .done (.error _)
  · split
    · exact .done (.ok rfl)
    · exact .done (.error _)

theorem alike_daemonAddress (scheme : Scheme) (node space : String) :
    Alike u (Agree Eq) (daemonAddress scheme node space).run (daemonAddress scheme node space).run := by
  refine Alike.bind (alike_daemonHostPort node space) fun r r' agree => ?_
  cases agree with
  | ok heq => exact heq ▸ .done (.ok rfl)
  | error e => exact .done (.error _)

theorem alike_resolveCores (spec : WorkloadSpec) (node : String) :
    Alike u (Agree Eq) (resolveCores spec node).run (resolveCores spec node).run := by
  unfold resolveCores
  split
  · exact .done (.ok rfl)
  · refine Alike.attemptBind (Q := Eq) ?_ fun _ _ heq => heq ▸ .done (.ok rfl)
    refine Alike.attemptBind (alike_orReport _ (alike_ask (.node _) rfl)) fun object? _ heq => ?_
    subst heq
    split
    · exact .done (.error _)
    · split
      · exact .done (.error _)
      · exact .done (.ok rfl)

theorem alike_listEntries {node address : String} {Q : α → β → Prop}
    {f : List Entry → Attempt SyncError α} {f' : List Entry → Attempt SyncError β}
    (hf : ∀ l l', Entry.SameFirst u l l' → Alike u (Agree Q) (f l).run (f' l').run) :
    Alike u (Agree Q) (listEntries node address >>= f).run (listEntries node address >>= f').run :=
  .list address (fun _ => .done (.error _)) hf

theorem NodeOutcome.ofEntry_anonymous {e e' : Entry} (h : e.anonymous = e'.anonymous)
    (response : String) :
    (NodeOutcome.ofEntry response e).anonymous = (NodeOutcome.ofEntry response e').anonymous := by
  have className : e.className = e'.className := congrArg (·.className) h
  have status : e.status = e'.status := congrArg (·.status) h
  simp [NodeOutcome.anonymous, NodeOutcome.ofEntry, className, status]

/-- Either both lists show an entry of the workload, the same up to ids, or neither does. -/
theorem Entry.SameFirst.cases {l l' : List Entry} (h : Entry.SameFirst u l l') :
    (∃ e e', Entry.findByUuid l u = some e ∧ Entry.findByUuid l' u = some e' ∧
        e.anonymous = e'.anonymous) ∨
      Entry.findByUuid l u = none ∧ Entry.findByUuid l' u = none := by
  unfold SameFirst at h
  cases found : Entry.findByUuid l u <;> cases found' : Entry.findByUuid l' u <;>
    simp_all

theorem alike_createEntry (node address : String) (body : Entry) (own : body.uuid = u) :
    Alike u (Agree fun r r' => r.anonymous = r'.anonymous) (createEntry node address body).run
      (createEntry node address body).run := by
  refine .create address body fun answer => ?_
  rcases answer with e | response
  · cases e
    case rejected => exact .done (.ok rfl)
    all_goals exact .done (.error _)
  · refine alike_listEntries fun l l' same => ?_
    rw [own]
    rcases same.cases with ⟨e, e', found, found', heq⟩ | ⟨found, found'⟩
    · rw [found, found']
      refine .done (.ok ?_)
      simp only [NodeResult.anonymous, NodeOutcome.ofEntry_anonymous heq]
    · rw [found, found']
      exact .done (.ok rfl)

theorem alike_syncNode (scheme : Scheme) (w : Workload) (node space : String) :
    Alike w.uuid (Agree fun r r' => r.anonymous = r'.anonymous) (syncNode scheme w node space).run
      (syncNode scheme w node space).run := by
  refine (alike_daemonAddress scheme node space).attemptBind fun address _ heq => ?_
  subst heq
  refine (alike_resolveCores w.spec node).attemptBind fun cores _ heq => ?_
  subst heq
  refine alike_listEntries fun l l' same => ?_
  rcases same.cases with ⟨e, e', found, found', heq⟩ | ⟨found, found'⟩
  · rw [found, found']
    refine .update address e.id e'.id _ fun answer => ?_
    rcases answer with error | response
    · exact .done (.error _)
    · refine .done (.ok ?_)
      simp only [NodeResult.anonymous, NodeOutcome.ofEntry_anonymous heq]
  · rw [found, found']
    exact alike_createEntry node address _ rfl

theorem alike_removeFromNode (scheme : Scheme) (node space : String) :
    Alike u (Agree Eq) (removeFromNode scheme u node space).run
      (removeFromNode scheme u node space).run := by
  refine (alike_daemonAddress scheme node space).attemptBind fun address _ heq => ?_
  subst heq
  refine alike_listEntries fun l l' same => ?_
  rcases same.cases with ⟨e, e', found, found', heq⟩ | ⟨found, found'⟩
  · rw [found, found']
    refine .delete address e.id e'.id fun answer => ?_
    cases answer
    · exact .done (.error _)
    · exact .done (.ok rfl)
  · rw [found, found']
    exact .done (.ok rfl)

namespace WorkloadStatus.SameUpToIds

variable {s s' : WorkloadStatus}

theorem refl (s : WorkloadStatus) : s.SameUpToIds s := fun _ => rfl

theorem insert (h : s.SameUpToIds s') (node : String) {o o' : NodeOutcome}
    (ho : o.anonymous = o'.anonymous) :
    SameUpToIds ⟨s.nodes.insert node o⟩ ⟨s'.nodes.insert node o'⟩ := by
  intro k
  by_cases hk : k = node
  · subst hk
    simp [ho]
  · simpa [SortedMap.get?_insert_ne _ hk] using h k

theorem erase (h : s.SameUpToIds s') (node : String) :
    SameUpToIds ⟨s.nodes.erase node⟩ ⟨s'.nodes.erase node⟩ := by
  intro k
  by_cases hk : k = node
  · subst hk
    simp
  · simpa [SortedMap.get?_erase_ne _ hk] using h k

theorem filter (h : s.SameUpToIds s') (p : String → Bool) :
    SameUpToIds ⟨s.nodes.filter fun node _ => p node⟩ ⟨s'.nodes.filter fun node _ => p node⟩ := by
  intro k
  rw [SortedMap.get?_filter_key, SortedMap.get?_filter_key]
  split
  · exact h k
  · rfl

theorem getD (h : s.SameUpToIds s') (node : String) :
    (s.nodes.getD node {}).anonymous = (s'.nodes.getD node {}).anonymous := by
  have same := h node
  unfold SortedMap.getD
  cases known : s.nodes.get? node <;> cases known' : s'.nodes.get? node <;>
    simp_all

end WorkloadStatus.SameUpToIds

namespace SyncReport.SameUpToIds

variable {r r' : SyncReport}

theorem record (h : r.SameUpToIds r') (w : Workload) (node : String)
    {x x' : Except (Report SyncError) NodeResult}
    (hx : Agree (fun a b => a.anonymous = b.anonymous) x x') :
    (r.record w node x).SameUpToIds (r'.record w node x') := by
  cases hx with
  | @ok a b hab =>
    have outcome : a.outcome.anonymous = b.outcome.anonymous := congrArg (·.outcome) hab
    have change : a.change = b.change := congrArg (·.change) hab
    exact {
      status := h.status.insert node outcome
      evictions := by simp only [SyncReport.record, h.evictions, change]
      failedNodes := by simp only [SyncReport.record, h.failedNodes, change] }
  | error e =>
    have known := h.status.getD node
    have kept : ∀ o : NodeOutcome, { o with response := e.summary }.anonymous =
        { o.anonymous with response := e.summary } := fun _ => rfl
    exact {
      status := h.status.insert node (by rw [kept, kept, known])
      evictions := h.evictions
      failedNodes := by simp only [SyncReport.record, h.failedNodes] }

theorem recordSweep (h : r.SameUpToIds r') (node : String) (x : Except (Report SyncError) Bool) :
    (r.recordSweep node x).SameUpToIds (r'.recordSweep node x) := by
  cases x with
  | ok _ => exact { h with status := h.status.erase node }
  | error e => exact { h with failedNodes := by simp only [SyncReport.recordSweep, h.failedNodes] }

theorem retain (h : r.SameUpToIds r') (targets : TextSet) (spaces : TextMap String) :
    (r.retain targets spaces).SameUpToIds (r'.retain targets spaces) :=
  { h with status := h.status.filter fun node => targets.contains node || spaces.contains node }

end SyncReport.SameUpToIds

theorem alike_syncTarget (scheme : Scheme) (w : Workload) (spaces : TextMap String) (node : String)
    {r r' : SyncReport} (h : r.SameUpToIds r') :
    Alike w.uuid SyncReport.SameUpToIds (syncTarget scheme w spaces r node)
      (syncTarget scheme w spaces r' node) := by
  unfold syncTarget
  split
  · exact Alike.bind (alike_syncNode scheme w node _) fun _ _ hx => .done (h.record w node hx)
  · exact .done (h.record w node (.error _))

theorem alike_sweepNode (scheme : Scheme) (w : Workload) (targets : TextSet) (n : NodeState)
    {r r' : SyncReport} (h : r.SameUpToIds r') :
    Alike w.uuid SyncReport.SameUpToIds (sweepNode scheme w targets r n)
      (sweepNode scheme w targets r' n) := by
  unfold sweepNode
  split
  · exact .done h
  · refine Alike.bind (alike_removeFromNode scheme n.node n.space) fun x x' hx => .done ?_
    have same : x = x' := by cases hx <;> simp_all
    exact same ▸ h.recordSweep n.node x

theorem alike_listNodeStates :
    Alike u (Agree Eq) listNodeStates.run listNodeStates.run :=
  alike_orReport _ (alike_ask .nodeStates rfl)

theorem alike_sync (scheme : Scheme) (w : Workload) :
    Alike w.uuid (Agree SyncReport.SameUpToIds) (sync scheme w).run (sync scheme w).run := by
  refine alike_listNodeStates.attemptBind fun nodeStates _ heq => ?_
  subst heq
  refine Alike.attemptBind (Q := SyncReport.SameUpToIds) (Alike.lift ?_) fun r r' h => Alike.lift ?_
  · exact Alike.foldlM (fun _ _ node h => alike_syncTarget scheme w _ node h) _
      ⟨.refl _, rfl, rfl⟩
  · exact Alike.foldlM (fun _ _ n h => alike_sweepNode scheme w _ n h) _ (h.retain _ _)

theorem alike_remove (scheme : Scheme) (w : Workload) :
    Alike w.uuid (Agree Eq) (remove scheme w).run (remove scheme w).run := by
  refine alike_listNodeStates.attemptBind fun nodeStates _ heq => ?_
  subst heq
  refine Alike.attemptBind (Q := Eq) (Alike.lift (Alike.foldlM ?_ _ rfl)) ?_
  · intro failed _ n heq
    subst heq
    refine Alike.bind (alike_removeFromNode scheme n.node n.space) fun x x' hx => ?_
    cases hx <;> exact .done rfl
  · intro failed _ heq
    subst heq
    split
    · exact .done (.ok rfl)
    · exact .done (.error _)

end Reconciliation

end CachePartition
