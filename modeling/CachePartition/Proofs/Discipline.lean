import CachePartition.Reconcile.Application
import CachePartition.Reconcile.Eviction
import CachePartition.Reconcile.Polling

/-! Passes that change a daemon only after they have just read it. Whatever they are answered, such a
pass makes each change right after a listing of the same daemon, and the listing justifies it. All
reconciliation passes are of this kind. -/
namespace CachePartition

open Pass

/-- The entries that a daemon has listed. -/
structure Listing where
  address : String
  entries : List Entry

/-- Calls that may change entries. -/
def DaemonCall.writes : DaemonCall → Bool
  | .list _ | .cacheReport _ => false
  | .create _ _ | .update _ _ _ | .delete _ _ => true

/-- Questions that change nothing in the cluster. -/
def ClusterCall.isQuery : ClusterCall → Bool
  | .nodeStates | .pod _ _ | .node _ => true
  | _ => false

/-- The listed entries call for this change on behalf of a workload: the workload's entry is created
if none is listed, and the first one listed is updated or deleted. -/
def DaemonCall.Fits (u : String) (entries : List Entry) : DaemonCall → Prop
  | .list _ | .cacheReport _ => True
  | .create _ body => body.uuid = u ∧ Entry.findByUuid entries u = none
  | .update _ id body => body.uuid = u ∧ ∃ e, Entry.findByUuid entries u = some e ∧ e.id = id
  | .delete _ id => ∃ e, Entry.findByUuid entries u = some e ∧ e.id = id

/-- A call that changes no entries, or one that the last listing calls for. -/
def Call.Justified (u : String) (last : Option Listing) : Call → Prop
  | .daemon c =>
    c.writes → ∃ l, last = some l ∧ l.address = c.address ∧ c.Fits u l.entries
  | _ => True

/-- The listing that no other daemon call has followed, after one more exchange. -/
def Listing.after (last : Option Listing) : (c : Call) → c.Answer → Option Listing
  | .daemon (.list address), .ok entries => some ⟨address, entries⟩
  | .daemon _, _ => none
  | _, _ => last

namespace Pass

variable {α β ε : Type} {u : String} {last : Option Listing}

/-- Each call is justified, whatever is answered. -/
def Careful (u : String) : Option Listing → Pass α → Prop
  | _, .done _ => True
  | last, .call c next => c.Justified u last ∧ ∀ a, Careful u (Listing.after last c a) (next a)

theorem Careful.bind {p : Pass α} {f : α → Pass β} (hp : p.Careful u last)
    (hf : ∀ a last, (f a).Careful u last) : (p.bind f).Careful u last := by
  induction p generalizing last with
  | done a => exact hf a last
  | call c next ih => exact ⟨hp.1, fun a => ih a (hp.2 a)⟩

theorem Careful.attemptBind {x : Attempt ε α} {f : α → Attempt ε β} (hx : x.run.Careful u last)
    (hf : ∀ a last, (f a).run.Careful u last) : (x >>= f).run.Careful u last := by
  refine Careful.bind hx fun r last => ?_
  cases r with
  | ok a => exact hf a last
  | error e => trivial

theorem Careful.orReport {δ : Type} {p : Pass (Except δ α)} {report : δ → Report ε}
    (hp : p.Careful u last) : (orReport p report).run.Careful u last :=
  hp.bind fun _ _ => trivial

theorem Careful.foldlM {f : β → α → Pass β} (hf : ∀ b a last, (f b a).Careful u last)
    (l : List α) (b : β) (last : Option Listing) : (l.foldlM f b).Careful u last := by
  induction l generalizing b last with
  | nil => trivial
  | cons a l ih =>
    rw [List.foldlM_cons]
    exact (hf b a last).bind ih

theorem Careful.forM {f : α → Pass Unit} (hf : ∀ a last, (f a).Careful u last) (l : List α)
    (last : Option Listing) : (l.forM f).Careful u last := by
  induction l generalizing last with
  | nil => trivial
  | cons a l ih =>
    rw [List.forM]
    exact (hf a last).bind fun _ => ih

theorem Careful.attemptForM {f : α → Attempt ε Unit} (hf : ∀ a last, (f a).run.Careful u last)
    (l : List α) (last : Option Listing) : (l.forM f).run.Careful u last := by
  induction l generalizing last with
  | nil => trivial
  | cons a l ih =>
    rw [List.forM]
    exact (hf a last).attemptBind fun _ => ih

theorem Careful.attemptMapM {f : α → Attempt ε β} (hf : ∀ a last, (f a).run.Careful u last)
    (l : List α) (last : Option Listing) : (l.mapM f).run.Careful u last := by
  induction l generalizing last with
  | nil => rw [List.mapM_nil]; trivial
  | cons a l ih =>
    rw [List.mapM_cons]
    exact (hf a last).attemptBind fun _ _ => (ih _).attemptBind fun _ _ => trivial

/-- A call that changes no entries may be made at any time. -/
theorem careful_perform (c : Call) (h : ∀ d, c = .daemon d → d.writes = false) :
    (perform c).Careful u last := by
  refine ⟨?_, fun _ => trivial⟩
  cases c with
  | daemon d => exact fun hw => by simp [h d rfl] at hw
  | _ => trivial

theorem careful_cluster (c : ClusterCall) : (perform (.cluster c)).Careful u last :=
  careful_perform _ fun _ h => by cases h

end Pass

section Reconciliation

variable {α : Type} {u : String} {last : Option Listing}

theorem careful_daemonAddress (scheme : Scheme) (node space : String) :
    (daemonAddress scheme node space).run.Careful u last := by
  refine Careful.bind (Careful.attemptBind (.orReport (careful_cluster _)) fun pod? last => ?_)
    fun _ _ => trivial
  cases pod? with
  | none => trivial
  | some pod => dsimp only; split <;> trivial

theorem careful_resolveCores (spec : WorkloadSpec) (node : String) :
    (resolveCores spec node).run.Careful u last := by
  unfold resolveCores
  split
  · trivial
  · refine Careful.attemptBind (Careful.attemptBind (.orReport (careful_cluster _)) ?_)
      fun _ _ => trivial
    intro object? last
    cases object? with
    | none => trivial
    | some object => dsimp only; split <;> trivial

/-- After a listing, a pass may go on with what the listing calls for. -/
theorem careful_listEntries {node address : String} {f : List Entry → Attempt SyncError α}
    (hf : ∀ l, (f l).run.Careful u (some ⟨address, l⟩)) :
    (listEntries node address >>= f).run.Careful u last := by
  refine ⟨fun writes => (nomatch writes), fun r => ?_⟩
  cases r with
  | ok l => exact hf l
  | error e => trivial

theorem careful_createEntry {node address : String} {body : Entry} {l : List Entry}
    (own : body.uuid = u) (absent : Entry.findByUuid l u = none) :
    (createEntry node address body).run.Careful u (some ⟨address, l⟩) := by
  refine ⟨fun _ => ⟨_, rfl, rfl, own, absent⟩, fun r => ?_⟩
  rcases r with e | response
  · cases e <;> trivial
  · refine careful_listEntries fun l => ?_
    split <;> trivial

theorem careful_syncNode (scheme : Scheme) (w : Workload) (node space : String) :
    (syncNode scheme w node space).run.Careful w.uuid last := by
  refine (careful_daemonAddress scheme node space).attemptBind fun address _ => ?_
  refine (careful_resolveCores w.spec node).attemptBind fun cores _ => ?_
  refine careful_listEntries fun l => ?_
  cases found : Entry.findByUuid l w.uuid with
  | none => exact careful_createEntry rfl found
  | some e =>
    refine Careful.attemptBind (.orReport ⟨fun _ => ?_, fun _ => trivial⟩) fun _ _ => trivial
    exact ⟨_, rfl, rfl, rfl, e, found, rfl⟩

theorem careful_removeFromNode (scheme : Scheme) (node space : String) :
    (removeFromNode scheme u node space).run.Careful u last := by
  refine (careful_daemonAddress scheme node space).attemptBind fun address _ => ?_
  refine careful_listEntries fun l => ?_
  cases found : Entry.findByUuid l u with
  | none => trivial
  | some e =>
    refine Careful.attemptBind (.orReport ⟨fun _ => ?_, fun _ => trivial⟩) fun _ _ => trivial
    exact ⟨_, rfl, rfl, e, found, rfl⟩

theorem careful_listNodeStates : listNodeStates.run.Careful u last :=
  .orReport (careful_cluster _)

theorem careful_syncTarget (scheme : Scheme) (w : Workload) (spaces : TextMap String)
    (r : SyncReport) (node : String) : (syncTarget scheme w spaces r node).Careful w.uuid last := by
  unfold syncTarget
  split
  · exact (careful_syncNode scheme w node _).bind fun _ _ => trivial
  · trivial

theorem careful_sweepNode (scheme : Scheme) (w : Workload) (targets : TextSet) (r : SyncReport)
    (n : NodeState) : (sweepNode scheme w targets r n).Careful w.uuid last := by
  unfold sweepNode
  split
  · trivial
  · exact (careful_removeFromNode scheme n.node n.space).bind fun _ _ => trivial

theorem careful_sync (scheme : Scheme) (w : Workload) : (sync scheme w).run.Careful w.uuid last := by
  refine careful_listNodeStates.attemptBind fun nodeStates _ => ?_
  refine Careful.attemptBind ?_ fun synced last => ?_
  · exact (Careful.foldlM (fun r n _ => careful_syncTarget scheme w _ r n) _ _ _).bind
      fun _ _ => trivial
  · exact (Careful.foldlM (fun r n _ => careful_sweepNode scheme w _ r n) _ _ _).bind
      fun _ _ => trivial

theorem careful_remove (scheme : Scheme) (w : Workload) :
    (remove scheme w).run.Careful w.uuid last := by
  refine careful_listNodeStates.attemptBind fun nodeStates _ => ?_
  refine Careful.attemptBind (Careful.bind (Careful.foldlM ?_ _ _ _) fun _ _ => trivial) ?_
  · intro failed n _
    refine (careful_removeFromNode scheme n.node n.space).bind fun r _ => ?_
    cases r <;> trivial
  · intro failed _
    split <;> trivial

theorem careful_syncAndEvict (scheme : Scheme) (w : Workload) :
    (syncAndEvict scheme w).run.Careful w.uuid last := by
  refine (careful_sync scheme w).attemptBind fun report _ => ?_
  refine Careful.attemptBind ?_ fun _ _ => ?_
  · unfold writeStatus
    split
    · trivial
    · exact .orReport (careful_cluster _)
  · refine Careful.attemptBind (Careful.bind (Careful.forM ?_ _ _) fun _ _ => trivial) ?_
    · exact fun e _ => (careful_cluster _).bind fun _ _ => trivial
    · intro _ _
      split <;> trivial

theorem careful_poll (scheme : Scheme) (n : NodeState) : (poll scheme n).run.Careful u last := by
  refine Careful.attemptBind (careful_perform (.enlist n.node) (by simp) |>.bind fun _ _ => trivial) ?_
  intro _ _
  refine (careful_daemonAddress scheme n.node n.space).attemptBind fun address _ => ?_
  refine Careful.attemptBind (careful_perform _ (by simp [DaemonCall.writes]) |>.bind
    fun _ _ => trivial) fun _ _ => ?_
  refine Careful.attemptBind (careful_perform _ (by simp [DaemonCall.writes]) |>.bind
    fun _ _ => trivial) fun _ _ => ?_
  exact Careful.attemptBind (.orReport (careful_cluster _)) fun _ _ => trivial

theorem careful_forget (n : NodeState) : (forget n).Careful u last :=
  careful_perform _ (by simp)

theorem careful_deriveContainer (pod : Pod) (c : Container) (limit : String) :
    (deriveContainer pod c limit).run.Careful u last := by
  unfold deriveContainer
  split
  · trivial
  refine Careful.attemptBind (Careful.bind ?_ fun _ _ => trivial) fun cores _ => ?_
  · refine Careful.attemptBind (.orReport (careful_perform _ (by simp))) fun pods _ => ?_
    split <;> trivial
  · split
    · trivial
    · split <;> trivial

theorem careful_derive (pod : Pod) (hostIp : String) : (derive pod hostIp).run.Careful u last := by
  unfold derive
  split
  · trivial
  refine Careful.attemptBind (Careful.attemptMapM ?_ _ _) fun _ _ => trivial
  intro c _
  unfold deriveIfQualified
  split
  · trivial
  split
  · trivial
  split
  · trivial
  · trivial
  · exact Careful.bind (careful_deriveContainer pod c _) fun r _ => by cases r <;> trivial

theorem careful_deriveAndApply (pod : Pod) (agentPod : String) :
    (deriveAndApply pod agentPod).run.Careful u last := by
  refine Careful.attemptBind (Careful.attemptBind (.orReport (careful_cluster _)) ?_) ?_
  · intro pod? _
    split <;> trivial
  · intro hostIp _
    refine Careful.attemptBind ((careful_derive pod hostIp).bind fun _ _ => trivial) ?_
    intro workloads _
    exact Careful.attemptBind
      (Careful.attemptForM (fun w _ => .orReport (careful_cluster _)) _ _) fun _ _ => trivial

end Reconciliation

end CachePartition
