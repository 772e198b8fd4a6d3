import CachePartition.Proofs.Derivations
import CachePartition.Proofs.Treatments

/-! Who writes what in a cluster. Whatever its calls are answered, a pass changes there only what it has asked
for, and each kind of pass asks for changes of what is its own. -/
namespace CachePartition

open Pass

/-- Where two maps differ, this holds of the key and of what the second has under it. -/
def SortedMap.RewrittenBy {κ α : Type} [KeyOrder κ] (R : κ → Option α → Prop)
    (m m' : SortedMap κ α) : Prop :=
  ∀ k, m'.get? k = m.get? k ∨ R k (m'.get? k)

/-- The second list goes on where the first ends, with elements of which this holds. -/
def GrownBy {α : Type} (R : α → Prop) (l l' : List α) : Prop :=
  ∃ added, l' = l ++ added ∧ ∀ a ∈ added, R a

/-- The cluster changed only as these calls change it. -/
structure Cluster.ChangedBy (P : ClusterCall → Prop) (k k' : Cluster) : Prop where
  nodeStates : GrownBy
    (fun n => ∃ space node, P (.ensureNodeState space node) ∧ n = .fresh node.name space)
    k.nodeStates k'.nodeStates
  pods : k.pods.RewrittenBy (fun key pod? => P (.deletePod key.space key.name) ∧ pod? = none) k'.pods
  nodes : k'.nodes = k.nodes
  workloadStatuses : k.workloadStatuses.RewrittenBy
    (fun key status? => ∃ w status, P (.replaceWorkloadStatus w status) ∧ w.key = key ∧
      status? = some status)
    k'.workloadStatuses
  nodeStateStatuses : k.nodeStateStatuses.RewrittenBy
    (fun key status? => ∃ n status, P (.replaceNodeStateStatus n status) ∧ n.key = key ∧
      status? = some status)
    k'.nodeStateStatuses
  applied : k.applied.RewrittenBy (fun key w? => ∃ w, P (.applyWorkload w) ∧ w.key = key ∧ w? = some w)
    k'.applied
  deletedPods : GrownBy (fun key => P (.deletePod key.space key.name)) k.deletedPods k'.deletedPods
  isDown : k'.isDown = k.isDown

/-- A call that may change the cluster. -/
def ClusterCall.writes : ClusterCall → Bool
  | .nodeStates | .pod _ _ | .node _ | .findPod _ => false
  | .deletePod _ _ | .replaceWorkloadStatus _ _ | .replaceNodeStateStatus _ _ | .applyWorkload _
  | .ensureNodeState _ _ => true

theorem not_writes_of_reconciles {c : Call} {d : ClusterCall} (h : c.reconciles = true)
    (call : c = .cluster d) : ¬ d.writes = true := by
  subst call
  cases d with
  | nodeStates | pod | node => exact Bool.false_ne_true
  | _ => cases h

section Differences

variable {κ α : Type} [KeyOrder κ] {R : κ → Option α → Prop} {m m' m'' : SortedMap κ α} {k : κ}

theorem SortedMap.RewrittenBy.refl : m.RewrittenBy R m := fun _ => .inl rfl

theorem SortedMap.RewrittenBy.trans (h : m.RewrittenBy R m') (h' : m'.RewrittenBy R m'') :
    m.RewrittenBy R m'' := by
  intro k
  rcases h' k with same | changed
  · rw [same]
    exact h k
  · exact .inr changed

theorem SortedMap.RewrittenBy.insert {a : α} (h : R k (some a)) : m.RewrittenBy R (m.insert k a) := by
  intro k'
  by_cases here : k' = k
  · rw [here, SortedMap.get?_insert_self]
    exact .inr h
  · exact .inl (m.get?_insert_ne here a)

theorem SortedMap.RewrittenBy.erase (h : R k none) : m.RewrittenBy R (m.erase k) := by
  intro k'
  by_cases here : k' = k
  · rw [here, SortedMap.get?_erase_self]
    exact .inr h
  · exact .inl (m.get?_erase_ne here)

/-- Where it holds of nothing, nothing differs. -/
theorem SortedMap.RewrittenBy.eq (h : m.RewrittenBy R m') (none : ∀ k a?, ¬ R k a?) : m' = m :=
  SortedMap.ext fun k => (h k).resolve_right (none k _)

variable {l l' l'' : List α} {Q : α → Prop}

theorem GrownBy.refl : GrownBy Q l l := ⟨[], (List.append_nil l).symm, fun _ h => nomatch h⟩

theorem GrownBy.trans (h : GrownBy Q l l') (h' : GrownBy Q l' l'') : GrownBy Q l l'' := by
  obtain ⟨added, rfl, each⟩ := h
  obtain ⟨later, rfl, each'⟩ := h'
  refine ⟨added ++ later, List.append_assoc .., fun a ha => ?_⟩
  exact (List.mem_append.mp ha).elim (each a) (each' a)

theorem GrownBy.concat {a : α} (h : Q a) : GrownBy Q l (l ++ [a]) :=
  ⟨[a], rfl, fun _ mem => List.mem_singleton.mp mem ▸ h⟩

theorem GrownBy.eq (h : GrownBy Q l l') (none : ∀ a, ¬ Q a) : l' = l := by
  obtain ⟨added, rfl, each⟩ := h
  cases added with
  | nil => exact List.append_nil l
  | cons a added => exact absurd (each a List.mem_cons_self) (none a)

end Differences

namespace Cluster

variable {P : ClusterCall → Prop} {k k' k'' : Cluster}

theorem ChangedBy.refl : k.ChangedBy P k where
  nodeStates := .refl
  pods := .refl
  nodes := rfl
  workloadStatuses := .refl
  nodeStateStatuses := .refl
  applied := .refl
  deletedPods := .refl
  isDown := rfl

theorem ChangedBy.trans (h : k.ChangedBy P k') (h' : k'.ChangedBy P k'') : k.ChangedBy P k'' where
  nodeStates := h.nodeStates.trans h'.nodeStates
  pods := h.pods.trans h'.pods
  nodes := h'.nodes.trans h.nodes
  workloadStatuses := h.workloadStatuses.trans h'.workloadStatuses
  nodeStateStatuses := h.nodeStateStatuses.trans h'.nodeStateStatuses
  applied := h.applied.trans h'.applied
  deletedPods := h.deletedPods.trans h'.deletedPods
  isDown := h'.isDown.trans h.isDown

/-- One call changes the cluster as it does. -/
theorem changedBy_serve (k : Cluster) {c : ClusterCall} (h : c.writes = true → P c) :
    k.ChangedBy P (k.serve c).2 := by
  have same : k.ChangedBy P k := .refl
  cases c with
  | nodeStates | pod | node | findPod => exact same
  | deletePod space name =>
    exact { same with pods := .erase ⟨h rfl, rfl⟩, deletedPods := .concat (h rfl) }
  | replaceWorkloadStatus w status =>
    exact { same with workloadStatuses := .insert ⟨w, status, h rfl, rfl, rfl⟩ }
  | replaceNodeStateStatus n status =>
    exact { same with nodeStateStatuses := .insert ⟨n, status, h rfl, rfl, rfl⟩ }
  | applyWorkload w => exact { same with applied := .insert ⟨w, h rfl, rfl, rfl⟩ }
  | ensureNodeState space node =>
    simp only [serve]
    split
    · exact same
    · exact { same with nodeStates := .concat ⟨space, node, h rfl, rfl⟩ }

/-- Without calls that write nothing changes. -/
theorem ChangedBy.eq (h : k.ChangedBy (fun _ => False) k') : k' = k := by
  have nodeStates := h.nodeStates.eq (by simp)
  have pods := h.pods.eq (by simp)
  have workloadStatuses := h.workloadStatuses.eq (by simp)
  have nodeStateStatuses := h.nodeStateStatuses.eq (by simp)
  have applied := h.applied.eq (by simp)
  have deletedPods := h.deletedPods.eq (by simp)
  obtain ⟨-, -, nodes, -, -, -, -, isDown⟩ := h
  cases k
  cases k'
  rw [mk.injEq]
  exact ⟨nodeStates, pods, nodes, workloadStatuses, nodeStateStatuses, applied, deletedPods, isDown⟩

theorem ChangedBy.nodeStates_eq (h : k.ChangedBy P k')
    (none : ∀ space node, ¬ P (.ensureNodeState space node)) : k'.nodeStates = k.nodeStates :=
  h.nodeStates.eq fun _ ⟨space, node, made, _⟩ => none space node made

theorem ChangedBy.pod_eq (h : k.ChangedBy P k') {key : ObjectKey}
    (spared : ¬ P (.deletePod key.space key.name)) : k'.pods.get? key = k.pods.get? key :=
  (h.pods key).resolve_right fun ⟨made, _⟩ => spared made

end Cluster

/-- These surroundings hold a cluster. A call to it changes it as it should or, where it fails, not at all;
nothing else changes it. What calls are answered is left open. -/
structure Serves {σ : Type} (answer : Surroundings σ) (cluster : σ → Cluster) : Prop where
  call (s : σ) (c : ClusterCall) : cluster (answer s (.cluster c)).2 = cluster s ∨
    cluster (answer s (.cluster c)).2 = ((cluster s).serve c).2
  other (s : σ) {c : Call} (h : ∀ d, c ≠ .cluster d) : cluster (answer s c).2 = cluster s

theorem World.serves : Serves World.answer World.cluster where
  call w c := by
    simp only [answer, answerCluster]
    split
    · exact .inl rfl
    unfold Cluster.answer
    split
    · exact .inl rfl
    · exact .inr rfl
  other w c h := by
    cases c with
    | cluster d => exact absurd rfl (h d)
    | daemon d =>
      simp only [answer, answerDaemon]
      split <;> rfl
    | podCpus | enlist | dismiss => rfl

section Runs

variable {σ : Type} {answer : Surroundings σ} {cluster : σ → Cluster}

theorem Serves.step (serves : Serves answer cluster) {P : ClusterCall → Prop} (s : σ) {c : Call}
    (h : ∀ d, c = .cluster d → d.writes = true → P d) :
    (cluster s).ChangedBy P (cluster (answer s c).2) := by
  by_cases asked : ∃ d, c = .cluster d
  · obtain ⟨d, rfl⟩ := asked
    rcases serves.call s d with same | served
    · exact same ▸ .refl
    · exact served ▸ (cluster s).changedBy_serve (h d rfl)
  · exact serves.other s (fun d heq => asked ⟨d, heq⟩) ▸ .refl

/-- A run changes the cluster only by the calls it makes. -/
theorem Serves.run (serves : Serves answer cluster) {P : ClusterCall → Prop} {α : Type} (p : Pass α)
    (s : σ) (h : ∀ x ∈ (p.run answer s).trace, ∀ d, x.call = .cluster d → d.writes = true → P d) :
    (cluster s).ChangedBy P (cluster (p.run answer s).state) := by
  induction p generalizing s with
  | done a => exact .refl
  | call c next ih =>
    have here := serves.step s (h _ List.mem_cons_self)
    exact here.trans (ih _ _ fun x hx => h x (List.mem_cons_of_mem _ hx))

/-- A run that only asks and calls daemons leaves the cluster as it is. -/
theorem Serves.run_reconciling (serves : Serves answer cluster) {α : Type} {p : Pass α} {s : σ}
    (h : ∀ x ∈ (p.run answer s).trace, x.call.reconciles = true) :
    cluster (p.run answer s).state = cluster s := by
  refine (serves.run p s fun x hx d call writes => ?_).eq
  exact absurd writes (not_writes_of_reconciles (h x hx) call)

end Runs

section Engines

variable {scheme : Scheme} {w : Workload} {n : NodeState} {pod : Pod} {agentPod : String} {t : List Exchange}

theorem makes_remove (scheme : Scheme) (w : Workload) :
    (remove scheme w).run.Makes (·.reconciles = true) :=
  .of_alike (alike_remove scheme w)

theorem AddressFound.reads {node space address : String} (h : AddressFound scheme node space address t)
    {x : Exchange} (hx : x ∈ t) : x.call = .cluster (.pod space (daemonPodName node)) := by
  cases h
  cases List.mem_singleton.mp hx
  rfl

theorem AddressMissing.reads {node space : String} (h : AddressMissing node space t) {x : Exchange}
    (hx : x ∈ t) : x.call = .cluster (.pod space (daemonPodName node)) := by
  cases h <;>
  · cases List.mem_singleton.mp hx
    rfl

/-- A poll talks to the daemon at the address found, and to no other, and writes the status of its own node
state. -/
theorem Polling.calls {r : Except (Report SyncError) NodeStateStatus} (h : Polling scheme n t r) :
    ∃ address, ∀ x ∈ t,
      x.call = .enlist n.node ∨ x.call = .cluster (.pod n.space (daemonPodName n.node)) ∨
      ((x.call = .daemon (.list address) ∨ x.call = .daemon (.cacheReport address)) ∧
        ∃ lookup, lookup ⊆ t ∧ AddressFound scheme n.node n.space address lookup) ∨
      ∃ status, x.call = .cluster (.replaceNodeStateStatus n status) := by
  cases h with
  | unaddressed missing =>
    refine ⟨"", fun x hx => ?_⟩
    rcases List.mem_cons.mp hx with rfl | hx
    · exact .inl rfl
    · exact .inr (.inl (missing.reads hx))
  | @shown address lookup found entries report written =>
    refine ⟨address, fun x hx => ?_⟩
    rcases List.mem_cons.mp hx with rfl | hx
    · exact .inl rfl
    rcases List.mem_append.mp hx with hx | hx
    · exact .inr (.inl (found.reads hx))
    have among (rest : List Exchange) : lookup ⊆ ⟨.enlist n.node, ()⟩ :: (lookup ++ rest) :=
      List.subset_cons_of_subset _ (List.subset_append_left lookup rest)
    simp only [List.mem_cons, List.not_mem_nil, or_false] at hx
    rcases hx with rfl | rfl | rfl
    · exact .inr (.inr (.inl ⟨.inl rfl, lookup, among _, found⟩))
    · exact .inr (.inr (.inl ⟨.inr rfl, lookup, among _, found⟩))
    · exact .inr (.inr (.inr ⟨_, rfl⟩))

/-- The workloads that are derived and to be applied in a run: none if it fails on the way. -/
def derivedIn {σ : Type} (answer : Surroundings σ) (s : σ) (pod : Pod) (agentPod : String) :
    List Workload :=
  let host := (agentHostIp agentPod).run.run answer s
  match host.value with
  | .ok hostIp => (((derive pod hostIp).run.run answer host.state).value.toOption).getD []
  | .error _ => []

/-- Deriving and applying looks for the agent, lists CPUs and applies what it has derived. -/
theorem deriveAndApply_calls {σ : Type} {answer : Surroundings σ} {s : σ} {x : Exchange}
    (hx : x ∈ ((deriveAndApply pod agentPod).run.run answer s).trace) :
    x.call = .cluster (.findPod agentPod) ∨ x.call = .podCpus ∨
      ∃ w ∈ derivedIn answer s pod agentPod, x.call = .cluster (.applyWorkload w) := by
  rcases mem_trace_attemptBind.mp hx with hx | ⟨hostIp, host, hx⟩
  · exact .inl ((makes_agentHostIp agentPod).of_yields (run_yields _ answer s) x hx)
  rcases mem_trace_attemptBind.mp hx with hx | ⟨workloads, derived, hx⟩
  · simp only [ExceptT.run_mk, bind_eq, pure_eq, run_mapped] at hx
    exact .inr (.inl ((makes_derive pod hostIp).of_yields (run_yields _ answer _) x hx))
  · simp only [ExceptT.run_mk, bind_eq, pure_eq, run_mapped] at derived hx
    have known : derivedIn answer s pod agentPod = workloads := by
      let asked := (agentHostIp agentPod).run.run answer s
      cases made : ((derive pod hostIp).run.run answer asked.state).value with
      | error e => simp [asked, made, Except.mapError] at derived
      | ok l =>
        rw [made] at derived
        simp only [derivedIn, host, asked, made]
        exact Except.ok.inj derived
    rw [known]
    rcases mem_trace_attemptBind.mp hx with hx | ⟨-, -, hx⟩
    · exact .inr (.inr ((makes_applications workloads).of_yields (run_yields _ answer _) x hx))
    · cases hx

/-- What is done with a report concerns its workload and the pods that have to go. -/
theorem Acting.calls {report : SyncReport} {r : Except (Report SyncError) Unit} (h : Acting w report t r)
    {x : Exchange} (hx : x ∈ t) : x.call = .cluster (.replaceWorkloadStatus w report.status) ∨
      ∃ e ∈ report.evictions, x.call = e.call := by
  obtain ⟨noted, deletions, rfl, written, ways⟩ := h.ways
  rcases List.mem_append.mp hx with hx | hx
  · have mem : x.call ∈ noted.map (·.call) := List.mem_map_of_mem hx
    rw [written] at mem
    split at mem
    · cases mem
    · exact .inl (List.mem_singleton.mp mem)
  · rcases ways with ⟨-, -, rfl, -⟩ | ⟨-, calls, -⟩
    · cases hx
    · have mem : x.call ∈ deletions.map (·.call) := List.mem_map_of_mem hx
      rw [calls] at mem
      obtain ⟨e, evicted, call⟩ := List.mem_map.mp mem
      exact .inr ⟨e, evicted, call.symm⟩

end Engines

/-- Each kind of pass writes only what is its own. Let any surroundings hold a cluster, and let calls be
answered in any way. Synchronizing and removing leave the whole cluster as it is, and ask it for node
states, pods and nodes only. Polling calls the daemon at the one address found, to list entries and for its
report, and changes in the cluster at most the status of the node state polled. Deriving and applying calls
no daemon and changes at most what is applied for the workloads that it derived. The whole treatment of a
workload changes at most its status and the pods that it evicts. -/
theorem passes_write_what_they_own {σ : Type} {answer : Surroundings σ} {cluster : σ → Cluster}
    (serves : Serves answer cluster) (s : σ) (scheme : Scheme) (w : Workload) (n : NodeState) (pod : Pod)
    (agentPod : String) :
    let synced := (sync scheme w).run.run answer s
    let removed := (remove scheme w).run.run answer s
    let polled := (poll scheme n).run.run answer s
    let applied := (deriveAndApply pod agentPod).run.run answer s
    let treated := (syncAndEvict scheme w).run.run answer s
    ((∀ x ∈ synced.trace, x.call.reconciles = true) ∧ cluster synced.state = cluster s) ∧
    ((∀ x ∈ removed.trace, x.call.reconciles = true) ∧ cluster removed.state = cluster s) ∧
    ((∃ address, ∀ x ∈ polled.trace, ∀ c, x.call = .daemon c →
        (c = .list address ∨ c = .cacheReport address) ∧
        ∃ lookup, lookup ⊆ polled.trace ∧ AddressFound scheme n.node n.space address lookup) ∧
      (cluster s).ChangedBy (fun c => ∃ status, c = .replaceNodeStateStatus n status)
        (cluster polled.state)) ∧
    ((∀ x ∈ applied.trace, x.isDaemon = false) ∧
      (cluster s).ChangedBy (fun c => ∃ wl ∈ derivedIn answer s pod agentPod, c = .applyWorkload wl)
        (cluster applied.state)) ∧
    (cluster s).ChangedBy (fun c => ∃ report, synced.value = .ok report ∧
      (c = .replaceWorkloadStatus w report.status ∨
        ∃ e ∈ report.evictions, c = .deletePod e.space e.pod))
      (cluster treated.state) := by
  intro synced removed polled applied treated
  have syncing := (makes_sync scheme w).of_yields (run_yields _ answer s)
  have removing := (makes_remove scheme w).of_yields (run_yields _ answer s)
  refine ⟨⟨syncing, serves.run_reconciling syncing⟩, ⟨removing, serves.run_reconciling removing⟩,
    ?_, ?_, ?_⟩
  · obtain ⟨address, calls⟩ := (poll_yields (run_yields (poll scheme n).run answer s)).calls
    refine ⟨⟨address, fun x hx c call => ?_⟩, serves.run _ s fun x hx d call writes => ?_⟩
    · rcases calls x hx with other | other | ⟨which, lookup, among, found⟩ | ⟨status, other⟩
      · cases call.symm.trans other
      · cases call.symm.trans other
      · rw [call, Call.daemon.injEq, Call.daemon.injEq] at which
        exact ⟨which, lookup, among, found⟩
      · cases call.symm.trans other
    · rcases calls x hx with other | other | ⟨other | other, -⟩ | ⟨status, other⟩
      all_goals cases call.symm.trans other
      · cases writes
      · exact ⟨status, rfl⟩
  · refine ⟨fun x hx => ?_, serves.run _ s fun x hx d call writes => ?_⟩
    · rcases deriveAndApply_calls hx with call | call | ⟨wl, -, call⟩ <;> simp [Exchange.isDaemon, call]
    · rcases deriveAndApply_calls hx with other | other | ⟨wl, own, other⟩
      all_goals cases call.symm.trans other
      · cases writes
      · exact ⟨wl, own, rfl⟩
  · refine serves.run _ s fun x hx d call writes => ?_
    rw [syncAndEvict_eq] at hx
    rcases mem_trace_attemptBind.mp hx with hx | ⟨report, ended, hx⟩
    · exact absurd writes (not_writes_of_reconciles (syncing x hx) call)
    · refine ⟨report, ended, ?_⟩
      rcases (actOn_yields (run_yields _ answer _)).calls hx with other | ⟨e, evicted, other⟩
      all_goals cases call.symm.trans other
      · exact .inl rfl
      · exact .inr ⟨e, evicted, rfl⟩

/-- Where a node turns an entry down, no node state and no pod but the owner of the entry is touched. -/
theorem passes_write_what_they_own_threeTroubles :
    let w := threeTroubles.world
    let treated := (syncAndEvict .http ofWebPod).run.run World.answer w
    treated.state.cluster.nodeStates = w.cluster.nodeStates ∧ ∀ key, key ≠ ⟨"shop", "web"⟩ →
      treated.state.cluster.pods.get? key = w.cluster.pods.get? key := by
  have evictions : ((sync .http ofWebPod).run.run World.answer threeTroubles.world).value.map
      SyncReport.evictions = .ok [⟨"web", "shop"⟩] := by
    decide +kernel
  obtain ⟨-, -, -, -, changed⟩ := passes_write_what_they_own World.serves threeTroubles.world .http
    ofWebPod (.fresh "n1" "rmd") (guaranteedPod "web" "nginx") "agent"
  refine ⟨changed.nodeStates_eq ?_, fun key other => changed.pod_eq ?_⟩
  · rintro space node ⟨report, -, call | ⟨e, -, call⟩⟩ <;> cases call
  · rintro ⟨report, ended, call | ⟨e, mem, call⟩⟩
    · cases call
    obtain ⟨space, name⟩ := ClusterCall.deletePod.inj call
    rw [ended] at evictions
    rw [Except.ok.inj evictions, List.mem_singleton] at mem
    subst mem
    exact other (congrArg₂ ObjectKey.mk space name)

end CachePartition
