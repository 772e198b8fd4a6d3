import CachePartition.Proofs.Visits
import Mathlib.Data.List.Pairwise

/-! What is left of a pass once the cluster's answers are known: the talk with the daemons. A visit comes
down to its finding, or to a talk with the daemon at one address. -/
namespace CachePartition

open Pass

namespace Pass

variable {α β ε σ : Type}

/-- An answer to each question to the cluster. -/
abbrev ClusterAnswers := (c : ClusterCall) → c.Answer

/-- The pass after it has been told the answers of the cluster. -/
def told (ask : ClusterAnswers) : Pass α → Pass α
  | .done a => .done a
  | .call (.cluster c) next => (next (ask c)).told ask
  | .call c next => .call c fun a => (next a).told ask

/-- A loop runs its first round and then the others. -/
theorem run_mapM_cons (answer : Surroundings σ) (f : α → Pass β) (a : α) (l : List α) (s : σ) :
    ((a :: l).mapM f).run answer s =
      let first := (f a).run answer s
      let rest := (l.mapM f).run answer first.state
      ⟨first.value :: rest.value, rest.state, first.trace ++ rest.trace⟩ := by
  rw [List.mapM_cons]
  simp [run_bind]

section Told

variable {ask : ClusterAnswers}

theorem told_bind (p : Pass α) (f : α → Pass β) :
    (p.bind f).told ask = (p.told ask).bind fun a => (f a).told ask := by
  induction p with
  | done a => rfl
  | call c next ih =>
    cases c with
    | cluster c => exact ih _
    | _ => exact congrArg _ (funext ih)

theorem told_mapM (f : α → Pass β) (l : List α) :
    (l.mapM f).told ask = l.mapM fun a => (f a).told ask := by
  induction l with
  | nil => rfl
  | cons a l ih =>
    simp only [List.mapM_cons, bind_eq, pure_eq, told_bind, ih]
    rfl

theorem told_attemptBind (x : Attempt ε α) (f : α → Attempt ε β) :
    (x >>= f).run.told ask = (x.run.told ask).bind fun
      | .ok a => (f a).run.told ask
      | .error e => .done (.error e) := by
  refine (told_bind x.run _).trans (congrArg _ (funext fun r => ?_))
  cases r <;> rfl

theorem told_orReport {δ : Type} {p : Pass (Except δ α)} {r : Except δ α} (h : p.told ask = .done r)
    (report : δ → Report ε) : (orReport p report).run.told ask = .done (r.mapError report) := by
  refine (told_bind p _).trans ?_
  rw [h]
  rfl

/-- A pass that asks the cluster nothing need not be told anything. -/
theorem Makes.told_eq {p : Pass α} (h : p.Makes fun c => ∃ d, c = .daemon d) : p.told ask = p := by
  induction p with
  | done a => rfl
  | call c next ih =>
    obtain ⟨⟨d, rfl⟩, rest⟩ := h
    exact congrArg _ (funext fun a => ih a (rest a))

/-- In surroundings that answer questions to the cluster in this way and stay as they are, a pass comes to
the same as after it has been told the answers. Of its trace the questions are missing. -/
theorem run_told {answer : Surroundings σ} {I : σ → Prop} {p : Pass α}
    (hp : p.Makes (·.reconciles = true))
    (asked : ∀ s c, I s → c.isQuery = true → answer s (.cluster c) = (ask c, s))
    (kept : ∀ s d, I s → I (answer s (.daemon d)).2) {s : σ} (h : I s) :
    (p.told ask).run answer s =
      { p.run answer s with trace := (p.run answer s).trace.filter Exchange.isDaemon } := by
  induction p generalizing s with
  | done a => rfl
  | call c next ih =>
    obtain ⟨reads, rest⟩ := hp
    cases c with
    | cluster c =>
      simp only [told, run, asked s c h reads]
      rw [ih _ (rest _) h]
      rfl
    | daemon d =>
      simp only [told, run]
      rw [ih _ (rest _) (kept s d h)]
      rfl
    | _ => cases reads

end Told

end Pass

/-- The address of a node's daemon, by the cluster's answer on its pod. -/
def addressTold (scheme : Scheme) (node space : String) (answer : Except ClusterError (Option Pod)) :
    Except (Report SyncError) String :=
  let hostPort : Except (Report ClusterError) String :=
    match answer with
    | .error e => .error ⟨e, []⟩
    | .ok none => .error ⟨.noDaemonPod (daemonPodName node) space, []⟩
    | .ok (some pod) => pod.hostPort.mapError fun e => ⟨e, []⟩
  (hostPort.map (daemonBase scheme)).mapError fun r => r.underCluster (.daemonAddress node)

/-- The cores of a workload on a node, by the cluster's answer on the node. -/
def coresTold (spec : WorkloadSpec) (node : String) (answer : Except ClusterError (Option Node)) :
    Except (Report SyncError) (List String) :=
  match spec.coreSelection with
  | .explicit cores => .ok cores
  | .allExcept reserved =>
    match answer with
    | .error e => .error ⟨.nodeCores node, [.cluster e]⟩
    | .ok none => .error ⟨.nodeCores node, [.cluster (.noNode node)]⟩
    | .ok (some object) =>
      match object.cpuCount? with
      | none => .error ⟨.nodeCores node, [.cluster (.noCpuCapacity node)]⟩
      | some count => .ok (CoreSelection.resolve count (.allExcept reserved))

section Lookups

variable {ask : ClusterAnswers}

theorem told_daemonAddress (scheme : Scheme) (node space : String) :
    (daemonAddress scheme node space).run.told ask =
      .done (addressTold scheme node space (ask (.pod space (daemonPodName node)))) := by
  refine (told_bind (daemonHostPort node space).run _).trans ?_
  have asked : (perform (.cluster (.pod space (daemonPodName node)))).told ask =
      .done (ask (.pod space (daemonPodName node))) := rfl
  rw [daemonHostPort, told_attemptBind, told_orReport asked]
  cases ask (.pod space (daemonPodName node)) with
  | error e => rfl
  | ok pod? =>
    cases pod? with
    | none => rfl
    | some pod =>
      simp only [done_bind, Except.mapError, addressTold]
      cases pod.hostPort <;> rfl

theorem told_resolveCores (spec : WorkloadSpec) (node : String) :
    (resolveCores spec node).run.told ask = .done (coresTold spec node (ask (.node node))) := by
  unfold resolveCores coresTold
  cases spec.coreSelection with
  | explicit cores => rfl
  | allExcept reserved =>
    have asked : (perform (.cluster (.node node))).told ask = .done (ask (.node node)) := rfl
    simp only [nodeCpus, told_attemptBind, told_orReport asked]
    cases ask (.node node) with
    | error e => rfl
    | ok object? =>
      cases object? with
      | none => rfl
      | some object =>
        simp only [done_bind, Except.mapError]
        cases object.cpuCount? <;> rfl

end Lookups

/-- The call is one to the daemon at this address. -/
def Call.At (a : String) (c : Call) : Prop := ∃ d : DaemonCall, c = .daemon d ∧ d.address = a

section Daemon

variable {node address uuid : String} {body : Entry}

theorem makes_listEntries : (listEntries node address).run.Makes (Call.At address) :=
  .orReport (.perform ⟨_, rfl, rfl⟩)

theorem makes_createEntry : (createEntry node address body).run.Makes (Call.At address) := by
  refine Makes.attemptBind (.lift (.perform ⟨_, rfl, rfl⟩)) fun _ answer _ => ?_
  rcases answer with e | response
  · cases e <;> trivial
  · refine Makes.attemptBind makes_listEntries fun _ _ _ => ?_
    split <;> trivial

theorem makes_settleEntry : (settleEntry node address body).run.Makes (Call.At address) := by
  refine Makes.attemptBind makes_listEntries fun _ _ _ => ?_
  split
  · exact Makes.attemptBind (.orReport (.perform ⟨_, rfl, rfl⟩)) fun _ _ _ => trivial
  · exact makes_createEntry

theorem makes_dropEntry : (dropEntry node address uuid).run.Makes (Call.At address) := by
  refine Makes.attemptBind makes_listEntries fun _ _ _ => ?_
  split
  · trivial
  · exact Makes.attemptBind (.orReport (.perform ⟨_, rfl, rfl⟩)) fun _ _ _ => trivial

theorem Pass.Makes.told_at {α : Type} {p : Pass α} (h : p.Makes (Call.At address))
    (ask : ClusterAnswers) : p.told ask = p :=
  (h.imp fun _ ⟨d, heq, _⟩ => ⟨d, heq⟩).told_eq

end Daemon

namespace Visit

variable (ask : ClusterAnswers) (scheme : Scheme) (w : Workload) (spaces : TextMap String)

/-- The namespace in which the daemon of the node is looked for. -/
def space? : Visit → Option String
  | .target node => spaces.get? node
  | .other n => some n.space

/-- Where the daemon of the node is reached. -/
def address? (v : Visit) : Option String :=
  (v.space? spaces).bind fun space =>
    (addressTold scheme v.node space (ask (.pod space (daemonPodName v.node)))).toOption

/-- The visit after the cluster's answers have been told. -/
def talk (v : Visit) : Pass Finding := (v.pass scheme w spaces).told ask

/-- What a talk can be: nothing, if something is not found, or one that settles or drops the entry at the
address of the node. -/
inductive Talks : Visit → Pass Finding → Prop where
  | lost (node : String) (report : Report SyncError) :
    Talks (.target node) (.done (.brought node (.error report)))
  | settle {node a : String} {cores : List String}
      (found : (Visit.target node).address? ask scheme spaces = some a) :
    Talks (.target node) ((settleEntry node a (.ofSpec w.uuid cores w.spec)).run.bind fun result =>
      .done (.brought node result))
  | missing (n : NodeState) (report : Report SyncError) :
    Talks (.other n) (.done (.swept n.node (.error report)))
  | drop {n : NodeState} {a : String} (found : (Visit.other n).address? ask scheme spaces = some a) :
    Talks (.other n) ((dropEntry n.node a w.uuid).run.bind fun result =>
      .done (.swept n.node result))

variable {ask scheme w spaces}

theorem talk_unknown {node : String} (h : spaces.get? node = none) :
    (Visit.target node).talk ask scheme w spaces =
      .done (.brought node (.error ⟨.noNodeState node, []⟩)) := by
  simp only [talk, pass, h, told]

theorem talk_target {node space : String} (h : spaces.get? node = some space) :
    (Visit.target node).talk ask scheme w spaces =
      match addressTold scheme node space (ask (.pod space (daemonPodName node))) with
      | .error e => .done (.brought node (.error e))
      | .ok a =>
        match coresTold w.spec node (ask (.node node)) with
        | .error e => .done (.brought node (.error e))
        | .ok cores => (settleEntry node a (.ofSpec w.uuid cores w.spec)).run.bind fun result =>
          .done (.brought node result) := by
  simp only [talk, pass, h, told_bind, syncNode_eq, told_attemptBind, told_daemonAddress,
    told_resolveCores, makes_settleEntry.told_at, told]
  cases addressTold scheme node space (ask (.pod space (daemonPodName node))) with
  | error e => rfl
  | ok a => cases coresTold w.spec node (ask (.node node)) <;> rfl

theorem talk_other {n : NodeState} : (Visit.other n).talk ask scheme w spaces =
    match addressTold scheme n.node n.space (ask (.pod n.space (daemonPodName n.node))) with
    | .error e => .done (.swept n.node (.error e))
    | .ok a => (dropEntry n.node a w.uuid).run.bind fun result => .done (.swept n.node result) := by
  simp only [talk, pass, told_bind, removeFromNode_eq, told_attemptBind, told_daemonAddress,
    makes_dropEntry.told_at, told]
  cases addressTold scheme n.node n.space (ask (.pod n.space (daemonPodName n.node))) <;> rfl

theorem talks (v : Visit) : Talks ask scheme w spaces v (v.talk ask scheme w spaces) := by
  cases v with
  | target node =>
    cases known : spaces.get? node with
    | none => exact talk_unknown known ▸ .lost node _
    | some space =>
      rw [talk_target known]
      cases found : addressTold scheme node space (ask (.pod space (daemonPodName node))) with
      | error e => exact .lost node e
      | ok a =>
        cases coresTold w.spec node (ask (.node node)) with
        | error e => exact .lost node e
        | ok cores => exact .settle (by simp [address?, space?, known, Visit.node, found, Except.toOption])
  | other n =>
    rw [talk_other]
    cases found : addressTold scheme n.node n.space (ask (.pod n.space (daemonPodName n.node))) with
    | error e => exact .missing n e
    | ok a => exact .drop (by simp [address?, space?, Visit.node, found, Except.toOption])

variable (ask scheme w spaces) in
/-- A visit talks only to the daemon at the address of its node. -/
theorem makes_talk (v : Visit) : (v.talk ask scheme w spaces).Makes
    fun c => ∃ a, v.address? ask scheme spaces = some a ∧ c.At a := by
  generalize h : v.talk ask scheme w spaces = p
  have talks : Talks ask scheme w spaces v p := h ▸ v.talks
  cases talks with
  | lost | missing => trivial
  | settle found =>
    exact (makes_settleEntry.imp fun _ at_ => ⟨_, found, at_⟩).bind fun _ _ _ => trivial
  | drop found =>
    exact (makes_dropEntry.imp fun _ at_ => ⟨_, found, at_⟩).bind fun _ _ _ => trivial

/-- What a visit finds is about its node. -/
theorem node_of_talk {v : Visit} {t : List Exchange} {f : Finding}
    (h : (v.talk ask scheme w spaces).Yields t f) : f.node = v.node := by
  generalize same : v.talk ask scheme w spaces = p at h
  have talks : Talks ask scheme w spaces v p := same ▸ v.talks
  cases talks with
  | lost | missing =>
    obtain ⟨-, rfl⟩ := h.of_done
    rfl
  | settle found | drop found =>
    obtain ⟨r, t₁, t₂, -, last, -⟩ := h.of_bind
    obtain ⟨-, rfl⟩ := last.of_done
    rfl

/-- The talk depends on the specification, on the id of the workload and on what is told of the node. -/
theorem talk_congr {ask' : ClusterAnswers} {w' : Workload} {spaces' : TextMap String} {v : Visit}
    (spec : w.spec = w'.spec) (uuid : w.uuid = w'.uuid) (same : v.space? spaces = v.space? spaces')
    (pod : ∀ space, v.space? spaces = some space →
      ask (.pod space (daemonPodName v.node)) = ask' (.pod space (daemonPodName v.node)))
    (object : ask (.node v.node) = ask' (.node v.node)) :
    v.talk ask scheme w spaces = v.talk ask' scheme w' spaces' := by
  cases v with
  | target node =>
    simp only [space?, Visit.node] at same pod object
    cases known : spaces.get? node with
    | none => rw [talk_unknown known, talk_unknown (same ▸ known)]
    | some space =>
      rw [talk_target known, talk_target (same ▸ known), pod space known, object, spec, uuid]
  | other n =>
    simp only [Visit.node] at pod
    rw [talk_other, talk_other, pod n.space rfl, uuid]

end Visit

theorem told_sync {ask : ClusterAnswers} {nodeStates : List NodeState} (scheme : Scheme) (w : Workload)
    (listed : ask .nodeStates = .ok nodeStates) : (sync scheme w).run.told ask =
      ((w.visits nodeStates).mapM (Visit.talk ask scheme w (spacesByNode nodeStates))).bind
        fun found => .done (.ok (SyncReport.ofFindings w nodeStates found)) := by
  have asked : (perform (.cluster .nodeStates)).told ask = .done (ask .nodeStates) := rfl
  rw [sync_eq, listNodeStates, told_attemptBind, told_orReport asked, listed]
  refine (told_bind _ _).trans ?_
  rw [told_bind, told_mapM, Pass.bind_assoc]
  rfl

/-- A synchronization in surroundings that answer the cluster's questions in one way comes to the talks of
its visits, one after the other. -/
theorem run_sync {σ : Type} (answer : Surroundings σ) {I : σ → Prop} {ask : ClusterAnswers}
    {nodeStates : List NodeState} (scheme : Scheme) (w : Workload)
    (asked : ∀ s c, I s → c.isQuery = true → answer s (.cluster c) = (ask c, s))
    (kept : ∀ s d, I s → I (answer s (.daemon d)).2) {s : σ} (h : I s)
    (listed : ask .nodeStates = .ok nodeStates) :
    let talks :=
      ((w.visits nodeStates).mapM (Visit.talk ask scheme w (spacesByNode nodeStates))).run answer s
    let synced := (sync scheme w).run.run answer s
    synced.value = .ok (SyncReport.ofFindings w nodeStates talks.value) ∧
      synced.state = talks.state ∧ synced.trace.filter Exchange.isDaemon = talks.trace := by
  have told := run_told (makes_sync scheme w) asked kept h
  rw [told_sync scheme w listed, run_bind] at told
  refine ⟨(congrArg Outcome.value told).symm, (congrArg Outcome.state told).symm, ?_⟩
  exact (congrArg Outcome.trace told).symm.trans (List.append_nil _)

/-- Where the daemon of a node state is reached. -/
def NodeState.address? (ask : ClusterAnswers) (scheme : Scheme) (n : NodeState) : Option String :=
  (addressTold scheme n.node n.space (ask (.pod n.space (daemonPodName n.node)))).toOption

/-- Node states have their daemons, where they are found, at different addresses. -/
def AddressesApart (ask : ClusterAnswers) (scheme : Scheme) (nodeStates : List NodeState) : Prop :=
  nodeStates.Pairwise fun m n => ∀ a, m.address? ask scheme = some a → n.address? ask scheme ≠ some a

section Addresses

variable {ask : ClusterAnswers} {scheme : Scheme} {w : Workload} {nodeStates : List NodeState} {a : String}

theorem addressesApart_of_ne
    (h : nodeStates.Pairwise fun m n => m.address? ask scheme ≠ n.address? ask scheme) :
    AddressesApart ask scheme nodeStates :=
  h.imp fun ne _ there here => ne (there.trans here.symm)

theorem AddressesApart.eq (apart : AddressesApart ask scheme nodeStates) {m n : NodeState}
    (hm : m ∈ nodeStates) (hn : n ∈ nodeStates) (found : m.address? ask scheme = some a)
    (found' : n.address? ask scheme = some a) : m = n := by
  by_contra ne
  have : Std.Symm fun m n : NodeState =>
      ∀ a, m.address? ask scheme = some a → n.address? ask scheme ≠ some a :=
    ⟨fun _ _ h a there here => h a here there⟩
  exact List.Pairwise.forall apart hm hn ne a found found'

/-- The daemon of a visited node is looked for in the namespace of one of its node states. -/
theorem Workload.state_of_space {v : Visit} {space : String} (mem : v ∈ w.visits nodeStates)
    (known : v.space? (spacesByNode nodeStates) = some space) :
    ∃ n ∈ nodeStates, n.node = v.node ∧ n.space = space := by
  cases v with
  | target node => exact mem_of_spacesByNode known
  | other n =>
    simp only [Workload.visits, List.mem_append, List.mem_map] at mem
    rcases mem with ⟨_, -, heq⟩ | ⟨m, hm, heq⟩
    · cases heq
    · cases heq
      exact ⟨n, (List.mem_filter.mp hm).1, rfl, Option.some.inj known⟩

theorem Workload.state_of_visit {v : Visit} (mem : v ∈ w.visits nodeStates)
    (found : v.address? ask scheme (spacesByNode nodeStates) = some a) :
    ∃ n ∈ nodeStates, n.node = v.node ∧ n.address? ask scheme = some a := by
  obtain ⟨space, known, told⟩ := Option.bind_eq_some_iff.mp found
  obtain ⟨n, hn, same, rfl⟩ := state_of_space mem known
  exact ⟨n, hn, same, by rwa [NodeState.address?, same]⟩

/-- No two visits go to one address. -/
theorem AddressesApart.visits (apart : AddressesApart ask scheme nodeStates) :
    (w.visits nodeStates).Pairwise fun u v => ∀ a,
      u.address? ask scheme (spacesByNode nodeStates) = some a →
        v.address? ask scheme (spacesByNode nodeStates) ≠ some a := by
  have differ {u v : Visit} (hu : u ∈ w.visits nodeStates) (hv : v ∈ w.visits nodeStates)
      (ne : u.node ≠ v.node) (a : String)
      (found : u.address? ask scheme (spacesByNode nodeStates) = some a) :
      v.address? ask scheme (spacesByNode nodeStates) ≠ some a := by
    intro found'
    obtain ⟨m, hm, hnode, there⟩ := Workload.state_of_visit hu found
    obtain ⟨n, hn, hnode', there'⟩ := Workload.state_of_visit hv found'
    exact ne (hnode ▸ hnode' ▸ congrArg NodeState.node (apart.eq hm hn there there'))
  have isTarget {node : String} (h : node ∈ w.spec.targets.toList) :
      Visit.target node ∈ w.visits nodeStates :=
    List.mem_append_left _ (List.mem_map_of_mem h)
  have isOther {n : NodeState} (h : n ∈ nodeStates.filter fun n => !w.spec.targets.contains n.node) :
      Visit.other n ∈ w.visits nodeStates :=
    List.mem_append_right _ (List.mem_map_of_mem h)
  refine List.pairwise_append.mpr ⟨?_, ?_, ?_⟩
  · refine List.pairwise_map.mpr (w.spec.targets_nodup.imp_of_mem fun hm hn ne => ?_)
    exact differ (isTarget hm) (isTarget hn) ne
  · exact List.pairwise_map.mpr (List.Pairwise.filter _ apart)
  · intro u hu v hv
    obtain ⟨node, hnode, rfl⟩ := List.mem_map.mp hu
    obtain ⟨n, hn, rfl⟩ := List.mem_map.mp hv
    refine differ (isTarget hnode) (isOther hn) ?_
    rintro (rfl : node = n.node)
    have targeted : w.spec.targets.contains n.node = true :=
      (w.spec.contains_targets _).mpr ((w.spec.mem_targets _).mp hnode)
    simpa [targeted] using (List.mem_filter.mp hn).2

end Addresses

end CachePartition
