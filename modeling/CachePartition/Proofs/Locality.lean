import CachePartition.Proofs.Talks
import Mathlib.Logic.Function.Basic

/-! Nodes do not influence each other. Where the cluster's answers depend on the question alone and those
of a daemon on what it was called with before, each visit goes as it would go alone, and what is done and
reported about a node depends on that node only. -/
namespace CachePartition

open Pass

/-- The calls made so far to the daemon at each address. -/
abbrev History := String → List DaemonCall

/-- Answers of surroundings without common state. -/
structure LocalAnswers where
  cluster : ClusterAnswers
  /-- The answer of a daemon after the earlier calls at its address. -/
  daemon : List DaemonCall → (c : DaemonCall) → c.Answer
  podCpus : Except IntrospectionError (List PodCpus) := .ok []

namespace LocalAnswers

def answer (l : LocalAnswers) : Surroundings History
  | s, .daemon c => (l.daemon (s c.address) c, Function.update s c.address (s c.address ++ [c]))
  | s, .cluster c => (l.cluster c, s)
  | s, .podCpus => (l.podCpus, s)
  | s, .enlist _ => ((), s)
  | s, .dismiss _ => ((), s)

/-- The daemons at an address answer alike. -/
def SameDaemon (l l' : LocalAnswers) (a : String) : Prop :=
  ∀ earlier c, c.address = a → l.daemon earlier c = l'.daemon earlier c

end LocalAnswers

/-- The call, if it is one to the daemon at the address. -/
def Pass.Exchange.callAt? (a : String) (x : Exchange) : Option DaemonCall :=
  match x.call with
  | .daemon c => if c.address = a then some c else none
  | _ => none

/-- The calls to the daemon at an address, in order. -/
def callsAt (a : String) (t : List Exchange) : List DaemonCall := t.filterMap (Exchange.callAt? a)

section Runs

variable {α ι : Type} {l l' : LocalAnswers} {s s' : History} {a : String} {t : List Exchange}

theorem callsAt_filter (a : String) (t : List Exchange) :
    callsAt a (t.filter Exchange.isDaemon) = callsAt a t := by
  rw [callsAt, List.filterMap_filter, callsAt]
  refine congrArg (List.filterMap · t) (funext fun x => ?_)
  obtain ⟨c, answer⟩ := x
  cases c <;> rfl

theorem callsAt_cons (a : String) (x : Exchange) (t : List Exchange) :
    callsAt a (x :: t) = (x.callAt? a).toList ++ callsAt a t := by
  rw [callsAt, List.filterMap_cons, callsAt]
  cases x.callAt? a <;> rfl

theorem answer_history (s : History) (c : Call) (a : String) :
    (l.answer s c).2 a = s a ++ (Exchange.callAt? a ⟨c, (l.answer s c).1⟩).toList := by
  cases c with
  | daemon c =>
    by_cases h : c.address = a
    · simp [LocalAnswers.answer, Exchange.callAt?, h]
    · simp [LocalAnswers.answer, Exchange.callAt?, h, Function.update_of_ne (Ne.symm h)]
  | _ => exact (List.append_nil _).symm

/-- A run adds to the history of an address the calls that it makes there. -/
theorem run_history (p : Pass α) (s : History) (a : String) :
    (p.run l.answer s).state a = s a ++ callsAt a (p.run l.answer s).trace := by
  induction p generalizing s with
  | done => exact (List.append_nil _).symm
  | call c next ih =>
    simp only [run]
    rw [ih, answer_history, callsAt_cons, List.append_assoc]

/-- A pass that calls the daemon at one address at most makes no calls at others. -/
theorem callsAt_of_makes {p : Pass α} {o : Option String}
    (h : p.Makes fun c => ∃ b, o = some b ∧ c.At b) (other : o ≠ some a) :
    callsAt a (p.run l.answer s).trace = [] := by
  refine List.filterMap_eq_nil_iff.mpr fun x hx => ?_
  obtain ⟨_, rfl, d, called, rfl⟩ := h.of_yields (run_yields p l.answer s) x hx
  have elsewhere : d.address ≠ a := fun heq => other (congrArg some heq)
  simp [Exchange.callAt?, called, elsewhere]

/-- Such a pass comes to the same wherever the daemon at its address answers alike and has been called
alike. -/
theorem run_same {p : Pass α} {o : Option String} (h : p.Makes fun c => ∃ b, o = some b ∧ c.At b)
    (daemon : ∀ b, o = some b → l.SameDaemon l' b) (earlier : ∀ b, o = some b → s b = s' b) :
    (p.run l.answer s).value = (p.run l'.answer s').value ∧
      (p.run l.answer s).trace = (p.run l'.answer s').trace := by
  induction p generalizing s s' with
  | done => exact ⟨rfl, rfl⟩
  | call c next ih =>
    obtain ⟨⟨_, rfl, d, rfl, rfl⟩, rest⟩ := h
    have answers : l.daemon (s d.address) d = l'.daemon (s' d.address) d := by
      rw [daemon _ rfl _ d rfl, earlier _ rfl]
    have after : ∀ b, some d.address = some b →
        (l.answer s (.daemon d)).2 b = (l'.answer s' (.daemon d)).2 b := by
      rintro _ ⟨⟩
      rw [answer_history, answer_history, earlier _ rfl]
      rfl
    have next := ih (l.daemon (s d.address) d) (rest _) after
    simp only [run, LocalAnswers.answer] at next ⊢
    rw [← answers]
    exact ⟨next.1, congrArg _ next.2⟩

/-- Passes that keep to addresses of their own, run one after the other, each come to what they would come
to alone. -/
theorem run_mapM_alone {f : ι → Pass α} {o : ι → Option String} {visits : List ι}
    (each : ∀ v, (f v).Makes fun c => ∃ b, o v = some b ∧ c.At b)
    (apart : visits.Pairwise fun u v => ∀ b, o u = some b → o v ≠ some b) (s : History) :
    ((visits.mapM f).run l.answer s).value = visits.map (fun v => ((f v).run l.answer s).value) ∧
      ((visits.mapM f).run l.answer s).trace =
        visits.flatMap fun v => ((f v).run l.answer s).trace := by
  induction visits generalizing s with
  | nil => exact ⟨rfl, rfl⟩
  | cons v visits ih =>
    obtain ⟨others, apart⟩ := List.pairwise_cons.mp apart
    let after := ((f v).run l.answer s).state
    -- The first pass adds to the history of its own address, which none of the others reads.
    have alone (u : ι) (hu : u ∈ visits) :
        ((f u).run l.answer after).value = ((f u).run l.answer s).value ∧
          ((f u).run l.answer after).trace = ((f u).run l.answer s).trace := by
      refine run_same (each u) (fun _ _ _ _ _ => rfl) fun b hb => ?_
      have away := callsAt_of_makes (l := l) (s := s) (each v) fun hv => others u hu b hv hb
      exact (run_history (f v) s b).trans (by rw [away, List.append_nil])
    obtain ⟨values, traces⟩ := ih apart after
    rw [run_mapM_cons]
    constructor
    · rw [List.map_cons]
      exact congrArg _ (values.trans (List.map_congr_left fun u hu => (alone u hu).1))
    · rw [List.flatMap_cons]
      exact congrArg _ (traces.trans (List.flatMap_congr fun u hu => (alone u hu).2))

end Runs

section Nodes

variable {scheme : Scheme} {w w' : Workload} {l l' : LocalAnswers} {s s' : History}
  {nodeStates nodeStates' : List NodeState} {node : String}

/-- The visits to a node. -/
def Workload.visitsTo (w : Workload) (nodeStates : List NodeState) (node : String) : List Visit :=
  (w.visits nodeStates).filter fun v => v.node = node

/-- A visit as it goes alone. -/
def Visit.alone (l : LocalAnswers) (scheme : Scheme) (w : Workload) (nodeStates : List NodeState)
    (s : History) (v : Visit) : Outcome History Finding :=
  (v.talk l.cluster scheme w (spacesByNode nodeStates)).run l.answer s

/-- A synchronization reports what the visits come to alone, and calls a daemon as they do. -/
theorem sync_alone (listed : l.cluster .nodeStates = .ok nodeStates)
    (apart : AddressesApart l.cluster scheme nodeStates) :
    ((sync scheme w).run.run l.answer s).value = .ok (SyncReport.ofFindings w nodeStates
      ((w.visits nodeStates).map fun v => (v.alone l scheme w nodeStates s).value)) ∧
    ∀ a, callsAt a ((sync scheme w).run.run l.answer s).trace =
      (w.visits nodeStates).flatMap fun v => callsAt a (v.alone l scheme w nodeStates s).trace := by
  obtain ⟨values, traces⟩ := run_mapM_alone (l := l)
    (fun v => v.makes_talk l.cluster scheme w _) apart.visits s
  obtain ⟨value, -, trace⟩ := run_sync l.answer (I := fun _ => True) scheme w
    (fun _ _ _ _ => rfl) (fun _ _ _ => trivial) (s := s) trivial listed
  constructor
  · rw [value, values]
    rfl
  · intro a
    rw [← callsAt_filter, trace, traces, callsAt, List.filterMap_flatMap]
    rfl

/-- What one node has to do with in two synchronizations is the same: its node states, its daemon's pod,
its node object, and how its daemon answers and has been called. -/
structure LocalAnswers.AgreeOn (l l' : LocalAnswers) (scheme : Scheme)
    (nodeStates nodeStates' : List NodeState) (s s' : History) (node : String) : Prop where
  states : nodeStates.filter (fun n => n.node = node) = nodeStates'.filter fun n => n.node = node
  pod : ∀ n ∈ nodeStates, n.node = node → l.cluster (.pod n.space (daemonPodName node)) =
    l'.cluster (.pod n.space (daemonPodName node))
  object : l.cluster (.node node) = l'.cluster (.node node)
  daemon : ∀ n ∈ nodeStates, n.node = node → ∀ a, n.address? l.cluster scheme = some a →
    l.SameDaemon l' a ∧ s a = s' a

theorem get?_spacesByNode (nodeStates : List NodeState) (node : String) :
    (spacesByNode nodeStates).get? node =
      (nodeStates.filter fun n => n.node = node).getLast?.map NodeState.space := by
  induction nodeStates using List.reverseRecOn with
  | nil => rfl
  | append_singleton rest n ih =>
    rw [spacesByNode, List.map_append, List.map_singleton, SortedMap.ofList_concat, List.filter_append]
    by_cases h : node = n.node
    · simp [h]
    · rw [SortedMap.get?_insert_ne _ h, ← spacesByNode, ih]
      simp [Ne.symm h]

theorem Workload.visitsTo_congr (spec : w.spec = w'.spec)
    (states : nodeStates.filter (fun n => n.node = node) = nodeStates'.filter fun n => n.node = node) :
    w.visitsTo nodeStates node = w'.visitsTo nodeStates' node := by
  have others (w : Workload) (nodeStates : List NodeState) :
      ((nodeStates.filter fun n => !w.spec.targets.contains n.node).map Visit.other).filter
        (fun v => v.node = node) =
      ((nodeStates.filter fun n => n.node = node).filter fun n =>
        !w.spec.targets.contains n.node).map Visit.other := by
    rw [List.filter_map, List.filter_filter, List.filter_filter]
    refine congrArg _ (List.filter_congr fun n _ => ?_)
    exact Bool.and_comm _ _
  rw [visitsTo, visits, List.filter_append, others, visitsTo, visits, List.filter_append, others, spec,
    states]

/-- The visits to a node go alike, each alone, where the same is told of the node. -/
theorem alone_same (agree : l.AgreeOn l' scheme nodeStates nodeStates' s s' node)
    (spec : w.spec = w'.spec) (uuid : w.uuid = w'.uuid) {v : Visit}
    (visited : v ∈ w.visitsTo nodeStates node) :
    (v.alone l scheme w nodeStates s).value = (v.alone l' scheme w' nodeStates' s').value ∧
      (v.alone l scheme w nodeStates s).trace = (v.alone l' scheme w' nodeStates' s').trace := by
  obtain ⟨mem, here⟩ := List.mem_filter.mp visited
  obtain rfl : v.node = node := of_decide_eq_true here
  clear visited here
  have space : v.space? (spacesByNode nodeStates) = v.space? (spacesByNode nodeStates') := by
    cases v with
    | target node =>
      simp only [Visit.space?, get?_spacesByNode]
      exact congrArg (fun l => (l.getLast?).map NodeState.space) agree.states
    | other n => rfl
  have pod : ∀ space, v.space? (spacesByNode nodeStates) = some space →
      l.cluster (.pod space (daemonPodName v.node)) = l'.cluster (.pod space (daemonPodName v.node)) := by
    intro space known
    obtain ⟨n, hn, same, rfl⟩ := Workload.state_of_space mem known
    exact agree.pod n hn same
  have talk : v.talk l.cluster scheme w (spacesByNode nodeStates) =
      v.talk l'.cluster scheme w' (spacesByNode nodeStates') :=
    Visit.talk_congr spec uuid space pod agree.object
  have apart := v.makes_talk l.cluster scheme w (spacesByNode nodeStates)
  unfold Visit.alone
  rw [← talk]
  have there : ∀ a, v.address? l.cluster scheme (spacesByNode nodeStates) = some a →
      l.SameDaemon l' a ∧ s a = s' a := by
    intro a found
    obtain ⟨n, hn, same, found⟩ := Workload.state_of_visit mem found
    exact agree.daemon n hn same a found
  exact run_same apart (fun a ha => (there a ha).1) fun a ha => (there a ha).2

theorem alone_node (v : Visit) : (v.alone l scheme w nodeStates s).value.node = v.node :=
  Visit.node_of_talk (run_yields _ _ _)

/-- What is found about a node is what the visits to it come to. -/
theorem findings_about (w : Workload) (nodeStates : List NodeState) (s : History) (node : String) :
    ((w.visits nodeStates).map fun v => (v.alone l scheme w nodeStates s).value).filter
      (fun f => f.node = node) =
    (w.visitsTo nodeStates node).map fun v => (v.alone l scheme w nodeStates s).value := by
  rw [List.filter_map, Workload.visitsTo]
  exact congrArg _ (List.filter_congr fun v _ => by simp [alone_node])

/-- The daemon of a node is called in the visits to the node only. -/
theorem calls_of_visits (apart : AddressesApart l.cluster scheme nodeStates) {n : NodeState}
    (mem : n ∈ nodeStates) {a : String} (found : n.address? l.cluster scheme = some a) :
    ((w.visits nodeStates).flatMap fun v => callsAt a (v.alone l scheme w nodeStates s).trace) =
      (w.visitsTo nodeStates n.node).flatMap fun v =>
        callsAt a (v.alone l scheme w nodeStates s).trace := by
  have elsewhere (v : Visit) (hv : v ∈ w.visits nodeStates) (other : v.node ≠ n.node) :
      callsAt a (v.alone l scheme w nodeStates s).trace = [] := by
    refine callsAt_of_makes (v.makes_talk _ _ _ _) fun there => ?_
    obtain ⟨m, hm, same, there⟩ := Workload.state_of_visit hv there
    exact other (same.symm.trans (congrArg NodeState.node (apart.eq hm mem there found)))
  rw [Workload.visitsTo]
  generalize w.visits nodeStates = visits at elsewhere
  induction visits with
  | nil => rfl
  | cons v visits ih =>
    have ih := ih fun u hu => elsewhere u (List.mem_cons_of_mem _ hu)
    by_cases h : v.node = n.node
    · simp [h, ih]
    · simp [h, ih, elsewhere v List.mem_cons_self h]

theorem SyncReport.mem_failedNodes (found : List Finding) :
    node ∈ (ofFindings w nodeStates found).failedNodes ↔
      (found.filter fun f => f.node = node).any Finding.isMiss = true := by
  simp only [ofFindings_failedNodes, List.mem_map, List.any_eq_true, List.mem_filter,
    decide_eq_true_eq]
  constructor
  · rintro ⟨f, ⟨hf, missed⟩, here⟩
    exact ⟨f, ⟨hf, here⟩, missed⟩
  · rintro ⟨f, ⟨hf, here⟩, missed⟩
    exact ⟨f, ⟨hf, missed⟩, here⟩

/-- Failures of one node never influence another. Let two synchronizations of one specification, name and
namespace run in surroundings without common state, and let each list node states whose daemons are found
at different addresses. About a node of which both are told the same, whose daemon answers and has been
called alike, and of which the same was known before, both come to the same, whatever differs elsewhere.
Both end with a report, the outcome of the node is the same in both, the node is reported as failed by
both or by neither, and its daemon gets the same calls in the same order. -/
theorem nodes_do_not_interfere (name : w.name = w'.name) (space : w.space = w'.space)
    (spec : w.spec = w'.spec) (listed : l.cluster .nodeStates = .ok nodeStates)
    (listed' : l'.cluster .nodeStates = .ok nodeStates')
    (apart : AddressesApart l.cluster scheme nodeStates)
    (apart' : AddressesApart l'.cluster scheme nodeStates')
    (agree : l.AgreeOn l' scheme nodeStates nodeStates' s s' node)
    (known : (w.status.getD {}).nodes.get? node = (w'.status.getD {}).nodes.get? node) :
    let first := (sync scheme w).run.run l.answer s
    let second := (sync scheme w').run.run l'.answer s'
    ∃ report report', first.value = .ok report ∧ second.value = .ok report' ∧
      report.status.nodes.get? node = report'.status.nodes.get? node ∧
      (node ∈ report.failedNodes ↔ node ∈ report'.failedNodes) ∧
      ∀ n ∈ nodeStates, n.node = node → ∀ a, n.address? l.cluster scheme = some a →
        callsAt a first.trace = callsAt a second.trace := by
  have uuid : w.uuid = w'.uuid := by rw [Workload.uuid, name, space, Workload.uuid]
  obtain ⟨value, calls⟩ := sync_alone (w := w) (s := s) listed apart
  obtain ⟨value', calls'⟩ := sync_alone (w := w') (s := s') listed' apart'
  have visits := Workload.visitsTo_congr spec agree.states
  have findings : ((w.visits nodeStates).map fun v =>
        (v.alone l scheme w nodeStates s).value).filter (fun f => f.node = node) =
      ((w'.visits nodeStates').map fun v =>
        (v.alone l' scheme w' nodeStates' s').value).filter fun f => f.node = node := by
    rw [findings_about, findings_about, ← visits]
    exact List.map_congr_left fun v hv => (alone_same agree spec uuid hv).1
  refine ⟨_, _, value, value', ?_, ?_, ?_⟩
  · rw [SyncReport.get?_ofFindings, SyncReport.get?_ofFindings, findings, known, spec]
    simp only [SortedMap.contains, get?_spacesByNode, agree.states]
  · rw [SyncReport.mem_failedNodes, SyncReport.mem_failedNodes, findings]
  · rintro n hn rfl a found
    have hn' : n ∈ nodeStates' := by
      have mem : n ∈ nodeStates.filter fun m => m.node = n.node := List.mem_filter.mpr ⟨hn, by simp⟩
      rw [agree.states] at mem
      exact (List.mem_filter.mp mem).1
    have found' : n.address? l'.cluster scheme = some a := by
      rw [NodeState.address?, ← agree.pod n hn rfl]
      exact found
    rw [calls, calls', calls_of_visits apart hn found, calls_of_visits apart' hn' found', ← visits]
    exact List.flatMap_congr fun v hv => congrArg _ (alone_same agree spec uuid hv).2

end Nodes

/-- A daemon that lists what it was given. -/
def keepingDaemon (earlier : List DaemonCall) : (c : DaemonCall) → c.Answer
  | .list _ => .ok (earlier.filterMap fun
    | .create _ body => some body
    | _ => none)
  | .create _ _ => .ok "Success: 201"
  | .update _ _ _ => .ok "Success: 200"
  | .delete _ _ => .ok ()
  | .cacheReport _ => .error .decode

/-- The cluster of three nodes, with node states for some. -/
def listing (nodeStates : List NodeState) : ClusterAnswers
  | .nodeStates => .ok nodeStates
  | c => (threeNodes.cluster.serve c).1

/-- Two nodes whose daemons are reached. -/
def bothReached : LocalAnswers where
  cluster := listing [.fresh "n1" "rmd", .fresh "n2" "rmd"]
  daemon := keepingDaemon

/-- The first of them with another node, whose daemon is not reached. -/
def oneReached : LocalAnswers where
  cluster := listing [.fresh "n1" "rmd", .fresh "n3" "rmd"]
  daemon earlier c :=
    if c.address = "http://10.0.0.1:8443" then keepingDaemon earlier c
    else c.failed (.transport c.address)

theorem nodes_do_not_interfere_first :
    let first := (sync .http onTwoNodes).run.run bothReached.answer fun _ => []
    let second := (sync .http onTwoNodes).run.run oneReached.answer fun _ => []
    ∃ report report', first.value = .ok report ∧ second.value = .ok report' ∧
      report.status.nodes.get? "n1" = report'.status.nodes.get? "n1" ∧
      callsAt "http://10.0.0.1:8443" first.trace = callsAt "http://10.0.0.1:8443" second.trace := by
  have apart : AddressesApart bothReached.cluster .http [.fresh "n1" "rmd", .fresh "n2" "rmd"] :=
    addressesApart_of_ne (by decide +kernel)
  have apart' : AddressesApart oneReached.cluster .http [.fresh "n1" "rmd", .fresh "n3" "rmd"] :=
    addressesApart_of_ne (by decide +kernel)
  have there : (NodeState.fresh "n1" "rmd").address? bothReached.cluster .http =
      some "http://10.0.0.1:8443" := by decide +kernel
  have first {n : NodeState} (hn : n ∈ [NodeState.fresh "n1" "rmd", .fresh "n2" "rmd"])
      (here : n.node = "n1") : n = .fresh "n1" "rmd" := by
    rcases List.mem_pair.mp hn with rfl | rfl
    · rfl
    · exact absurd here (by decide)
  have agree : bothReached.AgreeOn oneReached .http [.fresh "n1" "rmd", .fresh "n2" "rmd"]
      [.fresh "n1" "rmd", .fresh "n3" "rmd"] (fun _ => []) (fun _ => []) "n1" := {
    states := rfl
    pod := fun _ _ _ => rfl
    object := rfl
    daemon := by
      intro n hn here a found
      obtain rfl := first hn here
      obtain rfl := Option.some.inj (there.symm.trans found)
      exact ⟨fun earlier c hc => (if_pos hc).symm, rfl⟩ }
  obtain ⟨report, report', ended, ended', outcome, -, calls⟩ :=
    nodes_do_not_interfere (w := onTwoNodes) rfl rfl rfl rfl rfl apart apart' agree rfl
  exact ⟨report, report', ended, ended', outcome, calls _ List.mem_cons_self rfl _ there⟩

end CachePartition
