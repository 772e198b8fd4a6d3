import CachePartition.Proofs.Visits

/-! What a synchronization records in the status of its workload, whatever it is answered. The trace falls
into parts, one for each node dealt with, and what was exchanged in the part of a node settles what is
recorded of it. -/
namespace CachePartition

open Pass

/-- What dealing with a target can come to, with these node states listed. -/
inductive Targeting (scheme : Scheme) (w : Workload) (nodeStates : List NodeState) (node : String) :
    List Exchange → Except String NodeResult → Prop where
  | unknown (h : ∀ n ∈ nodeStates, n.node ≠ node) :
    Targeting scheme w nodeStates node [] (.error (SyncError.noNodeState node).message)
  | known {n : NodeState} {part : List Exchange} {result : Except String NodeResult}
      (mem : n ∈ nodeStates) (named : n.node = node)
      (bringing : Bringing scheme w node n.space part result) :
    Targeting scheme w nodeStates node part result

/-- The outcome after a pass. Of the known one, a failure changes the response only. -/
def NodeOutcome.revised (known : NodeOutcome) : Except String NodeResult → NodeOutcome
  | .ok result => result.outcome
  | .error text => { known with response := text }

theorem mem_keys_iff {m : TextMap NodeOutcome} {node : String} :
    node ∈ m.keys ↔ (m.get? node).isSome = true :=
  SortedMap.contains_iff_mem_keys.symm

section Records

variable {scheme : Scheme} {w : Workload} {nodeStates : List NodeState} {node : String}
  {t : List Exchange} {f : Finding}

theorem target_record
    (h : ((Visit.target node).pass scheme w (spacesByNode nodeStates)).Yields t f) :
    f.node = node ∧ ∃ result, Targeting scheme w nodeStates node t result ∧
      ∀ known, f.outcome? known = some ((known.getD {}).revised result) := by
  rcases target_yields h with ⟨unknown, rfl, rfl⟩ | ⟨space, r, known, made, rfl⟩
  · exact ⟨rfl, _, .unknown (spacesByNode_eq_none_iff.mp unknown), fun _ => rfl⟩
  · obtain ⟨n, mem, named, rfl⟩ := mem_of_spacesByNode known
    refine ⟨rfl, _, .known mem named (syncNode_yields made), fun known => ?_⟩
    cases r <;> rfl

theorem other_record {n : NodeState} {spaces : TextMap String}
    (h : ((Visit.other n).pass scheme w spaces).Yields t f) :
    f.node = n.node ∧ Sweeping scheme w.uuid n.node n.space t f.isMiss ∧
      ∀ known, f.outcome? known = if f.isMiss then known else none := by
  obtain ⟨r, made, rfl⟩ := other_yields h
  refine ⟨rfl, removeFromNode_yields made, fun known => ?_⟩
  cases r <;> rfl

/-- Where keys are distinct, what goes with the members of a list goes with their keys. -/
theorem exists_byKey {α β κ : Type} [DecidableEq κ] [Nonempty β] {R : α → β → Prop} {key : α → κ}
    {l : List α} {m : List β} (h : List.Forall₂ R l m) (distinct : (l.map key).Nodup) :
    ∃ f : κ → β, m = (l.map key).map f ∧ ∀ a ∈ l, R a (f (key a)) := by
  induction h with
  | nil => exact ⟨fun _ => Classical.arbitrary β, rfl, fun _ h => nomatch h⟩
  | @cons a b l m head _ ih =>
    rw [List.map_cons, List.nodup_cons] at distinct
    obtain ⟨fresh, distinct⟩ := distinct
    obtain ⟨f, rfl, each⟩ := ih distinct
    have other {k : κ} (hk : k ∈ l.map key) : k ≠ key a := fun heq => fresh (heq ▸ hk)
    refine ⟨Function.update f (key a) b, ?_, fun a' ha' => ?_⟩
    · rw [List.map_cons, List.map_cons, Function.update_self]
      refine congrArg (b :: ·) (List.map_congr_left fun k hk => ?_)
      rw [Function.update_of_ne (other hk)]
    · rcases List.mem_cons.mp ha' with rfl | ha'
      · rwa [Function.update_self]
      · rw [Function.update_of_ne (other (List.mem_map_of_mem ha'))]
        exact each a' ha'

theorem WorkloadSpec.others_eq (s : WorkloadSpec) (nodeStates : List NodeState) :
    (nodeStates.filter fun n => !s.targets.contains n.node) =
      nodeStates.filter fun n => n.node ∉ s.nodes := by
  refine List.filter_congr fun n _ => ?_
  have same : s.targets.contains n.node = decide (n.node ∈ s.nodes) := by
    rw [Bool.eq_iff_iff, s.contains_targets, decide_eq_true_eq]
  rw [decide_not, same]

theorem visits_nodes : (w.visits nodeStates).map Visit.node = w.spec.targets.toList ++
    (nodeStates.filter fun n => n.node ∉ w.spec.nodes).map NodeState.node := by
  rw [Workload.visits, List.map_append, List.map_map, List.map_map, w.spec.others_eq]
  exact congrArg (· ++ _) (List.map_id' _)

theorem target_mem_visits : Visit.target node ∈ w.visits nodeStates ↔ node ∈ w.spec.nodes := by
  simp [Workload.visits, w.spec.mem_targets]

theorem other_mem_visits {n : NodeState} :
    Visit.other n ∈ w.visits nodeStates ↔ n ∈ nodeStates ∧ n.node ∉ w.spec.nodes := by
  simp [Workload.visits, ← w.spec.contains_targets]

theorem mem_visits_nodes : node ∈ (w.visits nodeStates).map Visit.node ↔
    node ∈ w.spec.nodes ∨ ∃ n ∈ nodeStates, n.node = node := by
  rw [visits_nodes, List.mem_append, w.spec.mem_targets]
  by_cases target : node ∈ w.spec.nodes
  · simp only [target, true_or]
  · simp only [target, false_or, List.mem_map, List.mem_filter, decide_eq_true_eq]
    constructor
    · rintro ⟨n, ⟨mem, -⟩, named⟩
      exact ⟨n, mem, named⟩
    · rintro ⟨n, mem, rfl⟩
      exact ⟨n, ⟨mem, target⟩, rfl⟩

theorem visits_nodes_nodup (distinct : (nodeStates.map NodeState.node).Nodup) :
    ((w.visits nodeStates).map Visit.node).Nodup := by
  rw [visits_nodes, List.nodup_append]
  refine ⟨w.spec.targets_nodup, distinct.sublist (List.filter_sublist.map _), ?_⟩
  rintro a ha b hb rfl
  obtain ⟨n, hn, rfl⟩ := List.mem_map.mp hb
  exact of_decide_eq_true (List.mem_filter.mp hn).2 ((w.spec.mem_targets _).mp ha)

/-- Of findings about different nodes one at most is about this one. -/
theorem filter_findings {nodes : List String} {f : String → Finding} (distinct : nodes.Nodup)
    (own : ∀ node ∈ nodes, (f node).node = node) (node : String) :
    (nodes.map f).filter (fun g => g.node = node) = if node ∈ nodes then [f node] else [] := by
  have picked : nodes.filter ((fun g : Finding => decide (g.node = node)) ∘ f) =
      nodes.filter (· = node) :=
    List.filter_congr fun x hx => by rw [Function.comp_apply, own x hx]
  rw [List.filter_map, picked, List.filter_eq, distinct.count]
  split <;> rfl

/-- What a report says of the nodes that were visited, and of those that were not. -/
theorem get?_ofFindings_byNode {f : String → Finding} (distinct : (nodeStates.map NodeState.node).Nodup)
    (own : ∀ v ∈ w.visits nodeStates, (f v.node).node = v.node) (node : String) :
    let found := ((w.visits nodeStates).map Visit.node).map f
    (SyncReport.ofFindings w nodeStates found).status.nodes.get? node =
      if node ∈ (w.visits nodeStates).map Visit.node then
        (f node).outcome? ((w.status.getD {}).nodes.get? node)
      else none := by
  intro found
  have about := filter_findings (visits_nodes_nodup (w := w) distinct) (f := f)
    (by simpa using own) node
  have kept : (w.spec.targets.contains node || (spacesByNode nodeStates).contains node) = true ↔
      node ∈ (w.visits nodeStates).map Visit.node := by
    rw [Bool.or_eq_true, w.spec.contains_targets, contains_spacesByNode, mem_visits_nodes]
  rw [SyncReport.get?_ofFindings, about]
  by_cases visited : node ∈ (w.visits nodeStates).map Visit.node
  · rw [if_pos visited, if_pos visited, if_pos (kept.mpr visited)]
    rfl
  · rw [if_neg visited, if_neg visited, if_neg (mt kept.mp visited)]

/-- A synchronization that ends with a report comes to one round for each node that is visited, and the
report says of a node what its round makes of the outcome known. -/
theorem sync_byNode {report : SyncReport} (h : (sync scheme w).run.Yields t (.ok report)) :
    ∃ nodeStates, t.head? = some ⟨.cluster .nodeStates, .ok nodeStates⟩ ∧
      ((nodeStates.map NodeState.node).Nodup → ∃ round : String → List Exchange × Finding,
        t = ⟨.cluster .nodeStates, .ok nodeStates⟩ ::
          ((w.visits nodeStates).map Visit.node).flatMap (fun node => (round node).1) ∧
        (∀ v ∈ w.visits nodeStates,
          (v.pass scheme w (spacesByNode nodeStates)).Yields (round v.node).1 (round v.node).2) ∧
        ∀ node, report.status.nodes.get? node =
          if node ∈ (w.visits nodeStates).map Visit.node then
            (round node).2.outcome? ((w.status.getD {}).nodes.get? node)
          else none) := by
  rcases sync_visits h with ⟨-, e, failed⟩ | ⟨nodeStates, rounds, rfl, reported, each⟩
  · cases failed
  refine ⟨nodeStates, rfl, fun distinct => ?_⟩
  have : Nonempty (List Exchange × Finding) := ⟨[], .swept "" (.ok false)⟩
  obtain ⟨round, rfl, made⟩ := exists_byKey each (visits_nodes_nodup distinct)
  refine ⟨round, ?_, made, fun node => ?_⟩
  · rw [List.map_map, List.flatMap_def]
    rfl
  · have own (v : Visit) (hv : v ∈ w.visits nodeStates) : (round v.node).2.node = v.node := by
      cases v with
      | target node => exact (target_record (made _ hv)).1
      | other n => exact (other_record (made _ hv)).1
    rw [Except.ok.inj reported, List.map_map]
    exact get?_ofFindings_byNode distinct own node

end Records

/-- The status of a synchronization keeps the books exactly, whatever is answered. Let the node states
listed be of different nodes. After the listing the trace is made of one part for each target and for the
node of each other node state. The status reported has an outcome for the targets, and for those other
nodes known before whose sweep failed; what is known of the latter is kept as it was. The outcome of a
target is built anew from what its part shows, unless that shows a failure: then the known one is kept but
for the response, which tells what the daemon said, or else at which step the pass was. -/
theorem status_books_pass {σ : Type} {answer : Surroundings σ} {s : σ} {scheme : Scheme} {w : Workload}
    {nodeStates : List NodeState} {report : SyncReport}
    (ended : ((sync scheme w).run.run answer s).value = .ok report)
    (listed : ((sync scheme w).run.run answer s).trace.head? =
      some ⟨.cluster .nodeStates, .ok nodeStates⟩)
    (distinct : (nodeStates.map NodeState.node).Nodup) :
    let before := (w.status.getD {}).nodes
    let after := report.status.nodes
    let others := nodeStates.filter fun n => n.node ∉ w.spec.nodes
    ∃ (part : String → List Exchange) (failed : String → Bool),
      ((sync scheme w).run.run answer s).trace = ⟨.cluster .nodeStates, .ok nodeStates⟩ ::
        (w.spec.targets.toList ++ others.map NodeState.node).flatMap part ∧
      (∀ node, node ∈ after.keys ↔ node ∈ w.spec.nodes ∨ (node ∉ w.spec.nodes ∧
        node ∈ before.keys ∧ (∃ n ∈ nodeStates, n.node = node) ∧ failed node = true)) ∧
      (∀ node ∈ w.spec.nodes, ∃ result, Targeting scheme w nodeStates node (part node) result ∧
        after.get? node = some ((before.getD node {}).revised result)) ∧
      (∀ n ∈ others, Sweeping scheme w.uuid n.node n.space (part n.node) (failed n.node)) ∧
      ∀ node ∈ after.keys, node ∉ w.spec.nodes → after.get? node = before.get? node := by
  intro before after others
  obtain ⟨listing, shown, rounds⟩ := sync_byNode (ended ▸ run_yields (sync scheme w).run answer s)
  obtain rfl : nodeStates = listing := by
    injection Option.some.inj (listed.symm.trans shown) with _ same
    exact Except.ok.inj same
  obtain ⟨round, trace, made, outcomes⟩ := rounds distinct
  have targeted {node : String} (target : node ∈ w.spec.nodes) : ∃ result,
      Targeting scheme w nodeStates node (round node).1 result ∧
        after.get? node = some ((before.getD node {}).revised result) := by
    obtain ⟨-, result, targeting, outcome⟩ := target_record (made _ (target_mem_visits.mpr target))
    have visited := mem_visits_nodes.mpr (.inl target : _ ∨ ∃ n ∈ nodeStates, n.node = node)
    exact ⟨result, targeting, (outcomes node).trans ((if_pos visited).trans (outcome _))⟩
  have swept {n : NodeState} (mem : n ∈ nodeStates) (other : n.node ∉ w.spec.nodes) :
      Sweeping scheme w.uuid n.node n.space (round n.node).1 (round n.node).2.isMiss ∧
        after.get? n.node = if (round n.node).2.isMiss then before.get? n.node else none := by
    obtain ⟨-, sweeping, outcome⟩ := other_record (made _ (other_mem_visits.mpr ⟨mem, other⟩))
    have visited := mem_visits_nodes.mpr (.inr ⟨n, mem, rfl⟩ : n.node ∈ w.spec.nodes ∨ _)
    exact ⟨sweeping, (outcomes n.node).trans ((if_pos visited).trans (outcome _))⟩
  have dropped {node : String} (other : node ∉ w.spec.nodes)
      (unstated : ¬ ∃ n ∈ nodeStates, n.node = node) : after.get? node = none :=
    (outcomes node).trans (if_neg fun visited => (mem_visits_nodes.mp visited).elim other unstated)
  refine ⟨fun node => (round node).1, fun node => (round node).2.isMiss, ?_, fun node => ?_,
    fun node => targeted, fun n hn => ?_, fun node kept other => ?_⟩
  · rw [trace, visits_nodes]
  · rw [mem_keys_iff, mem_keys_iff]
    by_cases target : node ∈ w.spec.nodes
    · obtain ⟨result, -, outcome⟩ := targeted target
      simp [target, outcome]
    by_cases stated : ∃ n ∈ nodeStates, n.node = node
    · obtain ⟨n, mem, rfl⟩ := stated
      have stated : ∃ m ∈ nodeStates, m.node = n.node := ⟨n, mem, rfl⟩
      rw [(swept mem target).2]
      cases failed : (round n.node).2.isMiss <;> simp [target, stated, failed]
    · simp [dropped target stated, target, stated]
  · obtain ⟨mem, other⟩ := List.mem_filter.mp hn
    exact (swept mem (of_decide_eq_true other)).1
  · rw [mem_keys_iff] at kept
    by_cases stated : ∃ n ∈ nodeStates, n.node = node
    · obtain ⟨n, mem, rfl⟩ := stated
      rw [(swept mem other).2] at kept ⊢
      split
      · rfl
      · next fine => simp [fine] at kept
    · simp [dropped other stated] at kept

/-- Of a target that is not reached the id is still known; a node without a node state is forgotten. -/
theorem status_books_pass_threeNodes :
    let known : TextMap NodeOutcome := .ofList [("gone", {}), ("n2", { id := "7" })]
    let wl : Workload := { onTwoNodes with status := some ⟨known⟩ }
    ∃ report, (threeNodes.run (sync .http wl).run).value = .ok report ∧
      "gone" ∉ report.status.nodes.keys ∧
      ∃ part result, Targeting .http wl threeNodes.cluster.nodeStates "n2" part result ∧
        report.status.nodes.get? "n2" = some (({ id := "7" } : NodeOutcome).revised result) := by
  intro known wl
  have distinct : (threeNodes.cluster.nodeStates.map NodeState.node).Nodup := by decide +kernel
  have failed : (threeNodes.run (sync .http wl).run).value.map SyncReport.failedNodes =
      .ok ["n2"] := by
    decide +kernel
  cases ended : (threeNodes.run (sync .http wl).run).value with
  | error e => exact nomatch ended ▸ failed
  | ok report =>
    obtain ⟨part, swept, -, keys, targets, -⟩ := status_books_pass ended rfl distinct
    obtain ⟨result, targeting, outcome⟩ := targets "n2" (by decide)
    refine ⟨report, rfl, fun gone => ?_, part "n2", result, targeting, outcome⟩
    have stated : ¬ ∃ n ∈ threeNodes.cluster.nodeStates, n.node = "gone" := by decide +kernel
    rcases (keys "gone").mp gone with target | ⟨-, -, there, -⟩
    · exact absurd target (by decide)
    · exact stated there

end CachePartition
