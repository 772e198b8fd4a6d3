import CachePartition.Proofs.Records
import CachePartition.Proofs.Talks

/-! What the visits of a synchronization find in a world. A visit that does not fail tells of the table at
the address of its node; later visits go to other addresses, so in the end the table is as was found. -/
namespace CachePartition

open Pass

/-- Where the daemon of the visited node is. -/
def Visit.place? (k : Cluster) (scheme : Scheme) (v : Visit) : Option String :=
  (v.space? (spacesByNode k.nodeStates)).bind (k.address? scheme v.node)

/-- What a visit that does not fail finds is so in the table: a target has the entry reported, another node
has none. -/
inductive Cluster.Shows (k : Cluster) (wl : Workload) : Visit → Finding → List Entry → Prop where
  | placed {node : String} {r : Except (Report SyncError) NodeResult} {l : List Entry}
      (h : k.Placed wl node r l) : Shows k wl (.target node) (.brought node r) l
  | absent {n : NodeState} {r : Except (Report SyncError) Bool} {l : List Entry}
      (h : Entry.owned wl.uuid l = []) : Shows k wl (.other n) (.swept n.node r) l

/-- A visit was made to a daemon that is reached, and what it found is so there. -/
structure Cluster.Vouches (k : Cluster) (scheme : Scheme) (wl : Workload) (d d' : Daemons) (v : Visit)
    (f : Finding) (a : String) : Prop where
  found : v.place? k scheme = some a
  reached : d.unreachable.contains a = false
  shows : k.Shows wl v f (d'.entriesAt a)

/-- What visits have made of the daemons, and what they have found there. -/
structure Cluster.Toured (k : Cluster) (scheme : Scheme) (wl : Workload) (visits : List Visit)
    (found : List Finding) (d d' : Daemons) : Prop where
  unreachable : d'.unreachable = d.unreachable
  untouched (a : String) (away : ∀ v ∈ visits, v.place? k scheme ≠ some a) :
    d'.entriesAt a = d.entriesAt a
  vouched : List.Forall₂ (fun v f => f.isMiss = false → ∃ a, k.Vouches scheme wl d d' v f a) visits found

section Tour

variable {w x : World} {k : Cluster} {scheme : Scheme} {wl : Workload} {u : String}

theorem Handled.unreachable {address? : Option String} {Right : List Entry → Prop} {d d' : Daemons}
    {b : Bool} (h : Handled u address? Right d d' b) : d'.unreachable = d.unreachable := by
  cases h with
  | failed => rfl
  | settled a found reached revised right => exact revised.unreachable

theorem Handled.elsewhere {address? : Option String} {Right : List Entry → Prop} {d d' : Daemons}
    {b : Bool} (h : Handled u address? Right d d' b) {a : String} (away : address? ≠ some a) :
    d'.entriesAt a = d.entriesAt a := by
  cases h with
  | failed => rfl
  | settled b found reached revised right =>
    have other : a ≠ b := fun same => away (same ▸ found)
    exact revised.elsewhere a other

/-- A visit handles its node, and it fails or tells of its table. -/
theorem handles_visit {v : Visit} (hw : w.Unscripted)
    (distinct : ∀ a, v.place? w.cluster scheme = some a → Entry.Distinct (w.daemons.entriesAt a)) :
    w.Handles (v.pass scheme wl (spacesByNode w.cluster.nodeStates)) wl.uuid
      (v.place? w.cluster scheme) (w.cluster.Shows wl v) Finding.isMiss := by
  cases v with
  | target node =>
    simp only [Visit.pass]
    split
    · next space known =>
      have place : (Visit.target node).place? w.cluster scheme =
          w.cluster.address? scheme node space := by
        simp [Visit.place?, Visit.space?, known, Visit.node]
      rw [place] at distinct ⊢
      refine World.Ensures.bind (places_syncNode hw distinct) ?_
      rintro r x ⟨steady, handled⟩
      exact ⟨steady, handled.imp (fun _ there => there) fun l placed => .placed placed⟩
    · exact ⟨.refl w, .failed⟩
  | other n =>
    have place : (Visit.other n).place? w.cluster scheme =
        w.cluster.address? scheme n.node n.space := rfl
    rw [place] at distinct ⊢
    refine World.Ensures.bind (handles_removeFromNode hw distinct) ?_
    rintro r x ⟨steady, handled⟩
    exact ⟨steady, handled.imp (fun _ there => there) fun l absent => .absent absent⟩

namespace Cluster.Toured

variable {d d' d'' : Daemons}

theorem start : k.Toured scheme wl [] [] d d where
  unreachable := rfl
  untouched _ _ := rfl
  vouched := .nil

/-- One visit before a tour of other addresses makes a longer tour. -/
theorem cons {v : Visit} {f : Finding} {visits : List Visit} {found : List Finding}
    (handled : Handled wl.uuid (v.place? k scheme) (k.Shows wl v f) d d' f.isMiss)
    (rest : k.Toured scheme wl visits found d' d'')
    (apart : ∀ x ∈ visits, ∀ a, v.place? k scheme = some a → x.place? k scheme ≠ some a) :
    k.Toured scheme wl (v :: visits) (f :: found) d d'' := by
  constructor
  case unreachable => exact rest.unreachable.trans handled.unreachable
  case untouched =>
    intro a away
    obtain ⟨here, others⟩ := List.forall_mem_cons.mp away
    rw [rest.untouched a others, handled.elsewhere here]
  case vouched =>
    refine .cons (fun fine => ?_) (rest.vouched.imp fun x g vouched fine => ?_)
    · -- The table of the first visit is not touched by the others.
      rw [fine] at handled
      generalize after : d' = e at handled
      cases handled with
      | settled a place reached revised right =>
        subst after
        have kept := rest.untouched a fun x hx => apart x hx a place
        exact ⟨a, place, reached, kept.symm ▸ right⟩
    · obtain ⟨a, place, reached, shows⟩ := vouched fine
      exact ⟨a, place, handled.unreachable ▸ reached, shows⟩

end Cluster.Toured

/-- Visits to different addresses make a tour. -/
theorem ensures_tour (wl : Workload) {visits : List Visit} (hw : w.Unscripted) (cluster : w.cluster = k)
    (distinct : ∀ v ∈ visits, ∀ a, v.place? k scheme = some a → Entry.Distinct (w.daemons.entriesAt a))
    (apart : visits.Pairwise fun v x => ∀ a, v.place? k scheme = some a → x.place? k scheme ≠ some a) :
    w.Ensures (visits.mapM (Visit.pass scheme wl (spacesByNode k.nodeStates))) fun found x =>
      w.Steady x ∧ k.Toured scheme wl visits found w.daemons x.daemons := by
  induction visits generalizing w with
  | nil => exact ⟨.refl w, .start⟩
  | cons v visits ih =>
    obtain ⟨here, others⟩ := List.forall_mem_cons.mp distinct
    obtain ⟨away, apart⟩ := List.pairwise_cons.mp apart
    have first := @handles_visit w scheme wl v hw
    rw [cluster] at first
    rw [List.mapM_cons]
    refine World.Ensures.bind (first here) ?_
    rintro f y ⟨steady, handled⟩
    have distinct' : ∀ x ∈ visits, ∀ a, x.place? k scheme = some a →
        Entry.Distinct (y.daemons.entriesAt a) := by
      intro x hx a place
      have untouched : v.place? k scheme ≠ some a := fun there => away x hx a there place
      rw [handled.elsewhere untouched]
      exact others x hx a place
    refine World.Ensures.bind (ih (steady.unscripted hw) (steady.cluster.trans cluster) distinct' apart) ?_
    rintro found z ⟨steady', rest⟩
    exact ⟨steady.trans steady', rest.cons handled away⟩

/-- A visit leads to the daemon of a node state. -/
theorem Workload.state_of_place {v : Visit} {a : String} (mem : v ∈ wl.visits k.nodeStates)
    (place : v.place? k scheme = some a) :
    ∃ n ∈ k.nodeStates, n.node = v.node ∧ k.address? scheme n.node n.space = some a := by
  obtain ⟨space, known, found⟩ := Option.bind_eq_some_iff.mp place
  obtain ⟨n, hn, same, rfl⟩ := Workload.state_of_space mem known
  exact ⟨n, hn, same, same ▸ found⟩

/-- Where node states have daemons of their own, visits go to different addresses. -/
theorem World.Apart.visits (apart : w.Apart scheme)
    (nodes : (w.cluster.nodeStates.map NodeState.node).Nodup) (wl : Workload) :
    (wl.visits w.cluster.nodeStates).Pairwise fun v x =>
      ∀ a, v.place? w.cluster scheme = some a → x.place? w.cluster scheme ≠ some a := by
  have distinct := visits_nodes_nodup (w := wl) nodes
  unfold List.Nodup at distinct
  rw [List.pairwise_map] at distinct
  apply distinct.imp_of_mem
  intro v x hv hx ne a place place'
  obtain ⟨m, hm, same, found⟩ := Workload.state_of_place hv place
  obtain ⟨n, hn, same', found'⟩ := Workload.state_of_place hx place'
  have one : m.node = n.node := apart m hm n hn a found found'
  rw [same, same'] at one
  exact ne one

/-- A tour of all nodes of the workload has led to this world, and the report is of what it found. -/
def World.TouredTo (w : World) (scheme : Scheme) (wl : Workload) (report : SyncReport) (x : World) :
    Prop :=
  w.Steady x ∧ ∃ found, report = .ofFindings wl w.cluster.nodeStates found ∧
    w.cluster.Toured scheme wl (wl.visits w.cluster.nodeStates) found w.daemons x.daemons

/-- A synchronization that ends with a report is such a tour. -/
theorem tours_sync (wl : Workload) (hw : w.Unscripted)
    (distinct : ∀ a, Entry.Distinct (w.daemons.entriesAt a)) (apart : w.Apart scheme)
    (nodes : (w.cluster.nodeStates.map NodeState.node).Nodup) :
    w.Ensures (sync scheme wl).run fun result x =>
      ∀ report, result = .ok report → w.TouredTo scheme wl report x := by
  rw [sync_eq]
  refine World.Ensures.attemptBind (finds_listNodeStates w) ?_ fun _ _ _ _ h => nomatch h
  rintro l y ⟨rests, listed⟩
  obtain rfl := listed l rfl
  have tour := ensures_tour wl (rests.unscripted hw) rests.cluster
    (fun v _ a _ => rests.daemons ▸ distinct a) (apart.visits nodes wl)
  refine (World.Ensures.bind (R := w.TouredTo scheme wl) tour ?_).lift.mono ?_
  · rintro found x ⟨steady, toured⟩
    rw [rests.daemons] at toured
    exact ⟨rests.toSteady.trans steady, found, rfl, toured⟩
  · rintro result x ⟨report, rfl, toured⟩ report' heq
    exact Except.ok.inj heq ▸ toured

/-- What a synchronization leaves at a node and reports of it, if no node has failed. -/
structure Cluster.InStep (k : Cluster) (wl : Workload) (node : String) (report : SyncReport)
    (l : List Entry) : Prop where
  target (h : node ∈ wl.spec.nodes) : ∃ o e cores, report.status.nodes.get? node = some o ∧
    Entry.owned wl.uuid l = [e] ∧ o.id = e.id ∧ k.cores? wl.spec node = some cores ∧
    e.SameSettings (.ofSpec wl.uuid cores wl.spec)
  other (h : node ∉ wl.spec.nodes) : Entry.owned wl.uuid l = []

theorem Cluster.Toured.inStep {found : List Finding} {d d' : Daemons} {n : NodeState}
    (toured : k.Toured scheme wl (wl.visits k.nodeStates) found d d')
    (nodes : (k.nodeStates.map NodeState.node).Nodup) (mem : n ∈ k.nodeStates)
    (fine : (SyncReport.ofFindings wl k.nodeStates found).failedNodes = []) :
    ∃ a, k.address? scheme n.node n.space = some a ∧ d.unreachable.contains a = false ∧
      k.InStep wl n.node (.ofFindings wl k.nodeStates found) (d'.entriesAt a) := by
  have : Nonempty Finding := ⟨.swept "" (.ok false)⟩
  obtain ⟨f, rfl, each⟩ := exists_byKey toured.vouched (visits_nodes_nodup nodes)
  rw [SyncReport.ofFindings_failedNodes, List.map_eq_nil_iff, List.filter_eq_nil_iff] at fine
  have well (v : Visit) (hv : v ∈ wl.visits k.nodeStates) : (f v.node).isMiss = false := by
    have here := fine (f v.node) (List.mem_map_of_mem (List.mem_map_of_mem hv))
    simpa using here
  have vouched (v : Visit) (hv : v ∈ wl.visits k.nodeStates) := each v hv (well v hv)
  have own (v : Visit) (hv : v ∈ wl.visits k.nodeStates) : (f v.node).node = v.node := by
    obtain ⟨a, -, -, shows⟩ := vouched v hv
    generalize f v.node = g at shows
    cases shows <;> rfl
  have recorded := get?_ofFindings_byNode nodes own n.node
  have visited : n.node ∈ (wl.visits k.nodeStates).map Visit.node :=
    mem_visits_nodes.mpr (.inr ⟨n, mem, rfl⟩)
  rw [if_pos visited] at recorded
  by_cases target : n.node ∈ wl.spec.nodes
  · have there : Visit.target n.node ∈ wl.visits k.nodeStates := target_mem_visits.mpr target
    obtain ⟨a, place, reached, shows⟩ := vouched _ there
    have right := well _ there
    have known := spacesByNode_of_mem nodes mem
    simp only [Visit.place?, Visit.space?, Visit.node, known, Option.bind_some] at place shows right
    refine ⟨a, place, reached, fun _ => ?_, fun away => absurd target away⟩
    generalize f n.node = g at shows right recorded
    cases shows with
    | @placed _ r _ placed =>
      obtain ⟨cores, chosen, e, only, same, named⟩ := placed
      cases r with
      | error e => cases right
      | ok result => exact ⟨result.outcome, e, cores, recorded, only, named result rfl, chosen, same⟩
  · have there : Visit.other n ∈ wl.visits k.nodeStates := other_mem_visits.mpr ⟨mem, target⟩
    obtain ⟨a, place, reached, shows⟩ := vouched _ there
    refine ⟨a, place, reached, fun there => absurd there target, fun _ => ?_⟩
    generalize f (Visit.other n).node = g at shows
    cases shows with
    | absent absent => exact absent

end Tour

end CachePartition
