import CachePartition.Proofs.Convergence
import CachePartition.Proofs.Records
import CachePartition.Proofs.Repetition
import CachePartition.Proofs.Uniqueness

/-! Synchronizations in a world without faults. No node fails there, so each pass puts every table right
for its workload, and passes of different workloads leave each other's entries as they are. -/
namespace CachePartition

open Pass

/-- Each round goes as claimed where something holds that all rounds keep. -/
theorem Pass.run_mapM_forall {α β σ : Type} {answer : Surroundings σ} {f : α → Pass β} {I : σ → Prop}
    {P : β → Prop} {l : List α}
    (each : ∀ a ∈ l, ∀ s, I s → I ((f a).run answer s).state ∧ P ((f a).run answer s).value) {s : σ}
    (h : I s) : ∀ b ∈ ((l.mapM f).run answer s).value, P b := by
  induction l generalizing s with
  | nil => exact fun b hb => nomatch hb
  | cons a l ih =>
    obtain ⟨kept, here⟩ := each a List.mem_cons_self s h
    rw [run_mapM_cons]
    exact List.forall_mem_cons.mpr ⟨here, ih (fun b hb => each b (List.mem_cons_of_mem _ hb)) kept⟩

namespace Daemons

variable {d : Daemons} {a : String}

/-- The daemon at the address is reached and takes new entries. -/
structure Ready (d : Daemons) (a : String) : Prop where
  reached : d.unreachable.contains a = false
  accepts : d.behaviour.getD a .accept = .accept

/-- How daemons behave is not changed by calls. -/
theorem answer_conduct (d : Daemons) (c : DaemonCall) :
    (d.answer c).2.behaviour = d.behaviour ∧ (d.answer c).2.unreachable = d.unreachable := by
  unfold answer
  split
  · exact ⟨rfl, rfl⟩
  · cases c with
    | list a => exact ⟨rfl, rfl⟩
    | create a body =>
      rw [serve]
      split <;> exact ⟨rfl, rfl⟩
    | update a id body =>
      rw [serve]
      split
      · exact ⟨behaviour_mapAt .., unreachable_mapAt ..⟩
      · exact ⟨rfl, rfl⟩
    | delete a id => exact ⟨behaviour_mapAt .., unreachable_mapAt ..⟩
    | cacheReport a =>
      rw [serve]
      split <;> exact ⟨rfl, rfl⟩

theorem Ready.run {α : Type} (h : d.Ready a) (p : Pass α) : (p.run answers d).state.Ready a := by
  induction p generalizing d with
  | done => exact h
  | call c next ih =>
    cases c with
    | daemon c =>
      obtain ⟨behaviour, unreachable⟩ := d.answer_conduct c
      exact ih _ ⟨unreachable ▸ h.reached, behaviour ▸ h.accepts⟩
    | _ => exact ih _ h

/-- Settling an entry does not fail there. -/
theorem Ready.settles (h : d.Ready a) (node : String) (body : Entry) :
    missed ((settleEntry node a body).run.run answers d).value = false := by
  cases found : Entry.findByUuid (d.entriesAt a) body.uuid with
  | some e =>
    rw [run_update node h.reached found]
    rfl
  | none =>
    have served : d.serve (.create a body) = (.ok "Success: 201", d.push a body) := by
      rw [serve, h.accepts]
    rw [settleEntry, run_listed h.reached, found]
    change missed ((createEntry node a body).run.run answers d).value = false
    rw [run_taken node h.reached served rfl, findByUuid_push found]
    rfl

/-- Nor does dropping one. -/
theorem Ready.drops (h : d.Ready a) (node uuid : String) :
    ((dropEntry node a uuid).run.run answers d).value.isOk = true := by
  cases found : Entry.findByUuid (d.entriesAt a) uuid with
  | none =>
    rw [dropEntry, run_listed h.reached, found]
    rfl
  | some e =>
    rw [run_drop node h.reached found]
    rfl

end Daemons

/-- What is told of a node's daemon leads to its address. -/
theorem Cluster.toOption_addressTold (k : Cluster) (scheme : Scheme) (node space : String) :
    (addressTold scheme node space (k.tells (.pod space (daemonPodName node)))).toOption =
      k.address? scheme node space := by
  have told : k.tells (.pod space (daemonPodName node)) =
      .ok (k.pods.get? ⟨space, daemonPodName node⟩) := rfl
  rw [told, address?]
  cases k.pods.get? ⟨space, daemonPodName node⟩ with
  | none => rfl
  | some pod =>
    simp only [addressTold, Option.bind_some]
    cases pod.hostPort <;> rfl

theorem Cluster.addressTold_eq_ok {k : Cluster} {scheme : Scheme} {n : NodeState} {a : String}
    (found : k.address? scheme n.node n.space = some a) :
    addressTold scheme n.node n.space (k.tells (.pod n.space (daemonPodName n.node))) = .ok a := by
  rw [← k.toOption_addressTold] at found
  cases told : addressTold scheme n.node n.space (k.tells (.pod n.space (daemonPodName n.node))) with
  | error e => exact nomatch told ▸ found
  | ok b =>
    rw [told] at found
    exact congrArg _ (Option.some.inj found)

/-- Nothing that the workload refers to can be missing: its cores are listed, and its targets have node
states. -/
structure Workload.Resolved (wl : Workload) (nodeStates : List NodeState) : Prop where
  explicit : wl.spec.allCores = false
  stated (node : String) (h : node ∈ wl.spec.nodes) : ∃ n ∈ nodeStates, n.node = node

/-- Each node state leads to a daemon that is reached and takes entries. -/
def Cluster.Staffed (k : Cluster) (scheme : Scheme) (d : Daemons) : Prop :=
  ∀ n ∈ k.nodeStates, ∃ a, k.address? scheme n.node n.space = some a ∧ d.Ready a

section Talks

variable {k : Cluster} {scheme : Scheme} {wl : Workload} {d : Daemons}

theorem Cluster.Staffed.addressTold (staffed : k.Staffed scheme d) {n : NodeState}
    (mem : n ∈ k.nodeStates) : ∃ a, CachePartition.addressTold scheme n.node n.space
      (k.tells (.pod n.space (daemonPodName n.node))) = .ok a ∧ d.Ready a := by
  obtain ⟨a, found, ready⟩ := staffed n mem
  exact ⟨a, addressTold_eq_ok found, ready⟩

/-- A visit does not fail then. -/
theorem Cluster.Staffed.talk (staffed : k.Staffed scheme d) (resolved : wl.Resolved k.nodeStates)
    {v : Visit} (mem : v ∈ wl.visits k.nodeStates) :
    ((v.talk k.tells scheme wl (spacesByNode k.nodeStates)).run Daemons.answers d).value.isMiss =
      false := by
  cases v with
  | target node =>
    have stated := resolved.stated node (target_mem_visits.mp mem)
    cases known : (spacesByNode k.nodeStates).get? node with
    | none =>
      obtain ⟨n, hn, named⟩ := stated
      exact absurd named (spacesByNode_eq_none_iff.mp known n hn)
    | some space =>
      obtain ⟨n, hn, rfl, rfl⟩ := mem_of_spacesByNode known
      obtain ⟨a, told, ready⟩ := staffed.addressTold hn
      have cores : coresTold wl.spec n.node (k.tells (.node n.node)) = .ok wl.spec.cores := by
        simp [coresTold, WorkloadSpec.coreSelection, resolved.explicit]
      rw [Visit.talk_target known]
      simp only [told, cores, run_bind]
      exact ready.settles _ _
  | other n =>
    obtain ⟨a, told, ready⟩ := staffed.addressTold (other_mem_visits.mp mem).1
    rw [Visit.talk_other]
    simp only [told, run_bind]
    simp only [run, Finding.isMiss, ready.drops, Bool.not_true]

end Talks

namespace World

variable {w v : World} {scheme : Scheme} {wl : Workload}

/-- A world without faults: nothing is laid down, the cluster is up, the tables are sound, and node states
are of different nodes, each with a daemon of its own that is reached and takes entries. -/
structure Faultless (w : World) (scheme : Scheme) : Prop where
  quiet : w.Quiet
  up : w.cluster.isDown = false
  sound : w.daemons.Sound
  nodes : (w.cluster.nodeStates.map NodeState.node).Nodup
  apart : w.Apart scheme
  staffed : w.cluster.Staffed scheme w.daemons

namespace Faultless

/-- No node fails. -/
theorem report (h : w.Faultless scheme) (resolved : wl.Resolved w.cluster.nodeStates) :
    ∃ report, (w.run (sync scheme wl).run).value = .ok report ∧ report.failedNodes = [] := by
  obtain ⟨value, -, -⟩ := run_sync h.quiet h.up scheme wl
  refine ⟨_, value, ?_⟩
  have fine : ∀ f ∈ (w.talks scheme wl).value, f.isMiss = false :=
    run_mapM_forall (I := w.cluster.Staffed scheme) (fun v mem d staffed => ⟨fun n hn => by
      obtain ⟨a, found, ready⟩ := staffed n hn
      exact ⟨a, found, ready.run _⟩, staffed.talk resolved mem⟩) h.staffed
  rw [World.report, SyncReport.ofFindings_failedNodes]
  have none_missed : (w.talks scheme wl).value.filter Finding.isMiss = [] :=
    List.filter_eq_nil_iff.mpr fun f hf => by simp [fine f hf]
  rw [none_missed, List.map_nil]

/-- Afterwards the world is still without faults, with the same cluster. -/
theorem sync (h : w.Faultless scheme) (wl : Workload) :
    let after := (w.run (CachePartition.sync scheme wl).run).state
    after.Faultless scheme ∧ after.cluster = w.cluster := by
  intro after
  obtain ⟨-, state, -⟩ := run_sync h.quiet h.up scheme wl
  have careful : (CachePartition.sync scheme wl).run.Careful wl.uuid none := careful_sync scheme wl
  obtain ⟨-, changes⟩ := run_careful careful h.quiet.unscripted (Daemons.shows_none _ _)
  have sound : after.daemons.Sound := (Daemons.Evolves.of_changes changes).sound h.sound
  simp only [after, state] at sound ⊢
  refine ⟨⟨⟨h.quiet.unscripted, h.quiet.unfailing⟩, h.up, sound, h.nodes, h.apart, ?_⟩, trivial⟩
  intro n hn
  obtain ⟨a, found, ready⟩ := h.staffed n hn
  exact ⟨a, found, ready.run _⟩

/-- The pass puts every table right and leaves other workloads' entries as they are. -/
theorem inLine (h : w.Faultless scheme) (resolved : wl.Resolved w.cluster.nodeStates) :
    let after := (w.run (CachePartition.sync scheme wl).run).state.daemons
    (∀ n ∈ w.cluster.nodeStates, ∀ a, w.cluster.address? scheme n.node n.space = some a →
      w.InLine wl n.node (after.entriesAt a)) ∧
    ∀ a, Entry.foreign wl.uuid (after.entriesAt a) = Entry.foreign wl.uuid (w.daemons.entriesAt a) := by
  obtain ⟨report, ended, fine⟩ := h.report resolved
  have progress := ensures_sync wl h.quiet.unscripted h.sound.distinct h.apart h.nodes report ended
  refine ⟨fun n hn a found => ?_, progress.others⟩
  obtain ⟨m, hm, same, b, there, right⟩ := progress.right (.inr ⟨n, hn, rfl⟩) (by simp [fine])
  obtain rfl : m = n := List.inj_on_of_nodup_map h.nodes hm hn same
  obtain rfl : b = a := Option.some.inj (there.symm.trans found)
  exact right

end Faultless

/-- What a table is to be depends on the entries of the workload only. -/
theorem InLine.of_owned {node : String} {l l' : List Entry} (h : w.InLine wl node l)
    (same : Entry.owned wl.uuid l' = Entry.owned wl.uuid l) : w.InLine wl node l' := by
  unfold InLine Wanted Entry.Settled at h ⊢
  rwa [same]

end World

/-- The entries that belong to none of the workloads. -/
def Entry.besides (uuids : List String) (l : List Entry) : List Entry :=
  l.filter fun e => e.uuid ∉ uuids

theorem Entry.besides_concat (uuids : List String) (u : String) (l : List Entry) :
    besides (uuids ++ [u]) l = foreign u (besides uuids l) ∧
      besides (uuids ++ [u]) l = besides uuids (foreign u l) := by
  constructor <;>
  · simp only [besides, foreign, List.filter_filter]
    refine List.filter_congr fun e _ => ?_
    by_cases own : e.uuid = u <;> simp [own]

namespace World

variable {w v : World} {scheme : Scheme}

/-- What has become of a world in which workloads were synchronized. -/
structure Synced (w : World) (scheme : Scheme) (workloads : List Workload) (v : World) : Prop where
  faultless : v.Faultless scheme
  cluster : v.cluster = w.cluster
  inLine (wl : Workload) (h : wl ∈ workloads) (n : NodeState) (mem : n ∈ w.cluster.nodeStates)
    (a : String) (found : w.cluster.address? scheme n.node n.space = some a) :
    w.InLine wl n.node (v.daemons.entriesAt a)
  others (a : String) : Entry.besides (workloads.map Workload.uuid) (v.daemons.entriesAt a) =
    Entry.besides (workloads.map Workload.uuid) (w.daemons.entriesAt a)

theorem Synced.start (faultless : w.Faultless scheme) : w.Synced scheme [] w where
  faultless := faultless
  cluster := rfl
  inLine _ h := nomatch h
  others _ := rfl

/-- One more pass keeps the entries of the workloads before, if it is of another one. -/
theorem Synced.step {done : List Workload} {wl : Workload} (h : w.Synced scheme done v)
    (resolved : wl.Resolved w.cluster.nodeStates) (fresh : wl.uuid ∉ done.map Workload.uuid) :
    w.Synced scheme (done ++ [wl]) (v.run (sync scheme wl).run).state := by
  obtain ⟨faultless, cluster⟩ := h.faultless.sync wl
  obtain ⟨right, foreign⟩ := h.faultless.inLine (h.cluster ▸ resolved)
  refine ⟨faultless, cluster.trans h.cluster, fun x hx n mem a found => ?_, fun a => ?_⟩
  · rcases List.mem_append.mp hx with hx | hx
    · have other : x.uuid ≠ wl.uuid := fun same => fresh (same ▸ List.mem_map_of_mem hx)
      exact (h.inLine x hx n mem a found).of_owned (Entry.owned_of_foreign_eq (foreign a) other)
    · obtain rfl := List.mem_singleton.mp hx
      have there := right n (h.cluster ▸ mem) a (h.cluster ▸ found)
      simpa only [InLine, Wanted, h.cluster] using there
  · rw [List.map_append, List.map_singleton, (Entry.besides_concat _ _ _).2, foreign a,
      ← (Entry.besides_concat _ _ _).2, (Entry.besides_concat _ _ _).1, h.others a,
      ← (Entry.besides_concat _ _ _).1]

end World

end CachePartition
