import CachePartition.Proofs.Standstill

/-! Synchronizations of one workload, one after the other, in a world that only they change. The first
brings the daemons to a standstill; what is found is the same from the second on, and recording it once
more does not change the status. -/
namespace CachePartition

open Pass

namespace Finding

/-- What findings make of the outcome known is one fixed outcome, or the known one with another response,
or the known one. -/
theorem foldl_outcome? (found : List Finding) :
    (∃ o, ∀ known, found.foldl outcome? known = o) ∨
    (∃ response, ∀ known, found.foldl outcome? known = some { known.getD {} with response }) ∨
    ∀ known, found.foldl outcome? known = known := by
  induction found with
  | nil => exact .inr (.inr fun _ => rfl)
  | cons f found ih =>
    rcases f with ⟨node, report | result⟩ | ⟨node, report | result⟩
    case brought.ok => exact .inl ⟨found.foldl outcome? (some result.outcome), fun _ => rfl⟩
    case swept.ok => exact .inl ⟨found.foldl outcome? none, fun _ => rfl⟩
    case swept.error => exact ih
    case brought.error =>
      rcases ih with ⟨o, ih⟩ | ⟨response, ih⟩ | ih
      · exact .inl ⟨o, fun _ => ih _⟩
      · exact .inr (.inl ⟨response, fun _ => ih _⟩)
      · exact .inr (.inl ⟨report.summary, fun _ => ih _⟩)

theorem foldl_outcome?_idem (found : List Finding) (known : Option NodeOutcome) :
    found.foldl outcome? (found.foldl outcome? known) = found.foldl outcome? known := by
  rcases foldl_outcome? found with ⟨o, h⟩ | ⟨response, h⟩ | h
  · rw [h, h]
  · rw [h known, h]
    rfl
  · rw [h, h]

end Finding

namespace SyncReport

variable (w : Workload) (status : Option WorkloadStatus) (nodeStates : List NodeState)
  (found : List Finding)

/-- The status reported is not changed by recording the same findings in it once more. -/
theorem status_ofFindings_twice :
    let reported := (ofFindings { w with status } nodeStates found).status
    (ofFindings { w with status := some reported } nodeStates found).status = reported := by
  intro reported
  have outcomes (node : String) :
      (ofFindings { w with status := some reported } nodeStates found).status.nodes.get? node =
        reported.nodes.get? node := by
    simp only [reported]
    rw [get?_ofFindings, Option.getD_some, get?_ofFindings]
    split
    · exact Finding.foldl_outcome?_idem _ _
    · rfl
  exact congrArg WorkloadStatus.mk (SortedMap.ext outcomes)

/-- What is found once more is reported the same. -/
theorem failedNodes_again :
    (ofFindings { w with status } nodeStates (found.map Finding.again)).failedNodes =
      (ofFindings w nodeStates found).failedNodes := by
  rw [ofFindings_failedNodes, ofFindings_failedNodes, List.filter_map, List.map_map]
  simp [Function.comp_def]

/-- The pods to go do not depend on the status known before. -/
theorem evictions_withStatus : (ofFindings { w with status } nodeStates found).evictions =
    (ofFindings w nodeStates found).evictions := by
  rw [ofFindings_evictions, ofFindings_evictions]
  rfl

theorem evictions_again :
    (ofFindings { w with status } nodeStates (found.map Finding.again)).evictions =
      (ofFindings w nodeStates found).evictions := by
  rw [evictions_withStatus, ofFindings_evictions, ofFindings_evictions, List.filter_map,
    List.flatMap_map]
  simp only [Function.comp_def, Finding.isRefusal_again]

end SyncReport

theorem Pass.mapM_congr {α β : Type} {f g : α → Pass β} {l : List α} (h : ∀ a ∈ l, f a = g a) :
    l.mapM f = l.mapM g := by
  induction l with
  | nil => rfl
  | cons a l ih =>
    rw [List.mapM_cons, List.mapM_cons, h a List.mem_cons_self,
      ih fun b hb => h b (List.mem_cons_of_mem _ hb)]

/-- What a cluster that is up answers. -/
def Cluster.tells (k : Cluster) : ClusterAnswers := fun c => (k.serve c).1

namespace World

variable {w : World} {scheme : Scheme} {wl : Workload}

/-- Talks with daemons go in a world as they go with its daemons alone. -/
theorem run_talk {α : Type} {p : Pass α} (h : p.Makes fun c => ∃ d, c = .daemon d) (quiet : w.Quiet) :
    w.run p = let talk := p.run Daemons.answers w.daemons
      ⟨talk.value, { w with daemons := talk.state }, talk.trace⟩ := by
  induction p generalizing w with
  | done => rfl
  | call c next ih =>
    obtain ⟨⟨d, rfl⟩, rest⟩ := h
    have quiet' : World.Quiet { w with daemons := (w.daemons.answer d).2 } :=
      ⟨quiet.unscripted, quiet.unfailing⟩
    simp only [World.run, Pass.run, quiet.answer_daemon] at ih ⊢
    rw [ih _ (rest _) quiet']
    rfl

/-- The talks of a workload's synchronization. -/
def talks (w : World) (scheme : Scheme) (wl : Workload) : Outcome Daemons (List Finding) :=
  ((wl.visits w.cluster.nodeStates).mapM
    (Visit.talk w.cluster.tells scheme wl (spacesByNode w.cluster.nodeStates))).run
      Daemons.answers w.daemons

/-- What is reported of the talks. -/
def report (w : World) (scheme : Scheme) (wl : Workload) : SyncReport :=
  .ofFindings wl w.cluster.nodeStates (w.talks scheme wl).value

/-- What is reported when the talks are held once more, this status being known by then. -/
def reportAgain (w : World) (scheme : Scheme) (wl : Workload) (status : Option WorkloadStatus) :
    SyncReport :=
  .ofFindings { wl with status } w.cluster.nodeStates ((w.talks scheme wl).value.map Finding.again)

/-- A synchronization in a quiet world reports what its talks come to and leaves the daemons to them. -/
theorem run_sync (quiet : w.Quiet) (up : w.cluster.isDown = false) (scheme : Scheme) (wl : Workload) :
    let synced := w.run (sync scheme wl).run
    synced.value = .ok (w.report scheme wl) ∧
      synced.state = { w with daemons := (w.talks scheme wl).state } ∧
      synced.trace.filter Exchange.isDaemon = (w.talks scheme wl).trace := by
  have told : w.cluster.tells .nodeStates = .ok w.cluster.nodeStates := rfl
  have synced := CachePartition.run_sync World.answer
    (I := fun s => s.Quiet ∧ s.cluster = w.cluster) scheme wl
    (fun s c h query => by
      rw [h.1.answer_query query, Cluster.answer, h.2, up]
      rfl)
    (fun s d h => ⟨h.1.answer (.daemon d), by rw [h.1.answer_daemon]; exact h.2⟩) ⟨quiet, rfl⟩ told
  have daemonOnly : ((wl.visits w.cluster.nodeStates).mapM
      (Visit.talk w.cluster.tells scheme wl (spacesByNode w.cluster.nodeStates))).Makes
        fun c => ∃ d, c = .daemon d := by
    refine .mapM fun v _ => (v.makes_talk _ _ _ _).imp ?_
    rintro c ⟨_, _, d, called, _⟩
    exact ⟨d, called⟩
  have ran := run_talk daemonOnly quiet
  simp only [World.run] at ran
  rw [ran] at synced
  exact synced

end World

/-- Clusters that tell talks about their node states the same. -/
structure Cluster.SameNodes (k k' : Cluster) : Prop where
  isDown : k'.isDown = k.isDown
  nodeStates : k'.nodeStates = k.nodeStates
  nodes : k'.nodes = k.nodes
  pods (n : NodeState) (h : n ∈ k.nodeStates) :
    k'.pods.get? ⟨n.space, daemonPodName n.node⟩ = k.pods.get? ⟨n.space, daemonPodName n.node⟩

namespace Cluster.SameNodes

variable {k k' k'' : Cluster}

theorem refl (k : Cluster) : k.SameNodes k := ⟨rfl, rfl, rfl, fun _ _ => rfl⟩

theorem trans (h : k.SameNodes k') (h' : k'.SameNodes k'') : k.SameNodes k'' where
  isDown := h'.isDown.trans h.isDown
  nodeStates := h'.nodeStates.trans h.nodeStates
  nodes := h'.nodes.trans h.nodes
  pods n hn := (h'.pods n (h.nodeStates ▸ hn)).trans (h.pods n hn)

theorem talk (h : k.SameNodes k') {scheme : Scheme} {wl : Workload} {v : Visit}
    (mem : v ∈ wl.visits k.nodeStates) :
    v.talk k'.tells scheme wl (spacesByNode k.nodeStates) =
      v.talk k.tells scheme wl (spacesByNode k.nodeStates) := by
  refine Visit.talk_congr rfl rfl rfl (fun space known => ?_) ?_
  · obtain ⟨n, hn, same, rfl⟩ := Workload.state_of_space mem known
    have pod := h.pods n hn
    rw [same] at pod
    exact congrArg Except.ok pod
  · exact congrArg (fun nodes => Except.ok (SortedMap.get? nodes v.node)) h.nodes

end Cluster.SameNodes

namespace World

variable {w v x : World} {scheme : Scheme} {wl : Workload}

/-- Nothing but passes stirs in the world, and each node has its own daemon: nothing is laid down, the
cluster is up, the tables are sound, and node states have their daemons at different addresses. -/
structure Orderly (w : World) (scheme : Scheme) : Prop where
  quiet : w.Quiet
  up : w.cluster.isDown = false
  sound : w.daemons.Sound
  apart : AddressesApart w.cluster.tells scheme w.cluster.nodeStates

/-- A world in which the talks of another one have been held. -/
structure Rested (w : World) (scheme : Scheme) (wl : Workload) (v : World) : Prop where
  quiet : v.Quiet
  cluster : w.cluster.SameNodes v.cluster
  daemons : v.daemons = (w.talks scheme wl).state

/-- There the talks come to what is said, and change nothing. -/
theorem Rested.talks (rested : w.Rested scheme wl v) (orderly : w.Orderly scheme) :
    ∃ t, v.talks scheme wl = ⟨(w.talks scheme wl).value.map Finding.again, v.daemons, t⟩ ∧
      ∀ x ∈ t, ∃ c, x.call = .daemon c ∧ c.Repeats (w.talks scheme wl).trace w.daemons.behaviour := by
  obtain ⟨calls, still, repeats⟩ := (settles_talks (w := wl) orderly.apart orderly.sound).still
  obtain ⟨t, ran, called⟩ := still v.daemons (rested.daemons ▸ .refl _ _)
  have told : v.talks scheme wl = ((wl.visits w.cluster.nodeStates).mapM
      (Visit.talk w.cluster.tells scheme wl (spacesByNode w.cluster.nodeStates))).run
        Daemons.answers v.daemons := by
    rw [World.talks, rested.cluster.nodeStates, Pass.mapM_congr fun _ mem => rested.cluster.talk mem]
  refine ⟨t, told.trans ran, fun x hx => ?_⟩
  have made : x.call ∈ calls.map Call.daemon := called ▸ List.mem_map_of_mem hx
  obtain ⟨c, hc, call⟩ := List.mem_map.mp made
  exact ⟨c, call.symm, repeats c hc⟩

theorem Rested.report (rested : w.Rested scheme wl v) (orderly : w.Orderly scheme)
    (status : Option WorkloadStatus) :
    v.report scheme { wl with status } = w.reportAgain scheme wl status := by
  obtain ⟨t, ran, -⟩ := rested.talks orderly
  have found : (v.talks scheme { wl with status }).value =
      (w.talks scheme wl).value.map Finding.again :=
    congrArg Outcome.value ran
  rw [World.report, found, rested.cluster.nodeStates, reportAgain]

/-- Daemons at a standstill stay there. -/
theorem Rested.trans (rested : w.Rested scheme wl v) (orderly : w.Orderly scheme)
    (later : v.Rested scheme wl x) : w.Rested scheme wl x where
  quiet := later.quiet
  cluster := rested.cluster.trans later.cluster
  daemons := by
    obtain ⟨t, ran, -⟩ := rested.talks orderly
    rw [later.daemons, ran]
    exact rested.daemons

/-- After a synchronization the daemons are at a standstill. -/
theorem rested_sync (quiet : w.Quiet) (up : w.cluster.isDown = false) :
    w.Rested scheme wl (w.run (sync scheme wl).run).state := by
  obtain ⟨-, state, -⟩ := run_sync quiet up scheme wl
  rw [state]
  exact ⟨⟨quiet.unscripted, quiet.unfailing⟩, .refl _, rfl⟩

/-- A synchronization that finds them there leaves the world as it is, and makes only calls that may be
made again. -/
theorem Rested.sync (rested : w.Rested scheme wl v) (orderly : w.Orderly scheme)
    (status : Option WorkloadStatus) :
    let synced := v.run (sync scheme { wl with status }).run
    synced.value = .ok (w.reportAgain scheme wl status) ∧ synced.state = v ∧
      ∀ x ∈ synced.trace, ∀ c, x.call = .daemon c →
        c.Repeats (w.talks scheme wl).trace w.daemons.behaviour := by
  obtain ⟨value, state, trace⟩ := run_sync rested.quiet (rested.cluster.isDown.trans orderly.up) scheme
    { wl with status }
  obtain ⟨t, ran, repeats⟩ := rested.talks orderly
  have ran' : v.talks scheme { wl with status } = _ := ran
  rw [ran'] at state trace
  rw [rested.report orderly] at value
  refine ⟨value, state, fun x hx c call => ?_⟩
  have talked := List.mem_filter.mpr ⟨hx, (by simp [Exchange.isDaemon, call] : x.isDaemon = true)⟩
  rw [trace] at talked
  obtain ⟨c', call', again⟩ := repeats x talked
  exact Call.daemon.inj (call.symm.trans call') ▸ again

end World

end CachePartition
