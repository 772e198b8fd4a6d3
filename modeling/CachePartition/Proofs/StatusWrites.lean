import CachePartition.Proofs.Repetition
import CachePartition.World.Scenario

/-! How often the status of a workload is written. Evictions that spare the daemons' pods leave the daemons
at their standstill, so the status is written after the first treatment, after the second, and no more. -/
namespace CachePartition

open Pass

/-- The call writes the status of a workload. -/
def Call.writesStatus : Call → Bool
  | .cluster (.replaceWorkloadStatus _ _) => true
  | _ => false

/-- The number of times that a status is written. -/
def statusWrites (calls : List Call) : Nat := calls.countP Call.writesStatus

/-- The pod to go is not that of a node state's daemon. -/
def Eviction.Spares (nodeStates : List NodeState) (e : Eviction) : Prop :=
  ∀ n ∈ nodeStates, (⟨e.space, e.pod⟩ : ObjectKey) ≠ ⟨n.space, daemonPodName n.node⟩

/-- What is done with the report on a workload. -/
def actOn (wl : Workload) (report : SyncReport) : Attempt SyncError Unit := do
  writeStatus wl report.status
  ExceptT.lift (report.evictions.forM evict)
  if report.failedNodes.isEmpty then return () else fail ⟨.nodesFailed report.failedNodes, []⟩

theorem syncAndEvict_eq (scheme : Scheme) (wl : Workload) :
    syncAndEvict scheme wl = sync scheme wl >>= actOn wl := rfl

theorem statusWrites_append (calls calls' : List Call) :
    statusWrites (calls ++ calls') = statusWrites calls + statusWrites calls' :=
  List.countP_append

namespace World

variable {w : World} {scheme : Scheme} {wl : Workload}

/-- A synchronization by itself writes no status. -/
theorem sync_writes_nothing (w : World) (scheme : Scheme) (wl : Workload) :
    statusWrites ((w.run (sync scheme wl).run).trace.map (·.call)) = 0 := by
  refine List.countP_eq_zero.mpr fun c hc => ?_
  obtain ⟨x, hx, rfl⟩ := List.mem_map.mp hc
  have reads := (makes_sync scheme wl).of_yields (run_yields _ World.answer w) x hx
  obtain ⟨c, answer⟩ := x
  cases c with
  | cluster c =>
    cases c with
    | replaceWorkloadStatus => cases reads
    | _ => exact Bool.false_ne_true
  | _ => exact Bool.false_ne_true

theorem run_writeStatus (wl : Workload) (quiet : w.Quiet) (up : w.cluster.isDown = false)
    (status : WorkloadStatus) :
    ∃ k t, w.run (writeStatus wl status).run = ⟨.ok (), { w with cluster := k }, t⟩ ∧
      w.cluster.SameNodes k ∧
      (wl.status = w.cluster.workloadStatuses.get? wl.key →
        k.workloadStatuses.get? wl.key = some status) ∧
      statusWrites (t.map (·.call)) = if wl.status = some status then 0 else 1 := by
  by_cases written : wl.status = some status
  · refine ⟨w.cluster, [], ?_, .refl _, fun stored => stored ▸ written, by rw [if_pos written]; rfl⟩
    rw [writeStatus, if_pos written]
    rfl
  · let k := { w.cluster with workloadStatuses := w.cluster.workloadStatuses.insert wl.key status }
    refine ⟨k, [⟨.cluster (.replaceWorkloadStatus wl status), .ok ()⟩], ?_,
      ⟨rfl, rfl, rfl, fun _ _ => rfl⟩, fun _ => SortedMap.get?_insert_self _ _ _,
      by rw [if_neg written]; rfl⟩
    rw [writeStatus, if_neg written]
    change Pass.run World.answer (.call (.cluster (.replaceWorkloadStatus wl status)) _) w = _
    rw [Pass.run, answer_up quiet up]
    rfl

theorem run_evictions (quiet : w.Quiet) (up : w.cluster.isDown = false) {evictions : List Eviction}
    (spared : ∀ e ∈ evictions, e.Spares w.cluster.nodeStates) :
    ∃ k t, w.run (evictions.forM evict) = ⟨(), { w with cluster := k }, t⟩ ∧ w.cluster.SameNodes k ∧
      k.workloadStatuses = w.cluster.workloadStatuses ∧ statusWrites (t.map (·.call)) = 0 := by
  induction evictions generalizing w with
  | nil => exact ⟨w.cluster, [], rfl, .refl _, rfl, rfl⟩
  | cons e evictions ih =>
    let next : World := { w with cluster := (w.cluster.serve (.deletePod e.space e.pod)).2 }
    have same : w.cluster.SameNodes next.cluster := by
      refine ⟨rfl, rfl, rfl, fun n hn => SortedMap.get?_erase_ne _ ?_⟩
      exact (spared e List.mem_cons_self n hn).symm
    obtain ⟨k, t, ran, same', statuses, unwritten⟩ := ih (w := next)
      ⟨quiet.unscripted, quiet.unfailing⟩ up fun e he => spared e (List.mem_cons_of_mem _ he)
    refine ⟨k, ⟨.cluster (.deletePod e.space e.pod), .ok ()⟩ :: t, ?_, same.trans same', statuses,
      unwritten⟩
    rw [List.forM]
    change Pass.run World.answer (.call (.cluster (.deletePod e.space e.pod)) _) w = _
    rw [Pass.run, answer_up quiet up]
    exact congrArg (Outcome.after _) ran

theorem run_actOn (wl : Workload) (quiet : w.Quiet) (up : w.cluster.isDown = false) {report : SyncReport}
    (spared : ∀ e ∈ report.evictions, e.Spares w.cluster.nodeStates) :
    ∃ value k t, w.run (actOn wl report).run = ⟨value, { w with cluster := k }, t⟩ ∧
      w.cluster.SameNodes k ∧
      (wl.status = w.cluster.workloadStatuses.get? wl.key →
        k.workloadStatuses.get? wl.key = some report.status) ∧
      statusWrites (t.map (·.call)) = if wl.status = some report.status then 0 else 1 := by
  obtain ⟨k, t, noted, same, stored, written⟩ := run_writeStatus wl quiet up report.status
  let next : World := { w with cluster := k }
  obtain ⟨k', t', evicted, same', statuses, unwritten⟩ := run_evictions (w := next)
    ⟨quiet.unscripted, quiet.unfailing⟩ (same.isDown.trans up)
    fun e he => same.nodeStates.symm ▸ spared e he
  let last : Attempt SyncError Unit :=
    if report.failedNodes.isEmpty then return () else fail ⟨.nodesFailed report.failedNodes, []⟩
  have ended : ∃ value, last.run.run World.answer { w with cluster := k' } =
      ⟨value, { w with cluster := k' }, []⟩ := by
    simp only [last]
    split
    · exact ⟨_, rfl⟩
    · exact ⟨_, rfl⟩
  obtain ⟨value, ended⟩ := ended
  refine ⟨value, k', t ++ (t' ++ []), ?_, same.trans same', fun h => statuses ▸ stored h, ?_⟩
  · refine (run_attemptBind noted _).trans ?_
    rw [run_attemptBind (run_lift evicted) fun _ => last, ended]
  · rw [List.append_nil, List.map_append, statusWrites_append, written, unwritten, Nat.add_zero]

/-- The whole treatment of a workload leaves the daemons to the talks of its synchronization and the
status reported in the cluster. It writes the status once, or not at all if it is the one there. -/
theorem run_syncAndEvict (wl : Workload) (quiet : w.Quiet) (up : w.cluster.isDown = false)
    (spared : ∀ e ∈ (w.report scheme wl).evictions, e.Spares w.cluster.nodeStates) :
    let status := (w.report scheme wl).status
    let treated := w.run (syncAndEvict scheme wl).run
    w.Rested scheme wl treated.state ∧
      (wl.status = w.cluster.workloadStatuses.get? wl.key →
        treated.state.cluster.workloadStatuses.get? wl.key = some status) ∧
      statusWrites (treated.trace.map (·.call)) = if wl.status = some status then 0 else 1 := by
  intro status treated
  let after : World := { w with daemons := (w.talks scheme wl).state }
  let synced := w.run (sync scheme wl).run
  obtain ⟨value, state, -⟩ := run_sync quiet up scheme wl
  have ran : synced = ⟨.ok (w.report scheme wl), after, synced.trace⟩ := by
    rw [← value]
    exact congrArg (Outcome.mk synced.value · synced.trace) state
  have unwritten := sync_writes_nothing w scheme wl
  obtain ⟨result, k, t, acted, same, stored, written⟩ := run_actOn wl (w := after)
    ⟨quiet.unscripted, quiet.unfailing⟩ up spared
  have ended : w.run (sync scheme wl >>= actOn wl).run =
      ⟨result, { after with cluster := k }, synced.trace ++ t⟩ := by
    rw [World.run] at acted
    exact (run_attemptBind ran (actOn wl)).trans (by rw [acted])
  simp only [treated]
  rw [syncAndEvict_eq, ended]
  refine ⟨⟨⟨quiet.unscripted, quiet.unfailing⟩, same, rfl⟩, stored, ?_⟩
  rw [List.map_append, statusWrites_append, unwritten, written, Nat.zero_add]

end World

namespace Scenario

/-- The calls made when a step is taken so many times. -/
def callsOf (x : Step) : Nat → Scenario → List Call
  | 0, _ => []
  | n + 1, s => (s.step x).calls ++ callsOf x n (s.step x).next

variable {s : Scenario} {w : World} {wl : Workload}

/-- The whole treatment of a workload as a step, the stored status being fed back. -/
theorem step_syncAndEvict (wl : Workload) (quiet : s.world.Quiet) (up : s.world.cluster.isDown = false)
    (spared : ∀ e ∈ (s.world.report s.scheme wl).evictions, e.Spares s.world.cluster.nodeStates) :
    let stored := s.world.cluster.workloadStatuses.get? wl.key
    let status := (s.world.report s.scheme { wl with status := stored }).status
    let o := s.step (.syncAndEvict wl .stored)
    o.next.scheme = s.scheme ∧ s.world.Rested s.scheme wl o.next.world ∧
      o.next.world.cluster.workloadStatuses.get? wl.key = some status ∧
      statusWrites o.calls = if stored = some status then 0 else 1 := by
  intro stored status o
  have spared' : ∀ e ∈ (s.world.report s.scheme { wl with status := stored }).evictions,
      e.Spares s.world.cluster.nodeStates := by
    intro e he
    apply spared e
    rwa [World.report, SyncReport.evictions_withStatus] at he
  obtain ⟨rested, written, writes⟩ := World.run_syncAndEvict { wl with status := stored } quiet up spared'
  exact ⟨rfl, ⟨rested.quiet, rested.cluster, rested.daemons⟩, written rfl, writes⟩

section Repeated

variable {scheme : Scheme} (orderly : w.Orderly scheme)
  (spared : ∀ e ∈ (w.report scheme wl).evictions, e.Spares w.cluster.nodeStates)
  (speaks : s.scheme = scheme) (rested : w.Rested scheme wl s.world)

include orderly spared speaks rested

/-- Such a step where the daemons are at a standstill. -/
theorem step_rested :
    let stored := s.world.cluster.workloadStatuses.get? wl.key
    let status := (w.reportAgain scheme wl stored).status
    let o := s.step (.syncAndEvict wl .stored)
    o.next.scheme = scheme ∧ w.Rested scheme wl o.next.world ∧
      o.next.world.cluster.workloadStatuses.get? wl.key = some status ∧
      statusWrites o.calls = if stored = some status then 0 else 1 := by
  subst speaks
  have spared' : ∀ e ∈ (s.world.report s.scheme wl).evictions, e.Spares s.world.cluster.nodeStates := by
    intro e he
    have same : s.world.report s.scheme wl = w.reportAgain s.scheme wl wl.status :=
      rested.report orderly wl.status
    rw [rested.cluster.nodeStates]
    apply spared e
    rwa [same, World.reportAgain, SyncReport.evictions_again] at he
  obtain ⟨speaks, later, stored, writes⟩ :=
    step_syncAndEvict wl rested.quiet (rested.cluster.isDown.trans orderly.up) spared'
  rw [rested.report orderly] at stored writes
  exact ⟨speaks, rested.trans orderly later, stored, writes⟩

/-- There a status that is not changed by what is found is never written. -/
theorem no_writes {status : WorkloadStatus}
    (stored : s.world.cluster.workloadStatuses.get? wl.key = some status)
    (fixed : (w.reportAgain scheme wl (some status)).status = status) (n : Nat) :
    statusWrites (callsOf (.syncAndEvict wl .stored) n s) = 0 := by
  induction n generalizing s with
  | zero => rfl
  | succ n ih =>
    obtain ⟨speaks', rested', stored', writes⟩ := step_rested orderly spared speaks rested
    rw [stored, fixed] at stored' writes
    rw [if_pos rfl] at writes
    rw [callsOf, statusWrites_append, writes, ih speaks' rested' stored']

/-- There the status is written once at most. -/
theorem one_write_at_most (n : Nat) : statusWrites (callsOf (.syncAndEvict wl .stored) n s) ≤ 1 := by
  cases n with
  | zero => exact Nat.zero_le 1
  | succ n =>
    obtain ⟨speaks', rested', stored, writes⟩ := step_rested orderly spared speaks rested
    have silent := no_writes orderly spared speaks' rested' stored
      (SyncReport.status_ofFindings_twice wl _ _ _) n
    rw [callsOf, statusWrites_append, silent, writes]
    split <;> decide

end Repeated

end Scenario

/-- Repeated synchronization reaches a fixed point. In a world that only the passes change, where node
states have their daemons at different addresses and the tables are sound, let a workload be synchronized
three times, each time with the status reported before. The third status is the second, the world is left
as by the first pass, the same nodes are reported as failed and the same pods as to go all three times,
and the later passes delete nothing and create only what the first created in vain. If the pods to go are
none of the daemons', then treating the workload again and again, the stored status being fed back,
writes its status at most twice. -/
theorem repetition_ends (s : Scenario) (wl : Workload) (quiet : s.world.Quiet)
    (up : s.world.cluster.isDown = false) (sound : s.world.daemons.Sound)
    (apart : AddressesApart s.world.cluster.tells s.scheme s.world.cluster.nodeStates) :
    (let pass (w : World) (status : Option WorkloadStatus) :=
        w.run (sync s.scheme { wl with status }).run
      ∃ r₁ r₂ r₃ : SyncReport,
        let first := pass s.world wl.status
        let second := pass first.state (some r₁.status)
        let third := pass second.state (some r₂.status)
        first.value = .ok r₁ ∧ second.value = .ok r₂ ∧ third.value = .ok r₃ ∧
        r₃.status = r₂.status ∧
        second.state = first.state ∧ third.state = first.state ∧
        r₂.failedNodes = r₁.failedNodes ∧ r₃.failedNodes = r₁.failedNodes ∧
        r₂.evictions = r₁.evictions ∧ r₃.evictions = r₁.evictions ∧
        ∀ x ∈ second.trace ++ third.trace, ∀ c, x.call = .daemon c →
          c.Repeats first.trace s.world.daemons.behaviour) ∧
    ((∀ report, (s.world.run (sync s.scheme (s.withStatus wl .stored)).run).value = .ok report →
        ∀ e ∈ report.evictions, e.Spares s.world.cluster.nodeStates) →
      ∀ n, statusWrites (Scenario.callsOf (.syncAndEvict wl .stored) n s) ≤ 2) := by
  have orderly : s.world.Orderly s.scheme := ⟨quiet, up, sound, apart⟩
  constructor
  · intro pass
    let first := pass s.world wl.status
    let r₁ := s.world.report s.scheme wl
    let r₂ := s.world.reportAgain s.scheme wl (some r₁.status)
    let r₃ := s.world.reportAgain s.scheme wl (some r₂.status)
    obtain ⟨value, -, trace⟩ := World.run_sync quiet up s.scheme wl
    have among : (s.world.talks s.scheme wl).trace ⊆ first.trace := by
      rw [← trace]
      exact List.filter_sublist.subset
    have rested : s.world.Rested s.scheme wl first.state := World.rested_sync quiet up
    obtain ⟨value₂, state₂, calls₂⟩ := rested.sync orderly (some r₁.status)
    obtain ⟨value₃, state₃, calls₃⟩ := rested.sync orderly (some r₂.status)
    refine ⟨r₁, r₂, r₃, ?_⟩
    intro first second third
    -- The second pass leaves the world as it is, so the third starts from the same.
    have third_eq : third = pass first.state (some r₂.status) := congrArg (pass · _) state₂
    rw [third_eq]
    refine ⟨value, value₂, value₃, SyncReport.status_ofFindings_twice wl _ _ _, state₂, state₃,
      SyncReport.failedNodes_again wl _ _ _, SyncReport.failedNodes_again wl _ _ _,
      SyncReport.evictions_again wl _ _ _, SyncReport.evictions_again wl _ _ _, ?_⟩
    intro x hx c call
    rcases List.mem_append.mp hx with hx | hx
    · exact (calls₂ x hx c call).mono among
    · exact (calls₃ x hx c call).mono among
  · intro spared n
    have spared : ∀ e ∈ (s.world.report s.scheme wl).evictions, e.Spares s.world.cluster.nodeStates := by
      intro e he
      apply spared _ (World.run_sync quiet up s.scheme (s.withStatus wl .stored)).1
      rwa [World.report, Scenario.withStatus, SyncReport.evictions_withStatus]
    cases n with
    | zero => exact Nat.zero_le 2
    | succ n =>
      obtain ⟨speaks, rested, -, writes⟩ := Scenario.step_syncAndEvict wl quiet up spared
      have later := Scenario.one_write_at_most orderly spared speaks rested n
      rw [Scenario.callsOf, statusWrites_append, writes]
      split <;> omega

/-- Three nodes: the first accepts no entries, the second is not reached, and the third holds an entry left
over. -/
def threeTroubles : Scenario where
  world := { threeNodes with
    daemons := ((({} : Daemons).insert "http://10.0.0.3:8443" "web-rmd-workload-nginx.shop").setUnreachable
      "http://10.0.0.2:8443" true).setBehaviour "http://10.0.0.1:8443" .reject }

/-- A workload for the first two of the nodes, derived from a pod. -/
def ofWebPod : Workload where
  metadata := { name := some "web-rmd-workload-nginx", space := some "shop" }
  spec := { nodes := ["n1", "n2"] }

theorem repetition_ends_threeTroubles :
    (∃ r₁ r₂ r₃ : SyncReport, (threeTroubles.world.run (sync .http ofWebPod).run).value = .ok r₁ ∧
      r₃.status = r₂.status ∧ r₃.failedNodes = ["n1", "n2"] ∧ r₃.evictions = [⟨"web", "shop"⟩]) ∧
    ∀ n, statusWrites (Scenario.callsOf (.syncAndEvict ofWebPod .stored) n threeTroubles) ≤ 2 := by
  have failed : (threeTroubles.world.run (sync .http ofWebPod).run).value.map SyncReport.failedNodes =
      .ok ["n1", "n2"] := by
    decide +kernel
  have evictions : (threeTroubles.world.run (sync .http ofWebPod).run).value.map SyncReport.evictions =
      .ok [⟨"web", "shop"⟩] := by
    decide +kernel
  have held : (({} : Daemons).insert "http://10.0.0.3:8443" "web-rmd-workload-nginx.shop").Sound :=
    Daemons.Sound.empty.push nofun
  have apart : AddressesApart threeTroubles.world.cluster.tells threeTroubles.scheme
      threeTroubles.world.cluster.nodeStates :=
    addressesApart_of_ne (by decide +kernel)
  obtain ⟨⟨r₁, r₂, r₃, ended, -, -, same, -, -, -, tried, -, evicted, -⟩, writes⟩ :=
    repetition_ends threeTroubles ofWebPod ⟨fun _ _ => rfl, fun _ => rfl⟩ rfl
      ⟨held.uuids, held.ids, held.apart, held.issued⟩ apart
  have ended : (threeTroubles.world.run (sync .http ofWebPod).run).value = .ok r₁ := ended
  have web : r₁.evictions = [⟨"web", "shop"⟩] := by
    rw [ended] at evictions
    exact Except.ok.inj evictions
  constructor
  · rw [ended] at failed
    exact ⟨r₁, r₂, r₃, ended, same, tried.trans (Except.ok.inj failed), evicted.trans web⟩
  · refine writes fun report again e he => ?_
    obtain rfl : r₁ = report := Except.ok.inj (ended.symm.trans again)
    obtain rfl := List.mem_singleton.mp (web ▸ he)
    unfold Eviction.Spares
    decide +kernel

end CachePartition
