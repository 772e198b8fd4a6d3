import CachePartition.Proofs.Snapshots
import CachePartition.Proofs.Tours
import CachePartition.Proofs.Uniqueness

/-! What polling shows of a daemon: one snapshot for each entry, under its id. Right after a workload's
synchronization this agrees with what was reported of the node. -/
namespace CachePartition

open Pass

section Snapshots

variable {entries : List Entry} {e : Entry} {u : String}

theorem snapshots_perm (ids : (entries.map (·.id)).Nodup) :
    (snapshots entries).entries.Perm (entries.map fun e => (e.id, e.snapshot)) := by
  have keys : ((entries.map fun e => (e.id, e.snapshot)).map (·.1)).Nodup := by
    rwa [List.map_map]
  exact SortedMap.ofList_perm keys

theorem size_snapshots (ids : (entries.map (·.id)).Nodup) :
    (snapshots entries).size = entries.length := by
  have same := (snapshots_perm ids).length_eq
  rwa [List.length_map] at same

/-- The snapshots of a workload, with the ids under which they are shown. -/
def NodeStateStatus.ofWorkload (s : NodeStateStatus) (u : String) : List (String × Snapshot) :=
  s.entries.entries.filter fun x => x.2.get? "uuid" = some u

theorem ofWorkload_perm {s : NodeStateStatus} (shown : s.entries = snapshots entries)
    (ids : (entries.map (·.id)).Nodup) (named : u ≠ "") :
    (s.ofWorkload u).Perm ((Entry.owned u entries).map fun e => (e.id, e.snapshot)) := by
  have kept := (snapshots_perm ids).filter fun x => decide (x.2.get? "uuid" = some u)
  rw [List.filter_map] at kept
  have own : (entries.filter ((fun x : String × Snapshot => decide (x.2.get? "uuid" = some u)) ∘
      fun e => (e.id, e.snapshot))) = Entry.owned u entries :=
    List.filter_congr fun e _ => by simp [Entry.get?_snapshot_uuid named]
  rw [own] at kept
  rw [NodeStateStatus.ofWorkload, shown]
  exact kept

end Snapshots

theorem Workload.uuid_ne_empty (w : Workload) : w.uuid ≠ "" := by
  intro empty
  have length := congrArg String.length empty
  simp [uuid, externalId] at length

/-- The status of a node state that a call writes without failure. -/
def Pass.Exchange.writtenStatus? (x : Exchange) : Option NodeStateStatus :=
  match x with
  | ⟨.cluster (.replaceNodeStateStatus _ status), .ok ()⟩ => some status
  | _ => none

section Polling

variable {scheme : Scheme} {n : NodeState} {w : World}

/-- A poll that writes a status well returns that status. -/
theorem poll_written {t : List Exchange} {r : Except (Report SyncError) NodeStateStatus}
    {status : NodeStateStatus} (h : (poll scheme n).run.Yields t r)
    (written : status ∈ t.filterMap Exchange.writtenStatus?) : r = .ok status := by
  cases poll_yields h with
  | unaddressed missing => cases missing <;> simp [Exchange.writtenStatus?] at written
  | shown found entries report answer =>
    cases found
    cases answer with
    | error e => simp [Exchange.writtenStatus?] at written
    | ok =>
      obtain rfl : .told entries report = status := by simpa [Exchange.writtenStatus?] using written
      rfl

/-- A status that is written without failure is stored. -/
theorem ensures_replaceNodeStateStatus (w : World) (n : NodeState) (status : NodeStateStatus)
    (report : ClusterError → Report SyncError) :
    w.Ensures (orReport (perform (.cluster (.replaceNodeStateStatus n status))) report).run fun r x =>
      r = .ok () → x.cluster.nodeStateStatuses.get? n.key = some status := by
  refine World.Ensures.bind (P := fun answer x => answer = .ok () →
    x.cluster.nodeStateStatuses.get? n.key = some status) ?_ ?_
  · intro written
    change (w.answerCluster _).1 = _ at written
    change (w.answerCluster _).2.cluster.nodeStateStatuses.get? n.key = some status
    unfold World.answerCluster Cluster.answer at written ⊢
    split at written
    · cases written
    · split at written
      · cases written
      · next up => simp [up, Cluster.serve]
  · rintro answer x stored ended
    cases answer with
    | error e => cases ended
    | ok _ => exact stored rfl

/-- A daemon that is reached lists its table. -/
theorem ensures_listing (hw : w.Unscripted) (a : String) :
    w.Ensures (perform (.daemon (.list a))) fun answer x => w.Rests x ∧
      (w.daemons.unreachable.contains a = false → answer = .ok (w.daemons.entriesAt a)) := by
  change w.Rests (w.answerDaemon _).2 ∧ _
  rw [hw.answerDaemon]
  refine ⟨⟨⟨rfl, rfl⟩, Daemons.answer_list_state _ _⟩, fun reached => ?_⟩
  change (w.answerDaemon _).1 = _
  rw [hw.answerDaemon]
  simp [Daemons.answer, DaemonCall.address, reached, Daemons.serve]

theorem ensures_cacheReport (hw : w.Unscripted) (a : String) :
    w.Ensures (perform (.daemon (.cacheReport a))) fun _ x => w.Rests x := by
  change w.Rests (w.answerDaemon _).2
  rw [hw.answerDaemon]
  have same : (w.daemons.answer (.cacheReport a)).2 = w.daemons := by
    unfold Daemons.answer
    split
    · rfl
    · rw [Daemons.serve]
      split <;> rfl
  exact ⟨⟨rfl, rfl⟩, same⟩

/-- The status that a poll returns is stored, and shows the table of the daemon if that is reached. -/
theorem ensures_poll (hw : w.Unscripted) (scheme : Scheme) (n : NodeState) :
    w.Ensures (poll scheme n).run fun r x => ∀ status, r = .ok status →
      x.cluster.nodeStateStatuses.get? n.key = some status ∧
      ∃ a, w.cluster.address? scheme n.node n.space = some a ∧
        (w.daemons.unreachable.contains a = false →
          status.entries = snapshots (w.daemons.entriesAt a)) := by
  have enlisted : w.Ensures (perform (.enlist n.node)) fun _ x => w.Rests x := ⟨⟨rfl, rfl⟩, rfl⟩
  refine World.Ensures.attemptBind enlisted.lift ?_ fun _ _ ⟨_, h, _⟩ => nomatch h
  rintro _ x ⟨_, ⟨⟩, rests⟩
  refine World.Ensures.attemptBind (finds_daemonAddress x scheme n.node n.space) ?_
    fun _ _ _ _ h => nomatch h
  rintro a y ⟨rests', found⟩
  have found := found a rfl
  rw [rests.cluster] at found
  have rests := rests.trans rests'
  refine World.Ensures.attemptBind (ensures_listing (rests.unscripted hw) a).lift ?_
    fun _ _ ⟨_, h, _⟩ => nomatch h
  rintro entries z ⟨_, ⟨⟩, rests', listed⟩
  rw [rests.daemons] at listed
  have rests := rests.trans rests'
  refine World.Ensures.attemptBind (ensures_cacheReport (rests.unscripted hw) a).lift ?_
    fun _ _ ⟨_, h, _⟩ => nomatch h
  rintro report v ⟨_, ⟨⟩, rests'⟩
  refine World.Ensures.attemptBind (ensures_replaceNodeStateStatus v n _ _) ?_ fun _ _ _ _ h => nomatch h
  rintro _ final stored status heq
  obtain rfl := Except.ok.inj heq
  refine ⟨stored rfl, a, found, fun reached => ?_⟩
  simp only [listed reached, Except.toOption, Option.getD_some]

end Polling

/-- Polling agrees with synchronizing. In a scenario reached from the empty world, with node states of
different nodes and daemons at different addresses, let a synchronization report no failed node, and let
the status written by a poll of a node state right afterwards be taken. Then the poll returns that status
and it is stored, with as many entries as the daemon holds. On a target one of them is of the workload: it
is that of the entry that the synchronization left there, under the id recorded for the node. On another
node none is. -/
theorem poll_agrees_with_sync {scheme : Scheme} {s : Scenario} {wl : Workload} {report : SyncReport}
    {n : NodeState} {status : NodeStateStatus} (reached : Scenario.Reaches { scheme } s)
    (nodes : (s.world.cluster.nodeStates.map NodeState.node).Nodup) (apart : s.world.Apart s.scheme)
    (synced : (s.world.run (sync s.scheme wl).run).value = .ok report)
    (fine : report.failedNodes = []) (stated : n ∈ s.world.cluster.nodeStates)
    (written : status ∈ ((s.world.run (sync s.scheme wl).run).state.run
      (poll s.scheme n).run).trace.filterMap Exchange.writtenStatus?) :
    let after := (s.world.run (sync s.scheme wl).run).state
    let polled := after.run (poll s.scheme n).run
    polled.value = .ok status ∧ polled.state.cluster.nodeStateStatuses.get? n.key = some status ∧
    ∃ a, s.world.cluster.address? s.scheme n.node n.space = some a ∧
      status.entries.size = (after.daemons.entriesAt a).length ∧
      (n.node ∈ wl.spec.nodes → ∃ o e cores, report.status.nodes.get? n.node = some o ∧
        s.world.cluster.cores? wl.spec n.node = some cores ∧
        Entry.owned wl.uuid (after.daemons.entriesAt a) = [e] ∧
        e.SameSettings (.ofSpec wl.uuid cores wl.spec) ∧
        status.ofWorkload wl.uuid = [(o.id, e.snapshot)]) ∧
      (n.node ∉ wl.spec.nodes → status.ofWorkload wl.uuid = []) := by
  intro after polled
  have unscripted : s.world.Unscripted := (reached.evolves fun _ _ => rfl).1
  have distinct (a : String) := reached.sound.distinct a
  obtain ⟨unscripted', evolves⟩ := Scenario.evolves_of_careful unscripted (careful_sync s.scheme wl)
  have ids (a : String) : ((after.daemons.entriesAt a).map (·.id)).Nodup :=
    ((evolves.sound reached.sound).distinct a).ids
  obtain ⟨steady, found, rfl, toured⟩ := tours_sync wl unscripted distinct apart nodes report synced
  obtain ⟨a, address, reached, inStep⟩ := toured.inStep nodes stated fine
  have ended : polled.value = .ok status :=
    poll_written (run_yields (poll s.scheme n).run World.answer after) written
  obtain ⟨stored, b, address', shown⟩ := ensures_poll unscripted' s.scheme n status ended
  rw [steady.cluster, address] at address'
  obtain rfl := Option.some.inj address'
  rw [toured.unreachable] at shown
  have shown := shown reached
  have kept := ofWorkload_perm shown (ids a) wl.uuid_ne_empty
  refine ⟨ended, stored, a, address, ?_, fun target => ?_, fun other => ?_⟩
  · rw [shown]
    exact size_snapshots (ids a)
  · obtain ⟨o, e, cores, recorded, only, named, chosen, same⟩ := inStep.target target
    rw [only, List.map_singleton, List.perm_singleton] at kept
    exact ⟨o, e, cores, recorded, chosen, only, same, named ▸ kept⟩
  · rw [inStep.other other, List.map_nil, List.perm_nil] at kept
    exact kept

/-- Two nodes, of which the second holds an entry of the workload and one of another. -/
def twoTables : Scenario :=
  let nodes := ((({} : Scenario).step (.addDaemonNode "n1" "rmd" "10.0.0.1" 4)).next.step
    (.addDaemonNode "n2" "rmd" "10.0.0.2" 4)).next
  ((nodes.step (.insert "http://10.0.0.2:8443" "w.")).next.step
    (.insert "http://10.0.0.2:8443" "other.")).next

theorem reaches_twoTables : Scenario.Reaches {} twoTables := by
  have unowned : ∀ e ∈ ([⟨"1", "w.", [], [], "", "Successful", "w.-guarantee", none, none⟩] : List Entry),
      e.uuid ≠ "other." := by decide
  exact .step _ (.step _ (.step _ (.step _ .refl trivial) trivial) nofun) unowned

theorem poll_agrees_with_sync_twoTables :
    let wl : Workload := { metadata := { name := some "w" }, spec := { nodes := ["n1"] } }
    ∃ report, (twoTables.world.run (sync .http wl).run).value = .ok report ∧
      let after := (twoTables.world.run (sync .http wl).run).state
      ∃ status, (after.run (poll .http (.fresh "n1" "rmd")).run).value = .ok status ∧
        ∃ a o e, report.status.nodes.get? "n1" = some o ∧
          Entry.owned "w." (after.daemons.entriesAt a) = [e] ∧
          status.ofWorkload "w." = [(o.id, e.snapshot)] := by
  intro wl
  have nodes : (twoTables.world.cluster.nodeStates.map NodeState.node).Nodup := by decide +kernel
  have addresses : ∀ m ∈ twoTables.world.cluster.nodeStates, ∀ n ∈ twoTables.world.cluster.nodeStates,
      twoTables.world.cluster.address? .http m.node m.space =
        twoTables.world.cluster.address? .http n.node n.space → m.node = n.node := by
    decide +kernel
  have apart : twoTables.world.Apart .http :=
    fun m hm n hn a found found' => addresses m hm n hn (found.trans found'.symm)
  have none_failed : (twoTables.world.run (sync .http wl).run).value.map SyncReport.failedNodes =
      .ok [] := by
    decide +kernel
  have some_written : ((twoTables.world.run (sync .http wl).run).state.run
      (poll .http (.fresh "n1" "rmd")).run).trace.filterMap Exchange.writtenStatus? ≠ [] := by
    decide +kernel
  obtain ⟨status, written⟩ := List.exists_mem_of_ne_nil _ some_written
  cases ended : (twoTables.world.run (sync .http wl).run).value with
  | error e => exact nomatch ended ▸ none_failed
  | ok report =>
    rw [ended] at none_failed
    obtain ⟨polled, -, a, -, -, shown, -⟩ := poll_agrees_with_sync reaches_twoTables nodes apart ended
      (Except.ok.inj none_failed) (n := .fresh "n1" "rmd") List.mem_cons_self written
    obtain ⟨o, e, cores, recorded, -, only, -, same⟩ := shown (by decide)
    exact ⟨report, rfl, status, polled, a, o, e, recorded, only, same⟩

end CachePartition
