import CachePartition.Proofs.Handling
import CachePartition.Proofs.Targets

/-! What a synchronization leaves behind in a world. Targets that are not reported as failed hold the
entry as specified, other nodes hold none, and the tables of failed nodes are as they were. -/
namespace CachePartition

open Pass

/-- The table of a node is as the workload asks: on targets the entry wanted, elsewhere none. -/
def World.InLine (w : World) (wl : Workload) (node : String) (l : List Entry) : Prop :=
  if node ∈ wl.spec.nodes then w.Wanted wl node l else Entry.owned wl.uuid l = []

/-- Node states of different nodes have their daemons at different addresses. -/
def World.Apart (w : World) (scheme : Scheme) : Prop :=
  ∀ m ∈ w.cluster.nodeStates, ∀ n ∈ w.cluster.nodeStates, ∀ a,
    w.cluster.address? scheme m.node m.space = some a →
    w.cluster.address? scheme n.node n.space = some a → m.node = n.node

section Progress

variable {w v : World} {scheme : Scheme} {wl : Workload} {done : String → Prop} {failed : List String}

/-- Where a pass stands that started in this world and has dealt with some of the nodes. -/
structure World.Progress (w : World) (scheme : Scheme) (wl : Workload) (done : String → Prop)
    (failed : List String) (v : World) : Prop where
  steady : w.Steady v
  known : ∀ node ∈ failed, done node
  right {node : String} : done node → node ∉ failed → ∃ n ∈ w.cluster.nodeStates, n.node = node ∧
    ∃ a, w.cluster.address? scheme n.node n.space = some a ∧ w.InLine wl node (v.daemons.entriesAt a)
  untouched {a : String} : (∀ n ∈ w.cluster.nodeStates, done n.node → n.node ∉ failed →
    w.cluster.address? scheme n.node n.space ≠ some a) → v.daemons.entriesAt a = w.daemons.entriesAt a
  others (a : String) :
    Entry.foreign wl.uuid (v.daemons.entriesAt a) = Entry.foreign wl.uuid (w.daemons.entriesAt a)

namespace World.Progress

theorem start : w.Progress scheme wl (fun _ => False) [] w where
  steady := .refl w
  known _ h := nomatch h
  right h := h.elim
  untouched _ := rfl
  others _ := rfl

theorem of_iff {done' : String → Prop} (h : w.Progress scheme wl done failed v)
    (same : ∀ node, done node ↔ done' node) : w.Progress scheme wl done' failed v :=
  (funext fun node => propext (same node) : done = done') ▸ h

theorem of_rests {x : World} (h : w.Progress scheme wl done failed v) (rests : v.Rests x) :
    w.Progress scheme wl done failed x where
  steady := h.steady.trans rests.toSteady
  known := h.known
  right := rests.daemons ▸ h.right
  untouched := rests.daemons ▸ h.untouched
  others := rests.daemons ▸ h.others

/-- A node that has failed is done with; nothing else changes. -/
theorem miss (h : w.Progress scheme wl done failed v) {node : String} (fresh : ¬ done node) :
    w.Progress scheme wl (fun x => done x ∨ x = node) (failed ++ [node]) v where
  steady := h.steady
  known x hx := by
    rcases List.mem_append.mp hx with hx | hx
    · exact .inl (h.known x hx)
    · exact .inr (List.mem_singleton.mp hx)
  right := by
    rintro x (hx | rfl) hf
    · exact h.right hx fun hm => hf (List.mem_append_left _ hm)
    · exact absurd (List.mem_append_right _ (List.mem_singleton_self x)) hf
  untouched away := by
    refine h.untouched fun n hn hd hf => away n hn (.inl hd) fun hm => ?_
    rcases List.mem_append.mp hm with hm | hm
    · exact hf hm
    · exact fresh (List.mem_singleton.mp hm ▸ hd)
  others := h.others

variable {n : NodeState} {a : String}

/-- The table of a node that is yet to be dealt with is as it was. -/
theorem own_table (h : w.Progress scheme wl done failed v) (apart : w.Apart scheme)
    (mem : n ∈ w.cluster.nodeStates) (fresh : ¬ done n.node)
    (found : w.cluster.address? scheme n.node n.space = some a) :
    v.daemons.entriesAt a = w.daemons.entriesAt a :=
  h.untouched fun m hm hd _ there => fresh (apart m hm n mem a there found ▸ hd)

theorem own_distinct (h : w.Progress scheme wl done failed v) (apart : w.Apart scheme)
    (distinct : ∀ a, Entry.Distinct (w.daemons.entriesAt a)) (mem : n ∈ w.cluster.nodeStates)
    (fresh : ¬ done n.node) (a : String)
    (found : v.cluster.address? scheme n.node n.space = some a) :
    Entry.Distinct (v.daemons.entriesAt a) := by
  rw [h.steady.cluster] at found
  rw [h.own_table apart mem fresh found]
  exact distinct a

/-- A node whose table has been put right is done with; no other table changes. -/
theorem settle (h : w.Progress scheme wl done failed v) (apart : w.Apart scheme)
    (mem : n ∈ w.cluster.nodeStates) (fresh : ¬ done n.node)
    (found : w.cluster.address? scheme n.node n.space = some a) {x : World} (steady : v.Steady x)
    (revised : v.daemons.Revised wl.uuid a x.daemons)
    (inLine : w.InLine wl n.node (x.daemons.entriesAt a)) :
    w.Progress scheme wl (fun node => done node ∨ node = n.node) failed x where
  steady := h.steady.trans steady
  known node hf := .inl (h.known node hf)
  right := by
    rintro node (hd | rfl) hf
    · obtain ⟨m, hm, rfl, b, there, right⟩ := h.right hd hf
      have elsewhere : b ≠ a := by
        rintro rfl
        exact fresh (apart m hm n mem b there found ▸ hd)
      exact ⟨m, hm, rfl, b, there, (revised.elsewhere b elsewhere).symm ▸ right⟩
    · exact ⟨n, mem, rfl, a, found, inLine⟩
  untouched {b} away := by
    have elsewhere : b ≠ a := by
      rintro rfl
      exact away n mem (.inr rfl) (fun hf => fresh (h.known _ hf)) found
    rw [revised.elsewhere b elsewhere]
    exact h.untouched fun m hm hd => away m hm (.inl hd)
  others b := by
    by_cases hb : b = a
    · subst hb
      exact revised.others.trans (h.others b)
    · rw [revised.elsewhere b hb, h.others b]

/-- Handling a node, whether it fails or not, leaves one node less to deal with. -/
theorem step (h : w.Progress scheme wl done failed v) (apart : w.Apart scheme)
    (mem : n ∈ w.cluster.nodeStates) (fresh : ¬ done n.node) {x : World} {b : Bool}
    (steady : v.Steady x) (handled : Handled wl.uuid (w.cluster.address? scheme n.node n.space)
      (w.InLine wl n.node) v.daemons x.daemons b) :
    w.Progress scheme wl (fun node => done node ∨ node = n.node)
      (failed ++ if b = true then [n.node] else []) x := by
  generalize after : x.daemons = d at handled
  cases handled with
  | failed => exact (h.miss fresh).of_rests ⟨steady, after⟩
  | settled a found reached revised right =>
    subst after
    simpa using h.settle apart mem fresh found steady revised right

end World.Progress

theorem SyncReport.record_failedNodes (r : SyncReport) (wl : Workload) (node : String)
    (x : Except (Report SyncError) NodeResult) :
    (r.record wl node x).failedNodes = r.failedNodes ++ if missed x = true then [node] else [] := by
  cases x with
  | ok result => simp [record, missed]
  | error e => rfl

theorem SyncReport.recordSweep_failedNodes (r : SyncReport) (node : String)
    (x : Except (Report SyncError) Bool) : (r.recordSweep node x).failedNodes =
      r.failedNodes ++ if (!x.isOk) = true then [node] else [] := by
  cases x <;> simp [recordSweep, Except.isOk, Except.toBool]

theorem ensures_syncTarget {r : SyncReport} {node : String}
    (h : w.Progress scheme wl done r.failedNodes v) (hw : w.Unscripted)
    (distinct : ∀ a, Entry.Distinct (w.daemons.entriesAt a)) (apart : w.Apart scheme)
    (target : node ∈ wl.spec.nodes) (fresh : ¬ done node) :
    v.Ensures (syncTarget scheme wl (spacesByNode w.cluster.nodeStates) r node) fun r' x =>
      w.Progress scheme wl (fun m => done m ∨ m = node) r'.failedNodes x := by
  unfold syncTarget
  cases known : (spacesByNode w.cluster.nodeStates).get? node with
  | none => exact h.miss fresh
  | some space =>
    obtain ⟨n, mem, rfl, rfl⟩ := mem_of_spacesByNode known
    have own := h.own_distinct apart distinct mem fresh
    refine World.Ensures.bind (handles_syncNode (h.steady.unscripted hw) own) ?_
    rintro x y ⟨steady, handled⟩
    have right : Handled wl.uuid (w.cluster.address? scheme n.node n.space) (w.InLine wl n.node)
        v.daemons y.daemons (missed x) := by
      refine handled.imp (fun a there => h.steady.cluster ▸ there) fun l hl => ?_
      rw [World.InLine, if_pos target]
      simpa only [World.Wanted, h.steady.cluster] using hl
    have after := h.step apart mem fresh steady right
    rw [← SyncReport.record_failedNodes] at after
    exact after

theorem ensures_sweepNode {r : SyncReport} {n : NodeState}
    (h : w.Progress scheme wl done r.failedNodes v) (hw : w.Unscripted)
    (distinct : ∀ a, Entry.Distinct (w.daemons.entriesAt a)) (apart : w.Apart scheme)
    (mem : n ∈ w.cluster.nodeStates) (handled : done n.node ↔ n.node ∈ wl.spec.nodes) :
    v.Ensures (sweepNode scheme wl wl.spec.targets r n) fun r' x =>
      w.Progress scheme wl (fun m => done m ∨ m = n.node) r'.failedNodes x := by
  unfold sweepNode
  split
  · next targeted =>
    have already := handled.mpr ((wl.spec.contains_targets n.node).mp targeted)
    exact h.of_iff fun m => ⟨.inl, fun hm => hm.elim id fun hm => hm ▸ already⟩
  · next untargeted =>
    have no_target : n.node ∉ wl.spec.nodes :=
      fun target => untargeted ((wl.spec.contains_targets n.node).mpr target)
    have fresh : ¬ done n.node := fun hd => no_target (handled.mp hd)
    have own := h.own_distinct apart distinct mem fresh
    refine World.Ensures.bind (handles_removeFromNode (h.steady.unscripted hw) own) ?_
    rintro x y ⟨steady, handled⟩
    have right : Handled wl.uuid (w.cluster.address? scheme n.node n.space) (w.InLine wl n.node)
        v.daemons y.daemons (!x.isOk) := by
      refine handled.imp (fun a there => h.steady.cluster ▸ there) fun l hl => ?_
      rwa [World.InLine, if_neg no_target]
    have after := h.step apart mem fresh steady right
    rw [← SyncReport.recordSweep_failedNodes] at after
    exact after

theorem ensures_syncTargets (wl : Workload) (hw : w.Unscripted)
    (distinct : ∀ a, Entry.Distinct (w.daemons.entriesAt a)) (apart : w.Apart scheme)
    (h : w.Rests v) (status : WorkloadStatus) :
    v.Ensures (wl.spec.targets.toList.foldlM
        (syncTarget scheme wl (spacesByNode w.cluster.nodeStates)) { status }) fun r x =>
      w.Progress scheme wl (· ∈ wl.spec.nodes) r.failedNodes x := by
  -- Done are the targets that are not among the rest.
  refine World.Ensures.mono (World.Ensures.foldlM (I := fun rest r x =>
    (rest.Nodup ∧ ∀ m ∈ rest, m ∈ wl.spec.nodes) ∧
      w.Progress scheme wl (fun m => m ∈ wl.spec.nodes ∧ m ∉ rest) r.failedNodes x) ?_ _ ?_) ?_
  · rintro node rest r x ⟨⟨nodup, targets⟩, progress⟩
    obtain ⟨absent, nodup⟩ := List.nodup_cons.mp nodup
    have target := targets node List.mem_cons_self
    have fresh : ¬ (node ∈ wl.spec.nodes ∧ node ∉ node :: rest) := fun h => h.2 List.mem_cons_self
    refine (ensures_syncTarget progress hw distinct apart target fresh).mono fun r' y after => ?_
    refine ⟨⟨nodup, fun m hm => targets m (List.mem_cons_of_mem _ hm)⟩, after.of_iff fun m => ?_⟩
    by_cases hm : m = node
    · simp [hm, target, absent]
    · simp [hm]
  · refine ⟨⟨wl.spec.targets_nodup, fun m hm => (wl.spec.mem_targets m).mp hm⟩, ?_⟩
    refine (World.Progress.start.of_rests h).of_iff fun m => ?_
    simp [wl.spec.mem_targets]
  · rintro r x ⟨-, progress⟩
    exact progress.of_iff fun m => by simp

theorem ensures_sweep (hw : w.Unscripted) (distinct : ∀ a, Entry.Distinct (w.daemons.entriesAt a))
    (apart : w.Apart scheme) (nodes : (w.cluster.nodeStates.map NodeState.node).Nodup)
    {r : SyncReport} (h : w.Progress scheme wl (· ∈ wl.spec.nodes) r.failedNodes v) :
    v.Ensures (w.cluster.nodeStates.foldlM (sweepNode scheme wl wl.spec.targets) r) fun r' x =>
      w.Progress scheme wl (fun m => m ∈ wl.spec.nodes ∨ ∃ n ∈ w.cluster.nodeStates, n.node = m)
        r'.failedNodes x := by
  -- Done are the targets and the nodes whose state is not among the rest.
  refine World.Ensures.mono (World.Ensures.foldlM (I := fun rest r x =>
    ((rest.map NodeState.node).Nodup ∧ ∀ n ∈ rest, n ∈ w.cluster.nodeStates) ∧
      w.Progress scheme wl (fun m => m ∈ wl.spec.nodes ∨
        (∃ n ∈ w.cluster.nodeStates, n.node = m) ∧ m ∉ rest.map NodeState.node) r.failedNodes x)
    ?_ _ ?_) ?_
  · rintro n rest r x ⟨⟨nodup, members⟩, progress⟩
    rw [List.map_cons] at nodup
    obtain ⟨absent, nodup⟩ := List.nodup_cons.mp nodup
    have mem := members n List.mem_cons_self
    have handled : (n.node ∈ wl.spec.nodes ∨ (∃ m ∈ w.cluster.nodeStates, m.node = n.node) ∧
        n.node ∉ (n :: rest).map NodeState.node) ↔ n.node ∈ wl.spec.nodes := by simp
    refine (ensures_sweepNode progress hw distinct apart mem handled).mono fun r' y after => ?_
    refine ⟨⟨nodup, fun m hm => members m (List.mem_cons_of_mem _ hm)⟩, after.of_iff fun m => ?_⟩
    by_cases hm : m = n.node
    · have : ∃ k ∈ w.cluster.nodeStates, k.node = n.node := ⟨n, mem, rfl⟩
      simp only [hm, or_true, this, absent, not_false_eq_true, and_self]
    · simp [hm]
  · refine ⟨⟨nodes, fun _ hn => hn⟩, h.of_iff fun m => ?_⟩
    simp only [List.mem_map, iff_self_or, and_imp]
    exact fun hm away => absurd hm away
  · rintro r' x ⟨-, progress⟩
    exact progress.of_iff fun m => by simp

theorem ensures_sync (wl : Workload) (hw : w.Unscripted)
    (distinct : ∀ a, Entry.Distinct (w.daemons.entriesAt a)) (apart : w.Apart scheme)
    (nodes : (w.cluster.nodeStates.map NodeState.node).Nodup) :
    w.Ensures (sync scheme wl).run fun result v => ∀ report, result = .ok report →
      w.Progress scheme wl (fun m => m ∈ wl.spec.nodes ∨ ∃ n ∈ w.cluster.nodeStates, n.node = m)
        report.failedNodes v := by
  refine World.Ensures.attemptBind (finds_listNodeStates w) ?_ fun _ _ _ _ h => nomatch h
  rintro l v ⟨rests, listed⟩
  obtain rfl := listed l rfl
  have targets := ensures_syncTargets wl hw distinct apart rests (wl.status.getD {})
  refine World.Ensures.attemptBind targets.lift ?_ fun _ _ ⟨_, h, _⟩ => nomatch h
  rintro r x ⟨_, ⟨⟩, progress⟩
  have swept := ensures_sweep hw distinct apart nodes
    (r := r.retain wl.spec.targets (spacesByNode w.cluster.nodeStates)) progress
  refine swept.lift.mono ?_
  rintro result y ⟨r', rfl, progress⟩ report heq
  exact Except.ok.inj heq ▸ progress

end Progress

/-- Synchronizing converges and reports failures honestly. Let node states be of different nodes with
their daemons at different addresses, let no table have two entries with one id or of one workload, and
let any calls fail. If the pass ends with a report, each target that is not reported as failed has exactly
one entry of the workload, with the settings specified for its cores. Each other node that is not
reported has none. The tables of the nodes reported, and the entries of other workloads, are as they
were. -/
theorem sync_converges {w : World} {scheme : Scheme} {wl : Workload} {report : SyncReport}
    (unscripted : w.Unscripted) (distinct : ∀ a, Entry.Distinct (w.daemons.entriesAt a))
    (apart : w.Apart scheme) (nodes : (w.cluster.nodeStates.map NodeState.node).Nodup)
    (ended : (w.run (sync scheme wl).run).value = .ok report) :
    let after := (w.run (sync scheme wl).run).state.daemons
    (∀ node ∈ wl.spec.nodes, node ∉ report.failedNodes → ∃ n ∈ w.cluster.nodeStates, n.node = node ∧
      ∃ a cores e, w.cluster.address? scheme node n.space = some a ∧
        w.cluster.cores? wl.spec node = some cores ∧
        Entry.owned wl.uuid (after.entriesAt a) = [e] ∧
        e.SameSettings (.ofSpec wl.uuid cores wl.spec)) ∧
    (∀ n ∈ w.cluster.nodeStates, n.node ∉ wl.spec.nodes → n.node ∉ report.failedNodes →
      ∃ a, w.cluster.address? scheme n.node n.space = some a ∧
        Entry.owned wl.uuid (after.entriesAt a) = []) ∧
    (∀ n ∈ w.cluster.nodeStates, n.node ∈ report.failedNodes →
      ∀ a, w.cluster.address? scheme n.node n.space = some a →
        after.entriesAt a = w.daemons.entriesAt a) ∧
    ∀ a, Entry.foreign wl.uuid (after.entriesAt a) = Entry.foreign wl.uuid (w.daemons.entriesAt a) := by
  have progress := ensures_sync wl unscripted distinct apart nodes report ended
  refine ⟨fun node target fine => ?_, fun n mem untargeted fine => ?_, fun n mem bad a found => ?_,
    progress.others⟩
  · obtain ⟨n, mem, rfl, a, found, right⟩ := progress.right (.inl target) fine
    rw [World.InLine, if_pos target] at right
    obtain ⟨cores, chosen, e, only, same⟩ := right
    exact ⟨n, mem, rfl, a, cores, e, found, chosen, only, same⟩
  · obtain ⟨m, hm, same, a, found, right⟩ := progress.right (.inr ⟨n, mem, rfl⟩) fine
    obtain rfl : m = n := List.inj_on_of_nodup_map nodes hm mem same
    rw [World.InLine, if_neg untargeted] at right
    exact ⟨a, found, right⟩
  · refine progress.untouched fun m hm _ fine there => fine ?_
    exact apart m hm n mem a there found ▸ bad

/-- Three nodes, of which the second is not reached and the third holds an entry left over. -/
def threeNodes : World where
  daemons := (({} : Daemons).insert "http://10.0.0.3:8443" "w.").setUnreachable
    "http://10.0.0.2:8443" true
  cluster := ((({} : Cluster).addDaemonNode "n1" "rmd" "10.0.0.1" 4).addDaemonNode
    "n2" "rmd" "10.0.0.2" 4).addDaemonNode "n3" "rmd" "10.0.0.3" 4

/-- A workload for the first two of the nodes. -/
def onTwoNodes : Workload :=
  { metadata := { name := some "w" }, spec := { nodes := ["n1", "n2"] } }

theorem sync_converges_threeNodes :
    let after := (threeNodes.run (sync .http onTwoNodes).run).state.daemons
    ∃ n ∈ threeNodes.cluster.nodeStates, n.node = "n1" ∧
      ∃ a cores e, threeNodes.cluster.address? .http "n1" n.space = some a ∧
        threeNodes.cluster.cores? onTwoNodes.spec "n1" = some cores ∧
        Entry.owned "w." (after.entriesAt a) = [e] ∧
        e.SameSettings (.ofSpec "w." cores onTwoNodes.spec) := by
  have distinct (a : String) : Entry.Distinct (threeNodes.daemons.entriesAt a) :=
    (Daemons.Sound.empty.push (a := "http://10.0.0.3:8443") (e := { uuid := "w." }) nofun).distinct a
  have addresses : ∀ m ∈ threeNodes.cluster.nodeStates, ∀ n ∈ threeNodes.cluster.nodeStates,
      threeNodes.cluster.address? .http m.node m.space =
        threeNodes.cluster.address? .http n.node n.space → m.node = n.node := by
    decide +kernel
  have apart : threeNodes.Apart .http :=
    fun m hm n hn a found found' => addresses m hm n hn (found.trans found'.symm)
  have nodes : (threeNodes.cluster.nodeStates.map NodeState.node).Nodup := by decide +kernel
  have failed : (threeNodes.run (sync .http onTwoNodes).run).value.map SyncReport.failedNodes =
      .ok ["n2"] := by
    decide +kernel
  cases ended : (threeNodes.run (sync .http onTwoNodes).run).value with
  | error e => exact nomatch ended ▸ failed
  | ok report =>
    rw [ended] at failed
    have fine : "n1" ∉ report.failedNodes := by
      rw [show report.failedNodes = ["n2"] from Except.ok.inj failed]
      decide
    exact (sync_converges (fun _ _ => rfl) distinct apart nodes ended).1 "n1" (by decide) fine

end CachePartition
