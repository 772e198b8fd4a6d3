import CachePartition.Proofs.Handling

/-! What removing a workload leaves behind. A visit to a node deletes one entry of the workload at the
node's address, the first that is listed there; of several entries the others stay. -/
namespace CachePartition

open Pass

/-- How many of some node states have their daemons at an address. -/
def Cluster.leadingTo (k : Cluster) (scheme : Scheme) (nodeStates : List NodeState) (a : String) : Nat :=
  nodeStates.countP fun n => k.address? scheme n.node n.space = some a

section Removal

variable {w v : World} {scheme : Scheme} {u a : String} {visited : List NodeState} {n : NodeState}

/-- Where a removal stands that started in this world and has gone well for some of the node states. -/
structure World.Relief (w : World) (scheme : Scheme) (u : String) (visited : List NodeState)
    (v : World) : Prop where
  steady : w.Steady v
  found : ∀ n ∈ visited, ∃ a, w.cluster.address? scheme n.node n.space = some a
  owned (a : String) : Entry.owned u (v.daemons.entriesAt a) =
    (Entry.owned u (w.daemons.entriesAt a)).drop (w.cluster.leadingTo scheme visited a)
  others (a : String) :
    Entry.foreign u (v.daemons.entriesAt a) = Entry.foreign u (w.daemons.entriesAt a)
  kept (a : String) : (v.daemons.entriesAt a).Sublist (w.daemons.entriesAt a)

namespace World.Relief

theorem start (rests : w.Rests v) : w.Relief scheme u [] v := by
  constructor
  case steady => exact rests.toSteady
  case found =>
    intro n hn
    cases hn
  case owned =>
    intro a
    rw [rests.daemons]
    rfl
  case others =>
    intro a
    rw [rests.daemons]
  case kept =>
    intro a
    rw [rests.daemons]

theorem ids (h : w.Relief scheme u visited v)
    (distinct : ∀ a, ((w.daemons.entriesAt a).map (·.id)).Nodup) (a : String) :
    ((v.daemons.entriesAt a).map (·.id)).Nodup :=
  (distinct a).sublist ((h.kept a).map _)

/-- One more visit takes one more entry at the address it leads to. -/
theorem step (h : w.Relief scheme u visited v) {x : World} (steady : v.Steady x)
    (found : w.cluster.address? scheme n.node n.space = some a)
    (revised : v.daemons.Revised u a x.daemons)
    (relieved : Entry.Relieved u (v.daemons.entriesAt a) (x.daemons.entriesAt a)) :
    w.Relief scheme u (visited ++ [n]) x := by
  constructor
  case steady => exact h.steady.trans steady
  case found =>
    intro m hm
    rcases List.mem_append.mp hm with hm | hm
    · exact h.found m hm
    · exact ⟨a, List.mem_singleton.mp hm ▸ found⟩
  case owned =>
    intro b
    have counted : w.cluster.leadingTo scheme (visited ++ [n]) b =
        w.cluster.leadingTo scheme visited b + if a = b then 1 else 0 := by
      simp [Cluster.leadingTo, List.countP_append, List.countP_singleton, found]
    by_cases hb : b = a
    · subst hb
      rw [relieved.owned, h.owned, List.tail_drop, counted, if_pos rfl]
    · have away : a ≠ b := fun heq => hb heq.symm
      rw [revised.elsewhere b hb, h.owned, counted, if_neg away, Nat.add_zero]
  case others =>
    intro b
    by_cases hb : b = a
    · subst hb
      exact revised.others.trans (h.others b)
    · rw [revised.elsewhere b hb, h.others]
  case kept =>
    intro b
    by_cases hb : b = a
    · subst hb
      exact relieved.kept.trans (h.kept b)
    · rw [revised.elsewhere b hb]
      exact h.kept b

end World.Relief

/-- While no node has failed, each step takes an entry at one more node; a failed node is remembered. -/
theorem ensures_removeStep {failed : List String} (hw : w.Unscripted)
    (ids : ∀ a, ((w.daemons.entriesAt a).map (·.id)).Nodup)
    (h : failed = [] → w.Relief scheme u visited v) :
    v.Ensures (removeStep scheme u failed n) fun failed' x =>
      failed' = [] → w.Relief scheme u (visited ++ [n]) x := by
  by_cases clean : failed = []
  · have relief := h clean
    subst clean
    refine World.Ensures.bind
      (relieves_removeFromNode (relief.steady.unscripted hw) fun a _ => relief.ids ids a) ?_
    rintro (e | taken) x ⟨steady, handled⟩ none_failed
    · cases none_failed
    · generalize gone : x.daemons = d at handled
      cases handled with
      | settled a found reached revised right =>
        subst gone
        obtain ⟨b, found', relieved⟩ := right
        obtain rfl : a = b := Option.some.inj (found.symm.trans found')
        rw [relief.steady.cluster] at found
        exact relief.step steady found revised relieved
  · have some_failed : v.Ensures (removeStep scheme u failed n) fun failed' _ => failed' ≠ [] := by
      refine World.Ensures.bind (P := fun _ _ => True) trivial ?_
      rintro (e | taken) x -
      · exact List.append_ne_nil_of_right_ne_nil _ (List.cons_ne_nil _ _)
      · exact clean
    exact some_failed.mono fun _ _ some_failed none_failed => absurd none_failed some_failed

theorem ensures_remove (scheme : Scheme) (wl : Workload) (hw : w.Unscripted)
    (ids : ∀ a, ((w.daemons.entriesAt a).map (·.id)).Nodup) :
    w.Ensures (remove scheme wl).run fun result v =>
      result = .ok () → w.Relief scheme wl.uuid w.cluster.nodeStates v := by
  refine World.Ensures.attemptBind (finds_listNodeStates w) ?_ fun _ _ _ h => nomatch h
  rintro l v ⟨rests, listed⟩
  obtain rfl := listed l rfl
  -- Visited are the node states that are not among the rest.
  have visits : v.Ensures (w.cluster.nodeStates.foldlM (removeStep scheme wl.uuid) [])
      fun failed x => failed = [] → w.Relief scheme wl.uuid w.cluster.nodeStates x := by
    refine World.Ensures.mono (World.Ensures.foldlM (I := fun rest failed x => ∃ visited,
      w.cluster.nodeStates = visited ++ rest ∧
        (failed = [] → w.Relief scheme wl.uuid visited x)) ?_ _ ?_) ?_
    · rintro n rest failed x ⟨visited, split, relief⟩
      refine (ensures_removeStep hw ids relief).mono fun failed' y relief' => ?_
      exact ⟨visited ++ [n], by rw [split, List.append_assoc, List.singleton_append], relief'⟩
    · exact ⟨[], rfl, fun _ => .start rests⟩
    · rintro failed x ⟨visited, split, relief⟩
      rwa [split, List.append_nil]
  refine World.Ensures.attemptBind visits.lift ?_ fun _ _ ⟨_, h, _⟩ => nomatch h
  rintro failed x ⟨_, ⟨⟩, relief⟩
  cases failed with
  | nil => exact fun _ => relief rfl
  | cons node rest => exact fun ended => nomatch ended

end Removal

/-- Removing takes one entry of the workload for each node state. Let no table have two entries with one
id. If the removal ends well, each node state has an address, the table there is clean of the workload
just if it held no more of its entries than node states lead there, and of more entries exactly so many
are gone, from the front of the table. The entries of other workloads are as they were. -/
theorem remove_takes_one_each {w : World} {scheme : Scheme} {wl : Workload} (unscripted : w.Unscripted)
    (ids : ∀ a, ((w.daemons.entriesAt a).map (·.id)).Nodup)
    (ended : (w.run (remove scheme wl).run).value = .ok ()) :
    let after := (w.run (remove scheme wl).run).state.daemons
    let leading := w.cluster.leadingTo scheme w.cluster.nodeStates
    (∀ n ∈ w.cluster.nodeStates, ∃ a, w.cluster.address? scheme n.node n.space = some a ∧
      (Entry.owned wl.uuid (after.entriesAt a) = [] ↔
        (Entry.owned wl.uuid (w.daemons.entriesAt a)).length ≤ leading a)) ∧
    (∀ a, Entry.owned wl.uuid (after.entriesAt a) =
      (Entry.owned wl.uuid (w.daemons.entriesAt a)).drop (leading a)) ∧
    ∀ a, Entry.foreign wl.uuid (after.entriesAt a) =
      Entry.foreign wl.uuid (w.daemons.entriesAt a) := by
  have relief := ensures_remove scheme wl unscripted ids ended
  refine ⟨fun n hn => ?_, relief.owned, relief.others⟩
  obtain ⟨a, found⟩ := relief.found n hn
  exact ⟨a, found, by rw [relief.owned, List.drop_eq_nil_iff]⟩

/-- A node whose daemon holds two entries of one workload, and one of another. -/
def twoEntries : World where
  daemons := ((({} : Daemons).insert "http://10.0.0.1:8443" "w.").insert
    "http://10.0.0.1:8443" "v.").insert "http://10.0.0.1:8443" "w."
  cluster := ({} : Cluster).addDaemonNode "n1" "rmd" "10.0.0.1" 4

theorem twoEntries_ids (a : String) : ((twoEntries.daemons.entriesAt a).map (·.id)).Nodup := by
  simp only [twoEntries, Daemons.insert, Daemons.entriesAt_push]
  split
  · decide +kernel
  · exact List.nodup_nil

theorem remove_takes_one_each_twoEntries :
    let wl : Workload := { metadata := { name := some "w" }, spec := {} }
    let after := (twoEntries.run (remove .http wl).run).state.daemons
    (Entry.owned wl.uuid (after.entriesAt "http://10.0.0.1:8443")).map (·.id) = ["3"] ∧
      Entry.foreign wl.uuid (after.entriesAt "http://10.0.0.1:8443") =
        Entry.foreign wl.uuid (twoEntries.daemons.entriesAt "http://10.0.0.1:8443") := by
  intro wl after
  have ended : (twoEntries.run (remove .http wl).run).value = .ok () := by decide +kernel
  obtain ⟨-, owned, foreign⟩ := remove_takes_one_each (fun _ _ => rfl) twoEntries_ids ended
  have held : (Entry.owned wl.uuid (twoEntries.daemons.entriesAt "http://10.0.0.1:8443")).map (·.id) =
      ["1", "3"] := by
    decide +kernel
  have leading : twoEntries.cluster.leadingTo .http twoEntries.cluster.nodeStates
      "http://10.0.0.1:8443" = 1 := by
    decide +kernel
  refine ⟨?_, foreign _⟩
  rw [owned, leading, List.map_drop, held, List.drop_one, List.tail_cons]

/-- So an entry of a workload can outlive its removal, though all ids differ. -/
theorem remove_leaves_entry :
    let wl : Workload := { metadata := { name := some "w" }, spec := {} }
    let removed := twoEntries.run (remove .http wl).run
    (∀ a, ((twoEntries.daemons.entriesAt a).map (·.id)).Nodup) ∧ removed.value = .ok () ∧
    (∃ n ∈ twoEntries.cluster.nodeStates,
      ∃ a, twoEntries.cluster.address? .http n.node n.space = some a ∧
        ∃ e ∈ removed.state.daemons.entriesAt a, e.uuid = wl.uuid) := by
  intro wl removed
  have ended : removed.value = .ok () := by decide +kernel
  have found : twoEntries.cluster.nodeStates.map (fun n =>
      twoEntries.cluster.address? .http n.node n.space) = [some "http://10.0.0.1:8443"] := by
    decide +kernel
  have left : ∃ e ∈ removed.state.daemons.entriesAt "http://10.0.0.1:8443", e.uuid = wl.uuid := by
    decide +kernel
  obtain ⟨n, hn, there⟩ := List.mem_map.mp (found ▸ List.mem_singleton_self _)
  exact ⟨twoEntries_ids, ended, n, hn, _, there, left⟩

end CachePartition
