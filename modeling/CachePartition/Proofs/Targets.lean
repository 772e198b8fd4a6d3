import CachePartition.Reconcile.Synchronization
import Mathlib.Data.List.Induction

/-! Which nodes a workload is to be on, and the namespaces in which the daemons of nodes are looked for. -/
namespace CachePartition

namespace SortedMap

variable {κ α : Type} [KeyOrder κ] {l : List (κ × α)} {k : κ} {v : α}

theorem insertEntry_perm (fresh : ∀ e ∈ l, e.1 ≠ k) : (insertEntry k v l).Perm ((k, v) :: l) := by
  induction l with
  | nil => exact .refl _
  | cons e l ih =>
    obtain ⟨other, fresh⟩ := List.forall_mem_cons.mp fresh
    unfold insertEntry
    split
    · exact .refl _
    · next first =>
      split
      · exact ((ih fresh).cons e).trans (.swap ..)
      · next last =>
        rcases KeyOrder.lt_connected e.1 k with h | h | h
        · exact absurd h last
        · exact absurd h other
        · exact absurd h first

/-- A map made of bindings with different keys holds just these. -/
theorem ofList_perm (distinct : (l.map (·.1)).Nodup) : (ofList l).entries.Perm l := by
  induction l using List.reverseRecOn with
  | nil => exact .refl _
  | append_singleton l e ih =>
    rw [List.map_append, List.map_singleton, List.nodup_append] at distinct
    obtain ⟨distinct, -, other⟩ := distinct
    have before := ih distinct
    have fresh : ∀ a ∈ (ofList l).entries, a.1 ≠ e.1 := by
      intro a ha
      exact other _ (List.mem_map_of_mem (before.mem_iff.mp ha)) _ (List.mem_singleton_self _)
    rw [ofList_concat]
    exact (insertEntry_perm fresh).trans ((before.cons e).trans (List.perm_append_singleton e l).symm)

theorem get?_ofList (distinct : (l.map (·.1)).Nodup) : (ofList l).get? k = some v ↔ (k, v) ∈ l :=
  get?_eq_some_iff.trans (ofList_perm distinct).mem_iff

end SortedMap

namespace TextSet

theorem contains_insert (s : TextSet) (a b : String) :
    (s.insert a).contains b = (decide (b = a) || s.contains b) := by
  by_cases h : b = a
  · subst h
    simp [contains, insert, SortedMap.contains]
  · simp [contains, insert, SortedMap.contains, h, SortedMap.get?_insert_ne]

theorem contains_ofList (l : List String) (b : String) : (ofList l).contains b = true ↔ b ∈ l := by
  induction l using List.reverseRecOn with
  | nil => simp [ofList, contains, empty, SortedMap.contains]
  | append_singleton l a ih =>
    have step : ofList (l ++ [a]) = (ofList l).insert a := by simp [ofList]
    rw [step, contains_insert]
    simp [ih, or_comm]

end TextSet

theorem WorkloadSpec.mem_targets (s : WorkloadSpec) (node : String) :
    node ∈ s.targets.toList ↔ node ∈ s.nodes :=
  SortedMap.contains_iff_mem_keys.symm.trans (TextSet.contains_ofList s.nodes node)

theorem WorkloadSpec.contains_targets (s : WorkloadSpec) (node : String) :
    s.targets.contains node = true ↔ node ∈ s.nodes :=
  TextSet.contains_ofList s.nodes node

theorem WorkloadSpec.targets_nodup (s : WorkloadSpec) : s.targets.toList.Nodup :=
  SortedMap.keys_nodup _

variable {nodeStates : List NodeState} {node space : String}

/-- A namespace known for a node is that of one of its node states. -/
theorem mem_of_spacesByNode (h : (spacesByNode nodeStates).get? node = some space) :
    ∃ n ∈ nodeStates, n.node = node ∧ n.space = space := by
  induction nodeStates using List.reverseRecOn with
  | nil => cases h
  | append_singleton l n ih =>
    rw [spacesByNode, List.map_append, List.map_singleton, SortedMap.ofList_concat] at h
    by_cases hn : node = n.node
    · subst hn
      rw [SortedMap.get?_insert_self] at h
      exact ⟨n, by simp, rfl, Option.some.inj h⟩
    · rw [SortedMap.get?_insert_ne _ hn] at h
      obtain ⟨m, hm, rest⟩ := ih h
      exact ⟨m, by simp [hm], rest⟩

/-- Where no two node states are of one node, each gives the namespace of its node. -/
theorem spacesByNode_of_mem (distinct : (nodeStates.map NodeState.node).Nodup) {n : NodeState}
    (h : n ∈ nodeStates) : (spacesByNode nodeStates).get? n.node = some n.space := by
  have keys : ((nodeStates.map fun n => (n.node, n.space)).map (·.1)).Nodup := by
    rwa [List.map_map]
  exact (SortedMap.get?_ofList keys).mpr (List.mem_map_of_mem h)

theorem spacesByNode_eq_none_iff :
    (spacesByNode nodeStates).get? node = none ↔ ∀ n ∈ nodeStates, n.node ≠ node := by
  induction nodeStates using List.reverseRecOn with
  | nil => simp [spacesByNode, SortedMap.ofList]
  | append_singleton l m ih =>
    rw [spacesByNode, List.map_append, List.map_singleton, SortedMap.ofList_concat]
    by_cases hn : node = m.node
    · simp [hn]
    · rw [SortedMap.get?_insert_ne _ hn, ← spacesByNode, ih]
      simp only [List.mem_append, List.mem_singleton, or_imp, forall_and, forall_eq]
      exact ⟨fun h => ⟨h, fun heq => hn heq.symm⟩, fun h => h.1⟩

theorem contains_spacesByNode :
    (spacesByNode nodeStates).contains node = true ↔ ∃ n ∈ nodeStates, n.node = node := by
  rw [SortedMap.contains, Option.isSome_iff_ne_none, ne_eq, spacesByNode_eq_none_iff]
  simp

end CachePartition
