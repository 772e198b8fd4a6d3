import CachePartition.Daemon.Http
import CachePartition.Proofs.PinnedCpus
import CachePartition.Proofs.Refusals
import CachePartition.Proofs.Trimming
import CachePartition.Proofs.UnsignedNumerals
import Mathlib.Logic.Basic

/-! Workloads that ask for all CPUs but some. On each of its nodes such a workload gets the CPUs of this node that
are not reserved, in ascending order as numbers, and how the lists it is made from are written does not matter. -/
namespace CachePartition

open Pass

/-- Texts of the CPUs of a node that are not reserved: in ascending order as numbers, each once and written
canonically, and such that each CPU of the node is either among them or reserved. -/
structure ComplementOf (reserved : List String) (count : Nat) (cores : List String) : Prop where
  ascending : ∃ ids : List Nat, List.Forall₂ (fun core i => Text.CanonicalInt core.toList (i : Nat)) cores ids ∧
    ids.Pairwise (· < ·) ∧ ∀ i ∈ ids, i < count
  distinct : cores.Nodup
  divided : ∀ i < count, Xor (Text.decimal i ∈ cores) (Text.decimal i ∈ reserved)

/-- A node reports so many CPUs: its capacity is, between blanks, a numeral for their number, of 64 bits. -/
def Node.HasCpus (object : Node) (count : Nat) : Prop :=
  ∃ status capacity quantity t, object.status = some status ∧ status.capacity = some capacity ∧
    capacity.get? "cpu" = some quantity ∧ Text.Stripped quantity.toList t ∧ Text.NumeralOf 10 t count ∧
      count < 2 ^ 64

/-- The part of a trace that deals with a target of a workload that asks for all CPUs but some. Only once the daemon
is found and the CPUs of the target are counted, the daemon is called, first for a listing. If it gives one, an
entry is created or updated there, with the CPUs of the target that are not reserved. -/
inductive ComplementPart (scheme : Scheme) (w : Workload) (nodeStates : List NodeState) (node : String) :
    List Exchange → Prop where
  | unknown (unknown : (spacesByNode nodeStates).get? node = none) : ComplementPart scheme w nodeStates node []
  | unaddressed {space : String} {lookup : List Exchange}
      (known : (spacesByNode nodeStates).get? node = some space) (missing : AddressMissing node space lookup) :
    ComplementPart scheme w nodeStates node lookup
  | uncounted {space address : String} {lookup count : List Exchange}
      (known : (spacesByNode nodeStates).get? node = some space)
      (found : AddressFound scheme node space address lookup) (missing : CoresMissing node count) :
    ComplementPart scheme w nodeStates node (lookup ++ count)
  | unlisted {space address : String} {lookup : List Exchange} {object : Node} {count : Nat}
      (known : (spacesByNode nodeStates).get? node = some space)
      (found : AddressFound scheme node space address lookup) (counted : object.HasCpus count) (e : DaemonError) :
    ComplementPart scheme w nodeStates node
      (lookup ++ [⟨.cluster (.node node), .ok (some object)⟩, ⟨.daemon (.list address), .error e⟩])
  | sent {space address : String} {lookup rest : List Exchange} {object : Node} {count : Nat}
      {entries : List Entry} {c : DaemonCall} {body : Entry}
      (known : (spacesByNode nodeStates).get? node = some space)
      (found : AddressFound scheme node space address lookup) (counted : object.HasCpus count)
      (write : c = .create address body ∨ ∃ id, c = .update address id body) (answer : c.Answer)
      (complement : ComplementOf w.spec.reservedCpus count body.coreIds)
      (listings : ∀ x ∈ rest, x.call = .daemon (.list address)) :
    ComplementPart scheme w nodeStates node
      (lookup ++ ⟨.cluster (.node node), .ok (some object)⟩ :: ⟨.daemon (.list address), .ok entries⟩ ::
        ⟨.daemon c, answer⟩ :: rest)

theorem Text.canonicalInt_decimal (n : Nat) : CanonicalInt (decimal n).toList (n : Nat) := by
  have written := canonicalInt_signedDecimal n
  rwa [signedDecimal, if_neg (by omega), Int.natAbs_natCast] at written

/-- What is left of the CPUs of a node when some are taken out. -/
theorem complementOf_resolve (reserved : List String) (count : Nat) :
    ComplementOf reserved count ((CoreSelection.allExcept (.ofList reserved)).resolve count) := by
  have kept : (CoreSelection.allExcept (.ofList reserved)).resolve count =
      ((List.range count).filter fun i => Text.decimal i ∉ reserved).map Text.decimal := by
    rw [CoreSelection.resolve, List.filter_map]
    apply congrArg (List.map Text.decimal)
    apply List.filter_congr
    intro i _
    have contained := TextSet.contains_ofList reserved (Text.decimal i)
    simp only [Function.comp_apply, Bool.not_eq_eq_eq_not]
    by_cases h : Text.decimal i ∈ reserved
    · simp [h, contained.mpr h]
    · simpa [h] using fun inside => h (contained.mp inside)
  rw [kept]
  refine ⟨⟨(List.range count).filter fun i => Text.decimal i ∉ reserved, ?_, ?_, ?_⟩, ?_, ?_⟩
  · rw [List.forall₂_map_left_iff, List.forall₂_same]
    intro i _
    exact Text.canonicalInt_decimal i
  · exact List.pairwise_lt_range.filter _
  · intro i hi
    exact List.mem_range.mp (List.mem_filter.mp hi).1
  · apply List.Nodup.map Text.decimal_injective
    exact List.nodup_range.filter _
  · intro i hi
    have listed : Text.decimal i ∈ ((List.range count).filter fun i => Text.decimal i ∉ reserved).map Text.decimal ↔
        Text.decimal i ∉ reserved := by
      rw [List.mem_map_of_injective Text.decimal_injective, List.mem_filter]
      simp [hi]
    rw [xor_iff_iff_not, listed]

theorem Node.cpuCount?_eq_some {object : Node} {count : Nat} :
    object.cpuCount? = some count ↔ object.HasCpus count := by
  unfold cpuCount? HasCpus
  simp only [Option.bind_eq_bind, Option.bind_eq_some_iff]
  constructor
  · rintro ⟨status, known, capacity, given, quantity, listed, read⟩
    have numeral := (Text.readDecimal?_eq_some (by decide)).mp read
    exact ⟨status, capacity, quantity, _, known, given, listed, Text.stripped_trimBlanks _, numeral⟩
  · rintro ⟨status, capacity, quantity, t, known, given, listed, stripped, numeral⟩
    rw [← stripped.trimBlanks_eq] at numeral
    exact ⟨status, known, capacity, given, quantity, listed, (Text.readDecimal?_eq_some (by decide)).mpr numeral⟩

section Traces

variable {scheme : Scheme} {w : Workload} {nodeStates : List NodeState} {node space : String}

/-- Settling an entry is a listing and, unless that fails, a write and nothing but listings after it. -/
theorem Settling.calls_cases {address : String} {body : Entry} {calls : List Exchange}
    {result : Except String NodeResult} (h : Settling address body calls result) :
    (∃ e, calls = [⟨.daemon (.list address), .error e⟩]) ∨ ∃ (entries : List Entry) (c : DaemonCall)
      (answer : c.Answer) (rest : List Exchange),
      calls = ⟨.daemon (.list address), .ok entries⟩ :: ⟨.daemon c, answer⟩ :: rest ∧
      (c = .create address body ∨ ∃ id, c = .update address id body) ∧
      ∀ x ∈ rest, x.call = .daemon (.list address) := by
  cases h with
  | unlisted e => exact .inl ⟨e, rfl⟩
  | updated | failed => exact .inr ⟨_, _, _, [], rfl, .inr ⟨_, rfl⟩, by simp⟩
  | absent _ creating =>
    cases creating with
    | refused | failed => exact .inr ⟨_, _, _, [], rfl, .inl rfl, by simp⟩
    | unlisted | created | dropped => exact .inr ⟨_, _, _, [_], rfl, .inl rfl, by simp⟩

/-- Dealing with a target of a workload that asks for all CPUs but some goes in one of these ways. -/
theorem Bringing.complementPart {t : List Exchange} {result : Except String NodeResult}
    (h : Bringing scheme w node space t result) (all : w.spec.allCores = true)
    (known : (spacesByNode nodeStates).get? node = some space) : ComplementPart scheme w nodeStates node t := by
  cases h with
  | unaddressed missing => exact .unaddressed known missing
  | uncounted found _ missing => exact .uncounted known found missing
  | settled found chosen settling =>
    cases chosen with
    | listed explicit =>
      rw [all] at explicit
      cases explicit
    | @counted object count _ counted =>
      have counted := Node.cpuCount?_eq_some.mp counted
      have complement := complementOf_resolve w.spec.reservedCpus count
      rcases settling.calls_cases with ⟨e, rfl⟩ | ⟨entries, c, answer, rest, rfl, write, listings⟩
      · exact .unlisted known found counted e
      · exact .sent known found counted write answer complement listings

theorem Visit.target_complementPart {t : List Exchange} {f : Finding} (all : w.spec.allCores = true)
    (h : ((Visit.target node).pass scheme w (spacesByNode nodeStates)).Yields t f) :
    ComplementPart scheme w nodeStates node t := by
  rcases target_yields h with ⟨unknown, rfl, -⟩ | ⟨space, r, known, brought, -⟩
  · exact .unknown unknown
  · exact (syncNode_yields brought).complementPart all known

end Traces

theorem TextSet.ofList_congr {l l' : List String} (same : ∀ t, t ∈ l' ↔ t ∈ l) : ofList l' = ofList l := by
  apply SortedMap.ext
  intro t
  have contained : (ofList l').contains t = (ofList l).contains t := by
    rw [Bool.eq_iff_iff, contains_ofList, contains_ofList]
    exact same t
  unfold contains SortedMap.contains at contained
  cases there : SortedMap.get? (ofList l) t with
  | none => simpa [there] using contained
  | some _ =>
    rw [there, Option.isSome_some, Option.isSome_iff_exists] at contained
    exact contained.choose_spec

/-- The workload with other lists of cores, reserved CPUs and nodes. -/
def Workload.withLists (w : Workload) (cores reserved nodes : List String) : Workload :=
  { w with spec := { w.spec with cores, reservedCpus := reserved, nodes } }

/-- If all CPUs but some are asked for, it is all the same which cores are listed and how often and in which order
reserved CPUs and nodes are. -/
theorem sync_withLists (scheme : Scheme) {w : Workload} (all : w.spec.allCores = true)
    (cores : List String) {reserved nodes : List String} (cpus : ∀ cpu, cpu ∈ reserved ↔ cpu ∈ w.spec.reservedCpus)
    (places : ∀ node, node ∈ nodes ↔ node ∈ w.spec.nodes) :
    sync scheme (w.withLists cores reserved nodes) = sync scheme w := by
  have targets : (w.withLists cores reserved nodes).spec.targets = w.spec.targets :=
    TextSet.ofList_congr places
  have chosen : (w.withLists cores reserved nodes).spec.coreSelection = w.spec.coreSelection := by
    have all' : (w.withLists cores reserved nodes).spec.allCores = true := all
    unfold WorkloadSpec.coreSelection
    rw [if_pos all, if_pos all']
    exact congrArg CoreSelection.allExcept (TextSet.ofList_congr cpus)
  have brought (node space : String) :
      syncNode scheme (w.withLists cores reserved nodes) node space = syncNode scheme w node space := by
    unfold syncNode resolveCores
    rw [chosen]
    rfl
  have synced : syncTarget scheme (w.withLists cores reserved nodes) = syncTarget scheme w := by
    funext spaces r node
    unfold syncTarget
    simp only [brought]
    rfl
  unfold sync
  rw [targets, synced]
  rfl

/-- A synchronization of a workload that asks for all CPUs but some deals with each target once, and what it writes
there has the CPUs of this target that are not reserved. No entries are written on other nodes. Which cores are
listed and how often and in which order reserved CPUs and nodes are changes nothing in the pass. -/
theorem complement_on_each_node {σ : Type} (scheme : Scheme) (w : Workload) (answer : Surroundings σ) (s : σ)
    (all : w.spec.allCores = true) :
    let trace := ((sync scheme w).run.run answer s).trace
    (Silent trace ∨ ∃ nodeStates targetParts sweepParts,
      trace = ⟨.cluster .nodeStates, .ok nodeStates⟩ :: (targetParts.flatten ++ sweepParts.flatten) ∧
      List.Forall₂ (ComplementPart scheme w nodeStates) w.spec.targets.toList targetParts ∧
      List.Forall₂ (SweepPart scheme w) (nodeStates.filter fun n => n.node ∉ w.spec.nodes) sweepParts) ∧
    w.spec.targets.toList.Nodup ∧ (∀ node, node ∈ w.spec.targets.toList ↔ node ∈ w.spec.nodes) ∧
    ∀ cores reserved nodes, (∀ cpu, cpu ∈ reserved ↔ cpu ∈ w.spec.reservedCpus) →
      (∀ node, node ∈ nodes ↔ node ∈ w.spec.nodes) →
      sync scheme (w.withLists cores reserved nodes) = sync scheme w := by
  intro trace
  refine ⟨?_, w.spec.targets_nodup, w.spec.mem_targets, ?_⟩
  · have yields := run_yields (sync scheme w).run answer s
    rcases sync_visits yields with ⟨silent, -⟩ | ⟨nodeStates, rounds, split, -, each⟩
    · exact .inl silent
    rw [Visit.Rounds, Workload.visits, w.spec.others_eq] at each
    obtain ⟨tours, sweeps, rfl, onTargets, onOthers⟩ := forall₂_append_left each
    rw [List.forall₂_map_left_iff] at onTargets onOthers
    refine .inr ⟨nodeStates, tours.map (·.1), sweeps.map (·.1), ?_, ?_, ?_⟩
    · simpa using split
    · rw [List.forall₂_map_right_iff]
      exact onTargets.imp fun _ _ visited => Visit.target_complementPart all visited
    · rw [List.forall₂_map_right_iff]
      have listed : ∀ n ∈ nodeStates.filter fun n => n.node ∉ w.spec.nodes, n.node ∉ w.spec.nodes := by
        intro n hn
        simpa using (List.mem_filter.mp hn).2
      apply ((List.forall₂_and_left _ _).mpr ⟨listed, onOthers⟩).imp
      rintro n round ⟨untargeted, visited⟩
      obtain ⟨r, removed, -⟩ := other_yields visited
      exact (removeFromNode_yields removed).sweepPart untargeted
  · intro cores reserved nodes cpus places
    exact sync_withLists scheme all cores cpus places

/-- Two nodes that differ in size. -/
def twoSizes : World where
  cluster := (({} : Cluster).addDaemonNode "n1" "rmd" "10.0.0.1" 4).addDaemonNode "n2" "rmd" "10.0.0.2" 2

/-- A workload for all CPUs of both nodes but one. The other reserved texts are no CPUs of theirs. -/
def allButOne : Workload where
  metadata := { name := some "w" }
  spec := { allCores := true, reservedCpus := ["1", "x", "01", "1", "7"], nodes := ["n2", "n1", "n2"] }

theorem complement_on_each_node_twoSizes :
    let trace := ((sync .http allButOne).run.run World.answer twoSizes).trace
    let sent (x : Exchange) : Option (List String) :=
      match x.call with
      | .daemon c => c.body?.map Entry.coreIds
      | _ => none
    allButOne.spec.allCores = true ∧ trace.filterMap sent = [["0", "2", "3"], ["0"]] ∧
    (∃ nodeStates first second rest, ComplementPart .http allButOne nodeStates "n1" first ∧
      ComplementPart .http allButOne nodeStates "n2" second ∧
      trace = ⟨.cluster .nodeStates, .ok nodeStates⟩ :: (first ++ second ++ rest)) ∧
    sync .http (allButOne.withLists ["5"] ["7", "01", "1", "x"] ["n1", "n2"]) = sync .http allButOne := by
  intro trace sent
  have all : allButOne.spec.allCores = true := rfl
  obtain ⟨parts, -, -, unmoved⟩ := complement_on_each_node .http allButOne World.answer twoSizes all
  have written : trace.filterMap sent = [["0", "2", "3"], ["0"]] := by decide +kernel
  refine ⟨all, written, ?_, unmoved ["5"] _ _ ?_ ?_⟩
  · rcases parts with silent | ⟨nodeStates, targetParts, sweepParts, split, onTargets, -⟩
    · have spoken : trace.any Exchange.isDaemon = true := by decide +kernel
      obtain ⟨x, mem, toDaemon⟩ := List.any_eq_true.mp spoken
      cases (silent x mem).symm.trans toDaemon
    have targets : allButOne.spec.targets.toList = ["n1", "n2"] := by decide +kernel
    rw [targets] at onTargets
    cases onTargets with
    | cons atFirst others =>
      cases others with
      | cons atSecond none =>
        cases none
        exact ⟨nodeStates, _, _, sweepParts.flatten, atFirst, atSecond, by simpa using split⟩
  · intro cpu
    simp [allButOne]
    tauto
  · intro node
    simp [allButOne]
    tauto

end CachePartition
