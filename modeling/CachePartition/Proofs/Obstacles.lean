import CachePartition.Proofs.Placement

/-! What exactly is derived from a pod, whatever lists the CPUs. The containers have their turns in order,
each that qualifies with a listing of its own, and the first obstacle is the error. -/
namespace CachePartition

open Pass

/-- What is listed at a time: the CPUs of pods, or that they are not known. -/
abbrev CpuListing := Except IntrospectionError (List PodCpus)

/-- What stands in the way of a container's workload, as the error says it. The CPU request is read of each
container that limits cache ways in a pod with the guaranteed class; all else is asked of containers that
qualify. -/
inductive Obstacle (pod : Pod) (c : Container) (listing : CpuListing) : Report DeriveError → Prop where
  | malformed {quantity : String} (candidate : c.candidate?.isSome) (guaranteed : pod.isGuaranteed)
      (asked : c.request? "cpu" = some quantity) (unread : Quantity.millis? quantity = none) :
    Obstacle pod c listing ⟨.quantity c.name "cpu" quantity, []⟩
  | nameless (qualifies : pod.qualifies c) (noUid : pod.hasUid = false) :
    Obstacle pod c listing ⟨.noUid pod.name, []⟩
  | unlisted {e : IntrospectionError} (qualifies : pod.qualifies c) (uid : pod.hasUid)
      (failed : listing = .error e) :
    Obstacle pod c listing ⟨.noCpus pod.name c.name, [.introspection e]⟩
  | unpinned {pods : List PodCpus} (qualifies : pod.qualifies c) (uid : pod.hasUid)
      (listed : listing = .ok pods)
      (absent : findContainer? pods pod.spaceOrDefault pod.name c.name = none) :
    Obstacle pod c listing ⟨.noCpus pod.name c.name,
      [.introspection (.notFound (pod.spaceOrDefault ++ "/" ++ pod.name) c.name)]⟩
  | idle {pods : List PodCpus} {pinned : ContainerCpus} (qualifies : pod.qualifies c) (uid : pod.hasUid)
      (listed : listing = .ok pods)
      (found : findContainer? pods pod.spaceOrDefault pod.name c.name = some pinned)
      (idle : pinned.cpuIds = []) : Obstacle pod c listing ⟨.noCpus pod.name c.name, []⟩
  | uneven {pods : List PodCpus} {pinned : ContainerCpus} {limit : String} (qualifies : pod.qualifies c)
      (uid : pod.hasUid) (listed : listing = .ok pods)
      (found : findContainer? pods pod.spaceOrDefault pod.name c.name = some pinned)
      (busy : pinned.cpuIds ≠ []) (limited : c.limit? cacheWaysResource = some limit)
      (fraction : Quantity.whole? limit = none) :
    Obstacle pod c listing ⟨.quantity c.name cacheWaysResource limit, []⟩

/-- A workload gives a container what it is to have: the cores listed for it, in ascending order, and as
many cache ways as it is limited to, on the node of its pod. -/
inductive WorkloadFor (listing : CpuListing) (pod : Pod) (c : Container) (wl : Workload) : Prop where
  | intro {pods : List PodCpus} {pinned : ContainerCpus} {ids : List Int64} {limit : String}
      {ways : UInt32}
      (name : wl.name = workloadName pod.name c.name)
      (space : wl.metadata.space = some pod.spaceOrDefault)
      (nodes : wl.spec.nodes = (pod.spec.bind (·.nodeName)).toList)
      (listed : listing = .ok pods)
      (found : findContainer? pods pod.spaceOrDefault pod.name c.name = some pinned)
      (all : ids.Perm pinned.cpuIds) (ascending : ids.Pairwise (· ≤ ·)) (busy : ids ≠ [])
      (cores : wl.spec.cores = ids.map fun id => Text.signedDecimal id.toInt)
      (limited : c.limit? cacheWaysResource = some limit) (whole : Quantity.whole? limit = some ways)
      (cache : wl.spec.allocation.cache = ⟨ways, ways⟩)

section Turn

variable {pod : Pod} {c : Container} {limit : String} {σ : Type} {answer : Surroundings σ} {s : σ}

theorem Container.wantsWholeCpus_eq_error {e : DeriveError} : c.wantsWholeCpus = .error e ↔
    ∃ quantity, c.request? "cpu" = some quantity ∧ Quantity.millis? quantity = none ∧
      e = .quantity c.name "cpu" quantity := by
  unfold wantsWholeCpus
  cases c.request? "cpu" with
  | none => simp
  | some quantity => cases read : Quantity.millis? quantity <;> simp [read, eq_comm]

theorem Container.wantsWholeCpus_eq_true : c.wantsWholeCpus = .ok true ↔
    ∃ quantity millis, c.request? "cpu" = some quantity ∧ Quantity.millis? quantity = some millis ∧
      0 < millis ∧ millis % 1000 = 0 := by
  unfold wantsWholeCpus
  cases c.request? "cpu" with
  | none => simp
  | some quantity =>
    cases read : Quantity.millis? quantity <;> simp [read, Quantity.isPositiveWhole]

/-- The cores of a container, by what is listed. -/
def coresListed (space name container : String) (listing : CpuListing) :
    Except (Report IntrospectionError) (List String) :=
  match listing with
  | .error e => .error ⟨e, []⟩
  | .ok pods =>
    match findContainer? pods space name container with
    | none => .error ⟨.notFound (space ++ "/" ++ name) container, []⟩
    | some pinned => .ok pinned.cores

theorem run_containerCpus (space name container : String) :
    (containerCpus space name container).run.run answer s =
      ⟨coresListed space name container (answer s .podCpus).1, (answer s .podCpus).2,
        [⟨.podCpus, (answer s .podCpus).1⟩]⟩ := by
  have asked : (orReport (perform .podCpus) fun e : IntrospectionError =>
      (⟨e, []⟩ : Report IntrospectionError)).run.run answer s =
      ⟨(answer s .podCpus).1.mapError fun e => ⟨e, []⟩, (answer s .podCpus).2,
        [⟨.podCpus, (answer s .podCpus).1⟩]⟩ := rfl
  cases listed : (answer s .podCpus).1 with
  | error e =>
    rw [listed] at asked
    exact run_attemptBind_failed asked _
  | ok pods =>
    rw [listed] at asked
    apply (run_attemptBind asked _).trans
    simp only [coresListed]
    cases findContainer? pods space name container <;> rfl

end Turn

/-- What successive listings show. -/
def listings {σ : Type} (answer : Surroundings σ) : σ → Nat → CpuListing
  | s, 0 => (answer s .podCpus).1
  | s, k + 1 => listings answer (answer s .podCpus).2 k

/-- No container meets an obstacle, where each has the listing after those for the containers before it. -/
def Pod.Clear (pod : Pod) (listing : Nat → CpuListing) (l : List Container) : Prop :=
  ∀ before c after, l = before ++ c :: after →
    ∀ r, ¬ Obstacle pod c (listing (before.countP pod.qualifies)) r

/-- The first container that meets an obstacle meets this one. -/
def Pod.Halts (pod : Pod) (listing : Nat → CpuListing) (l : List Container)
    (r : Report DeriveError) : Prop :=
  ∃ before c after, l = before ++ c :: after ∧ pod.Clear listing before ∧
    Obstacle pod c (listing (before.countP pod.qualifies)) r

/-- The containers that qualify have one workload each, in order, by successive listings. -/
structure Pod.Grants (pod : Pod) (listing : Nat → CpuListing) (l : List Container)
    (workloads : List Workload) : Prop where
  count : workloads.length = (l.filter pod.qualifies).length
  each (k : Nat) (c : Container) (wl : Workload) (container : (l.filter pod.qualifies)[k]? = some c)
    (workload : workloads[k]? = some wl) : WorkloadFor (listing k) pod c wl

section Loop

variable {pod : Pod} {c : Container} {l : List Container} {listing : Nat → CpuListing} {σ : Type}

theorem Pod.clear_nil : pod.Clear listing [] := by
  intro before c after split
  cases before <;> cases split

theorem Pod.clear_cons : pod.Clear listing (c :: l) ↔ (∀ r, ¬ Obstacle pod c (listing 0) r) ∧
    pod.Clear (fun k => listing (k + if pod.qualifies c then 1 else 0)) l := by
  constructor
  · intro h
    refine ⟨h [] c l rfl, fun before d after split => ?_⟩
    have there := h (c :: before) d after (congrArg _ split)
    rwa [List.countP_cons] at there
  · rintro ⟨here, rest⟩ before d after split
    cases before with
    | nil =>
      obtain ⟨rfl, rfl⟩ := List.cons.inj split
      exact here
    | cons b before =>
      obtain ⟨rfl, others⟩ := List.cons.inj split
      rw [List.countP_cons]
      exact rest before d after others

theorem Pod.halts_cons {r : Report DeriveError} : pod.Halts listing (c :: l) r ↔
    Obstacle pod c (listing 0) r ∨ (∀ r', ¬ Obstacle pod c (listing 0) r') ∧
      pod.Halts (fun k => listing (k + if pod.qualifies c then 1 else 0)) l r := by
  constructor
  · rintro ⟨before, d, after, split, clear, obstacle⟩
    cases before with
    | nil =>
      obtain ⟨rfl, rfl⟩ := List.cons.inj split
      exact .inl obstacle
    | cons b before =>
      obtain ⟨rfl, others⟩ := List.cons.inj split
      obtain ⟨here, rest⟩ := Pod.clear_cons.mp clear
      rw [List.countP_cons] at obstacle
      exact .inr ⟨here, before, d, after, others, rest, obstacle⟩
  · rintro (obstacle | ⟨here, before, d, after, rfl, clear, obstacle⟩)
    · exact ⟨[], c, l, rfl, Pod.clear_nil, obstacle⟩
    · refine ⟨c :: before, d, after, rfl, Pod.clear_cons.mpr ⟨here, clear⟩, ?_⟩
      rwa [List.countP_cons]

theorem Pod.halts_cons_of_clear {r : Report DeriveError} (clear : ∀ r, ¬ Obstacle pod c (listing 0) r) :
    pod.Halts listing (c :: l) r ↔
      pod.Halts (fun k => listing (k + if pod.qualifies c then 1 else 0)) l r := by
  rw [Pod.halts_cons]
  constructor
  · rintro (obstacle | ⟨-, rest⟩)
    · exact absurd obstacle (clear r)
    · exact rest
  · intro rest
    exact .inr ⟨clear, rest⟩

namespace Pod.Grants

variable {workloads : List Workload}

theorem skip (h : pod.Grants listing l workloads) (unfit : pod.qualifies c = false) :
    pod.Grants listing (c :: l) workloads := by
  have same : (c :: l).filter pod.qualifies = l.filter pod.qualifies :=
    List.filter_cons_of_neg (by simp [unfit])
  constructor
  · rw [same]
    exact h.count
  · rw [same]
    exact h.each

theorem cons {wl : Workload} (h : pod.Grants (fun k => listing (k + 1)) l workloads)
    (qualifies : pod.qualifies c = true) (fits : WorkloadFor (listing 0) pod c wl) :
    pod.Grants listing (c :: l) (wl :: workloads) := by
  have first : (c :: l).filter pod.qualifies = c :: l.filter pod.qualifies :=
    List.filter_cons_of_pos qualifies
  constructor
  · rw [first, List.length_cons, List.length_cons, h.count]
  · intro k d x container workload
    rw [first] at container
    cases k with
    | zero =>
      obtain rfl := Option.some.inj container
      obtain rfl := Option.some.inj workload
      exact fits
    | succ k => exact h.each k d x container workload

end Pod.Grants

/-- What the turns of containers come to: they end at the first obstacle, and if there is none, the CPUs
have been listed once for each container that qualifies and it has its workload. -/
structure Pod.Turns (pod : Pod) (listing : Nat → CpuListing) (l : List Container)
    (value : Except (Report DeriveError) (List (Option Workload))) (trace : List Exchange) : Prop where
  failed (r : Report DeriveError) : value = .error r ↔ pod.Halts listing l r
  fine (given : List (Option Workload)) (ended : value = .ok given) :
    pod.Grants listing l (given.filterMap id) ∧
      trace = (List.range (l.countP pod.qualifies)).map fun k => ⟨.podCpus, listing k⟩

namespace Pod.Turns

variable {value : Except (Report DeriveError) (List (Option Workload))} {trace : List Exchange}

theorem nil : pod.Turns listing [] (.ok []) [] := by
  constructor
  case failed =>
    intro r
    constructor
    · intro h
      cases h
    · rintro ⟨before, c, after, split, -⟩
      cases before <;> cases split
  case fine =>
    intro given ended
    cases ended
    exact ⟨⟨rfl, fun _ _ _ h => nomatch h⟩, rfl⟩

/-- A turn that goes well is one more turn before the others. -/
theorem cons {w? : Option Workload} {t : List Exchange} (clear : ∀ r, ¬ Obstacle pod c (listing 0) r)
    (h : pod.Turns (fun k => listing (k + if pod.qualifies c then 1 else 0)) l value trace)
    (grants : ∀ workloads,
      pod.Grants (fun k => listing (k + if pod.qualifies c then 1 else 0)) l workloads →
      pod.Grants listing (c :: l) (w?.toList ++ workloads))
    (asked : t = if pod.qualifies c then [⟨.podCpus, listing 0⟩] else []) :
    pod.Turns listing (c :: l) (value.map (w? :: ·)) (t ++ trace) := by
  constructor
  case failed =>
    intro r
    rw [Pod.halts_cons_of_clear clear, ← h.failed]
    cases value <;> simp [Except.map]
  case fine =>
    intro given ended
    cases value with
    | error r => cases ended
    | ok others =>
      cases ended
      obtain ⟨granted, told⟩ := h.fine others rfl
      constructor
      · have all := grants _ granted
        cases w? <;> exact all
      · rw [asked, told, List.countP_cons]
        split
        · simp [List.range_succ_eq_map]
        · simp

end Pod.Turns

end Loop

end CachePartition
