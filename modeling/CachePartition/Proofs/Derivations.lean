import CachePartition.Proofs.CallKinds
import CachePartition.Proofs.DerivedNames
import CachePartition.Proofs.ExternalIds
import CachePartition.World.Basic

/-! What is derived from pods and applied for them. Whatever CPUs are said to be pinned, a derived
workload is named after its pod and a container whose name holds no separator, and nothing else is
applied. -/
namespace CachePartition

open Pass

/-- A workload that a container of the pod may yield. -/
inductive Derived (pod : Pod) : Workload → Prop where
  | intro {hostIp limit : String} {containers : List Container} {c : Container}
      (there : pod.containersOn? hostIp = some containers) (mem : c ∈ containers)
      (candidate : c.candidate? = some limit) (cores : List String) (ways : UInt32) :
    Derived pod (derivedWorkload pod c cores ways)

/-- A container that may yield a workload holds no separator in its name. -/
theorem Container.plain_of_candidate? {c : Container} {limit : String}
    (h : c.candidate? = some limit) :
    Text.occursIn workloadSeparator.toList c.name.toList = false := by
  simpa using (Option.filter_eq_some_iff.mp h).2

/-- The CPUs of a container as cores of a workload. -/
def ContainerCpus.cores (c : ContainerCpus) : List String :=
  (c.cpuIds.mergeSort fun a b => a ≤ b).map fun id => Text.signedDecimal id.toInt

/-- The container has a workload of its own: it limits cache ways, and its pod has whole CPUs to
itself. -/
def Pod.qualifies (p : Pod) (c : Container) : Bool :=
  c.candidate?.isSome && p.isGuaranteed && c.wantsWholeCpus.toOption.getD false

/-- The containers of the pod that have workloads if it runs on the host. -/
def Pod.qualifying (p : Pod) (hostIp : String) : List Container :=
  ((p.containersOn? hostIp).getD []).filter p.qualifies

/-- What a container of the pod yields: the CPUs are listed, and the workload gets those of the container
as its cores and the limit of the container as its cache ways. -/
inductive Yielding (pod : Pod) (c : Container) : List Exchange → Workload → Prop where
  | intro {pods : List PodCpus} {pinned : ContainerCpus} {limit : String} {ways : UInt32}
      (found : findContainer? pods pod.spaceOrDefault pod.name c.name = some pinned)
      (candidate : c.candidate? = some limit) (whole : Quantity.whole? limit = some ways) :
    Yielding pod c [⟨.podCpus, .ok pods⟩] (derivedWorkload pod c pinned.cores ways)

section Deriving

variable {pod : Pod} {hostIp : String} {t : List Exchange}

theorem containerCpus_yields {space name container : String} {cores : List String}
    (h : (containerCpus space name container).run.Yields t (.ok cores)) :
    ∃ pods pinned, t = [⟨.podCpus, .ok pods⟩] ∧
      findContainer? pods space name container = some pinned ∧ cores = pinned.cores := by
  obtain ⟨answer, t₁, t₂, asked, rfl, ⟨e, -, -, heq⟩ | ⟨pods, rfl, rest⟩⟩ := h.of_asked
  · cases heq
  obtain rfl := asked.of_perform
  cases found : findContainer? pods space name container with
  | none =>
    simp only [found] at rest
    exact nomatch rest.of_done.2
  | some pinned =>
    simp only [found] at rest
    obtain ⟨rfl, heq⟩ := rest.of_done
    exact ⟨pods, pinned, rfl, found, Except.ok.inj heq⟩

theorem deriveContainer_yields {c : Container} {limit : String} {w : Workload}
    (candidate : c.candidate? = some limit)
    (h : (deriveContainer pod c limit).run.Yields t (.ok w)) : Yielding pod c t w := by
  unfold deriveContainer at h
  split at h
  · exact nomatch h.of_done.2
  rcases h.of_attemptBind with ⟨e, -, heq⟩ | ⟨cores, t₁, t₂, listed, rest, rfl⟩
  · cases heq
  obtain ⟨r, t₃, t₄, listed, last, rfl⟩ := listed.of_bind
  obtain ⟨rfl, heq⟩ := last.of_done
  cases r with
  | error e => cases heq
  | ok cores' =>
    obtain rfl : cores = cores' := Except.ok.inj heq
    obtain ⟨pods, pinned, rfl, found, rfl⟩ := containerCpus_yields listed
    split at rest
    · exact nomatch rest.of_done.2
    split at rest
    · exact nomatch rest.of_done.2
    · next ways whole =>
      obtain ⟨rfl, heq⟩ := rest.of_done
      obtain rfl := Except.ok.inj heq
      exact .intro found candidate whole

/-- A container yields a workload just if it qualifies. -/
theorem deriveIfQualified_yields {c : Container} {w? : Option Workload}
    (h : (deriveIfQualified pod c).run.Yields t (.ok w?)) :
    (pod.qualifies c = false ∧ t = [] ∧ w? = none) ∨
      pod.qualifies c = true ∧ ∃ w, w? = some w ∧ Yielding pod c t w := by
  unfold deriveIfQualified at h
  split at h
  · next candidate =>
    obtain ⟨rfl, heq⟩ := h.of_done
    exact .inl ⟨by simp [Pod.qualifies, candidate], rfl, Except.ok.inj heq⟩
  · next limit candidate =>
    split at h
    · next unguaranteed =>
      obtain ⟨rfl, heq⟩ := h.of_done
      refine .inl ⟨?_, rfl, Except.ok.inj heq⟩
      simp only [Bool.not_eq_eq_eq_not, Bool.not_true] at unguaranteed
      simp [Pod.qualifies, unguaranteed]
    · next guaranteed =>
      simp only [Bool.not_eq_eq_eq_not, Bool.not_true, Bool.not_eq_false] at guaranteed
      split at h
      · exact nomatch h.of_done.2
      · next wants =>
        obtain ⟨rfl, heq⟩ := h.of_done
        refine .inl ⟨?_, rfl, Except.ok.inj heq⟩
        simp [Pod.qualifies, wants, Except.toOption]
      · next wants =>
        rw [map_eq_pure_bind] at h
        rcases h.of_attemptBind with ⟨e, -, heq⟩ | ⟨w, t₁, t₂, made, rest, rfl⟩
        · cases heq
        obtain ⟨rfl, heq⟩ := rest.of_done
        have qualifies : pod.qualifies c = true := by
          simp [Pod.qualifies, candidate, guaranteed, wants, Except.toOption]
        rw [List.append_nil]
        exact .inr ⟨qualifies, w, Except.ok.inj heq, deriveContainer_yields candidate made⟩

/-- In a loop over containers only those that qualify yield something. -/
theorem rounds_yield {containers : List Container} {rounds : List (List Exchange × Option Workload)}
    (each : List.Forall₂ (fun c round => (deriveIfQualified pod c).run.Yields round.1 (.ok round.2))
      containers rounds) :
    ∃ yielded : List (List Exchange × Workload),
      (rounds.map (·.1)).flatten = (yielded.map (·.1)).flatten ∧
      (rounds.map (·.2)).filterMap id = yielded.map (·.2) ∧
      List.Forall₂ (fun c round => Yielding pod c round.1 round.2)
        (containers.filter pod.qualifies) yielded := by
  induction each with
  | nil => exact ⟨[], rfl, rfl, .nil⟩
  | @cons c round containers rounds made _ ih =>
    obtain ⟨yielded, trace, workloads, all⟩ := ih
    rcases deriveIfQualified_yields made with ⟨unfit, silent, nothing⟩ | ⟨qualifies, w, given, yielding⟩
    · refine ⟨yielded, ?_, ?_, ?_⟩
      · rw [List.map_cons, List.flatten_cons, silent, List.nil_append, trace]
      · rw [List.map_cons, nothing, List.filterMap_cons_none rfl, workloads]
      · rwa [List.filter_cons_of_neg (by simp [unfit])]
    · refine ⟨(round.1, w) :: yielded, ?_, ?_, ?_⟩
      · rw [List.map_cons, List.flatten_cons, trace, List.map_cons, List.flatten_cons]
      · have kept : id (some w) = some w := rfl
        rw [List.map_cons, given, List.filterMap_cons_some kept, workloads, List.map_cons]
      · rw [List.filter_cons_of_pos qualifies]
        exact .cons yielding all

/-- The containers that qualify yield the workloads, in order. -/
theorem derive_rounds {workloads : List Workload}
    (h : (derive pod hostIp).run.Yields t (.ok workloads)) :
    ∃ rounds : List (List Exchange × Workload), t = (rounds.map (·.1)).flatten ∧
      workloads = rounds.map (·.2) ∧
      List.Forall₂ (fun c round => Yielding pod c round.1 round.2) (pod.qualifying hostIp) rounds := by
  unfold derive at h
  split at h
  · next gone =>
    obtain ⟨rfl, heq⟩ := h.of_done
    obtain rfl := Except.ok.inj heq
    refine ⟨[], rfl, rfl, ?_⟩
    rw [Pod.qualifying, gone]
    exact .nil
  · next containers there =>
    rcases h.of_attemptBind with ⟨e, -, heq⟩ | ⟨derived, t₁, t₂, made, rest, rfl⟩
    · cases heq
    obtain ⟨rfl, heq⟩ := rest.of_done
    obtain rfl := Except.ok.inj heq
    obtain ⟨rounds, rfl, rfl, each⟩ := made.of_attemptMapM
    obtain ⟨yielded, trace, workloads, all⟩ := rounds_yield each
    rw [Pod.qualifying, there, Option.getD_some, List.append_nil]
    exact ⟨yielded, trace, workloads, all⟩

theorem Yielding.derived {c : Container} {containers : List Container} {w : Workload}
    (h : Yielding pod c t w) (there : pod.containersOn? hostIp = some containers)
    (mem : c ∈ containers) : Derived pod w := by
  cases h with
  | intro _ candidate => exact .intro there mem candidate _ _

theorem derive_yields {workloads : List Workload}
    (h : (derive pod hostIp).run.Yields t (.ok workloads)) : ∀ w ∈ workloads, Derived pod w := by
  intro w hw
  obtain ⟨rounds, -, rfl, each⟩ := derive_rounds h
  obtain ⟨round, hround, rfl⟩ := List.mem_map.mp hw
  obtain ⟨c, mem, yielding⟩ := Yields.round_mem each round hround
  cases there : pod.containersOn? hostIp with
  | none => simp [Pod.qualifying, there] at mem
  | some containers =>
    rw [Pod.qualifying, there, Option.getD_some] at mem
    exact yielding.derived there (List.mem_filter.mp mem).1

end Deriving

section Kinds

variable {pod : Pod}

theorem makes_derive (pod : Pod) (hostIp : String) :
    (derive pod hostIp).run.Makes (· = .podCpus) := by
  unfold derive
  split
  · trivial
  refine Makes.attemptBind (Makes.attemptMapM fun c _ => ?_) fun _ _ _ => trivial
  unfold deriveIfQualified
  split
  · trivial
  split
  · trivial
  split
  · trivial
  · trivial
  rw [map_eq_pure_bind]
  refine Makes.attemptBind ?_ fun _ _ _ => trivial
  unfold deriveContainer
  split
  · trivial
  refine Makes.attemptBind (Makes.bind ?_ fun _ _ _ => trivial) fun cores _ _ => ?_
  · refine Makes.attemptBind (Makes.orReport (.perform rfl)) fun _ _ _ => ?_
    split <;> trivial
  · split
    · trivial
    · split <;> trivial

theorem makes_agentHostIp (agentPod : String) :
    (agentHostIp agentPod).run.Makes (· = .cluster (.findPod agentPod)) := by
  refine Makes.attemptBind (Makes.orReport (.perform rfl)) fun _ pod? _ => ?_
  split <;> trivial

theorem makes_applications (workloads : List Workload) : (workloads.forM applyWorkload).run.Makes
    fun c => ∃ w ∈ workloads, c = .cluster (.applyWorkload w) :=
  .attemptForM fun w hw => .orReport (.perform ⟨w, hw, rfl⟩)

/-- Whatever is answered, only workloads derived from the pod are applied. -/
theorem makes_deriveAndApply (pod : Pod) (agentPod : String) : (deriveAndApply pod agentPod).run.Makes
    fun c => ∀ w, c = .cluster (.applyWorkload w) → Derived pod w := by
  refine Makes.attemptBind ((makes_agentHostIp agentPod).imp ?_) fun _ hostIp _ => ?_
  · rintro _ rfl w ⟨⟩
  refine Makes.attemptBind ?_ fun t workloads derived => ?_
  · refine ((makes_derive pod hostIp).imp ?_).bind fun _ _ _ => trivial
    rintro _ rfl w ⟨⟩
  have each : ∀ w ∈ workloads, Derived pod w := by
    obtain ⟨r, t₁, t₂, made, rest, -⟩ := derived.of_bind
    have same := rest.of_done.2
    cases r with
    | error e => cases same
    | ok l => exact Except.ok.inj same ▸ derive_yields made
  refine Makes.attemptBind ((makes_applications workloads).imp ?_) fun _ _ _ => trivial
  rintro _ ⟨w, hw, rfl⟩ w' ⟨⟩
  exact each w hw

end Kinds

/-- What is applied under a key changes only when something is applied under it. -/
theorem World.applied_answer (w : World) {c : Call} {k : ObjectKey}
    (other : ∀ x, c = .cluster (.applyWorkload x) → x.key ≠ k) :
    (w.answer c).2.cluster.applied.get? k = w.cluster.applied.get? k := by
  cases c with
  | daemon c =>
    simp only [World.answer, World.answerDaemon]
    split <;> rfl
  | cluster c =>
    simp only [World.answer, World.answerCluster]
    split
    · rfl
    unfold Cluster.answer
    split
    · rfl
    cases c with
    | applyWorkload x => exact SortedMap.get?_insert_ne _ (fun heq => other x rfl heq.symm) _
    | ensureNodeState space node =>
      simp only [Cluster.serve]
      split <;> rfl
    | _ => rfl
  | _ => rfl

theorem World.applied_run {α : Type} {p : Pass α} {k : ObjectKey}
    (h : p.Makes fun c => ∀ x, c = .cluster (.applyWorkload x) → x.key ≠ k) (w : World) :
    (w.run p).state.cluster.applied.get? k = w.cluster.applied.get? k := by
  induction p generalizing w with
  | done a => rfl
  | call c next ih => exact (ih _ (h.2 _) _).trans (w.applied_answer h.1)

/-- Names of workloads meet in no other case than overlaps. Let two containers hold no separator. Their
workloads have one name, and in one namespace one external id, only if pod and container are the same or
the pairs overlap. In every world, deriving and applying for a pod changes what is applied under the name
of the first pair only if the pod is in the same namespace and has a container so that they are the same
or overlap. -/
theorem workloads_meet_in_overlaps (pod container pod' container' space : String)
    (plain : Text.occursIn workloadSeparator.toList container.toList = false)
    (plain' : Text.occursIn workloadSeparator.toList container'.toList = false) :
    (workloadName pod container = workloadName pod' container' ↔ Meet pod container pod' container') ∧
    (externalId (workloadName pod container) space = externalId (workloadName pod' container') space ↔
      Meet pod container pod' container') ∧
    ∀ (w : World) (p : Pod) (agentPod : String),
      (w.run (deriveAndApply p agentPod).run).state.cluster.applied.get?
        ⟨space, workloadName pod container⟩ ≠
        w.cluster.applied.get? ⟨space, workloadName pod container⟩ →
      p.spaceOrDefault = space ∧ ∃ hostIp containers, p.containersOn? hostIp = some containers ∧
        ∃ c ∈ containers, c.candidate?.isSome ∧ Meet pod container p.name c.name := by
  refine ⟨workloadName_eq_iff plain plain',
    externalId_inj.trans (workloadName_eq_iff plain plain'), fun w p agentPod changed => ?_⟩
  by_contra apart
  refine changed (w.applied_run ((makes_deriveAndApply p agentPod).imp ?_))
  rintro c derived x rfl heq
  obtain ⟨there, mem, candidate, cores, ways⟩ := derived x rfl
  obtain ⟨same, names⟩ := ObjectKey.mk.inj heq
  refine apart ⟨same, _, _, there, _, mem, Option.isSome_of_eq_some candidate, ?_⟩
  exact (workloadName_eq_iff plain (Container.plain_of_candidate? candidate)).mp names.symm

/-- A running pod with one container that has a whole CPU and two cache ways. -/
def guaranteedPod (name container : String) : Pod where
  metadata := { name := some name, space := some "shop", uid := some (name ++ "-uid") }
  spec := some {
    containers := [{
      name := container
      resources := some {
        limits := some (.ofList [("cpu", "1"), (cacheWaysResource, "2")])
        requests := some (.ofList [("cpu", "1")]) } }]
    nodeName := some "n1" }
  status := some {
    phase := some "Running", hostIp := some "192.168.1.10", qosClass := some "Guaranteed" }

/-- A host on which a CPU is pinned for each of two such pods. -/
def twoPodsHost : World where
  cluster := ({} : Cluster).addPod {
    metadata := { name := some "agent", space := some "rmd" }
    status := some { hostIp := some "192.168.1.10" } }
  podCpus := .ok [⟨"web-rmd-workload", "shop", [⟨"nginx", [1]⟩]⟩,
    ⟨"web", "shop", [⟨"rmd-workload-nginx", [2]⟩]⟩]

/-- The host after the workload of the first pod has been applied. -/
def firstApplied : World :=
  (twoPodsHost.run (deriveAndApply (guaranteedPod "web-rmd-workload" "nginx") "agent").run).state

/-- The second pod has another name and another container, and yet its workload, on its own core, takes
the place of the first one's. -/
theorem second_workload_overwrites_first :
    let key : ObjectKey := ⟨"shop", workloadName "web-rmd-workload" "nginx"⟩
    let second :=
      firstApplied.run (deriveAndApply (guaranteedPod "web" "rmd-workload-nginx") "agent").run
    Text.occursIn workloadSeparator.toList "nginx".toList = false ∧
    Text.occursIn workloadSeparator.toList "rmd-workload-nginx".toList = false ∧
    workloadName "web-rmd-workload" "nginx" = workloadName "web" "rmd-workload-nginx" ∧
    (firstApplied.cluster.applied.get? key).map (·.spec.cores) = some ["1"] ∧
    (second.state.cluster.applied.get? key).map (·.spec.cores) = some ["2"] := by
  decide +kernel

theorem workloads_meet_in_overlaps_web :
    Text.occursIn workloadSeparator.toList "nginx".toList = false ∧
    Text.occursIn workloadSeparator.toList "rmd-workload-nginx".toList = false ∧
    ∃ hostIp containers,
      (guaranteedPod "web" "rmd-workload-nginx").containersOn? hostIp = some containers ∧
      ∃ c ∈ containers, c.candidate?.isSome ∧ Meet "web-rmd-workload" "nginx" "web" c.name := by
  have plain : Text.occursIn workloadSeparator.toList "nginx".toList = false := by decide
  have plain' : Text.occursIn workloadSeparator.toList "rmd-workload-nginx".toList = false := by decide
  have met := workloads_meet_in_overlaps "web-rmd-workload" "nginx" "web" "rmd-workload-nginx" "shop"
    plain plain'
  refine ⟨plain, plain', (met.2.2 firstApplied (guaranteedPod "web" "rmd-workload-nginx") "agent"
    fun same => ?_).2⟩
  have cores := congrArg (Option.map fun x : Workload => x.spec.cores) same
  exact absurd cores (by decide +kernel)

end CachePartition
