import CachePartition.Proofs.Placement
import CachePartition.Proofs.Surroundings

/-! What deriving and applying leaves in the cluster, wherever it ends. The workloads derived are applied in
order up to the first that is refused, and applying all of them once more changes nothing. -/
namespace CachePartition

open Pass

namespace Cluster

variable {k : Cluster} {workloads : List Workload} {key : ObjectKey}

/-- What is applied under a key is the last workload with that key, or what was there before. -/
theorem get?_applied_applying (k : Cluster) (workloads : List Workload) (key : ObjectKey) :
    (k.applying workloads).applied.get? key =
      (workloads.reverse.find? fun wl => wl.key = key).or (k.applied.get? key) := by
  induction workloads using List.reverseRecOn with
  | nil => rfl
  | append_singleton l x ih =>
    have latest : (k.applying (l ++ [x])).applied = (k.applying l).applied.insert x.key x := by
      simp [applying]
    rw [latest, List.reverse_append, List.reverse_singleton, List.singleton_append]
    by_cases same : x.key = key
    · subst same
      rw [SortedMap.get?_insert_self, List.find?_cons_of_pos (by simp)]
      rfl
    · have other : key ≠ x.key := fun heq => same heq.symm
      rw [SortedMap.get?_insert_ne _ other, List.find?_cons_of_neg (by simp [same])]
      exact ih

theorem get?_applied_elsewhere (h : key ∉ workloads.map Workload.key) :
    (k.applying workloads).applied.get? key = k.applied.get? key := by
  rw [get?_applied_applying]
  have none_there : (workloads.reverse.find? fun wl => wl.key = key) = none := by
    rw [List.find?_eq_none]
    intro wl mem same
    exact h (of_decide_eq_true same ▸ List.mem_map_of_mem (List.mem_reverse.mp mem))
  rw [none_there]
  rfl

/-- Applying workloads once more changes nothing. -/
theorem applying_twice (k : Cluster) (workloads : List Workload) :
    (k.applying workloads).applying workloads = k.applying workloads := by
  have applied : ((k.applying workloads).applying workloads).applied = (k.applying workloads).applied := by
    apply SortedMap.ext
    intro key
    rw [get?_applied_applying, get?_applied_applying]
    cases workloads.reverse.find? fun wl => wl.key = key <;> rfl
  calc
    (k.applying workloads).applying workloads =
        { k with applied := ((k.applying workloads).applying workloads).applied } := rfl
    _ = k.applying workloads := by rw [applied]; rfl

end Cluster

/-- The exchange by which a workload is applied or refused. -/
def Workload.exchange (wl : Workload) (answer : Except ClusterError Unit) : Exchange :=
  ⟨.cluster (.applyWorkload wl), answer⟩

theorem Cluster.foldl_after_exchange (k : Cluster) (workloads : List Workload) :
    (workloads.map (·.exchange (.ok ()))).foldl Cluster.after k = k.applying workloads := by
  induction workloads generalizing k with
  | nil => rfl
  | cons wl workloads ih => exact ih (k.applying [wl])

/-- An exchange that applies nothing leaves the cluster as it is. -/
theorem Cluster.foldl_after_of_reads (k : Cluster) {t : List Exchange}
    (reads : ∀ x ∈ t, x.call = .podCpus ∨ ∃ name, x.call = .cluster (.findPod name)) :
    t.foldl Cluster.after k = k := by
  induction t with
  | nil => rfl
  | cons x t ih =>
    obtain ⟨here, others⟩ := List.forall_mem_cons.mp reads
    obtain ⟨call, answer⟩ := x
    have same : k.after ⟨call, answer⟩ = k := by
      rcases here with rfl | ⟨name, rfl⟩
      · rfl
      · cases answer <;> rfl
    rw [List.foldl_cons, same]
    exact ih others

section Runs

variable {σ : Type} {answer : Surroundings σ} {s : σ}

/-- The address of the agent's host, by the cluster's answer on the agent's pod. -/
def agentHostTold (told : Except ClusterError (Option Pod)) : Option String :=
  (told.toOption.join.bind fun p => p.status.bind (·.hostIp)).filter fun ip => !ip.isEmpty

theorem run_agentHost (agentPod : String) (answer : Surroundings σ) (s : σ) :
    let told := answer s (.cluster (.findPod agentPod))
    (∀ hostIp, agentHostTold told.1 = some hostIp → (agentHostIp agentPod).run.run answer s =
      ⟨.ok hostIp, told.2, [⟨.cluster (.findPod agentPod), told.1⟩]⟩) ∧
    (agentHostTold told.1 = none → ∃ causes, (agentHostIp agentPod).run.run answer s =
      ⟨.error ⟨.agentHost agentPod, causes⟩, told.2, [⟨.cluster (.findPod agentPod), told.1⟩]⟩) := by
  intro told
  have asked : (orReport (perform (.cluster (.findPod agentPod))) fun e =>
      (⟨.agentHost agentPod, [.cluster e]⟩ : Report SyncError)).run.run answer s =
      ⟨told.1.mapError fun e => ⟨.agentHost agentPod, [.cluster e]⟩, told.2,
        [⟨.cluster (.findPod agentPod), told.1⟩]⟩ := rfl
  cases found : told.1 with
  | error e =>
    rw [found] at asked
    exact ⟨fun _ known => (nomatch known), fun _ => ⟨_, run_attemptBind_failed asked _⟩⟩
  | ok pod? =>
    rw [found] at asked
    have rest : (agentHostIp agentPod).run.run answer s = _ := run_attemptBind asked _
    have host : agentHostTold (.ok pod?) =
        (pod?.bind fun p => p.status.bind (·.hostIp)).filter fun ip => !ip.isEmpty := rfl
    rw [host]
    cases known : (pod?.bind fun p => p.status.bind (·.hostIp)).filter fun ip => !ip.isEmpty with
    | none =>
      simp only [known] at rest
      exact ⟨fun _ h => (nomatch h), fun _ => ⟨_, rest⟩⟩
    | some ip =>
      simp only [known] at rest
      refine ⟨fun hostIp h => ?_, fun h => nomatch h⟩
      cases h
      exact rest

/-- Workloads are applied in order, up to the first that is refused. -/
inductive Applications : List Workload → List Exchange → Except (Report SyncError) Unit → Prop where
  | all (workloads : List Workload) :
    Applications workloads (workloads.map (·.exchange (.ok ()))) (.ok ())
  | refused (before : List Workload) (wl : Workload) (after : List Workload) (e : ClusterError) :
    Applications (before ++ wl :: after)
      (before.map (·.exchange (.ok ())) ++ [wl.exchange (.error e)])
      (.error ⟨.apply wl.name, [.cluster e]⟩)

theorem Applications.cons {workloads : List Workload} {t : List Exchange}
    {r : Except (Report SyncError) Unit} (h : Applications workloads t r) (wl : Workload) :
    Applications (wl :: workloads) (wl.exchange (.ok ()) :: t) r := by
  cases h with
  | all => exact .all (wl :: workloads)
  | refused before x after e => exact .refused (wl :: before) x after e

theorem run_applyAll (workloads : List Workload) (answer : Surroundings σ) (s : σ) :
    let o := (workloads.forM applyWorkload).run.run answer s
    Applications workloads o.trace o.value := by
  induction workloads generalizing s with
  | nil => exact .all []
  | cons wl workloads ih =>
    rw [List.forM]
    let told := answer s (.cluster (.applyWorkload wl))
    have first : (applyWorkload wl).run.run answer s =
        ⟨told.1.mapError fun e => ⟨.apply wl.name, [.cluster e]⟩, told.2, [wl.exchange told.1]⟩ := rfl
    cases granted : told.1 with
    | error e =>
      rw [granted] at first
      rw [run_attemptBind_failed first]
      exact .refused [] wl workloads e
    | ok _ =>
      rw [granted] at first
      rw [run_attemptBind first]
      exact (ih told.2).cons wl

/-- The number of workloads is told after all of them have been applied. -/
theorem run_counted (workloads : List Workload) (answer : Surroundings σ) (s : σ) :
    (do
      workloads.forM applyWorkload
      return workloads.length : Attempt SyncError Nat).run.run answer s =
      let o := (workloads.forM applyWorkload).run.run answer s
      ⟨o.value.map fun _ => workloads.length, o.state, o.trace⟩ :=
  run_attemptMap _ _

/-- The errors of a derivation, as the agent reports them. -/
theorem run_derived (pod : Pod) (hostIp : String) (answer : Surroundings σ) (s : σ) :
    (ExceptT.mk do
      let derived ← (derive pod hostIp).run
      return derived.mapError fun r => r.under .derive (.derive pod.name) :
        Attempt SyncError (List Workload)).run.run answer s =
      let derived := (derive pod hostIp).run.run answer s
      ⟨derived.value.mapError fun r => r.under .derive (.derive pod.name), derived.state,
        derived.trace⟩ :=
  run_mapped _ _

/-- What deriving and applying comes to, by the address told of the agent's host and by what is derived. -/
inductive Batch (pod : Pod) (agentPod : String) (told : Except ClusterError (Option Pod))
    (derived : String → Outcome σ (Except (Report DeriveError) (List Workload))) :
    List Exchange → Except (Report SyncError) Nat → Prop where
  | unhosted (causes : List Failure) (unknown : agentHostTold told = none) :
    Batch pod agentPod told derived [⟨.cluster (.findPod agentPod), told⟩]
      (.error ⟨.agentHost agentPod, causes⟩)
  | underived {hostIp : String} {r : Report DeriveError} (known : agentHostTold told = some hostIp)
      (failed : (derived hostIp).value = .error r) :
    Batch pod agentPod told derived
      (⟨.cluster (.findPod agentPod), told⟩ :: (derived hostIp).trace)
      (.error (r.under .derive (.derive pod.name)))
  | applied {hostIp : String} {workloads : List Workload} {t : List Exchange}
      {r : Except (Report SyncError) Unit} (known : agentHostTold told = some hostIp)
      (made : (derived hostIp).value = .ok workloads) (applications : Applications workloads t r) :
    Batch pod agentPod told derived
      (⟨.cluster (.findPod agentPod), told⟩ :: (derived hostIp).trace ++ t)
      (r.map fun _ => workloads.length)

namespace Batch

variable {pod : Pod} {agentPod hostIp : String} {told : Except ClusterError (Option Pod)}
  {derived : String → Outcome σ (Except (Report DeriveError) (List Workload))} {t : List Exchange}
  {value : Except (Report SyncError) Nat}

theorem of_unknown (h : Batch pod agentPod told derived t value) (unknown : agentHostTold told = none) :
    (∃ causes, value = .error ⟨.agentHost agentPod, causes⟩) ∧
      t = [⟨.cluster (.findPod agentPod), told⟩] := by
  cases h with
  | unhosted causes => exact ⟨⟨causes, rfl⟩, rfl⟩
  | underived known | applied known => cases unknown.symm.trans known

theorem of_failed {r : Report DeriveError} (h : Batch pod agentPod told derived t value)
    (known : agentHostTold told = some hostIp) (failed : (derived hostIp).value = .error r) :
    value = .error (r.under .derive (.derive pod.name)) ∧
      t = ⟨.cluster (.findPod agentPod), told⟩ :: (derived hostIp).trace := by
  cases h with
  | unhosted causes unknown => cases unknown.symm.trans known
  | underived known' failed' =>
    obtain rfl := Option.some.inj (known.symm.trans known')
    cases failed.symm.trans failed'
    exact ⟨rfl, rfl⟩
  | applied known' made =>
    obtain rfl := Option.some.inj (known.symm.trans known')
    cases failed.symm.trans made

theorem of_made {workloads : List Workload} (h : Batch pod agentPod told derived t value)
    (known : agentHostTold told = some hostIp) (made : (derived hostIp).value = .ok workloads) :
    ∃ t' r, Applications workloads t' r ∧ value = r.map (fun _ => workloads.length) ∧
      t = ⟨.cluster (.findPod agentPod), told⟩ :: (derived hostIp).trace ++ t' := by
  cases h with
  | unhosted causes unknown => cases unknown.symm.trans known
  | underived known' failed =>
    obtain rfl := Option.some.inj (known.symm.trans known')
    cases made.symm.trans failed
  | applied known' made' applications =>
    obtain rfl := Option.some.inj (known.symm.trans known')
    cases made.symm.trans made'
    exact ⟨_, _, applications, rfl, rfl⟩

theorem of_ok {n : Nat} (h : Batch pod agentPod told derived t (.ok n)) :
    ∃ hostIp workloads, agentHostTold told = some hostIp ∧ (derived hostIp).value = .ok workloads ∧
      workloads.length = n ∧ t = ⟨.cluster (.findPod agentPod), told⟩ :: (derived hostIp).trace ++
        workloads.map (·.exchange (.ok ())) := by
  generalize ended : (.ok n : Except (Report SyncError) Nat) = value at h
  cases h with
  | unhosted | underived => cases ended
  | @applied hostIp workloads t' r known made applications =>
    cases applications with
    | all =>
      cases ended
      exact ⟨hostIp, workloads, known, made, rfl, rfl⟩
    | refused => cases ended

end Batch

theorem run_batch (pod : Pod) (agentPod : String) (answer : Surroundings σ) (s : σ) :
    let o := (deriveAndApply pod agentPod).run.run answer s
    let told := answer s (.cluster (.findPod agentPod))
    let derived (hostIp : String) := (derive pod hostIp).run.run answer told.2
    Batch pod agentPod told.1 derived o.trace o.value := by
  intro o told derivation
  obtain ⟨hosted, unhosted⟩ := run_agentHost agentPod answer s
  cases host : agentHostTold told.1 with
  | none =>
    obtain ⟨causes, ended⟩ := unhosted host
    have failed : o = _ := run_attemptBind_failed ended _
    rw [failed]
    exact .unhosted causes host
  | some hostIp =>
    have derived := run_derived pod hostIp answer told.2
    let applied (workloads : List Workload) : Attempt SyncError Nat := do
      workloads.forM applyWorkload
      return workloads.length
    cases made : ((derive pod hostIp).run.run answer told.2).value with
    | error r =>
      simp only [made] at derived
      have ended : o = _ := run_attemptThen (hosted hostIp host) (run_attemptBind_failed derived applied)
      rw [ended]
      exact .underived host made
    | ok workloads =>
      simp only [made] at derived
      have ended : o = _ :=
        run_attemptThen (hosted hostIp host) (run_attemptThen derived (run_counted workloads answer _))
      rw [ended]
      exact .applied host made (run_applyAll workloads answer _)

end Runs

/-- An exchange by which CPUs are listed, a pod is looked for or a workload is applied, and which does not
fail at the cluster. -/
inductive Pass.Exchange.Calm : Exchange → Prop where
  | listed (answer : Except IntrospectionError (List PodCpus)) : Calm ⟨.podCpus, answer⟩
  | found (name : String) (pod? : Option Pod) : Calm ⟨.cluster (.findPod name), .ok pod?⟩
  | applied (wl : Workload) : Calm (wl.exchange (.ok ()))

namespace World

variable {w v : World}

/-- The worlds answer such calls in the same way. -/
structure Matches (w v : World) : Prop where
  podCpus : v.podCpus = w.podCpus
  pods : v.cluster.pods = w.cluster.pods
  isDown : v.cluster.isDown = w.cluster.isDown
  failures : v.faults.failures = w.faults.failures

theorem Matches.refl (w : World) : w.Matches w := ⟨rfl, rfl, rfl, rfl⟩

/-- A call that is granted finds the cluster up and no failure laid down. -/
theorem answer_of_granted {c : ClusterCall} (granted : c.granted (w.answer (.cluster c)).1 = true) :
    w.faults.failures c.method = 0 ∧ w.cluster.isDown = false := by
  cases left : w.faults.failures c.method with
  | succ n => simp [answer, answerCluster, left] at granted
  | zero =>
    cases down : w.cluster.isDown with
    | true => simp [answer, answerCluster, left, Cluster.answer, down] at granted
    | false => exact ⟨rfl, rfl⟩

theorem answer_ready {c : ClusterCall} (ready : w.faults.failures c.method = 0)
    (up : w.cluster.isDown = false) : w.answer (.cluster c) =
      ((w.cluster.serve c).1, { w with cluster := (w.cluster.serve c).2 }) := by
  simp [answer, answerCluster, ready, Cluster.answer, up]

/-- Where a call is answered calmly in one world, it is answered so in a world that matches, and the worlds
still match then. -/
theorem Matches.step (h : w.Matches v) {c : Call} (calm : Exchange.Calm ⟨c, (w.answer c).1⟩) :
    v.answer c = ((w.answer c).1, { v with cluster := v.cluster.after ⟨c, (w.answer c).1⟩ }) ∧
      (w.answer c).2.Matches { v with cluster := v.cluster.after ⟨c, (w.answer c).1⟩ } := by
  have ready {d : ClusterCall} (granted : d.granted (w.answer (.cluster d)).1 = true) :
      w.answer (.cluster d) = ((w.cluster.serve d).1, { w with cluster := (w.cluster.serve d).2 }) ∧
      v.answer (.cluster d) = ((v.cluster.serve d).1, { v with cluster := (v.cluster.serve d).2 }) := by
    obtain ⟨none_left, up⟩ := answer_of_granted granted
    exact ⟨answer_ready none_left up, answer_ready (h.failures ▸ none_left) (h.isDown.trans up)⟩
  generalize answered : w.answer c = r at calm ready ⊢
  obtain ⟨a, w'⟩ := r
  cases calm with
  | listed answer =>
    cases answered
    exact ⟨congrArg (·, v) h.podCpus, h⟩
  | found name pod? =>
    obtain ⟨here, there⟩ := ready (d := .findPod name) (by rw [answered]; rfl)
    have found : v.cluster.findPod? name = w.cluster.findPod? name := by
      simp only [Cluster.findPod?, h.pods]
    cases answered.symm.trans here
    refine ⟨there.trans ?_, h.podCpus, h.pods, h.isDown, h.failures⟩
    rw [Cluster.serve, found]
    rfl
  | applied wl =>
    obtain ⟨here, there⟩ := ready (d := .applyWorkload wl) (by rw [answered]; rfl)
    cases answered.symm.trans here
    exact ⟨there, h.podCpus, h.pods, h.isDown, h.failures⟩

/-- So a run with calm exchanges goes in the same way there. -/
theorem Matches.run {α : Type} {p : Pass α} (h : w.Matches v) (calm : ∀ x ∈ (w.run p).trace, x.Calm) :
    v.run p = ⟨(w.run p).value, { v with cluster := (w.run p).trace.foldl Cluster.after v.cluster },
      (w.run p).trace⟩ := by
  induction p generalizing w v with
  | done a => rfl
  | call c next ih =>
    obtain ⟨here, others⟩ := List.forall_mem_cons.mp calm
    obtain ⟨answered, later⟩ := h.step here
    have rest := ih _ later others
    simp only [World.run, Pass.run, answered, List.foldl_cons] at rest ⊢
    rw [rest]

end World

/-- The keys of the workloads derived from a pod are those of the containers that qualify, in order. -/
theorem derived_keys {pod : Pod} {hostIp : String} {t : List Exchange} {workloads : List Workload}
    (h : (derive pod hostIp).run.Yields t (.ok workloads)) : workloads.map Workload.key =
      (pod.qualifying hostIp).map fun c => ⟨pod.spaceOrDefault, workloadName pod.name c.name⟩ := by
  obtain ⟨rounds, -, rfl, each⟩ := derive_rounds h
  generalize pod.qualifying hostIp = containers at each ⊢
  clear h
  induction each with
  | nil => rfl
  | cons yielding _ ih => rw [List.map_cons, List.map_cons, List.map_cons, ih, yielding.key_eq]

/-- The cluster differs from another in what is applied for the containers of a pod that qualify: each has
its workload, under its own name. -/
structure Cluster.Supplied (k : Cluster) (pod : Pod) (hostIp : String) (workloads : List Workload)
    (k' : Cluster) : Prop where
  keys : workloads.map Workload.key =
    (pod.qualifying hostIp).map fun c => ⟨pod.spaceOrDefault, workloadName pod.name c.name⟩
  distinct : (workloads.map Workload.key).Nodup
  held (wl : Workload) (mem : wl ∈ workloads) : k'.applied.get? wl.key = some wl
  elsewhere (key : ObjectKey) (other : key ∉ workloads.map Workload.key) :
    k'.applied.get? key = k.applied.get? key
  rest : k' = { k with applied := k'.applied }

section Batches

variable {σ : Type} {answer : Surroundings σ} {s : σ} {pod : Pod} {agentPod : String}

theorem Cluster.supplied {hostIp : String} {t : List Exchange} {workloads : List Workload}
    (names : (pod.containers.map Container.name).Nodup)
    (h : (derive pod hostIp).run.Yields t (.ok workloads)) (k : Cluster) :
    k.Supplied pod hostIp workloads (k.applying workloads) := by
  have keys := derived_keys h
  have distinct : (workloads.map Workload.key).Nodup := by
    rw [keys]
    exact Pod.qualifying_nodup hostIp names fun same => workloadName_injective (ObjectKey.mk.inj same).2
  exact ⟨keys, distinct, fun wl mem => Cluster.get?_applying distinct mem,
    fun key other => Cluster.get?_applied_elsewhere other, rfl⟩

/-- Looking for the agent and listing CPUs leave the cluster as it is. -/
theorem Cluster.foldl_after_asked (k : Cluster) (agentPod : String)
    (told : Except ClusterError (Option Pod)) (pod : Pod) (hostIp : String) (answer : Surroundings σ) (s : σ) :
    ((⟨.cluster (.findPod agentPod), told⟩ : Exchange) ::
      ((derive pod hostIp).run.run answer s).trace).foldl Cluster.after k = k := by
  apply k.foldl_after_of_reads
  intro x mem
  rcases List.mem_cons.mp mem with rfl | mem
  · exact .inr ⟨agentPod, rfl⟩
  · exact .inl ((makes_derive pod hostIp).of_yields (run_yields _ answer s) x mem)

/-- A run that ends well has calm exchanges only. -/
theorem calm_of_ok {n : Nat} (ended : ((deriveAndApply pod agentPod).run.run answer s).value = .ok n) :
    ∀ x ∈ ((deriveAndApply pod agentPod).run.run answer s).trace, x.Calm := by
  have batch := run_batch pod agentPod answer s
  simp only [ended] at batch
  obtain ⟨hostIp, workloads, known, -, -, trace⟩ := batch.of_ok
  rw [trace]
  intro x mem
  rcases List.mem_append.mp mem with mem | mem
  · rcases List.mem_cons.mp mem with rfl | mem
    · generalize (answer s (.cluster (.findPod agentPod))).1 = told at known
      cases told with
      | error e => cases known
      | ok pod? => exact .found agentPod pod?
    · obtain ⟨call, answered⟩ := x
      obtain rfl := (makes_derive pod hostIp).of_yields (run_yields _ answer _) _ mem
      exact .listed answered
  · obtain ⟨wl, -, rfl⟩ := List.mem_map.mp mem
    exact .applied wl

/-- What a run that ends well makes of a cluster. -/
theorem applying_of_ok {n : Nat}
    (ended : ((deriveAndApply pod agentPod).run.run answer s).value = .ok n) :
    ∃ workloads, ∀ k : Cluster, k.applying workloads =
      ((deriveAndApply pod agentPod).run.run answer s).trace.foldl Cluster.after k := by
  have batch := run_batch pod agentPod answer s
  simp only [ended] at batch
  obtain ⟨hostIp, workloads, -, -, -, trace⟩ := batch.of_ok
  refine ⟨workloads, fun k => ?_⟩
  rw [trace, List.foldl_append, k.foldl_after_asked, k.foldl_after_exchange]

/-- In a world, a run that has ended well can be made again with nothing changed. -/
theorem World.again_of_ok {w : World} {n : Nat}
    (ended : (w.run (deriveAndApply pod agentPod).run).value = .ok n) :
    let first := w.run (deriveAndApply pod agentPod).run
    let again := first.state.run (deriveAndApply pod agentPod).run
    again.value = .ok n ∧ again.state = first.state := by
  intro first again
  have calm : ∀ x ∈ first.trace, x.Calm := calm_of_ok ended
  obtain ⟨workloads, applied⟩ := applying_of_ok ended
  change ∀ k : Cluster, k.applying workloads = first.trace.foldl Cluster.after k at applied
  have state : first.state = { w with cluster := w.cluster.applying workloads } := by
    have ran := congrArg Outcome.state ((Matches.refl w).run calm)
    rw [applied]
    exact ran
  have same : w.Matches first.state := by
    rw [state]
    exact ⟨rfl, rfl, rfl, rfl⟩
  have rerun : again = _ := same.run calm
  rw [rerun]
  refine ⟨ended, ?_⟩
  change { first.state with cluster := first.trace.foldl Cluster.after first.state.cluster } = first.state
  rw [← applied, state, Cluster.applying_twice]

end Batches

/-- Deriving and applying does all or a prefix, and can be done again. Let surroundings hold a cluster that
changes as its granted calls ask, and let them answer in any way. Where no address of the agent's host is
told, or the derivation fails, the cluster is as it was, and the error says which. Otherwise the derived
workloads are applied in order: all of them, or those before the first that is refused, which the error
names. The number returned is that of the workloads derived; if the containers of the pod have different
names, the cluster differs just under the keys of these workloads, and holds each of them there. In a world,
what has ended well ends in the same way when it is done again, and changes nothing. -/
theorem derived_applied_in_order {σ : Type} {answer : Surroundings σ} {cluster : σ → Cluster}
    (accounts : Accounts answer cluster Cluster.after) (s : σ) (pod : Pod) (agentPod : String) :
    let o := (deriveAndApply pod agentPod).run.run answer s
    let told := answer s (.cluster (.findPod agentPod))
    let derived (hostIp : String) := (derive pod hostIp).run.run answer told.2
    let asked (hostIp : String) : List Exchange :=
      ⟨.cluster (.findPod agentPod), told.1⟩ :: (derived hostIp).trace
    (agentHostTold told.1 = none →
      (∃ causes, o.value = .error ⟨.agentHost agentPod, causes⟩) ∧ cluster o.state = cluster s) ∧
    (∀ hostIp, agentHostTold told.1 = some hostIp →
      (∀ r, (derived hostIp).value = .error r →
        o.value = .error (r.under .derive (.derive pod.name)) ∧ cluster o.state = cluster s) ∧
      ∀ workloads, (derived hostIp).value = .ok workloads →
        (o.value = .ok workloads.length ∧ cluster o.state = (cluster s).applying workloads ∧
          o.trace = asked hostIp ++ workloads.map (·.exchange (.ok ()))) ∨
        ∃ before wl after e, workloads = before ++ wl :: after ∧
          o.value = .error ⟨.apply wl.name, [.cluster e]⟩ ∧
          cluster o.state = (cluster s).applying before ∧
          o.trace = asked hostIp ++ (before.map (·.exchange (.ok ())) ++ [wl.exchange (.error e)])) ∧
    (∀ n, o.value = .ok n → ∃ hostIp workloads, agentHostTold told.1 = some hostIp ∧
      (derived hostIp).value = .ok workloads ∧ workloads.length = n ∧
      ((pod.containers.map Container.name).Nodup →
        (cluster s).Supplied pod hostIp workloads (cluster o.state))) ∧
    ∀ (w : World) (n : Nat), (w.run (deriveAndApply pod agentPod).run).value = .ok n →
      let first := w.run (deriveAndApply pod agentPod).run
      let again := first.state.run (deriveAndApply pod agentPod).run
      again.value = .ok n ∧ again.state = first.state := by
  intro o told derived asked
  have held : cluster o.state = o.trace.foldl Cluster.after (cluster s) := accounts.run _ s
  have untouched (hostIp : String) : (asked hostIp).foldl Cluster.after (cluster s) = cluster s :=
    (cluster s).foldl_after_asked agentPod told.1 pod hostIp answer told.2
  have batch : Batch pod agentPod told.1 derived o.trace o.value := run_batch pod agentPod answer s
  refine ⟨fun unknown => ?_, fun hostIp known => ⟨fun r failed => ?_, fun workloads made => ?_⟩,
    fun n ended => ?_, fun w n ended => World.again_of_ok ended⟩
  · obtain ⟨failed, trace⟩ := batch.of_unknown unknown
    refine ⟨failed, ?_⟩
    rw [held, trace]
    exact (cluster s).foldl_after_of_reads fun x mem =>
      .inr ⟨agentPod, congrArg Exchange.call (List.mem_singleton.mp mem)⟩
  · obtain ⟨failed, trace⟩ := batch.of_failed known failed
    refine ⟨failed, ?_⟩
    rw [held, trace]
    exact untouched hostIp
  · obtain ⟨t, r, applications, value, trace⟩ := batch.of_made known made
    have left : cluster o.state = t.foldl Cluster.after (cluster s) := by
      rw [held, trace, List.foldl_append, untouched hostIp]
    cases applications with
    | all =>
      left
      rw [Cluster.foldl_after_exchange] at left
      exact ⟨value, left, trace⟩
    | refused before wl after e =>
      right
      rw [List.foldl_append, Cluster.foldl_after_exchange] at left
      exact ⟨before, wl, after, e, rfl, value, left, trace⟩
  · rw [ended] at batch
    obtain ⟨hostIp, workloads, known, made, count, trace⟩ := batch.of_ok
    refine ⟨hostIp, workloads, known, made, count, fun names => ?_⟩
    have yields := run_yields (derive pod hostIp).run answer told.2
    change Yields _ _ (derived hostIp).value at yields
    rw [made] at yields
    rw [held, trace, List.foldl_append, untouched hostIp, Cluster.foldl_after_exchange]
    exact Cluster.supplied names yields (cluster s)

/-- A world whose cluster refuses the workloads of one name. -/
def refusing (name : String) : Surroundings World
  | w, .cluster (.applyWorkload wl) =>
    if wl.name = name then (.error (.api "quota exceeded"), w) else w.answer (.cluster (.applyWorkload wl))
  | w, c => w.answer c

theorem accounts_refusing (name : String) : Accounts (refusing name) World.cluster Cluster.after where
  step w c := by
    unfold refusing
    split
    · split
      · rfl
      · exact World.accounts_cluster.step w _
    · exact World.accounts_cluster.step w _

/-- The second of the two workloads of the pod is refused. The first is in the cluster then. -/
theorem derived_applied_in_order_refusing :
    let o := (deriveAndApply podOfTwo "agent").run.run (refusing "web-0-rmd-workload-setup") pinnedHost
    o.value = .error ⟨.apply "web-0-rmd-workload-setup", [.cluster (.api "quota exceeded")]⟩ ∧
    ∃ before wl after e, (before ++ wl :: after).map Workload.name =
        ["web-0-rmd-workload-nginx", "web-0-rmd-workload-setup"] ∧
      o.value = .error ⟨.apply wl.name, [.cluster e]⟩ ∧
      o.state.cluster = pinnedHost.cluster.applying before := by
  intro o
  have value : o.value =
      .error ⟨.apply "web-0-rmd-workload-setup", [.cluster (.api "quota exceeded")]⟩ := by
    decide +kernel
  obtain ⟨-, hosted, -, -⟩ :=
    derived_applied_in_order (accounts_refusing "web-0-rmd-workload-setup") pinnedHost podOfTwo "agent"
  obtain ⟨-, applied⟩ := hosted "192.168.1.10" (by decide +kernel)
  have names : ((derive podOfTwo "192.168.1.10").run.run (refusing "web-0-rmd-workload-setup")
      pinnedHost).value.map (List.map Workload.name) =
      .ok ["web-0-rmd-workload-nginx", "web-0-rmd-workload-setup"] := by
    decide +kernel
  cases made : ((derive podOfTwo "192.168.1.10").run.run (refusing "web-0-rmd-workload-setup")
      pinnedHost).value with
  | error r => exact nomatch made ▸ names
  | ok workloads =>
    rw [made] at names
    rcases applied workloads made with ⟨well, -, -⟩ | ⟨before, wl, after, e, rfl, failed, left, -⟩
    · cases value.symm.trans well
    · exact ⟨value, before, wl, after, e, Except.ok.inj names, failed, left⟩

end CachePartition
