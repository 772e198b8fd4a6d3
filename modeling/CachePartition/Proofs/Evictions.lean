import CachePartition.Proofs.Derivations
import CachePartition.Proofs.Visits
import CachePartition.Reconcile.Eviction

/-! Which pods have to go. A refused workload asks for the eviction of the pod that its name leads back
to, and of no other; for a derived workload that is its own pod unless a separator begins in the name of
the pod. -/
namespace CachePartition

open Pass

variable {scheme : Scheme} {w : Workload} {node space address : String} {t : List Exchange}
  {x : Exchange}

/-- The daemon has turned down an entry that it was to create. -/
def Pass.Exchange.turnsDown : Exchange → Bool
  | ⟨.daemon (.create _ _), .error (.rejected _ _)⟩ => true
  | _ => false

/-- The daemon was given an entry, and does not list it then. -/
def Pass.Exchange.lacks : Exchange → Exchange → Bool
  | ⟨.daemon (.create a body), .ok _⟩, ⟨.daemon (.list b), .ok l⟩ =>
    decide (b = a) && (Entry.findByUuid l body.uuid).isNone
  | _, _ => false

/-- Somewhere a daemon does not take an entry that it is to create: it turns it down, or does not list it
right afterwards. -/
def refused : List Exchange → Bool
  | [] => false
  | x :: t => x.turnsDown || t.head?.any x.lacks || refused t

/-- So much is refused in the trace, whatever follows it. -/
def Refuses (t : List Exchange) (b : Bool) : Prop := ∀ t', refused (t ++ t') = (b || refused t')

theorem Refuses.append {t' : List Exchange} {b b' : Bool} (h : Refuses t b) (h' : Refuses t' b') :
    Refuses (t ++ t') (b || b') := by
  intro t''
  rw [List.append_assoc, h, h', Bool.or_assoc]

theorem refused_cons (calm : x.turnsDown = false) (told : x.lacks = fun _ => false) :
    refused (x :: t) = refused t := by
  rw [refused, calm, told]
  cases t.head? <;> rfl

@[simp] theorem refused_list (answer : (DaemonCall.list address).Answer) :
    refused (⟨.daemon (.list address), answer⟩ :: t) = refused t :=
  refused_cons rfl rfl

/-- What has been given is refused if the listing that follows does not show it. -/
theorem refused_given {body : Entry} {response : String} (answer : (DaemonCall.list address).Answer) :
    refused (⟨.daemon (.create address body), .ok response⟩ :: ⟨.daemon (.list address), answer⟩ :: t) =
      ((match answer with
        | .ok l => (Entry.findByUuid l body.uuid).isNone
        | .error _ => false) || refused t) := by
  rw [refused, refused_list]
  cases answer <;> simp [Exchange.turnsDown, Exchange.lacks]

/-- Only a creation can be refused. -/
theorem refuses_of_not_create (h : ∀ x ∈ t, ∀ a body, x.call ≠ .daemon (.create a body)) :
    Refuses t false := by
  intro t'
  induction t with
  | nil => rfl
  | cons x t ih =>
    have rest := ih fun y hy => h y (List.mem_cons_of_mem _ hy)
    have other := h x List.mem_cons_self
    refine (refused_cons ?_ ?_).trans rest
    all_goals
      obtain ⟨c, answer⟩ := x
      cases c with
      | daemon d =>
        cases d with
        | create a body => exact absurd rfl (other a body)
        | _ => rfl
      | _ => rfl

theorem Silent.refuses (h : Silent t) : Refuses t false := by
  refine refuses_of_not_create fun x hx a body create => ?_
  have silent := h x hx
  simp [Exchange.isDaemon, create] at silent

/-- The result says that the daemon did not take the entry. -/
def refusal : Except String NodeResult → Bool
  | .ok result => result.change = .rejected
  | .error _ => false

theorem Finding.isRefusal_brought (r : Except (Report SyncError) NodeResult) :
    (Finding.brought node r).isRefusal = refusal (r.mapError Report.summary) := by
  cases r <;> rfl

theorem Creating.refuses {body : Entry} {result : Except String NodeResult}
    (h : Creating address body t result) : Refuses t (refusal result) := by
  cases h with
  | refused status text => exact fun _ => rfl
  | failed e other =>
    intro t'
    refine refused_cons ?_ rfl
    cases e with
    | rejected status text => exact absurd rfl (other status text)
    | _ => rfl
  | unlisted response e => exact fun _ => refused_given _
  | created response found =>
    exact fun _ => (refused_given _).trans (by simp [found, refusal])
  | dropped response absent =>
    exact fun _ => (refused_given _).trans (by simp [absent, refusal])

theorem Settling.refuses {body : Entry} {result : Except String NodeResult}
    (h : Settling address body t result) : Refuses t (refusal result) := by
  cases h with
  | unlisted e => exact fun _ => refused_list _
  | updated | failed => exact fun _ => (refused_list _).trans (refused_cons rfl rfl)
  | absent _ creating =>
    intro t'
    exact (refused_list _).trans (creating.refuses t')

theorem Bringing.refuses {result : Except String NodeResult} (h : Bringing scheme w node space t result) :
    Refuses t (refusal result) := by
  cases h with
  | unaddressed missing => exact missing.silent.refuses
  | uncounted found _ missing => exact (found.silent.append missing.silent).refuses
  | settled found chosen settling =>
    exact found.silent.refuses.append (chosen.silent.refuses.append settling.refuses)

theorem Sweeping.refuses {uuid : String} {failed : Bool} (h : Sweeping scheme uuid node space t failed) :
    Refuses t false := by
  cases h with
  | unaddressed missing => exact missing.silent.refuses
  | dropped found dropping =>
    refine found.silent.refuses.append (b := false) (refuses_of_not_create fun x hx a body create => ?_)
    rcases dropping.sweepCalls.kinds x hx with listed | ⟨id, deleted⟩
    · cases listed.symm.trans create
    · cases deleted.symm.trans create

/-- What is refused in a visit is what it finds. -/
theorem visit_refuses {v : Visit} {spaces : TextMap String} {f : Finding}
    (h : (v.pass scheme w spaces).Yields t f) : Refuses t f.isRefusal := by
  cases v with
  | target node =>
    rcases target_yields h with ⟨-, rfl, rfl⟩ | ⟨space, r, -, made, rfl⟩
    · exact fun _ => rfl
    · rw [Finding.isRefusal_brought]
      exact (syncNode_yields made).refuses
  | other n =>
    obtain ⟨r, made, rfl⟩ := other_yields h
    exact (removeFromNode_yields made).refuses

/-- Only visits to targets can find a refusal. -/
theorem not_isRefusal_of_other {n : NodeState} {spaces : TextMap String} {f : Finding}
    (h : ((Visit.other n).pass scheme w spaces).Yields t f) : f.isRefusal = false := by
  obtain ⟨r, -, rfl⟩ := other_yields h
  rfl

theorem rounds_refuse {spaces : TextMap String} {visits : List Visit}
    {rounds : List (List Exchange × Finding)} (each : Visit.Rounds scheme w spaces visits rounds) :
    Refuses (rounds.map (·.1)).flatten ((rounds.map (·.2)).any Finding.isRefusal) := by
  induction each with
  | nil => exact fun _ => rfl
  | cons visited _ ih => exact (visit_refuses visited).append ih

def Visit.isTarget : Visit → Bool
  | .target _ => true
  | .other _ => false

/-- No more is found refused than there are targets. -/
theorem refusals_le {spaces : TextMap String} {visits : List Visit}
    {rounds : List (List Exchange × Finding)} (each : Visit.Rounds scheme w spaces visits rounds) :
    (rounds.map (·.2)).countP Finding.isRefusal ≤ visits.countP Visit.isTarget := by
  induction each with
  | nil => exact Nat.le_refl 0
  | @cons v round _ _ visited _ ih =>
    rw [List.map_cons, List.countP_cons, List.countP_cons]
    cases v with
    | target node =>
      rw [Visit.isTarget, if_pos rfl]
      split <;> omega
    | other n =>
      rw [not_isRefusal_of_other visited]
      exact Nat.add_le_add ih (Nat.zero_le _)

theorem countP_visits (w : Workload) (nodeStates : List NodeState) :
    (w.visits nodeStates).countP Visit.isTarget = w.spec.targets.toList.length := by
  have targets : Visit.isTarget ∘ Visit.target = fun _ => true := rfl
  have others : Visit.isTarget ∘ Visit.other = fun _ => false := rfl
  rw [Workload.visits, List.countP_append, List.countP_map, List.countP_map, targets, others]
  simp

/-- All evictions of a report are of the pod that the name of the workload leads back to. -/
theorem mem_evictions {nodeStates : List NodeState} {found : List Finding} {e : Eviction}
    (h : e ∈ (SyncReport.ofFindings w nodeStates found).evictions) : w.eviction? = some e := by
  rw [SyncReport.ofFindings_evictions, List.mem_flatMap] at h
  obtain ⟨-, -, h⟩ := h
  exact Option.mem_toList.mp h

/-- The refusal of a workload with one target at most leads to one eviction, if its name leads back to a
pod. -/
theorem sync_refused {r : Except (Report SyncError) SyncReport}
    (single : w.spec.targets.toList.length ≤ 1) (h : (sync scheme w).run.Yields t r)
    (refuses : refused t = true) : ∃ report, r = .ok report ∧ report.evictions = w.eviction?.toList := by
  rcases sync_visits h with ⟨silent, -⟩ | ⟨nodeStates, rounds, rfl, rfl, each⟩
  · have calm := silent.refuses []
    rw [List.append_nil, refuses] at calm
    cases calm
  refine ⟨_, rfl, ?_⟩
  -- Some visit finds a refusal, and there is one target at most to find it at.
  have some_refused : 0 < (rounds.map (·.2)).countP Finding.isRefusal := by
    have found := rounds_refuse each []
    have listing : refused (⟨.cluster .nodeStates, .ok nodeStates⟩ :: (rounds.map (·.1)).flatten) =
        refused (rounds.map (·.1)).flatten :=
      refused_cons rfl rfl
    rw [List.append_nil, ← listing, refuses] at found
    rw [List.countP_pos_iff, ← List.any_eq_true]
    simpa [refused] using found.symm
  have one := refusals_le each
  rw [countP_visits] at one
  have length : ((rounds.map (·.2)).filter Finding.isRefusal).length = 1 := by
    rw [← List.countP_eq_length_filter]
    omega
  obtain ⟨f, only⟩ := List.length_eq_one_iff.mp length
  rw [SyncReport.ofFindings_evictions, only, List.flatMap_singleton]

/-- Pods are deleted only because the name of the workload leads back to them. -/
theorem makes_syncAndEvict (scheme : Scheme) (w : Workload) : (syncAndEvict scheme w).run.Makes
    fun c => ∀ space pod, c = .cluster (.deletePod space pod) → w.eviction? = some ⟨pod, space⟩ := by
  refine Makes.attemptBind ((makes_sync scheme w).imp ?_) fun t report synced => ?_
  · rintro c reads space pod rfl
    cases reads
  have evictions : ∀ e ∈ report.evictions, w.eviction? = some e := by
    rcases sync_visits synced with ⟨-, e, heq⟩ | ⟨nodeStates, rounds, -, heq, -⟩
    · cases heq
    · obtain rfl := Except.ok.inj heq
      exact fun e => mem_evictions
  refine Makes.attemptBind ?_ fun _ _ _ => Makes.attemptBind (Makes.lift (Makes.forM ?_)) ?_
  · unfold writeStatus
    split
    · trivial
    · refine Makes.orReport (.perform ?_)
      rintro space pod ⟨⟩
  · refine fun e he => Makes.bind (.perform ?_) fun _ _ _ => trivial
    rintro space pod ⟨⟩
    exact evictions e he
  · intro _ _ _
    split <;> trivial

section Owners

variable {pod : Pod}

/-- A derived workload leads back to its own pod unless a separator begins in the name of the pod. -/
theorem Derived.eviction?_eq_some_iff (h : Derived pod w) (named : pod.name ≠ "") :
    w.eviction? = some ⟨pod.name, pod.spaceOrDefault⟩ ↔ beginsSeparator pod.name = false := by
  obtain ⟨-, -, -, cores, ways⟩ := h
  rw [← podOfWorkload?_workloadName named, Workload.eviction?, Option.map_eq_some_iff]
  constructor
  · rintro ⟨owner, found, heq⟩
    obtain ⟨rfl, -⟩ := Eviction.mk.inj heq
    exact found
  · exact fun found => ⟨_, found, rfl⟩

/-- A derived workload is for the node of its pod alone. -/
theorem Derived.single (h : Derived pod w) : w.spec.targets.toList.length ≤ 1 := by
  obtain ⟨-, -, -, cores, ways⟩ := h
  simp only [derivedWorkload, WorkloadSpec.targets]
  cases pod.spec.bind (·.nodeName) with
  | none => exact Nat.zero_le _
  | some node => exact Nat.le_refl _

/-- Whom the refusal of a derived workload hits. Let a pod that has a name yield a workload, and let the
workload, whatever its status, be synchronized in any surroundings. If a daemon does not take its entry,
the report asks for the eviction of that pod and no other exactly when no separator begins in the name of
the pod. In that case the whole treatment of the workload deletes no other pod either. -/
theorem refused_workload_evicts_own_pod {σ τ : Type} {hostIp : String} {answer : Surroundings σ} {s : σ}
    {workloads : List Workload} (named : pod.name ≠ "")
    (derived : ((derive pod hostIp).run.run answer s).value = .ok workloads) (mem : w ∈ workloads)
    (scheme : Scheme) (status : Option WorkloadStatus) (answer' : Surroundings τ) (s' : τ) :
    let synced := (sync scheme { w with status }).run.run answer' s'
    let treated := (syncAndEvict scheme { w with status }).run.run answer' s'
    (refused synced.trace = true → ∃ report, synced.value = .ok report ∧
      (report.evictions = [⟨pod.name, pod.spaceOrDefault⟩] ↔ beginsSeparator pod.name = false)) ∧
    (beginsSeparator pod.name = false → ∀ x ∈ treated.trace, ∀ space name,
      x.call = .cluster (.deletePod space name) → space = pod.spaceOrDefault ∧ name = pod.name) := by
  have yields := run_yields (derive pod hostIp).run answer s
  rw [derived] at yields
  have own := derive_yields yields w mem
  refine ⟨?_, fun plain x hx space name deleted => ?_⟩
  · intro refuses
    have single : ({ w with status } : Workload).spec.targets.toList.length ≤ 1 := own.single
    obtain ⟨report, ended, evictions⟩ := sync_refused single (run_yields _ answer' s') refuses
    refine ⟨report, ended, ?_⟩
    rw [evictions, ← own.eviction?_eq_some_iff named]
    exact Option.toList_eq_singleton_iff
  · have evicted := (makes_syncAndEvict scheme { w with status }).of_yields
      (run_yields _ answer' s') x hx space name deleted
    have back := (own.eviction?_eq_some_iff named).mpr plain
    obtain ⟨rfl, rfl⟩ := Eviction.mk.inj (Option.some.inj (evicted.symm.trans back))
    exact ⟨rfl, rfl⟩

/-- A host with a CPU pinned for a pod, whose daemon refuses all entries. -/
def refusingHost (pod : String) : World where
  daemons := ({} : Daemons).setBehaviour "http://10.0.0.1:8443" .reject
  cluster := ({} : Cluster).addDaemonNode "n1" "rmd" "10.0.0.1" 8
  podCpus := .ok [⟨pod, "shop", [⟨"nginx", [1]⟩]⟩]

/-- The workload derived for the pod there. -/
def refusedWorkload? (pod : String) : Option Workload :=
  ((refusingHost pod).run (derive (guaranteedPod pod "nginx") "192.168.1.10").run).value.toOption.bind
    List.head?

/-- What is asked to be evicted when it has been refused. -/
def evictedFor? (pod : String) : Option (List Eviction) :=
  (refusedWorkload? pod).bind fun w =>
    let synced := (refusingHost pod).run (sync .http w).run
    if refused synced.trace then synced.value.toOption.map (·.evictions) else none

/-- The refusal of a workload evicts a pod that has nothing to do with it. -/
theorem refusal_evicts_stranger : evictedFor? "web-rmd-workload-0" = some [⟨"web", "shop"⟩] ∧
    (guaranteedPod "web-rmd-workload-0" "nginx").name ≠ "web" := by
  decide +kernel

theorem refused_workload_evicts_own_pod_web : ∃ w, refusedWorkload? "web-0" = some w ∧
    ∃ report, ((refusingHost "web-0").run (sync .http w).run).value = .ok report ∧
      report.evictions = [⟨"web-0", "shop"⟩] := by
  have met : (refusedWorkload? "web-0").any (fun w =>
      refused ((refusingHost "web-0").run (sync .http w).run).trace) = true := by
    decide +kernel
  obtain ⟨w, known, refuses⟩ := (Option.any_eq_true _ _).mp met
  refine ⟨w, known, ?_⟩
  rw [refusedWorkload?, Option.bind_eq_some_iff] at known
  obtain ⟨workloads, derived, first⟩ := known
  cases ended : ((refusingHost "web-0").run
      (derive (guaranteedPod "web-0" "nginx") "192.168.1.10").run).value with
  | error e => exact nomatch ended ▸ derived
  | ok l =>
    rw [ended] at derived
    obtain rfl : l = workloads := Option.some.inj derived
    have evicted := (refused_workload_evicts_own_pod (by decide) ended (List.mem_of_head? first) .http
      w.status World.answer (refusingHost "web-0")).1 refuses
    obtain ⟨report, reported, own⟩ := evicted
    exact ⟨report, reported, own.mpr (by decide)⟩

end Owners

end CachePartition
