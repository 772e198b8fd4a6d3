import CachePartition.Proofs.Evictions
import CachePartition.Proofs.Records
import CachePartition.Proofs.StatusWrites

/-! For what pods have to go. A synchronization asks for one eviction for each target whose daemon did not
take an entry that was to be created, and for no other reason. -/
namespace CachePartition

open Pass

/-- An entry of a workload was to be created and was not taken: it was turned down, or accepted and then
missing from the listing read right afterwards. -/
inductive CreateRefused (uuid : String) (part : List Exchange) : Prop where
  | rejected {address : String} {body : Entry} {status : Nat} {text : String}
      (mem : ⟨.daemon (.create address body), .error (.rejected status text)⟩ ∈ part)
  | missing {address : String} {body : Entry} {response : String} {l : List Entry}
      (read : [⟨.daemon (.create address body), .ok response⟩, ⟨.daemon (.list address), .ok l⟩] <:+: part)
      (absent : Entry.findByUuid l uuid = none)

section Parts

variable {scheme : Scheme} {w : Workload} {nodeStates : List NodeState} {node space : String}
  {t : List Exchange} {x y : Exchange}

theorem turnsDown_iff : x.turnsDown = true ↔ ∃ address body status text,
    x = ⟨.daemon (.create address body), .error (.rejected status text)⟩ := by
  constructor
  · intro h
    unfold Exchange.turnsDown at h
    split at h
    · exact ⟨_, _, _, _, rfl⟩
    · cases h
  · rintro ⟨_, _, _, _, rfl⟩
    rfl

theorem lacks_iff : x.lacks y = true ↔ ∃ address body response l,
    x = ⟨.daemon (.create address body), .ok response⟩ ∧ y = ⟨.daemon (.list address), .ok l⟩ ∧
      Entry.findByUuid l body.uuid = none := by
  constructor
  · intro h
    unfold Exchange.lacks at h
    split at h
    · obtain ⟨rfl, absent⟩ : _ = _ ∧ _ := by simpa using h
      exact ⟨_, _, _, _, rfl, rfl, absent⟩
    · cases h
  · rintro ⟨_, _, _, _, rfl, rfl, absent⟩
    simp [Exchange.lacks, absent]

/-- A refusal is an exchange, or two in a row. -/
theorem refused_iff : refused t = true ↔
    (∃ x ∈ t, x.turnsDown = true) ∨ ∃ x y, [x, y] <:+: t ∧ x.lacks y = true := by
  induction t with
  | nil => simp [refused]
  | cons z t ih =>
    have next : t.head?.any z.lacks = true ↔ ∃ y, [y] <+: t ∧ z.lacks y = true := by
      cases t <;> simp [List.cons_prefix_cons]
    rw [refused, Bool.or_eq_true, Bool.or_eq_true, ih, next]
    simp only [List.exists_mem_cons_iff, List.infix_cons_iff, List.cons_prefix_cons]
    constructor
    · rintro ((here | ⟨y, first, lacks⟩) | there | ⟨x, y, inside, lacks⟩)
      · exact .inl (.inl here)
      · exact .inr ⟨z, y, .inl ⟨rfl, first⟩, lacks⟩
      · exact .inl (.inr there)
      · exact .inr ⟨x, y, .inr inside, lacks⟩
    · rintro ((here | there) | ⟨x, y, ⟨rfl, first⟩ | inside, lacks⟩)
      · exact .inl (.inl here)
      · exact .inr (.inl there)
      · exact .inl (.inr ⟨y, first, lacks⟩)
      · exact .inr (.inr ⟨x, y, inside, lacks⟩)

theorem Silent.no_create (h : Silent t) {address : String} {body : Entry}
    (create : x.call = .daemon (.create address body)) : x ∉ t := by
  intro hx
  have silent := h x hx
  simp [Exchange.isDaemon, create] at silent

/-- In the part of a target all entries that are to be created are the workload's. -/
theorem Bringing.creates {result : Except String NodeResult}
    (h : Bringing scheme w node space t result) (hx : x ∈ t) {address : String} {body : Entry}
    (create : x.call = .daemon (.create address body)) : body.uuid = w.uuid := by
  cases h with
  | unaddressed missing => exact absurd hx (missing.silent.no_create create)
  | uncounted found _ missing =>
    exact absurd hx ((found.silent.append missing.silent).no_create create)
  | settled found chosen settling =>
    rcases List.mem_append.mp hx with hx | hx
    · exact absurd hx (found.silent.no_create create)
    rcases List.mem_append.mp hx with hx | hx
    · exact absurd hx (chosen.silent.no_create create)
    rcases settling.targetCalls.kinds x hx with listed | made | ⟨id, updated⟩
    · cases create.symm.trans listed
    · cases create.symm.trans made
      rfl
    · cases create.symm.trans updated

/-- What counts as refused in the part of a target is a refusal of the workload's own entry. -/
theorem Bringing.refused_iff {result : Except String NodeResult}
    (h : Bringing scheme w node space t result) : refused t = true ↔ CreateRefused w.uuid t := by
  rw [CachePartition.refused_iff]
  constructor
  · rintro (⟨x, mem, down⟩ | ⟨x, y, read, lacks⟩)
    · obtain ⟨address, body, status, text, rfl⟩ := turnsDown_iff.mp down
      exact .rejected mem
    · obtain ⟨address, body, response, l, rfl, rfl, absent⟩ := lacks_iff.mp lacks
      have own := h.creates (read.subset List.mem_cons_self) rfl
      exact .missing read (own ▸ absent)
  · rintro (mem | ⟨read, absent⟩)
    · exact .inl ⟨_, mem, rfl⟩
    · have own := h.creates (read.subset List.mem_cons_self) rfl
      exact .inr ⟨_, _, read, lacks_iff.mpr ⟨_, _, _, _, rfl, rfl, own ▸ absent⟩⟩

theorem Targeting.refused_iff {result : Except String NodeResult}
    (h : Targeting scheme w nodeStates node t result) : refused t = true ↔ CreateRefused w.uuid t := by
  cases h with
  | unknown =>
    refine ⟨fun h => (nomatch h), ?_⟩
    rintro (mem | ⟨read, -⟩)
    · cases mem
    · cases read.subset List.mem_cons_self
  | known mem named bringing => exact bringing.refused_iff

theorem Refuses.eq {b : Bool} (h : Refuses t b) : refused t = b := by
  have alone := h []
  rwa [List.append_nil, refused, Bool.or_false] at alone

end Parts

/-- The eviction due for a workload is of the pod that its name leads back to. -/
theorem Workload.eviction?_eq_some {w : Workload} {pod space : String} :
    w.eviction? = some ⟨pod, space⟩ ↔ space = w.space ∧ pod ≠ "" ∧ ∃ rest,
      Text.splitOnce? workloadSeparator.toList w.name.toList = some (pod.toList, rest) := by
  rw [eviction?, Option.map_eq_some_iff, ← podOfWorkload?_eq_some]
  constructor
  · rintro ⟨owner, found, same⟩
    obtain ⟨rfl, rfl⟩ := Eviction.mk.inj same
    exact ⟨rfl, found⟩
  · rintro ⟨rfl, found⟩
    exact ⟨pod, found, rfl⟩

section Reports

variable {scheme : Scheme} {w : Workload} {nodeStates : List NodeState} {t : List Exchange}

/-- What goes with two lists in a row goes with each. -/
theorem forall₂_append_left {α β : Type} {R : α → β → Prop} {l l' : List α} {m : List β}
    (h : List.Forall₂ R (l ++ l') m) :
    ∃ m₁ m₂, m = m₁ ++ m₂ ∧ List.Forall₂ R l m₁ ∧ List.Forall₂ R l' m₂ := by
  have first := List.forall₂_take_append m l l' h.flip
  have second := List.forall₂_drop_append m l l' h.flip
  exact ⟨_, _, (List.take_append_drop l.length m).symm, first.flip, second.flip⟩

/-- A synchronization that ends with a report comes to one round for each target and one for each other
node state. -/
theorem sync_rounds {report : SyncReport} (h : (sync scheme w).run.Yields t (.ok report)) :
    ∃ nodeStates, ∃ round : String → List Exchange × Finding, ∃ sweeps : List (List Exchange × Finding),
      t = ⟨.cluster .nodeStates, .ok nodeStates⟩ ::
        (w.spec.targets.toList.flatMap (fun node => (round node).1) ++ (sweeps.map (·.1)).flatten) ∧
      report = .ofFindings w nodeStates
        (w.spec.targets.toList.map (fun node => (round node).2) ++ sweeps.map (·.2)) ∧
      (∀ node ∈ w.spec.targets.toList,
        ((Visit.target node).pass scheme w (spacesByNode nodeStates)).Yields (round node).1 (round node).2) ∧
      List.Forall₂ (fun n sweep =>
        ((Visit.other n).pass scheme w (spacesByNode nodeStates)).Yields sweep.1 sweep.2)
        (nodeStates.filter fun n => n.node ∉ w.spec.nodes) sweeps := by
  rcases sync_visits h with ⟨-, e, failed⟩ | ⟨nodeStates, rounds, rfl, reported, each⟩
  · cases failed
  rw [Visit.Rounds, Workload.visits, w.spec.others_eq] at each
  obtain ⟨tours, sweeps, rfl, onTargets, onOthers⟩ := forall₂_append_left each
  rw [List.forall₂_map_left_iff] at onTargets onOthers
  have : Nonempty (List Exchange × Finding) := ⟨[], .swept "" (.ok false)⟩
  have distinct : (w.spec.targets.toList.map id).Nodup := by
    rw [List.map_id]
    exact w.spec.targets_nodup
  obtain ⟨round, rfl, made⟩ := exists_byKey onTargets distinct
  refine ⟨nodeStates, round, sweeps, ?_, ?_, made, onOthers⟩
  · simp [List.flatMap_def, List.map_map, Function.comp_def]
  · rw [Except.ok.inj reported]
    simp [List.map_map, Function.comp_def]

/-- The refusals found are those in the parts of targets. -/
theorem filter_isRefusal {round : String → List Exchange × Finding}
    {sweeps : List (List Exchange × Finding)} {targets : List String}
    (own : ∀ node ∈ targets, (round node).2.node = node ∧
      (round node).2.isRefusal = refused (round node).1)
    (others : ∀ sweep ∈ sweeps, sweep.2.isRefusal = false) :
    let found := targets.map (fun node => (round node).2) ++ sweeps.map (·.2)
    let refusing := targets.filter fun node => refused (round node).1
    found.filter Finding.isRefusal = refusing.map fun node => (round node).2 := by
  intro found refusing
  have swept : (sweeps.map (·.2)).filter Finding.isRefusal = [] := by
    rw [List.filter_eq_nil_iff]
    intro f hf
    obtain ⟨sweep, mem, rfl⟩ := List.mem_map.mp hf
    simp [others sweep mem]
  rw [List.filter_append, swept, List.append_nil, List.filter_map]
  exact congrArg _ (List.filter_congr fun node hn => (own node hn).2)

end Reports

/-- Pods have to go for refused creates only, whatever is answered. Let a synchronization end with a report.
After the listing of the node states its trace is made of one part for each target, in ascending order, and
one for each other node state. The report asks for one eviction, always of the pod that the name of the
workload leads back to, for each target in whose part a create was refused: the daemon turned the entry down,
or accepted it and did not list it right afterwards. Nothing else in the trace leads to an eviction. The
refused targets are among the failed nodes, in their order. The name leads back to what stands before its first
separator, in the namespace of the workload, and to no pod if there is no separator or nothing before it. -/
theorem evictions_follow_refused_creates {σ : Type} {answer : Surroundings σ} {s : σ} {scheme : Scheme}
    {w : Workload} {report : SyncReport}
    (ended : ((sync scheme w).run.run answer s).value = .ok report) :
    let targets := w.spec.targets.toList
    ∃ (nodeStates : List NodeState) (part : String → List Exchange) (sweeps : List (List Exchange)),
      ((sync scheme w).run.run answer s).trace = ⟨.cluster .nodeStates, .ok nodeStates⟩ ::
        (targets.flatMap part ++ sweeps.flatten) ∧
      (∀ node ∈ targets, ∃ result, Targeting scheme w nodeStates node (part node) result) ∧
      List.Forall₂ (fun n sweep => ∃ failed, Sweeping scheme w.uuid n.node n.space sweep failed)
        (nodeStates.filter fun n => n.node ∉ w.spec.nodes) sweeps ∧
      (∃ refusing : List String, refusing.Sublist targets ∧
        (∀ node ∈ targets, node ∈ refusing ↔ CreateRefused w.uuid (part node)) ∧
        report.evictions = refusing.flatMap (fun _ => w.eviction?.toList) ∧
        refusing.Sublist report.failedNodes) ∧
      targets.Pairwise (· < ·) ∧ (∀ node, node ∈ targets ↔ node ∈ w.spec.nodes) ∧
      ∀ pod space, w.eviction? = some ⟨pod, space⟩ ↔ space = w.space ∧ pod ≠ "" ∧ ∃ rest,
        Text.splitOnce? workloadSeparator.toList w.name.toList = some (pod.toList, rest) := by
  intro targets
  obtain ⟨nodeStates, round, sweeps, trace, rfl, made, swept⟩ :=
    sync_rounds (ended ▸ run_yields (sync scheme w).run answer s)
  have own : ∀ node ∈ targets, (round node).2.node = node ∧
      (round node).2.isRefusal = refused (round node).1 :=
    fun node hn => ⟨(target_record (made node hn)).1, (visit_refuses (made node hn)).eq.symm⟩
  have others : ∀ sweep ∈ sweeps, sweep.2.isRefusal = false := by
    intro sweep mem
    obtain ⟨n, -, visited⟩ := Yields.round_mem swept sweep mem
    exact not_isRefusal_of_other visited
  have targeting : ∀ node ∈ targets, ∃ result, Targeting scheme w nodeStates node (round node).1 result :=
    fun node hn => (target_record (made node hn)).2.imp fun _ h => h.1
  have refusals := filter_isRefusal own others
  refine ⟨nodeStates, fun node => (round node).1, sweeps.map (·.1), trace, targeting, ?_,
    ⟨targets.filter fun node => refused (round node).1, List.filter_sublist, fun node hn => ?_, ?_, ?_⟩,
    ?_, w.spec.mem_targets, fun pod space => ?_⟩
  · rw [List.forall₂_map_right_iff]
    exact swept.imp fun n sweep visited => ⟨_, (other_record visited).2.1⟩
  · obtain ⟨result, targeting⟩ := targeting node hn
    rw [List.mem_filter, ← targeting.refused_iff]
    exact and_iff_right hn
  · rw [SyncReport.ofFindings_evictions, refusals, List.flatMap_map]
  · have refused : (targets.filter fun node => refused (round node).1) =
        ((targets.map (fun node => (round node).2) ++ sweeps.map (·.2)).filter Finding.isRefusal).map
          Finding.node := by
      rw [refusals, List.map_map]
      refine (List.map_id' _).symm.trans (List.map_congr_left fun node hn => ?_)
      exact (own node (List.mem_of_mem_filter hn)).1.symm
    rw [refused, SyncReport.ofFindings_failedNodes]
    exact (List.monotone_filter_right _ fun f h => Finding.isMiss_of_isRefusal h).map _
  · exact List.pairwise_map.mpr w.spec.targets.ascending
  · exact Workload.eviction?_eq_some

/-- Of three nodes two are targets; one turns the entry down and the other is not reached. Both have failed,
and the refusal alone leads to an eviction. -/
theorem evictions_follow_refused_creates_threeTroubles :
    ∃ report, (threeTroubles.world.run (sync .http ofWebPod).run).value = .ok report ∧
      report.failedNodes = ["n1", "n2"] ∧ ∃ (part : String → List Exchange) (refusing : List String),
        report.evictions = refusing.flatMap (fun _ => ofWebPod.eviction?.toList) ∧
        report.evictions = [⟨"web", "shop"⟩] ∧
        ∀ node ∈ refusing, CreateRefused ofWebPod.uuid (part node) := by
  have evictions : (threeTroubles.world.run (sync .http ofWebPod).run).value.map SyncReport.evictions =
      .ok [⟨"web", "shop"⟩] := by
    decide +kernel
  have failed : (threeTroubles.world.run (sync .http ofWebPod).run).value.map SyncReport.failedNodes =
      .ok ["n1", "n2"] := by
    decide +kernel
  cases ended : (threeTroubles.world.run (sync .http ofWebPod).run).value with
  | error e => exact nomatch ended ▸ evictions
  | ok report =>
    obtain ⟨-, part, -, -, -, -, ⟨refusing, among, refused, evicted, -⟩, -⟩ :=
      evictions_follow_refused_creates ended
    rw [ended] at evictions failed
    refine ⟨report, rfl, Except.ok.inj failed, part, refusing, evicted, Except.ok.inj evictions, ?_⟩
    exact fun node hn => (refused node (among.subset hn)).mp hn

end CachePartition
