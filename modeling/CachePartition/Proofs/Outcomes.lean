import CachePartition.Proofs.Conduct

/-! What the parts of a pass come to when they run in a world: the answers that the cluster and the
daemons give, and what they leave as it is. -/
namespace CachePartition

open Pass

/-- Where the daemon of a node is reached, by its pod. -/
def Cluster.address? (k : Cluster) (scheme : Scheme) (node space : String) : Option String :=
  (k.pods.get? ⟨space, daemonPodName node⟩).bind fun pod =>
    pod.hostPort.toOption.map (daemonBase scheme)

/-- The cores of a workload on a node, by the CPUs of the node if all are asked for. -/
def Cluster.cores? (k : Cluster) (spec : WorkloadSpec) (node : String) : Option (List String) :=
  match spec.coreSelection with
  | .explicit cores => some cores
  | .allExcept reserved =>
    ((k.nodes.get? node).bind Node.cpuCount?).map fun count =>
      CoreSelection.resolve count (.allExcept reserved)

namespace World

variable {α β ε : Type} {w v : World}

/-- The cluster and what is laid down for daemons are left as they are. -/
structure Steady (w v : World) : Prop where
  cluster : v.cluster = w.cluster
  scripts : v.faults.scripts = w.faults.scripts

/-- So are the daemons. -/
structure Rests (w v : World) : Prop extends Steady w v where
  daemons : v.daemons = w.daemons

theorem Steady.refl (w : World) : w.Steady w := ⟨rfl, rfl⟩

theorem Steady.trans {x : World} (h : w.Steady v) (h' : v.Steady x) : w.Steady x :=
  ⟨h'.cluster.trans h.cluster, h'.scripts.trans h.scripts⟩

theorem Steady.unscripted (h : w.Steady v) (hw : w.Unscripted) : v.Unscripted := by
  intro m a
  simpa only [Faults.scriptsAt, h.scripts] using hw m a

theorem Rests.refl (w : World) : w.Rests w := ⟨.refl w, rfl⟩

theorem Rests.trans {x : World} (h : w.Rests v) (h' : v.Rests x) : w.Rests x :=
  ⟨h.toSteady.trans h'.toSteady, h'.daemons.trans h.daemons⟩

/-- A query is answered from the objects of the cluster, unless it fails. -/
theorem answer_query (w : World) {c : ClusterCall} (query : c.isQuery = true) :
    w.Rests (w.answer (.cluster c)).2 ∧ ((∃ e, (w.answer (.cluster c)).1 = c.failed e) ∨
      (w.answer (.cluster c)).1 = (w.cluster.serve c).1) := by
  simp only [answer, answerCluster]
  split
  · exact ⟨⟨⟨rfl, rfl⟩, rfl⟩, .inl ⟨_, rfl⟩⟩
  · refine ⟨⟨⟨w.cluster.answer_query query, rfl⟩, rfl⟩, ?_⟩
    unfold Cluster.answer
    split
    · exact .inl ⟨_, rfl⟩
    · exact .inr rfl

/-- What a run of the pass comes to, in its value and in the world it leaves. -/
def Ensures (w : World) (p : Pass α) (R : α → World → Prop) : Prop :=
  R (w.run p).value (w.run p).state

theorem ensures_call {c : Call} {next : c.Answer → Pass α} {x : c.Answer} {R : α → World → Prop}
    (answered : w.answer c = (x, v)) (h : v.Ensures (next x) R) : w.Ensures (.call c next) R := by
  unfold Ensures at h ⊢
  simp only [World.run, Pass.run, answered]
  exact h

/-- A daemon that is reached serves the call itself. -/
theorem ensures_served {c : DaemonCall} {next : c.Answer → Pass α} {x : c.Answer} {d : Daemons}
    {R : α → World → Prop} (hw : w.Unscripted)
    (reached : w.daemons.unreachable.contains c.address = false)
    (served : w.daemons.serve c = (x, d)) (h : Ensures { w with daemons := d } (next x) R) :
    w.Ensures (.call (.daemon c) next) R := by
  refine ensures_call ?_ h
  simp [answer, hw.answerDaemon, Daemons.answer, reached, served]

theorem Ensures.mono {p : Pass α} {P R : α → World → Prop} (h : w.Ensures p P)
    (weaker : ∀ a v, P a v → R a v) : w.Ensures p R :=
  weaker _ _ h

theorem Ensures.bind {p : Pass α} {f : α → Pass β} {P : α → World → Prop} {R : β → World → Prop}
    (h : w.Ensures p P) (hf : ∀ a v, P a v → v.Ensures (f a) R) : w.Ensures (p.bind f) R := by
  unfold Ensures at h ⊢
  rw [World.run, run_bind]
  exact hf _ _ h

theorem Ensures.attemptBind {x : Attempt ε α} {f : α → Attempt ε β}
    {P : Except (Report ε) α → World → Prop} {R : Except (Report ε) β → World → Prop}
    (h : w.Ensures x.run P) (ok : ∀ a v, P (.ok a) v → v.Ensures (f a).run R)
    (error : ∀ e v, P (.error e) v → R (.error e) v) : w.Ensures (x >>= f).run R := by
  refine Ensures.bind h fun r v hr => ?_
  cases r with
  | ok a => exact ok a v hr
  | error e => exact error e v hr

theorem Ensures.lift {p : Pass α} {P : α → World → Prop} (h : w.Ensures p P) :
    w.Ensures (ExceptT.lift p : Attempt ε α).run fun r v => ∃ a, r = .ok a ∧ P a v :=
  Ensures.bind h fun a _ ha => ⟨a, rfl, ha⟩

/-- A property of what has been done and of the rest holds at the end if each step keeps it. -/
theorem Ensures.foldlM {ι : Type} {f : β → ι → Pass β} {I : List ι → β → World → Prop}
    (step : ∀ i l b v, I (i :: l) b v → v.Ensures (f b i) (I l)) (l : List ι) {b : β}
    (h : I l b w) : w.Ensures (l.foldlM f b) (I []) := by
  induction l generalizing b w with
  | nil => exact h
  | cons i l ih =>
    rw [List.foldlM_cons]
    exact Ensures.bind (step i l b w h) fun _ _ => ih

/-- The pass leaves everything as it is, and what it finds, if it does not fail, is so. -/
def Finds (w : World) (p : Pass (Except ε α)) (P : α → Prop) : Prop :=
  w.Ensures p fun r v => w.Rests v ∧ ∀ a, r = .ok a → P a

theorem finds_ok {a : α} {P : α → Prop} (h : P a) : w.Finds (.done (.ok a) : Pass (Except ε α)) P :=
  ⟨.refl w, fun _ ha => Except.ok.inj ha ▸ h⟩

theorem finds_error (e : ε) {P : α → Prop} : w.Finds (.done (.error e)) P :=
  ⟨.refl w, fun _ ha => nomatch ha⟩

theorem Finds.orReport {δ : Type} {p : Pass (Except δ α)} {report : δ → Report ε} {P : α → Prop}
    (h : w.Finds p P) : w.Finds (orReport p report).run P := by
  refine Ensures.bind h fun r v ⟨rests, found⟩ => ⟨rests, fun a ha => ?_⟩
  cases r with
  | ok b => exact Except.ok.inj ha ▸ found b rfl
  | error e => exact nomatch ha

theorem Finds.attemptBind {x : Attempt ε α} {f : α → Attempt ε β} {P : α → Prop} {Q : β → Prop}
    (h : w.Finds x.run P) (hf : ∀ a, P a → ∀ v, w.Rests v → v.Finds (f a).run Q) :
    w.Finds (x >>= f).run Q := by
  refine Ensures.attemptBind h (fun a v ⟨rests, found⟩ => ?_) fun e v ⟨rests, _⟩ => ?_
  · obtain ⟨rests', found'⟩ := hf a (found a rfl) v rests
    exact ⟨rests.trans rests', found'⟩
  · exact ⟨rests, fun _ h => nomatch h⟩

end World

section Lookups

variable (w : World)

theorem finds_nodeStates : w.Finds (perform (.cluster .nodeStates)) (· = w.cluster.nodeStates) := by
  obtain ⟨rests, ⟨e, failed⟩ | served⟩ := w.answer_query (c := .nodeStates) rfl
  · exact ⟨rests, fun _ h => nomatch failed.symm.trans h⟩
  · exact ⟨rests, fun _ h => Except.ok.inj (h.symm.trans served)⟩

theorem finds_pod (space name : String) :
    w.Finds (perform (.cluster (.pod space name))) (· = w.cluster.pods.get? ⟨space, name⟩) := by
  obtain ⟨rests, ⟨e, failed⟩ | served⟩ := w.answer_query (c := .pod space name) rfl
  · exact ⟨rests, fun _ h => nomatch failed.symm.trans h⟩
  · exact ⟨rests, fun _ h => Except.ok.inj (h.symm.trans served)⟩

theorem finds_node (name : String) :
    w.Finds (perform (.cluster (.node name))) (· = w.cluster.nodes.get? name) := by
  obtain ⟨rests, ⟨e, failed⟩ | served⟩ := w.answer_query (c := .node name) rfl
  · exact ⟨rests, fun _ h => nomatch failed.symm.trans h⟩
  · exact ⟨rests, fun _ h => Except.ok.inj (h.symm.trans served)⟩

theorem finds_listNodeStates : w.Finds listNodeStates.run (· = w.cluster.nodeStates) :=
  (finds_nodeStates w).orReport

theorem finds_daemonHostPort (scheme : Scheme) (node space : String) :
    w.Finds (daemonHostPort node space).run fun hostPort =>
      w.cluster.address? scheme node space = some (daemonBase scheme hostPort) := by
  refine (finds_pod w space (daemonPodName node)).orReport.attemptBind fun pod? found v _ => ?_
  cases pod? with
  | none => exact World.finds_error _
  | some pod =>
    cases reached : pod.hostPort with
    | error e =>
      simp only [reached]
      exact World.finds_error _
    | ok hostPort =>
      have known : w.cluster.address? scheme node space = some (daemonBase scheme hostPort) := by
        simp [Cluster.address?, ← found, reached, Except.toOption]
      simp only [reached]
      exact World.finds_ok known

theorem finds_daemonAddress (scheme : Scheme) (node space : String) :
    w.Finds (daemonAddress scheme node space).run fun a =>
      w.cluster.address? scheme node space = some a := by
  refine World.Ensures.bind (finds_daemonHostPort w scheme node space) fun r v ⟨rests, found⟩ => ?_
  cases r with
  | error e => exact ⟨rests, fun _ h => nomatch h⟩
  | ok hostPort => exact ⟨rests, fun _ h => Except.ok.inj h ▸ found hostPort rfl⟩

theorem finds_nodeCpus (node : String) :
    w.Finds (nodeCpus node).run fun count =>
      (w.cluster.nodes.get? node).bind Node.cpuCount? = some count := by
  refine (finds_node w node).orReport.attemptBind fun object? found v _ => ?_
  cases object? with
  | none => exact World.finds_error _
  | some object =>
    cases counted : object.cpuCount? with
    | none =>
      simp only [counted]
      exact World.finds_error _
    | some count =>
      have known : (w.cluster.nodes.get? node).bind Node.cpuCount? = some count := by
        simp [← found, counted]
      simp only [counted]
      exact World.finds_ok known

theorem finds_resolveCores (spec : WorkloadSpec) (node : String) :
    w.Finds (resolveCores spec node).run fun cores => w.cluster.cores? spec node = some cores := by
  unfold resolveCores Cluster.cores?
  cases spec.coreSelection with
  | explicit cores => exact World.finds_ok rfl
  | allExcept reserved =>
    refine (finds_nodeCpus w node).attemptBind fun count counted v _ => World.finds_ok ?_
    simp only [counted, Option.map_some]

variable {w}

/-- A listing fails where the daemon is not reached, and shows the table where it is. -/
theorem ensures_listed {α : Type} {node address : String} {f : List Entry → Attempt SyncError α}
    {R : Except (Report SyncError) α → World → Prop} (hw : w.Unscripted)
    (away : w.daemons.unreachable.contains address = true → ∀ e, R (.error e) w)
    (reached : w.daemons.unreachable.contains address = false →
      w.Ensures (f (w.daemons.entriesAt address)).run R) :
    w.Ensures (listEntries node address >>= f).run R := by
  cases there : w.daemons.unreachable.contains address with
  | true =>
    have answered : w.answer (.daemon (.list address)) = (.error (.transport address), w) := by
      simp [World.answer, hw.answerDaemon, Daemons.answer, DaemonCall.address, there,
        DaemonCall.failed]
    exact World.ensures_call answered (away there _)
  | false => exact World.ensures_served hw there rfl (reached there)

end Lookups

end CachePartition
