import CachePartition.Proofs.CacheTotals
import CachePartition.Proofs.Polls
import CachePartition.Proofs.Surroundings
import CachePartition.Proofs.Talks

/-! What a poll stores. Its status replaces the one before and comes from the answers to this poll alone; a
poll that fails leaves what is stored as it was. -/
namespace CachePartition

open Pass

/-- Of several bindings of a key the last one counts. -/
theorem SortedMap.get?_ofList_eq_some {κ α : Type} [KeyOrder κ] {l : List (κ × α)} {k : κ} {v : α} :
    (ofList l).get? k = some v ↔
      ∃ before after, l = before ++ (k, v) :: after ∧ ∀ e ∈ after, e.1 ≠ k := by
  induction l using List.reverseRecOn with
  | nil =>
    constructor
    · intro found
      cases found
    · rintro ⟨before, after, split, -⟩
      simp at split
  | append_singleton l e ih =>
    rw [ofList_concat]
    by_cases own : k = e.1
    · subst own
      rw [get?_insert_self]
      constructor
      · intro found
        exact ⟨l, [], by rw [← Option.some.inj found], by simp⟩
      · rintro ⟨before, after, split, others⟩
        rcases List.eq_nil_or_concat' after with rfl | ⟨after, last, rfl⟩
        · have same := (List.append_inj' split rfl).2
          rw [List.cons.inj same |>.1]
        · -- The last binding is of this key, so it cannot be among those of others.
          have ends : l ++ [e] = (before ++ (e.1, v) :: after) ++ [last] := by simpa using split
          have same := List.cons.inj (List.append_inj' ends rfl).2 |>.1
          exact absurd (congrArg Prod.fst same.symm) (others last (by simp))
    · rw [get?_insert_ne _ own, ih]
      constructor
      · rintro ⟨before, after, rfl, others⟩
        refine ⟨before, after ++ [e], by simp, ?_⟩
        intro f hf
        rcases List.mem_append.mp hf with hf | hf
        · exact others f hf
        · rw [List.mem_singleton.mp hf]
          exact Ne.symm own
      · rintro ⟨before, after, split, others⟩
        rcases List.eq_nil_or_concat' after with rfl | ⟨after, last, rfl⟩
        · have same := List.cons.inj (List.append_inj' split rfl).2 |>.1
          exact absurd (congrArg Prod.fst same.symm) own
        · have ends : l ++ [e] = (before ++ (k, v) :: after) ++ [last] := by simpa using split
          refine ⟨before, after, (List.append_inj' ends rfl).1, ?_⟩
          intro f hf
          exact others f (List.mem_append_left _ hf)

/-- The keys are those of the bindings. -/
theorem SortedMap.mem_keys_ofList {κ α : Type} [KeyOrder κ] {l : List (κ × α)} {k : κ} :
    k ∈ (ofList l).keys ↔ k ∈ l.map (·.1) := by
  rw [← contains_iff_mem_keys, contains, Option.isSome_iff_exists, List.mem_map]
  constructor
  · rintro ⟨v, found⟩
    obtain ⟨before, after, rfl, -⟩ := get?_ofList_eq_some.mp found
    exact ⟨(k, v), by simp, rfl⟩
  · rintro ⟨e, mem, rfl⟩
    induction l using List.reverseRecOn with
    | nil => cases mem
    | append_singleton l last ih =>
      rw [ofList_concat]
      by_cases own : e.1 = last.1
      · exact ⟨last.2, by rw [own, get?_insert_self]⟩
      · rw [get?_insert_ne _ own]
        rcases List.mem_append.mp mem with mem | mem
        · exact ih mem
        · exact absurd (congrArg Prod.fst (List.mem_singleton.mp mem)) own

theorem availableWays?_eq_some {r : CacheReport} {ways : UInt64} :
    availableWays? r = some ways ↔ r.totalWays = .ok ways.toNat := by
  unfold availableWays?
  cases total : r.totalWays with
  | error e => simp [Except.toOption]
  | ok t =>
    obtain ⟨-, -, -, below⟩ := CacheReport.totalWays_eq_ok.mp total
    have bits : (UInt64.ofNat t).toNat = t := UInt64.toNat_ofNat_of_lt' below
    simp only [Except.toOption, Option.map_some, Option.some.injEq, Except.ok.injEq]
    constructor
    · rintro rfl
      exact bits.symm
    · intro same
      rw [same, UInt64.ofNat_toNat]

/-- The answers that a poll gets: on the daemon's pod, of the daemon, and to what it writes. -/
structure PollAnswers where
  pod? : Except ClusterError (Option Pod)
  entries : Except DaemonError (List Entry)
  report : Except DaemonError CacheReport
  written : Except ClusterError Unit

namespace PollAnswers

/-- Where the daemon is reached, if its pod tells. -/
def address? (a : PollAnswers) (scheme : Scheme) : Option String :=
  match a.pod? with
  | .ok (some pod) => pod.hostPort.toOption.map (daemonBase scheme)
  | _ => none

/-- The exchanges of a poll with these answers. Without an address it ends after the look-up. -/
def exchanges (a : PollAnswers) (scheme : Scheme) (n : NodeState) : List Exchange :=
  ⟨.enlist n.node, ()⟩ :: ⟨.cluster (.pod n.space (daemonPodName n.node)), a.pod?⟩ ::
    (a.address? scheme).elim [] fun address => [⟨.daemon (.list address), a.entries⟩,
      ⟨.daemon (.cacheReport address), a.report⟩,
      ⟨.cluster (.replaceNodeStateStatus n (.told a.entries a.report)), a.written⟩]

/-- What the poll comes to. -/
def result (a : PollAnswers) (scheme : Scheme) (n : NodeState) :
    Except (Report SyncError) NodeStateStatus :=
  match addressTold scheme n.node n.space a.pod? with
  | .error r => .error r
  | .ok _ => (a.written.mapError fun e => ⟨.status n.name, [.cluster e]⟩).map
    fun _ => .told a.entries a.report

variable {a a' : PollAnswers} {scheme : Scheme} {n : NodeState}

theorem addressTold_eq (a : PollAnswers) (scheme : Scheme) (node space : String) :
    (∃ address, a.address? scheme = some address ∧
      addressTold scheme node space a.pod? = .ok address) ∨
    a.address? scheme = none ∧ ∃ cause, addressTold scheme node space a.pod? =
      .error ⟨.daemonAddress node, [.cluster cause]⟩ := by
  unfold address?
  cases a.pod? with
  | error e => exact .inr ⟨rfl, _, rfl⟩
  | ok pod? =>
    cases pod? with
    | none => exact .inr ⟨rfl, _, rfl⟩
    | some pod =>
      cases reached : pod.hostPort with
      | error e => exact .inr ⟨by simp [reached, Except.toOption], e, by rw [addressTold, reached]; rfl⟩
      | ok hostPort =>
        exact .inl ⟨_, by simp [reached, Except.toOption]; rfl, by rw [addressTold, reached]; rfl⟩

/-- What is missing decides on the result. -/
theorem result_ways (a : PollAnswers) (scheme : Scheme) (n : NodeState) :
    (a.address? scheme = none ∧
      ∃ cause, a.result scheme n = .error ⟨.daemonAddress n.node, [.cluster cause]⟩) ∨
    (∃ address e, a.address? scheme = some address ∧ a.written = .error e ∧
      a.result scheme n = .error ⟨.status n.name, [.cluster e]⟩) ∨
    ∃ address, a.address? scheme = some address ∧ a.written = .ok () ∧
      a.result scheme n = .ok (.told a.entries a.report) := by
  unfold result
  rcases a.addressTold_eq scheme n.node n.space with ⟨address, found, told⟩ | ⟨missing, cause, told⟩
  · rw [told]
    cases written : a.written with
    | error e => exact .inr (.inl ⟨address, e, found, rfl, rfl⟩)
    | ok => exact .inr (.inr ⟨address, found, rfl, rfl⟩)
  · rw [told]
    exact .inl ⟨missing, cause, rfl⟩

/-- The exchanges tell all that the result depends on. -/
theorem result_congr (h : a.exchanges scheme n = a'.exchanges scheme n) :
    a.result scheme n = a'.result scheme n := by
  obtain ⟨pod, rest⟩ := List.cons.inj (List.cons.inj h).2
  have pod : a.pod? = a'.pod? := eq_of_heq (Exchange.mk.inj pod).2
  have place : a.address? scheme = a'.address? scheme := by
    unfold address?
    rw [pod]
  rw [place] at rest
  unfold result
  rw [pod]
  rcases a'.addressTold_eq scheme n.node n.space with ⟨address, found, told⟩ | ⟨-, cause, told⟩
  · simp only [found, Option.elim_some, List.cons.injEq, Exchange.mk.injEq, heq_eq_eq, true_and,
      and_true] at rest
    obtain ⟨entries, report, -, written⟩ := rest
    rw [told, entries, report, written]
  · rw [told]

/-- The cluster after a poll has the status if there was an address and the write was taken. -/
theorem foldl_after (a : PollAnswers) (scheme : Scheme) (n : NodeState) (k : Cluster) :
    (a.exchanges scheme n).foldl Cluster.after k =
      if (a.address? scheme).isSome ∧ a.written = .ok () then
        { k with
          nodeStateStatuses := k.nodeStateStatuses.insert n.key (.told a.entries a.report) }
      else k := by
  have looked : k.after ⟨.cluster (.pod n.space (daemonPodName n.node)), a.pod?⟩ = k := by
    simp [Cluster.after, Cluster.serve]
  simp only [exchanges, List.foldl_cons]
  rw [show k.after ⟨.enlist n.node, ()⟩ = k from rfl, looked]
  cases a.address? scheme with
  | none => rfl
  | some address =>
    cases written : a.written with
    | error e => simp [Cluster.after, ClusterCall.granted, Except.isOk, Except.toBool]
    | ok => simp [Cluster.after, ClusterCall.granted, Except.isOk, Except.toBool, Cluster.serve]

end PollAnswers

section Told

variable {scheme : Scheme} {node space : String} {t : List Exchange}

theorem daemonAddress_told {r : Except (Report SyncError) String}
    (h : (daemonAddress scheme node space).run.Yields t r) :
    ∃ pod?, t = [⟨.cluster (.pod space (daemonPodName node)), pod?⟩] ∧
      r = addressTold scheme node space pod? := by
  obtain ⟨hostPort, t₁, t₂, looked, ended, rfl⟩ := h.of_bind
  obtain ⟨rfl, rfl⟩ := ended.of_done
  obtain ⟨pod?, t₃, t₄, asked, rfl, ⟨e, rfl, rfl, rfl⟩ | ⟨pod?, rfl, rest⟩⟩ := looked.of_asked
  · rw [asked.of_perform]
    exact ⟨.error e, rfl, rfl⟩
  rw [asked.of_perform]
  cases pod? with
  | none =>
    obtain ⟨rfl, rfl⟩ := rest.of_done
    exact ⟨.ok none, rfl, rfl⟩
  | some pod =>
    dsimp only at rest
    cases reached : pod.hostPort with
    | error e =>
      rw [reached] at rest
      obtain ⟨rfl, rfl⟩ := rest.of_done
      exact ⟨.ok (some pod), rfl, by rw [addressTold, reached]; rfl⟩
    | ok text =>
      rw [reached] at rest
      obtain ⟨rfl, rfl⟩ := rest.of_done
      exact ⟨.ok (some pod), rfl, by rw [addressTold, reached]; rfl⟩

/-- A poll is known from the answers that it gets. -/
theorem poll_told {n : NodeState} {r : Except (Report SyncError) NodeStateStatus}
    (h : (poll scheme n).run.Yields t r) :
    ∃ a : PollAnswers, t = a.exchanges scheme n ∧ r = a.result scheme n := by
  obtain ⟨_, t₁, rfl, h₁⟩ := h.of_lifted
  rcases h₁.of_attemptBind with ⟨e, looked, rfl⟩ | ⟨address, t₂, t₃, looked, h₂, rfl⟩
  · obtain ⟨pod?, rfl, told⟩ := daemonAddress_told looked
    -- The poll ends here, so what else it might have been answered makes no difference.
    let a : PollAnswers := ⟨pod?, .ok [], .ok {}, .ok ()⟩
    refine ⟨a, ?_, by simp only [PollAnswers.result, a, ← told]⟩
    rcases a.addressTold_eq scheme n.node n.space with ⟨address, -, found⟩ | ⟨missing, -⟩
    · cases told.trans found
    · simp [PollAnswers.exchanges, missing, a]
  · obtain ⟨pod?, rfl, told⟩ := daemonAddress_told looked
    obtain ⟨entries, t₄, rfl, h₃⟩ := h₂.of_lifted
    obtain ⟨report, t₅, rfl, h₄⟩ := h₃.of_lifted
    obtain ⟨written, t₆, t₇, asked, rfl, last⟩ := h₄.of_asked
    obtain rfl := asked.of_perform
    let a : PollAnswers := ⟨pod?, entries, report, written⟩
    have place : a.address? scheme = some address := by
      rcases a.addressTold_eq scheme n.node n.space with ⟨there, found, same⟩ | ⟨-, cause, failed⟩
      · rw [found, Except.ok.inj (told.trans same)]
      · cases told.trans failed
    have ended : t₇ = [] ∧ r = a.result scheme n := by
      rcases last with ⟨e, rfl, rfl, rfl⟩ | ⟨_, rfl, last⟩
      · exact ⟨rfl, by simp only [PollAnswers.result, a, ← told]; rfl⟩
      · obtain ⟨rfl, rfl⟩ := last.of_done
        exact ⟨rfl, by simp only [PollAnswers.result, a, ← told]; rfl⟩
    refine ⟨a, ?_, ended.2⟩
    rw [ended.1, PollAnswers.exchanges, place]
    rfl

end Told

/-- A status that shows what a daemon lists and reports, and nothing else. Nothing is shown of a call that
failed; of several entries with one id the last is shown. -/
structure NodeStateStatus.Renders (status : NodeStateStatus) (entries : Except DaemonError (List Entry))
    (report : Except DaemonError CacheReport) : Prop where
  ids (id : String) : id ∈ status.entries.keys ↔ ∃ l, entries = .ok l ∧ ∃ e ∈ l, e.id = id
  last (id : String) (shown : Snapshot) : status.entries.get? id = some shown ↔
    ∃ before e after, entries = .ok (before ++ e :: after) ∧ e.id = id ∧
      (∀ f ∈ after, f.id ≠ id) ∧ e.snapshot = shown
  unlisted (e : DaemonError) (failed : entries = .error e) : status.entries = SortedMap.empty
  ways (total : UInt64) : status.availableWays = some total ↔
    ∃ r, report = .ok r ∧ r.totalWays = .ok total.toNat

theorem NodeStateStatus.renders_told (entries : Except DaemonError (List Entry))
    (report : Except DaemonError CacheReport) :
    (NodeStateStatus.told entries report).Renders entries report where
  ids id := by
    simp only [told, snapshots, SortedMap.mem_keys_ofList]
    cases entries with
    | error e => simp [Except.toOption]
    | ok l => simp [Except.toOption]
  last id shown := by
    simp only [told, snapshots, SortedMap.get?_ofList_eq_some]
    cases entries with
    | error e => simp [Except.toOption]
    | ok l =>
      simp only [Except.toOption, Option.getD_some, Except.ok.injEq]
      constructor
      · rintro ⟨before, after, split, others⟩
        obtain ⟨l₁, l₂, rfl, rfl, rest⟩ := List.map_eq_append_iff.mp split
        obtain ⟨e, l₃, rfl, binding, rfl⟩ := List.map_eq_cons_iff.mp rest
        obtain ⟨rfl, rfl⟩ := Prod.mk.inj binding
        exact ⟨l₁, e, l₃, rfl, rfl, fun f hf => others _ (List.mem_map_of_mem hf), rfl⟩
      · rintro ⟨before, e, after, rfl, rfl, others, rfl⟩
        refine ⟨before.map fun e => (e.id, e.snapshot), after.map fun e => (e.id, e.snapshot), by simp, ?_⟩
        intro x hx
        obtain ⟨f, hf, rfl⟩ := List.mem_map.mp hx
        exact others f hf
  unlisted e failed := by
    rw [failed]
    rfl
  ways total := by
    cases report with
    | error e => simp [told, Except.toOption]
    | ok r => simp [told, Except.toOption, availableWays?_eq_some]

/-- The cluster as if nothing had ever been polled. -/
def Cluster.unpolled (k : Cluster) : Cluster := { k with nodeStateStatuses := SortedMap.empty }

/-- The world as if nothing had ever been polled in it. -/
def World.unpolled (w : World) : World := { w with cluster := w.cluster.unpolled, registry := {} }

theorem Cluster.answer_unpolled (k : Cluster) (c : ClusterCall) :
    (k.unpolled.answer c).1 = (k.answer c).1 ∧
      (k.unpolled.answer c).2.unpolled = (k.answer c).2.unpolled := by
  have same : k.unpolled.isDown = k.isDown := rfl
  unfold answer
  rw [same]
  split
  · exact ⟨rfl, rfl⟩
  · cases c with
    | ensureNodeState space node =>
      have known : k.unpolled.nodeStates = k.nodeStates := rfl
      refine ⟨rfl, ?_⟩
      simp only [serve, known]
      split <;> rfl
    | _ => exact ⟨rfl, rfl⟩

/-- No call is answered from what polls have stored. -/
theorem World.answer_unpolled (w : World) (c : Call) :
    (w.unpolled.answer c).1 = (w.answer c).1 ∧
      (w.unpolled.answer c).2.unpolled = (w.answer c).2.unpolled := by
  cases c with
  | daemon c =>
    simp only [answer, answerDaemon, unpolled]
    cases w.faults.scriptsAt c.method c.address <;> exact ⟨rfl, rfl⟩
  | cluster c =>
    simp only [answer, answerCluster, unpolled]
    cases w.faults.failures c.method with
    | succ _ => exact ⟨rfl, rfl⟩
    | zero =>
      obtain ⟨told, left⟩ := w.cluster.answer_unpolled c
      simp only [told, left, and_self]
  | podCpus | enlist | dismiss => exact ⟨rfl, rfl⟩

theorem World.run_unpolled {α : Type} (p : Pass α) (w : World) :
    (w.unpolled.run p).value = (w.run p).value := by
  have alike (p : Pass α) : ∀ v w : World, v.unpolled = w.unpolled →
      (v.run p).value = (w.run p).value := by
    induction p with
    | done a => exact fun _ _ _ => rfl
    | call c next ih =>
      intro v w same
      obtain ⟨told, left⟩ := v.answer_unpolled c
      obtain ⟨told', left'⟩ := w.answer_unpolled c
      have answers : (v.answer c).1 = (w.answer c).1 := by rw [← told, ← told', same]
      have states : (v.answer c).2.unpolled = (w.answer c).2.unpolled := by rw [← left, ← left', same]
      simp only [World.run, Pass.run]
      rw [answers]
      exact ih _ _ _ states
  exact alike p _ _ rfl

/-- A poll replaces what is stored and never merges with it. Let any surroundings hold a cluster and a
registry, and let calls be answered in any way. The poll registers the node in every case. It fails for the
address exactly if the daemon's pod does not tell one, and for the status exactly if the write fails;
either way the cluster stays as it was. Otherwise it returns the status that it has stored, and this shows
the listing and the report that the daemon gave now. Any poll of the node state that gets the same answers
comes to the same, whatever status the node state carries, and so does the poll in a world in which nothing
was polled before. -/
theorem polls_replace {σ : Type} {answer : Surroundings σ} {cluster : σ → Cluster}
    {registry : σ → Registry} (clusters : Accounts answer cluster Cluster.after)
    (registries : Accounts answer registry Registry.after) (s : σ) (scheme : Scheme) (n : NodeState) :
    let polled := (poll scheme n).run.run answer s
    (registry polled.state).contains n.node = true ∧
    (∃ a : PollAnswers, polled.trace = a.exchanges scheme n ∧
      ((∃ r, polled.value = .error r ∧ r.error = .daemonAddress n.node) ↔ a.address? scheme = none) ∧
      ((∃ r, polled.value = .error r ∧ r.error = .status n.name) ↔
        (a.address? scheme).isSome ∧ ∃ e, a.written = .error e) ∧
      ((∃ status, polled.value = .ok status) ↔ (a.address? scheme).isSome ∧ a.written = .ok ()) ∧
      (∀ r, polled.value = .error r → cluster polled.state = cluster s) ∧
      (∀ status, polled.value = .ok status → status.Renders a.entries a.report ∧
        cluster polled.state = { cluster s with
          nodeStateStatuses := (cluster s).nodeStateStatuses.insert n.key status }) ∧
      ∀ {τ : Type} (answer' : Surroundings τ) (s' : τ) (status? : Option NodeStateStatus),
        let again := (poll scheme { n with status := status? }).run.run answer' s'
        again.trace = a.exchanges scheme { n with status := status? } → again.value = polled.value) ∧
    ∀ w : World, (w.unpolled.run (poll scheme n).run).value = (w.run (poll scheme n).run).value := by
  intro polled
  obtain ⟨a, trace, value⟩ := poll_told (run_yields (poll scheme n).run answer s)
  have value : polled.value = a.result scheme n := value
  have held : cluster polled.state = _ := clusters.run (poll scheme n).run s
  rw [trace, a.foldl_after] at held
  refine ⟨?_, ⟨a, trace, ?_⟩, World.run_unpolled _⟩
  · have known : registry polled.state = _ := registries.run (poll scheme n).run s
    rw [trace] at known
    rw [known]
    unfold PollAnswers.exchanges
    cases a.address? scheme <;> exact Registry.contains_add ..
  have again {τ : Type} (answer' : Surroundings τ) (s' : τ) (status? : Option NodeStateStatus)
      (same : ((poll scheme { n with status := status? }).run.run answer' s').trace =
        a.exchanges scheme { n with status := status? }) :
      ((poll scheme { n with status := status? }).run.run answer' s').value = polled.value := by
    obtain ⟨a', trace', value'⟩ :=
      poll_told (run_yields (poll scheme { n with status := status? }).run answer' s')
    rw [value', value]
    exact PollAnswers.result_congr (trace'.symm.trans same)
  rcases a.result_ways scheme n with ⟨missing, cause, result⟩ | ⟨address, e, found, written, result⟩ |
    ⟨address, found, written, result⟩
  · rw [result] at value
    simp only [missing, Option.isSome_none, Bool.false_eq_true, false_and, if_false] at held
    refine ⟨?_, ?_, ?_, fun _ _ => held, ?_, again⟩ <;> simp [value, missing]
  · rw [result] at value
    simp only [found, written, reduceCtorEq, and_false, if_false] at held
    refine ⟨?_, ?_, ?_, fun _ _ => held, ?_, again⟩ <;> simp [value, found, written]
  · rw [result] at value
    simp only [found, written, Option.isSome_some, and_self, if_true] at held
    refine ⟨?_, ?_, ?_, ?_, ?_, again⟩
    · simp [value, found]
    · simp [value, written]
    · simp [value, found, written]
    · simp [value]
    · intro status ended
      obtain rfl := Except.ok.inj (value.symm.trans ended)
      exact ⟨NodeStateStatus.renders_told a.entries a.report, held⟩

/-- A node with a status from an earlier poll, whose daemon now lists two entries under one id. -/
def doubledId : World where
  cluster := { ({} : Cluster).addDaemonNode "n1" "rmd" "10.0.0.1" 4 with
    nodeStateStatuses := .ofList [(⟨"rmd", "rmd-node-state-n1"⟩,
      { entries := .ofList [("1", .ofList [("uuid", "w.")])], availableWays := some 7 })] }
  faults := ({} : Faults).addScripts .list "http://10.0.0.1:8443"
    [.value (.array [.object [("id", .string "7"), ("uuid", .string "v.")],
      .object [("id", .string "7"), ("uuid", .string "w.")]])]

theorem polls_replace_doubledId :
    let polled := doubledId.run (poll .http (.fresh "n1" "rmd")).run
    polled.state.registry.contains "n1" = true ∧
    ∃ status, polled.value = .ok status ∧
      polled.state.cluster.nodeStateStatuses.get? ⟨"rmd", "rmd-node-state-n1"⟩ = some status ∧
      status.entries.keys = ["7"] ∧ status.availableWays = none ∧
      (doubledId.unpolled.run (poll .http (.fresh "n1" "rmd")).run).value = .ok status := by
  intro polled
  have shown : polled.value.map (fun status => (status.entries.keys, status.availableWays)) =
      .ok (["7"], none) := by
    decide +kernel
  obtain ⟨registered, ⟨_, -, -, -, -, -, stored, -⟩, unpolled⟩ :=
    polls_replace World.accounts_cluster World.accounts_registry doubledId .http (.fresh "n1" "rmd")
  refine ⟨registered, ?_⟩
  cases ended : polled.value with
  | error e =>
    rw [ended] at shown
    cases shown
  | ok status =>
    rw [ended] at shown
    obtain ⟨keys, ways⟩ := Prod.mk.inj (Except.ok.inj shown)
    refine ⟨status, rfl, ?_, keys, ways, (unpolled doubledId).trans ended⟩
    have held : polled.state.cluster = _ := (stored status ended).2
    rw [held]
    exact SortedMap.get?_insert_self _ (NodeState.fresh "n1" "rmd").key status

end CachePartition
