import CachePartition.Proofs.Targets
import CachePartition.Proofs.Traces

/-! All that can be exchanged when one node is dealt with, and what that comes to. Everything that is said
of the calls of a pass is read off these few ways. -/
namespace CachePartition

open Pass

/-- The daemon of a node was looked up in a namespace and its address found. -/
inductive AddressFound (scheme : Scheme) (node space : String) : String → List Exchange → Prop where
  | intro {pod : Pod} {hostPort : String} (h : pod.hostPort = .ok hostPort) :
    AddressFound scheme node space (daemonBase scheme hostPort)
      [⟨.cluster (.pod space (daemonPodName node)), .ok (some pod)⟩]

/-- The daemon of a node was looked up in a namespace in vain. -/
inductive AddressMissing (node space : String) : List Exchange → Prop where
  | unanswered (e : ClusterError) :
    AddressMissing node space [⟨.cluster (.pod space (daemonPodName node)), .error e⟩]
  | absent : AddressMissing node space [⟨.cluster (.pod space (daemonPodName node)), .ok none⟩]
  | unaddressed {pod : Pod} {e : ClusterError} (h : pod.hostPort = .error e) :
    AddressMissing node space [⟨.cluster (.pod space (daemonPodName node)), .ok (some pod)⟩]

/-- The cores of a workload on a node were determined. -/
inductive CoresFound (spec : WorkloadSpec) (node : String) : List String → List Exchange → Prop where
  | listed (h : spec.allCores = false) : CoresFound spec node spec.cores []
  | counted {object : Node} {count : Nat} (h : spec.allCores = true)
      (counted : object.cpuCount? = some count) :
    CoresFound spec node ((CoreSelection.allExcept (.ofList spec.reservedCpus)).resolve count)
      [⟨.cluster (.node node), .ok (some object)⟩]

/-- The CPUs of a node were to be counted in vain. -/
inductive CoresMissing (node : String) : List Exchange → Prop where
  | unanswered (e : ClusterError) : CoresMissing node [⟨.cluster (.node node), .error e⟩]
  | absent : CoresMissing node [⟨.cluster (.node node), .ok none⟩]
  | uncounted {object : Node} (h : object.cpuCount? = none) :
    CoresMissing node [⟨.cluster (.node node), .ok (some object)⟩]

section Lookups

variable {scheme : Scheme} {node space : String} {t : List Exchange}

theorem daemonHostPort_yields {r : Except (Report ClusterError) String}
    (h : (daemonHostPort node space).run.Yields t r) :
    (∃ e, r = .error ⟨e, []⟩ ∧ AddressMissing node space t) ∨
      ∃ hostPort, r = .ok hostPort ∧
        AddressFound scheme node space (daemonBase scheme hostPort) t := by
  obtain ⟨answer, t₁, t₂, asked, rfl, ⟨e, rfl, rfl, rfl⟩ | ⟨pod?, rfl, rest⟩⟩ := h.of_asked
  all_goals obtain rfl := asked.of_perform
  · exact .inl ⟨e, rfl, .unanswered e⟩
  cases pod? with
  | none =>
    obtain ⟨rfl, rfl⟩ := rest.of_done
    exact .inl ⟨_, rfl, .absent⟩
  | some pod =>
    cases hp : pod.hostPort with
    | ok hostPort =>
      simp only [hp] at rest
      obtain ⟨rfl, rfl⟩ := rest.of_done
      exact .inr ⟨hostPort, rfl, .intro hp⟩
    | error e =>
      simp only [hp] at rest
      obtain ⟨rfl, rfl⟩ := rest.of_done
      exact .inl ⟨e, rfl, .unaddressed hp⟩

theorem daemonAddress_finds {address : String}
    (h : (daemonAddress scheme node space).run.Yields t (.ok address)) :
    AddressFound scheme node space address t := by
  obtain ⟨hostPort, t₁, t₂, looked, rest, rfl⟩ := h.of_bind
  obtain ⟨rfl, same⟩ := rest.of_done
  rw [List.append_nil]
  rcases daemonHostPort_yields looked with ⟨e, rfl, -⟩ | ⟨hostPort, rfl, found⟩
  · cases same
  · rw [Except.ok.inj same]
    exact found

theorem daemonAddress_misses {e : Report SyncError}
    (h : (daemonAddress scheme node space).run.Yields t (.error e)) :
    AddressMissing node space t ∧ ∃ cause, e = ⟨.daemonAddress node, [.cluster cause]⟩ := by
  obtain ⟨hostPort, t₁, t₂, looked, rest, rfl⟩ := h.of_bind
  obtain ⟨rfl, same⟩ := rest.of_done
  rw [List.append_nil]
  rcases @daemonHostPort_yields scheme _ _ _ _ looked with ⟨cause, rfl, missing⟩ | ⟨hostPort, rfl, -⟩
  · exact ⟨missing, cause, Except.error.inj same⟩
  · cases same

theorem nodeCpus_yields {r : Except (Report SyncError) Nat} (h : (nodeCpus node).run.Yields t r) :
    (CoresMissing node t ∧ ∃ e, r = .error ⟨.nodeCores node, [.cluster e]⟩) ∨
      ∃ (count : Nat) (object : Node), r = .ok count ∧ object.cpuCount? = some count ∧
        t = [⟨.cluster (.node node), .ok (some object)⟩] := by
  obtain ⟨answer, t₁, t₂, asked, rfl, ⟨e, rfl, rfl, rfl⟩ | ⟨object?, rfl, rest⟩⟩ := h.of_asked
  all_goals obtain rfl := asked.of_perform
  · exact .inl ⟨.unanswered e, e, rfl⟩
  cases object? with
  | none =>
    obtain ⟨rfl, rfl⟩ := rest.of_done
    exact .inl ⟨.absent, _, rfl⟩
  | some object =>
    cases hc : object.cpuCount? with
    | some count =>
      simp only [hc] at rest
      obtain ⟨rfl, rfl⟩ := rest.of_done
      exact .inr ⟨count, object, rfl, hc, rfl⟩
    | none =>
      simp only [hc] at rest
      obtain ⟨rfl, rfl⟩ := rest.of_done
      exact .inl ⟨.uncounted hc, _, rfl⟩

theorem resolveCores_finds {spec : WorkloadSpec} {cores : List String}
    (h : (resolveCores spec node).run.Yields t (.ok cores)) : CoresFound spec node cores t := by
  unfold resolveCores WorkloadSpec.coreSelection at h
  cases all : spec.allCores with
  | false =>
    simp only [all] at h
    obtain ⟨rfl, same⟩ := h.of_done
    rw [Except.ok.inj same]
    exact .listed all
  | true =>
    simp only [all] at h
    rcases h.of_attemptBind with ⟨e, -, same⟩ | ⟨count, t₁, t₂, counted, rest, rfl⟩
    · cases same
    · obtain ⟨rfl, same⟩ := rest.of_done
      rw [Except.ok.inj same]
      rcases nodeCpus_yields counted with ⟨-, e, same⟩ | ⟨count', object, same, hc, rfl⟩
      · cases same
      · rw [Except.ok.inj same]
        exact .counted all hc

theorem resolveCores_misses {spec : WorkloadSpec} {e : Report SyncError}
    (h : (resolveCores spec node).run.Yields t (.error e)) :
    spec.allCores = true ∧ CoresMissing node t ∧ e.summary = (SyncError.nodeCores node).message := by
  unfold resolveCores WorkloadSpec.coreSelection at h
  cases all : spec.allCores with
  | false =>
    simp only [all] at h
    obtain ⟨-, same⟩ := h.of_done
    cases same
  | true =>
    simp only [all] at h
    rcases h.of_attemptBind with ⟨e', counted, same⟩ | ⟨count, t₁, t₂, -, rest, -⟩
    · rcases nodeCpus_yields counted with ⟨missing, cause, failed⟩ | ⟨_, _, impossible, -, -⟩
      · rw [Except.error.inj same, Except.error.inj failed]
        exact ⟨rfl, missing, rfl⟩
      · cases impossible
    · obtain ⟨-, same⟩ := rest.of_done
      cases same

end Lookups

/-- Creates or updates an entry at an address. -/
def settleEntry (node address : String) (body : Entry) : Attempt SyncError NodeResult := do
  let entries ← listEntries node address
  match Entry.findByUuid entries body.uuid with
  | some e =>
    let response ← callDaemon node (perform (.daemon (.update address e.id body)))
    return ⟨.ofEntry response e, .updated⟩
  | none => createEntry node address body

/-- Deletes the entry of a workload at an address and tells whether there was one. -/
def dropEntry (node address uuid : String) : Attempt SyncError Bool := do
  let entries ← listEntries node address
  match Entry.findByUuid entries uuid with
  | none => return false
  | some e =>
    callDaemon node (perform (.daemon (.delete address e.id)))
    return true

theorem syncNode_eq (scheme : Scheme) (w : Workload) (node space : String) :
    syncNode scheme w node space = daemonAddress scheme node space >>= fun address =>
      resolveCores w.spec node >>= fun cores =>
        settleEntry node address (.ofSpec w.uuid cores w.spec) := rfl

theorem removeFromNode_eq (scheme : Scheme) (uuid node space : String) :
    removeFromNode scheme uuid node space = daemonAddress scheme node space >>= fun address =>
      dropEntry node address uuid := rfl

/-- What creating an entry that a daemon does not list can come to: the exchanges, and the outcome or the
text shown of the failure. -/
inductive Creating (address : String) (body : Entry) :
    List Exchange → Except String NodeResult → Prop where
  | refused (status : Nat) (text : String) : Creating address body
    [⟨.daemon (.create address body), .error (.rejected status text)⟩]
    (.ok ⟨{ response := (DaemonError.rejected status text).message }, .rejected⟩)
  | failed (e : DaemonError) (h : ∀ status text, e ≠ .rejected status text) : Creating address body
    [⟨.daemon (.create address body), .error e⟩] (.error e.message)
  | unlisted (response : String) (e : DaemonError) : Creating address body
    [⟨.daemon (.create address body), .ok response⟩, ⟨.daemon (.list address), .error e⟩]
    (.error e.message)
  | created (response : String) {l : List Entry} {e : Entry}
      (found : Entry.findByUuid l body.uuid = some e) : Creating address body
    [⟨.daemon (.create address body), .ok response⟩, ⟨.daemon (.list address), .ok l⟩]
    (.ok ⟨⟨response, e.id, e.className, e.status⟩, .created⟩)
  | dropped (response : String) {l : List Entry} (absent : Entry.findByUuid l body.uuid = none) :
    Creating address body
    [⟨.daemon (.create address body), .ok response⟩, ⟨.daemon (.list address), .ok l⟩]
    (.ok ⟨{ response }, .rejected⟩)

/-- What creating or updating an entry can come to. -/
inductive Settling (address : String) (body : Entry) :
    List Exchange → Except String NodeResult → Prop where
  | unlisted (e : DaemonError) :
    Settling address body [⟨.daemon (.list address), .error e⟩] (.error e.message)
  | updated (response : String) {l : List Entry} {e : Entry}
      (found : Entry.findByUuid l body.uuid = some e) : Settling address body
    [⟨.daemon (.list address), .ok l⟩, ⟨.daemon (.update address e.id body), .ok response⟩]
    (.ok ⟨⟨response, e.id, e.className, e.status⟩, .updated⟩)
  | failed (error : DaemonError) {l : List Entry} {e : Entry}
      (found : Entry.findByUuid l body.uuid = some e) : Settling address body
    [⟨.daemon (.list address), .ok l⟩, ⟨.daemon (.update address e.id body), .error error⟩]
    (.error error.message)
  | absent {l : List Entry} {calls : List Exchange} {result : Except String NodeResult}
      (absent : Entry.findByUuid l body.uuid = none) (h : Creating address body calls result) :
    Settling address body (⟨.daemon (.list address), .ok l⟩ :: calls) result

/-- What deleting the entry of a workload can come to: the exchanges, and whether it failed. -/
inductive Dropping (address uuid : String) : List Exchange → Bool → Prop where
  | unlisted (e : DaemonError) : Dropping address uuid [⟨.daemon (.list address), .error e⟩] true
  | absent {l : List Entry} (absent : Entry.findByUuid l uuid = none) :
    Dropping address uuid [⟨.daemon (.list address), .ok l⟩] false
  | dropped {l : List Entry} {e : Entry} (found : Entry.findByUuid l uuid = some e) :
    Dropping address uuid
    [⟨.daemon (.list address), .ok l⟩, ⟨.daemon (.delete address e.id), .ok ()⟩] false
  | failed (error : DaemonError) {l : List Entry} {e : Entry}
      (found : Entry.findByUuid l uuid = some e) : Dropping address uuid
    [⟨.daemon (.list address), .ok l⟩, ⟨.daemon (.delete address e.id), .error error⟩] true

section Daemon

variable {node address uuid : String} {body : Entry} {t : List Exchange}

theorem createEntry_yields {r : Except (Report SyncError) NodeResult}
    (h : (createEntry node address body).run.Yields t r) :
    Creating address body t (r.mapError Report.summary) := by
  obtain ⟨answer, t, rfl, rest⟩ := h.of_lifted
  rcases answer with e | response
  · cases e with
    | rejected status text =>
      obtain ⟨rfl, rfl⟩ := rest.of_done
      exact .refused status text
    | _ =>
      obtain ⟨rfl, rfl⟩ := rest.of_done
      exact .failed _ nofun
  obtain ⟨answer, t₃, t₄, listed, rfl, ⟨e, rfl, rfl, rfl⟩ | ⟨l, rfl, looked⟩⟩ := rest.of_asked
  all_goals obtain rfl := listed.of_perform
  · exact .unlisted response e
  cases found : Entry.findByUuid l body.uuid with
  | some e =>
    rw [found] at looked
    obtain ⟨rfl, rfl⟩ := looked.of_done
    exact .created response found
  | none =>
    rw [found] at looked
    obtain ⟨rfl, rfl⟩ := looked.of_done
    exact .dropped response found

theorem settleEntry_yields {r : Except (Report SyncError) NodeResult}
    (h : (settleEntry node address body).run.Yields t r) :
    Settling address body t (r.mapError Report.summary) := by
  obtain ⟨answer, t₁, t₂, listed, rfl, ⟨e, rfl, rfl, rfl⟩ | ⟨l, rfl, rest⟩⟩ := h.of_asked
  all_goals obtain rfl := listed.of_perform
  · exact .unlisted e
  cases found : Entry.findByUuid l body.uuid with
  | none =>
    rw [found] at rest
    exact .absent found (createEntry_yields rest)
  | some e =>
    rw [found] at rest
    obtain ⟨answer, t₃, t₄, made, rfl, ⟨error, rfl, rfl, rfl⟩ | ⟨response, rfl, last⟩⟩ := rest.of_asked
    all_goals obtain rfl := made.of_perform
    · exact .failed error found
    · obtain ⟨rfl, rfl⟩ := last.of_done
      exact .updated response found

theorem dropEntry_yields {r : Except (Report SyncError) Bool}
    (h : (dropEntry node address uuid).run.Yields t r) : Dropping address uuid t (!r.isOk) := by
  obtain ⟨answer, t₁, t₂, listed, rfl, ⟨e, rfl, rfl, rfl⟩ | ⟨l, rfl, rest⟩⟩ := h.of_asked
  all_goals obtain rfl := listed.of_perform
  · exact .unlisted e
  cases found : Entry.findByUuid l uuid with
  | none =>
    rw [found] at rest
    obtain ⟨rfl, rfl⟩ := rest.of_done
    exact .absent found
  | some e =>
    rw [found] at rest
    obtain ⟨answer, t₃, t₄, made, rfl, ⟨error, rfl, rfl, rfl⟩ | ⟨_, rfl, last⟩⟩ := rest.of_asked
    all_goals obtain rfl := made.of_perform
    · exact .failed error found
    · obtain ⟨rfl, rfl⟩ := last.of_done
      exact .dropped found

end Daemon

/-- What bringing a node in line can come to. -/
inductive Bringing (scheme : Scheme) (w : Workload) (node space : String) :
    List Exchange → Except String NodeResult → Prop where
  | unaddressed {lookup : List Exchange} (missing : AddressMissing node space lookup) :
    Bringing scheme w node space lookup (.error (SyncError.daemonAddress node).message)
  | uncounted {address : String} {lookup count : List Exchange}
      (found : AddressFound scheme node space address lookup) (all : w.spec.allCores = true)
      (missing : CoresMissing node count) : Bringing scheme w node space (lookup ++ count)
    (.error (SyncError.nodeCores node).message)
  | settled {address : String} {cores : List String} {lookup count calls : List Exchange}
      {result : Except String NodeResult} (found : AddressFound scheme node space address lookup)
      (chosen : CoresFound w.spec node cores count)
      (settling : Settling address (.ofSpec w.uuid cores w.spec) calls result) :
    Bringing scheme w node space (lookup ++ (count ++ calls)) result

/-- What removing a workload from a node can come to: the exchanges, and whether it failed. -/
inductive Sweeping (scheme : Scheme) (uuid node space : String) : List Exchange → Bool → Prop where
  | unaddressed {lookup : List Exchange} (missing : AddressMissing node space lookup) :
    Sweeping scheme uuid node space lookup true
  | dropped {address : String} {lookup calls : List Exchange} {failed : Bool}
      (found : AddressFound scheme node space address lookup)
      (dropping : Dropping address uuid calls failed) :
    Sweeping scheme uuid node space (lookup ++ calls) failed

section Node

variable {scheme : Scheme} {w : Workload} {node space uuid : String} {t : List Exchange}

theorem syncNode_yields {r : Except (Report SyncError) NodeResult}
    (h : (syncNode scheme w node space).run.Yields t r) :
    Bringing scheme w node space t (r.mapError Report.summary) := by
  rw [syncNode_eq] at h
  rcases h.of_attemptBind with ⟨e, looked, rfl⟩ | ⟨address, t₁, t', looked, further, rfl⟩
  · obtain ⟨missing, cause, rfl⟩ := daemonAddress_misses looked
    exact .unaddressed missing
  have found := daemonAddress_finds looked
  rcases further.of_attemptBind with ⟨e, counted, rfl⟩ | ⟨cores, t₂, t₃, counted, calls, rfl⟩
  · obtain ⟨all, missing, shown⟩ := resolveCores_misses counted
    rw [Except.mapError, shown]
    exact .uncounted found all missing
  · exact .settled found (resolveCores_finds counted) (settleEntry_yields calls)

theorem removeFromNode_yields {r : Except (Report SyncError) Bool}
    (h : (removeFromNode scheme uuid node space).run.Yields t r) :
    Sweeping scheme uuid node space t (!r.isOk) := by
  rw [removeFromNode_eq] at h
  rcases h.of_attemptBind with ⟨e, looked, rfl⟩ | ⟨address, t₁, t₂, looked, calls, rfl⟩
  · exact .unaddressed (daemonAddress_misses looked).1
  · exact .dropped (daemonAddress_finds looked) (dropEntry_yields calls)

end Node

/-- What polling a node state comes to, if the daemon gave these answers. -/
def NodeStateStatus.told (entries : Except DaemonError (List Entry))
    (report : Except DaemonError CacheReport) : NodeStateStatus where
  entries := snapshots (entries.toOption.getD [])
  availableWays := report.toOption.bind availableWays?

/-- What polling a node state can come to. -/
inductive Polling (scheme : Scheme) (n : NodeState) :
    List Exchange → Except (Report SyncError) NodeStateStatus → Prop where
  | unaddressed {lookup : List Exchange} (missing : AddressMissing n.node n.space lookup)
      (cause : ClusterError) : Polling scheme n (⟨.enlist n.node, ()⟩ :: lookup)
    (.error ⟨.daemonAddress n.node, [.cluster cause]⟩)
  | shown {address : String} {lookup : List Exchange}
      (found : AddressFound scheme n.node n.space address lookup)
      (entries : Except DaemonError (List Entry)) (report : Except DaemonError CacheReport)
      (written : Except ClusterError Unit) :
    Polling scheme n (⟨.enlist n.node, ()⟩ :: (lookup ++ [⟨.daemon (.list address), entries⟩,
      ⟨.daemon (.cacheReport address), report⟩,
      ⟨.cluster (.replaceNodeStateStatus n (.told entries report)), written⟩]))
    ((written.mapError fun e => ⟨.status n.name, [.cluster e]⟩).map fun _ => .told entries report)

theorem poll_yields {scheme : Scheme} {n : NodeState} {t : List Exchange}
    {r : Except (Report SyncError) NodeStateStatus} (h : (poll scheme n).run.Yields t r) :
    Polling scheme n t r := by
  obtain ⟨_, t₁, rfl, h₁⟩ := h.of_lifted
  rcases h₁.of_attemptBind with ⟨e, looked, rfl⟩ | ⟨address, t₂, t₃, looked, h₂, rfl⟩
  · obtain ⟨missing, cause, rfl⟩ := daemonAddress_misses looked
    exact .unaddressed missing cause
  have found := daemonAddress_finds looked
  obtain ⟨entries, t₄, rfl, h₃⟩ := h₂.of_lifted
  obtain ⟨report, t₅, rfl, h₄⟩ := h₃.of_lifted
  obtain ⟨written, t₆, t₇, asked, rfl, last⟩ := h₄.of_asked
  obtain rfl := asked.of_perform
  rcases last with ⟨e, rfl, rfl, rfl⟩ | ⟨_, rfl, last⟩
  · exact .shown found entries report (.error e)
  · obtain ⟨rfl, rfl⟩ := last.of_done
    exact .shown found entries report (.ok ())

end CachePartition
