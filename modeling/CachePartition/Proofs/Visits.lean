import CachePartition.Proofs.CallKinds
import CachePartition.Proofs.Convergence
import CachePartition.Proofs.Justification

/-! A synchronization as visits to nodes, one after the other, and a report put together from what they
come to. What the report says of a node depends on the visits to that node alone. -/
namespace CachePartition

open Pass

namespace Pass

variable {α β γ ε : Type}

/-- A loop whose rounds do not look at what is gathered gathers in the end what the rounds gave. -/
theorem foldlM_eq_mapM (visit : α → Pass γ) (note : β → γ → β) (l : List α) (b : β) :
    l.foldlM (fun b a => (visit a).bind fun c => .done (note b c)) b =
      (l.mapM visit).bind fun found => .done (found.foldl note b) := by
  induction l generalizing b with
  | nil => rfl
  | cons a l ih =>
    rw [List.foldlM_cons, List.mapM_cons]
    simp only [bind_eq, bind_assoc, done_bind, pure_eq, ih, List.foldl_cons]

/-- A round that does nothing may be left out. -/
theorem foldlM_filter (f : β → α → Pass β) (p : α → Bool) (l : List α) (b : β) :
    l.foldlM (fun b a => if p a then .done b else f b a) b =
      (l.filter fun a => !p a).foldlM f b := by
  induction l generalizing b with
  | nil => rfl
  | cons a l ih =>
    rw [List.foldlM_cons, bind_eq]
    cases h : p a with
    | true => simpa [h] using ih b
    | false => simp [h, ih]

/-- A change of what is gathered that goes well with each round may wait until after the loop. -/
theorem foldlM_comm {f : β → α → Pass β} {g : β → β}
    (h : ∀ b a, f (g b) a = (f b a).bind fun b => .done (g b)) (l : List α) (b : β) :
    l.foldlM f (g b) = (l.foldlM f b).bind fun b => .done (g b) := by
  induction l generalizing b with
  | nil => rfl
  | cons a l ih =>
    rw [List.foldlM_cons, List.foldlM_cons, bind_eq, bind_eq, h, bind_assoc, bind_assoc]
    simp only [done_bind, ih]

theorem lift_bind (p : Pass α) (f : α → Pass β) :
    (ExceptT.lift p >>= fun a => ExceptT.lift (f a) : Attempt ε β) = ExceptT.lift (p.bind f) := by
  refine ExceptT.ext ?_
  simp only [ExceptT.run_bind_lift, ExceptT.run_lift, bind_eq]
  exact (bind_assoc ..).symm

end Pass

/-- A node that a synchronization deals with: a target, or the node of a node state that is none. -/
inductive Visit where
  | target (node : String)
  | other (n : NodeState)

/-- What a visit came to. -/
inductive Finding where
  | brought (node : String) (result : Except (Report SyncError) NodeResult)
  | swept (node : String) (result : Except (Report SyncError) Bool)

namespace Visit

def node : Visit → String
  | .target node => node
  | .other n => n.node

def pass (scheme : Scheme) (w : Workload) (spaces : TextMap String) : Visit → Pass Finding
  | .target node =>
    match spaces.get? node with
    | some space => (syncNode scheme w node space).run.bind fun result => .done (.brought node result)
    | none => .done (.brought node (.error ⟨.noNodeState node, []⟩))
  | .other n =>
    (removeFromNode scheme w.uuid n.node n.space).run.bind fun result => .done (.swept n.node result)

end Visit

namespace Finding

def node : Finding → String
  | .brought node _ => node
  | .swept node _ => node

/-- What the finding makes of the outcome known of its node. -/
def outcome? (known : Option NodeOutcome) : Finding → Option NodeOutcome
  | .brought _ (.ok result) => some result.outcome
  | .brought _ (.error report) => some { known.getD {} with response := report.summary }
  | .swept _ (.ok _) => none
  | .swept _ (.error _) => known

/-- The node has to be tried again. -/
def isMiss : Finding → Bool
  | .brought _ result => missed result
  | .swept _ result => !result.isOk

/-- The daemon did not take the entry. -/
def isRefusal : Finding → Bool
  | .brought _ (.ok result) => result.change = .rejected
  | _ => false

end Finding

/-- A node where the entry was not taken has to be tried again. -/
theorem Finding.isMiss_of_isRefusal {f : Finding} (h : f.isRefusal = true) : f.isMiss = true := by
  rcases f with ⟨node, e | result⟩ | ⟨node, r⟩
  · rfl
  · exact h
  · cases h

def Workload.visits (w : Workload) (nodeStates : List NodeState) : List Visit :=
  w.spec.targets.toList.map .target ++
    (nodeStates.filter fun n => !w.spec.targets.contains n.node).map .other

namespace SyncReport

def note (w : Workload) (r : SyncReport) : Finding → SyncReport
  | .brought node result => r.record w node result
  | .swept node result => r.recordSweep node result

/-- The report on a workload that the findings amount to. -/
def ofFindings (w : Workload) (nodeStates : List NodeState) (found : List Finding) : SyncReport :=
  (found.foldl (note w) { status := w.status.getD {} }).retain w.spec.targets
    (spacesByNode nodeStates)

theorem recordSweep_retain (r : SyncReport) (targets : TextSet) (spaces : TextMap String)
    (node : String) (result : Except (Report SyncError) Bool) :
    (r.retain targets spaces).recordSweep node result =
      (r.recordSweep node result).retain targets spaces := by
  cases result with
  | error e => rfl
  | ok _ =>
    simp only [recordSweep, retain, mk.injEq, WorkloadStatus.mk.injEq, and_true]
    refine SortedMap.ext fun k => ?_
    by_cases hk : k = node
    · simp [hk, SortedMap.get?_filter_key]
    · simp [SortedMap.get?_erase_ne _ hk, SortedMap.get?_filter_key]

end SyncReport

section Assembly

variable {scheme : Scheme} {w : Workload}

/-- Visits a node and records what that comes to. -/
def Visit.record (scheme : Scheme) (w : Workload) (spaces : TextMap String) (r : SyncReport)
    (v : Visit) : Pass SyncReport :=
  (v.pass scheme w spaces).bind fun f => .done (r.note w f)

theorem syncTarget_eq (spaces : TextMap String) (r : SyncReport) (node : String) :
    syncTarget scheme w spaces r node = Visit.record scheme w spaces r (.target node) := by
  simp only [syncTarget, Visit.record, Visit.pass]
  cases spaces.get? node with
  | none => rfl
  | some space => simp only [bind_eq, pure_eq, Pass.bind_assoc, done_bind, SyncReport.note]

theorem sweepNode_eq (spaces : TextMap String) (r : SyncReport) (n : NodeState) :
    sweepNode scheme w w.spec.targets r n = if w.spec.targets.contains n.node then .done r else
      Visit.record scheme w spaces r (.other n) := by
  simp only [sweepNode, Visit.record, Visit.pass, bind_eq, pure_eq, Pass.bind_assoc, done_bind,
    SyncReport.note]

/-- Outcomes that the report is not to keep may be dropped after the other nodes have been visited. -/
theorem record_retain (targets : TextSet) (spaces : TextMap String) (r : SyncReport) (n : NodeState) :
    Visit.record scheme w spaces (r.retain targets spaces) (.other n) =
      (Visit.record scheme w spaces r (.other n)).bind fun r =>
        .done (r.retain targets spaces) := by
  simp only [Visit.record, Visit.pass, Pass.bind_assoc, done_bind, SyncReport.note,
    SyncReport.recordSweep_retain]

/-- A synchronization visits the targets and the other nodes in turn and reports what it finds. -/
theorem sync_eq (scheme : Scheme) (w : Workload) : sync scheme w = listNodeStates >>= fun nodeStates =>
    ExceptT.lift (((w.visits nodeStates).mapM (Visit.pass scheme w (spacesByNode nodeStates))).bind
      fun found => .done (SyncReport.ofFindings w nodeStates found)) := by
  refine congrArg (listNodeStates >>= ·) (funext fun nodeStates => ?_)
  let spaces := spacesByNode nodeStates
  let record := Visit.record scheme w spaces
  let others := nodeStates.filter fun n => !w.spec.targets.contains n.node
  let start : SyncReport := { status := w.status.getD {} }
  have onTargets : w.spec.targets.toList.foldlM (syncTarget scheme w spaces) start =
      (w.spec.targets.toList.map Visit.target).foldlM record start := by
    rw [List.foldlM_map]
    exact congrArg (fun f => List.foldlM f start _) (funext₂ (syncTarget_eq spaces))
  -- Outcomes are dropped between the two loops, and may as well be dropped after the second.
  have onOthers (r : SyncReport) : nodeStates.foldlM (sweepNode scheme w w.spec.targets)
      (r.retain w.spec.targets spaces) = ((others.map Visit.other).foldlM record r).bind fun r =>
        .done (r.retain w.spec.targets spaces) := by
    rw [List.foldlM_map, ← foldlM_comm (record_retain w.spec.targets spaces), ← foldlM_filter]
    exact congrArg (fun f => List.foldlM f _ nodeStates) (funext₂ (sweepNode_eq spaces))
  have gathered := foldlM_eq_mapM (Visit.pass scheme w spaces) (SyncReport.note w)
    (w.visits nodeStates) start
  simp only [lift_bind]
  refine congrArg _ ?_
  change (w.spec.targets.toList.foldlM (syncTarget scheme w spaces) start).bind
    (fun r => nodeStates.foldlM (sweepNode scheme w w.spec.targets) (r.retain w.spec.targets spaces)) = _
  calc
    _ = ((w.spec.targets.toList.map Visit.target).foldlM record start).bind fun r =>
          ((others.map Visit.other).foldlM record r).bind fun r =>
            .done (r.retain w.spec.targets spaces) := by simp only [onTargets, onOthers]
    _ = ((w.visits nodeStates).foldlM record start).bind fun r =>
          .done (r.retain w.spec.targets spaces) := by
        rw [Workload.visits, List.foldlM_append, bind_eq, Pass.bind_assoc]
    _ = ((w.visits nodeStates).mapM (Visit.pass scheme w spaces)).bind fun found =>
          .done (SyncReport.ofFindings w nodeStates found) := by
        rw [show record = fun r v => (v.pass scheme w spaces).bind fun f => .done (r.note w f)
          from rfl, gathered, Pass.bind_assoc]
        rfl

/-- Each visit can go like this: with this trace, and this finding in the end. -/
abbrev Visit.Rounds (scheme : Scheme) (w : Workload) (spaces : TextMap String) (visits : List Visit)
    (rounds : List (List Exchange × Finding)) : Prop :=
  List.Forall₂ (fun v round => (v.pass scheme w spaces).Yields round.1 round.2) visits rounds

theorem target_yields {spaces : TextMap String} {node : String} {t : List Exchange} {f : Finding}
    (h : ((Visit.target node).pass scheme w spaces).Yields t f) :
    (spaces.get? node = none ∧ t = [] ∧ f = .brought node (.error ⟨.noNodeState node, []⟩)) ∨
      ∃ space r, spaces.get? node = some space ∧ (syncNode scheme w node space).run.Yields t r ∧
        f = .brought node r := by
  simp only [Visit.pass] at h
  split at h
  · next space known =>
    obtain ⟨r, t₁, t₂, made, last, rfl⟩ := h.of_bind
    obtain ⟨rfl, rfl⟩ := last.of_done
    exact .inr ⟨space, r, known, by rwa [List.append_nil], rfl⟩
  · next unknown => exact .inl ⟨unknown, h.of_done⟩

theorem other_yields {spaces : TextMap String} {n : NodeState} {t : List Exchange} {f : Finding}
    (h : ((Visit.other n).pass scheme w spaces).Yields t f) :
    ∃ r, (removeFromNode scheme w.uuid n.node n.space).run.Yields t r ∧ f = .swept n.node r := by
  obtain ⟨r, t₁, t₂, made, last, rfl⟩ := h.of_bind
  obtain ⟨rfl, rfl⟩ := last.of_done
  exact ⟨r, by rwa [List.append_nil], rfl⟩

/-- What a synchronization can come to: node states are not listed, or the trace is made of that of each
visit and the report of what each came to. -/
theorem sync_visits {t : List Exchange} {r : Except (Report SyncError) SyncReport}
    (h : (sync scheme w).run.Yields t r) :
    (Silent t ∧ ∃ e, r = .error e) ∨ ∃ (nodeStates : List NodeState) (rounds : List _),
      t = ⟨.cluster .nodeStates, .ok nodeStates⟩ :: (rounds.map (·.1)).flatten ∧
      r = .ok (SyncReport.ofFindings w nodeStates (rounds.map (·.2))) ∧
      Visit.Rounds scheme w (spacesByNode nodeStates) (w.visits nodeStates) rounds := by
  rw [sync_eq] at h
  obtain ⟨answer, t₁, t₂, asked, rfl, ⟨e, rfl, rfl, rfl⟩ | ⟨nodeStates, rfl, rest⟩⟩ := h.of_asked
  all_goals obtain rfl := asked.of_perform
  · exact .inl ⟨silent_cluster _ _, _, rfl⟩
  · obtain ⟨report, visited, rfl⟩ := rest.of_lift
    obtain ⟨found, t₃, t₄, loop, last, rfl⟩ := visited.of_bind
    obtain ⟨rfl, rfl⟩ := last.of_done
    obtain ⟨rounds, rfl, rfl, each⟩ := loop.of_mapM
    exact .inr ⟨nodeStates, rounds, by simp, rfl, each⟩

end Assembly

namespace SyncReport

variable {w : Workload}

theorem note_failedNodes (r : SyncReport) (f : Finding) :
    (r.note w f).failedNodes = r.failedNodes ++ if f.isMiss = true then [f.node] else [] := by
  cases f with
  | brought node result => exact r.record_failedNodes w node result
  | swept node result => exact r.recordSweep_failedNodes node result

theorem note_evictions (r : SyncReport) (f : Finding) : (r.note w f).evictions =
    r.evictions ++ if f.isRefusal = true then w.eviction?.toList else [] := by
  rcases f with ⟨node, _ | result⟩ | ⟨node, _ | _⟩
  case brought.ok => simp [note, record, Finding.isRefusal]
  all_goals exact (List.append_nil _).symm

/-- A finding changes the outcome of its own node only. -/
theorem get?_note (r : SyncReport) (f : Finding) (node : String) : (r.note w f).status.nodes.get? node =
    if f.node = node then f.outcome? (r.status.nodes.get? node) else r.status.nodes.get? node := by
  by_cases h : f.node = node
  · subst h
    rw [if_pos rfl]
    rcases f with ⟨node, _ | result⟩ | ⟨node, _ | _⟩
    case brought.error => simp [note, record, Finding.outcome?, Finding.node, SortedMap.getD]
    all_goals simp [note, record, recordSweep, Finding.outcome?, Finding.node]
  · rw [if_neg h]
    have other : node ≠ f.node := fun heq => h heq.symm
    rcases f with ⟨_, _ | result⟩ | ⟨_, _ | _⟩
    case swept.error => rfl
    case swept.ok => exact SortedMap.get?_erase_ne _ other
    all_goals exact SortedMap.get?_insert_ne _ other _

variable (nodeStates : List NodeState) (found : List Finding)

theorem ofFindings_failedNodes : (ofFindings w nodeStates found).failedNodes =
    (found.filter Finding.isMiss).map Finding.node := by
  have gathered (r : SyncReport) : (found.foldl (note w) r).failedNodes =
      r.failedNodes ++ (found.filter Finding.isMiss).map Finding.node := by
    induction found generalizing r with
    | nil => exact (List.append_nil _).symm
    | cons f found ih =>
      rw [List.foldl_cons, ih, note_failedNodes, List.filter_cons]
      split <;> simp
  exact gathered _

theorem ofFindings_evictions : (ofFindings w nodeStates found).evictions =
    (found.filter Finding.isRefusal).flatMap fun _ => w.eviction?.toList := by
  have gathered (r : SyncReport) : (found.foldl (note w) r).evictions =
      r.evictions ++ (found.filter Finding.isRefusal).flatMap fun _ => w.eviction?.toList := by
    induction found generalizing r with
    | nil => exact (List.append_nil _).symm
    | cons f found ih =>
      rw [List.foldl_cons, ih, note_evictions, List.filter_cons]
      split <;> simp
  exact gathered _

/-- The outcome of a node, where it is kept, comes from the findings about that node. -/
theorem get?_ofFindings (node : String) : (ofFindings w nodeStates found).status.nodes.get? node =
    if w.spec.targets.contains node || (spacesByNode nodeStates).contains node then
      (found.filter fun f => f.node = node).foldl Finding.outcome?
        ((w.status.getD {}).nodes.get? node)
    else none := by
  have gathered (r : SyncReport) : (found.foldl (note w) r).status.nodes.get? node =
      (found.filter fun f => f.node = node).foldl Finding.outcome? (r.status.nodes.get? node) := by
    induction found generalizing r with
    | nil => rfl
    | cons f found ih =>
      rw [List.foldl_cons, ih, get?_note, List.filter_cons]
      by_cases h : f.node = node <;> simp [h]
  rw [ofFindings, retain, SortedMap.get?_filter_key, gathered]

end SyncReport

end CachePartition
