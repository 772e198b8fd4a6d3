import CachePartition.Proofs.Exchanges

/-! Which calls a synchronization makes, whatever it is answered. Its trace is one listing of the node
states and then one part for each target and for each node state; daemons are called only in parts of
nodes whose address was found, to write the workload's body on targets and to delete elsewhere. -/
namespace CachePartition

open Pass

def Silent (part : List Exchange) : Prop := ∀ x ∈ part, x.isDaemon = false

def Pass.Exchange.isWrite (x : Exchange) : Bool :=
  match x.call with
  | .daemon c => c.writes
  | _ => false

/-- Calls that list the entries at an address and create or update one there, at most once. -/
structure TargetCalls (address : String) (body : Entry) (calls : List Exchange) : Prop where
  kinds : ∀ x ∈ calls, x.call = .daemon (.list address) ∨ x.call = .daemon (.create address body) ∨
    ∃ id, x.call = .daemon (.update address id body)
  once : (calls.filter Exchange.isWrite).length ≤ 1

/-- Calls that list the entries at an address and delete one there, at most once. -/
structure SweepCalls (address : String) (calls : List Exchange) : Prop where
  kinds : ∀ x ∈ calls, x.call = .daemon (.list address) ∨ ∃ id, x.call = .daemon (.delete address id)
  once : (calls.filter Exchange.isWrite).length ≤ 1

/-- The part of the trace that deals with a target. Its daemon is called only once the address, in the
namespace of the node's state, and the cores are known. -/
inductive TargetPart (scheme : Scheme) (w : Workload) (nodeStates : List NodeState) (node : String) :
    List Exchange → Prop where
  | silent {part : List Exchange} (h : Silent part) : TargetPart scheme w nodeStates node part
  | spoken {n : NodeState} {address : String} {cores : List String}
      {lookup count calls : List Exchange} (mem : n ∈ nodeStates) (named : n.node = node)
      (latest : (spacesByNode nodeStates).get? node = some n.space)
      (found : AddressFound scheme node n.space address lookup)
      (chosen : CoresFound w.spec node cores count)
      (made : TargetCalls address (Entry.ofSpec w.uuid cores w.spec) calls) :
    TargetPart scheme w nodeStates node (lookup ++ (count ++ calls))

/-- The part of the trace that deals with a node state after the targets. Its daemon is called only if
its node is no target and once the address is known. -/
inductive SweepPart (scheme : Scheme) (w : Workload) (n : NodeState) : List Exchange → Prop where
  | silent {part : List Exchange} (h : Silent part) : SweepPart scheme w n part
  | spoken {address : String} {lookup calls : List Exchange} (untargeted : n.node ∉ w.spec.nodes)
      (found : AddressFound scheme n.node n.space address lookup) (made : SweepCalls address calls) :
    SweepPart scheme w n (lookup ++ calls)

variable {scheme : Scheme} {w : Workload} {node space address uuid : String} {t : List Exchange}

theorem silent_nil : Silent [] := fun _ h => by cases h

theorem Silent.append {part part' : List Exchange} (h : Silent part) (h' : Silent part') :
    Silent (part ++ part') := by
  intro x hx
  rcases List.mem_append.mp hx with hx | hx
  · exact h x hx
  · exact h' x hx

theorem silent_cluster (c : ClusterCall) (answer : c.Answer) :
    Silent [⟨.cluster c, answer⟩] := by
  intro x hx
  rw [List.mem_singleton.mp hx]
  rfl

theorem AddressFound.silent (h : AddressFound scheme node space address t) : Silent t := by
  cases h
  exact silent_cluster _ _

theorem CoresFound.silent {spec : WorkloadSpec} {cores : List String}
    (h : CoresFound spec node cores t) : Silent t := by
  cases h
  · exact silent_nil
  · exact silent_cluster _ _

theorem AddressMissing.silent (h : AddressMissing node space t) : Silent t := by
  cases h <;> exact silent_cluster _ _

theorem CoresMissing.silent (h : CoresMissing node t) : Silent t := by
  cases h <;> exact silent_cluster _ _

section Calls

variable {body : Entry} {calls : List Exchange}

theorem TargetCalls.nil : TargetCalls address body [] where
  kinds x hx := by cases hx
  once := Nat.zero_le _

theorem TargetCalls.list_cons (h : TargetCalls address body calls)
    (answer : (DaemonCall.list address).Answer) :
    TargetCalls address body (⟨.daemon (.list address), answer⟩ :: calls) where
  kinds x hx := by
    rcases List.mem_cons.mp hx with rfl | hx
    · exact .inl rfl
    · exact h.kinds x hx
  once := h.once

theorem TargetCalls.update (id : String) (answer : (DaemonCall.update address id body).Answer) :
    TargetCalls address body [⟨.daemon (.update address id body), answer⟩] where
  kinds x hx := by
    obtain rfl := List.mem_singleton.mp hx
    exact .inr (.inr ⟨id, rfl⟩)
  once := Nat.le_refl _

/-- After the one write only listings follow. -/
theorem TargetCalls.create (answer : (DaemonCall.create address body).Answer)
    (h : ∀ x ∈ calls, x.call = .daemon (.list address)) :
    TargetCalls address body (⟨.daemon (.create address body), answer⟩ :: calls) where
  kinds x hx := by
    rcases List.mem_cons.mp hx with rfl | hx
    · exact .inr (.inl rfl)
    · exact .inl (h x hx)
  once := by
    have reads : calls.filter Exchange.isWrite = [] := by
      refine List.filter_eq_nil_iff.mpr fun x hx => ?_
      simp [Exchange.isWrite, h x hx, DaemonCall.writes]
    rw [List.filter_cons_of_pos rfl, reads]
    exact Nat.le_refl _

theorem SweepCalls.list_cons (h : SweepCalls address calls)
    (answer : (DaemonCall.list address).Answer) :
    SweepCalls address (⟨.daemon (.list address), answer⟩ :: calls) where
  kinds x hx := by
    rcases List.mem_cons.mp hx with rfl | hx
    · exact .inl rfl
    · exact h.kinds x hx
  once := h.once

theorem SweepCalls.nil : SweepCalls address [] where
  kinds x hx := by cases hx
  once := Nat.zero_le _

theorem SweepCalls.delete (id : String) (answer : (DaemonCall.delete address id).Answer) :
    SweepCalls address [⟨.daemon (.delete address id), answer⟩] where
  kinds x hx := by
    obtain rfl := List.mem_singleton.mp hx
    exact .inr ⟨id, rfl⟩
  once := Nat.le_refl _

theorem Creating.targetCalls {result : Except String NodeResult}
    (h : Creating address body calls result) : TargetCalls address body calls := by
  cases h with
  | refused | failed => exact .create _ (by simp)
  | unlisted | created | dropped => exact .create _ (by simp)

theorem Settling.targetCalls {result : Except String NodeResult}
    (h : Settling address body calls result) : TargetCalls address body calls := by
  cases h with
  | unlisted e => exact TargetCalls.nil.list_cons _
  | updated | failed => exact (TargetCalls.update _ _).list_cons _
  | absent _ creating => exact creating.targetCalls.list_cons _

theorem Dropping.sweepCalls {failed : Bool} (h : Dropping address uuid calls failed) :
    SweepCalls address calls := by
  cases h with
  | unlisted | absent => exact SweepCalls.nil.list_cons _
  | dropped | failed => exact (SweepCalls.delete _ _).list_cons _

end Calls

/-- The daemon of a target is called only once the address and the cores are known. -/
theorem Bringing.targetPart {nodeStates : List NodeState} {n : NodeState}
    {result : Except String NodeResult} (h : Bringing scheme w n.node n.space t result)
    (mem : n ∈ nodeStates) (latest : (spacesByNode nodeStates).get? n.node = some n.space) :
    TargetPart scheme w nodeStates n.node t := by
  cases h with
  | unaddressed missing => exact .silent missing.silent
  | uncounted found _ missing => exact .silent (found.silent.append missing.silent)
  | settled found chosen settling => exact .spoken mem rfl latest found chosen settling.targetCalls

theorem Sweeping.sweepPart {n : NodeState} {failed : Bool}
    (h : Sweeping scheme w.uuid n.node n.space t failed) (untargeted : n.node ∉ w.spec.nodes) :
    SweepPart scheme w n t := by
  cases h with
  | unaddressed missing => exact .silent missing.silent
  | dropped found dropping => exact .spoken untargeted found dropping.sweepCalls

theorem syncTarget_yields {nodeStates : List NodeState} {r r' : SyncReport}
    (h : (syncTarget scheme w (spacesByNode nodeStates) r node).Yields t r') :
    TargetPart scheme w nodeStates node t := by
  unfold syncTarget at h
  split at h
  · next space known =>
    obtain ⟨result, t₁, t₂, brought, rest, rfl⟩ := h.of_bind
    obtain ⟨rfl, -⟩ := rest.of_done
    rw [List.append_nil]
    obtain ⟨n, mem, rfl, rfl⟩ := mem_of_spacesByNode known
    exact (syncNode_yields brought).targetPart mem known
  · obtain ⟨rfl, -⟩ := h.of_done
    exact .silent silent_nil

theorem sweepNode_yields {n : NodeState} {r r' : SyncReport}
    (h : (sweepNode scheme w w.spec.targets r n).Yields t r') : SweepPart scheme w n t := by
  unfold sweepNode at h
  split at h
  · obtain ⟨rfl, -⟩ := h.of_done
    exact .silent silent_nil
  · next other =>
    obtain ⟨result, t₁, t₂, removed, rest, rfl⟩ := h.of_bind
    obtain ⟨rfl, -⟩ := rest.of_done
    rw [List.append_nil]
    exact (removeFromNode_yields removed).sweepPart fun h => other ((w.spec.contains_targets _).mpr h)

/-- The trace of a synchronization: the listing of the node states, and the parts that deal with the
targets and then with the node states. -/
theorem sync_yields {r : Except (Report SyncError) SyncReport}
    (h : (sync scheme w).run.Yields t r) :
    Silent t ∨ ∃ nodeStates targetParts sweepParts,
      t = ⟨.cluster .nodeStates, .ok nodeStates⟩ :: (targetParts.flatten ++ sweepParts.flatten) ∧
      List.Forall₂ (TargetPart scheme w nodeStates) w.spec.targets.toList targetParts ∧
      List.Forall₂ (SweepPart scheme w) nodeStates sweepParts := by
  obtain ⟨answer, t₁, t₂, asked, rfl, ⟨e, rfl, rfl, rfl⟩ | ⟨nodeStates, rfl, rest⟩⟩ := h.of_asked
  all_goals obtain rfl := asked.of_perform
  · exact .inl (silent_cluster _ _)
  rcases rest.of_attemptBind with ⟨e, onTargets, rfl⟩ | ⟨synced, t₁, t₂, onTargets, onOthers, rfl⟩
  · obtain ⟨_, -, impossible⟩ := onTargets.of_lift
    cases impossible
  obtain ⟨_, onTargets, -⟩ := onTargets.of_lift
  obtain ⟨_, onOthers, -⟩ := onOthers.of_lift
  obtain ⟨targetParts, targets, rfl⟩ := onTargets.of_foldlM
  obtain ⟨sweepParts, others, rfl⟩ := onOthers.of_foldlM
  refine .inr ⟨nodeStates, targetParts, sweepParts, rfl, ?_, ?_⟩
  · exact targets.imp fun _ _ ⟨_, _, h⟩ => syncTarget_yields h
  · exact others.imp fun _ _ ⟨_, _, h⟩ => sweepNode_yields h

/-- Whatever a synchronization is answered: each of its writes comes right after a listing of the same
daemon that calls for it; daemons are called only in the parts of nodes whose address, and for targets
whose cores, were found before; creations and updates have the workload's body and are made in parts of
targets, at most one in each; deletions are made in parts of other nodes. Each target has one part. -/
theorem sync_calls_justified {σ : Type} (scheme : Scheme) (w : Workload) (answer : Surroundings σ)
    (s : σ) :
    let trace := ((sync scheme w).run.run answer s).trace
    (∀ before x after c, trace = before ++ x :: after → x.call = .daemon c → c.writes = true →
      ∃ entries, lastWithDaemon before = some ⟨.daemon (.list c.address), .ok entries⟩ ∧
        c.Fits w.uuid entries) ∧
    (Silent trace ∨ ∃ nodeStates targetParts sweepParts,
      trace = ⟨.cluster .nodeStates, .ok nodeStates⟩ ::
        (targetParts.flatten ++ sweepParts.flatten) ∧
      List.Forall₂ (TargetPart scheme w nodeStates) w.spec.targets.toList targetParts ∧
      List.Forall₂ (SweepPart scheme w) nodeStates sweepParts) ∧
    w.spec.targets.toList.Nodup ∧ ∀ node, node ∈ w.spec.targets.toList ↔ node ∈ w.spec.nodes := by
  have yields := run_yields (sync scheme w).run answer s
  refine ⟨?_, sync_yields yields, w.spec.targets_nodup, w.spec.mem_targets⟩
  intro before x after c split hx hw
  exact (careful_sync scheme w).write_follows_listing yields split hx hw

end CachePartition
