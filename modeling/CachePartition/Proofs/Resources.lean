import CachePartition.NodeState.Basic
import CachePartition.Proofs.Members
import CachePartition.Reconcile.Eviction

/-! Workloads and node states through their texts. Nothing of a specification or a status is lost, so a
status that was read back compares like the one that was written. -/
namespace CachePartition

open Json

theorem CacheBounds.encodes (b : CacheBounds) : Encodes b.toJson CacheBounds.ofJson? b := by
  have max := (encodes_uint32 b.max).member 0
  have min := (encodes_uint32 b.min).member 0
  rw [CacheBounds.toJson, object_eq_record]
  refine encodes_record (by simp) ⟨max.legible, min.legible⟩ ?_
  simp [valueOf, max.decoded, min.decoded]

theorem Bandwidth.encodes (b : Bandwidth) : Encodes b.toJson Bandwidth.ofJson? b := by
  have percentage := (encodes_uint32 b.percentage).member 0
  have mbps := (encodes_uint32 b.mbps).member 0
  rw [Bandwidth.toJson, object_eq_record]
  refine encodes_record (by simp) ⟨percentage.legible, mbps.legible⟩ ?_
  simp [valueOf, percentage.decoded, mbps.decoded]

theorem Allocation.encodes (a : Allocation) : Encodes a.toJson Allocation.ofJson? a := by
  have cache := a.cache.encodes.member {}
  have bandwidth := a.bandwidth.encodes.member {}
  rw [Allocation.toJson, object_eq_record]
  refine encodes_record (by simp) ⟨cache.legible, bandwidth.legible⟩ ?_
  simp [valueOf, cache.decoded, bandwidth.decoded]

theorem PowerState.encodes (p : PowerState) : Encodes p.toJson PowerState.ofJson? p := by
  have ratio := member_unlessEmpty p.ratio
  have monitoring := member_unlessEmpty p.monitoring
  refine encodes_record (by simp) ⟨ratio.legible, monitoring.legible⟩ ?_
  simp [valueOf, ratio.decoded, monitoring.decoded]

theorem PowerState.encodes_plugins (p : PowerState) : Encodes p.toPlugins PowerState.ofPlugins? p := by
  have own := p.encodes.member {}
  rw [PowerState.toPlugins, object_eq_record]
  refine encodes_record (by simp) own.legible ?_
  simp [valueOf, own.decoded]

theorem WorkloadSpec.encodes (s : WorkloadSpec) : Encodes s.toJson WorkloadSpec.ofJson? s := by
  have nodes := (encodes_texts s.nodes).member []
  have cores := (encodes_texts s.cores).member []
  have allCores := (encodes_bool s.allCores).member false
  have reservedCpus := (encodes_texts s.reservedCpus).member []
  have allocation := s.allocation.encodes.member {}
  have policy := member_unlessEmpty s.policy
  have powerState := s.powerState.encodes_plugins.member {}
  refine encodes_record (by simp) ⟨nodes.legible, cores.legible, allCores.legible, reservedCpus.legible,
    allocation.legible, policy.legible, powerState.legible⟩ ?_
  simp [valueOf, nodes.decoded, cores.decoded, allCores.decoded, reservedCpus.decoded,
    allocation.decoded, policy.decoded, powerState.decoded]

theorem NodeStateSpec.encodes (s : NodeStateSpec) : Encodes s.toJson NodeStateSpec.ofJson? s := by
  have node := (encodes_text s.node).required
  have nodeUid := member_unlessEmpty s.nodeUid
  refine encodes_record (by simp) ⟨node.legible, nodeUid.legible⟩ ?_
  simp [valueOf, node.decoded, nodeUid.decoded]

theorem NodeOutcome.encodes (o : NodeOutcome) : Encodes o.toJson NodeOutcome.ofJson? o := by
  have response := (encodes_text o.response).member ""
  have id := (encodes_text o.id).member ""
  have className := (encodes_text o.className).member ""
  have status := (encodes_text o.status).member ""
  rw [NodeOutcome.toJson, object_eq_record]
  refine encodes_record (by simp) ⟨response.legible, id.legible, className.legible, status.legible⟩ ?_
  simp [valueOf, response.decoded, id.decoded, className.decoded, status.decoded]

theorem WorkloadStatus.encodes (s : WorkloadStatus) : Encodes s.toJson WorkloadStatus.ofJson? s := by
  have nodes := (encodes_textMap NodeOutcome.encodes s.nodes).member SortedMap.empty
  rw [WorkloadStatus.toJson, object_eq_record]
  refine encodes_record (by simp) nodes.legible ?_
  simp [valueOf, nodes.decoded]

theorem NodeStateStatus.encodes (s : NodeStateStatus) : Encodes s.toJson NodeStateStatus.ofJson? s := by
  have entries := (encodes_textMap (encodes_textMap encodes_text) s.entries).member SortedMap.empty
  have availableWays :=
    member_maybe (f := uint64?) rfl (o := s.availableWays) fun n _ => encodes_uint64 n
  refine encodes_record (by simp) ⟨entries.legible, availableWays.legible⟩ ?_
  simp [valueOf, entries.decoded, availableWays.decoded]

/-- Each part of a resource is read from its text as it was. A workload with its status read back is
treated alike, and one with the status of this pass read back needs no write. -/
theorem resources_read_back :
    (∀ s : WorkloadSpec, s.toJson.reread? WorkloadSpec.ofJson? = some s) ∧
    (∀ s : WorkloadStatus, s.toJson.reread? WorkloadStatus.ofJson? = some s) ∧
    (∀ s : NodeStateSpec, s.toJson.reread? NodeStateSpec.ofJson? = some s) ∧
    (∀ s : NodeStateStatus, s.toJson.reread? NodeStateStatus.ofJson? = some s) ∧
    (∀ (scheme : Scheme) (w : Workload), syncAndEvict scheme
      { w with status := w.status.bind fun s => s.toJson.reread? WorkloadStatus.ofJson? } =
        syncAndEvict scheme w) ∧
    ∀ (w : Workload) (s : WorkloadStatus),
      writeStatus { w with status := s.toJson.reread? WorkloadStatus.ofJson? } s = return () := by
  have status (s : WorkloadStatus) : s.toJson.reread? WorkloadStatus.ofJson? = some s := s.encodes.reread?
  refine ⟨fun s => s.encodes.reread?, status, fun s => s.encodes.reread?, fun s => s.encodes.reread?,
    ?_, ?_⟩
  · intro scheme w
    have same : w.status.bind (fun s => s.toJson.reread? WorkloadStatus.ofJson?) = w.status := by
      cases w.status with
      | none => rfl
      | some s => exact status s
    rw [same]
  · intro w s
    rw [status, writeStatus, if_pos rfl]

end CachePartition
