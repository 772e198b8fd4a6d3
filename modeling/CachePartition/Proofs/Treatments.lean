import CachePartition.Controller.Run
import CachePartition.Proofs.StatusWrites

/-! The whole treatment of a workload, effect by effect. It synchronizes, then writes the status if that is
news, then evicts; what is left undone on the way shows in its result, and a treatment that fails is taken
up again. -/
namespace CachePartition

open Pass

variable {scheme : Scheme} {w : Workload} {t : List Exchange}

/-- The call that carries an eviction out. -/
def Eviction.call (e : Eviction) : Call := .cluster (.deletePod e.space e.pod)

/-- What writing a status can come to. It is written only if the workload carries another one. -/
inductive Noting (w : Workload) (status : WorkloadStatus) :
    List Exchange → Except (Report SyncError) Unit → Prop where
  | carried (same : w.status = some status) : Noting w status [] (.ok ())
  | written (news : w.status ≠ some status) :
    Noting w status [⟨.cluster (.replaceWorkloadStatus w status), .ok ()⟩] (.ok ())
  | failed (news : w.status ≠ some status) (e : ClusterError) :
    Noting w status [⟨.cluster (.replaceWorkloadStatus w status), .error e⟩]
      (.error ⟨.status w.name, [.cluster e]⟩)

theorem writeStatus_yields {status : WorkloadStatus} {r : Except (Report SyncError) Unit}
    (h : (writeStatus w status).run.Yields t r) : Noting w status t r := by
  unfold writeStatus at h
  split at h
  · next same =>
    obtain ⟨rfl, rfl⟩ := h.of_done
    exact .carried same
  · next news =>
    obtain ⟨answer, asked, rfl⟩ := h.of_orReport
    obtain rfl := asked.of_perform
    cases answer with
    | ok => exact .written news
    | error e => exact .failed news e

theorem Noting.calls {status : WorkloadStatus} {r : Except (Report SyncError) Unit}
    (h : Noting w status t r) : t.map (·.call) =
      if w.status = some status then [] else [.cluster (.replaceWorkloadStatus w status)] := by
  cases h with
  | carried same => rw [if_pos same]; rfl
  | written news | failed news => rw [if_neg news]; rfl

/-- Whatever is answered to a deletion, the next is made all the same. -/
theorem evictions_yield {evictions : List Eviction} {u : Unit} (h : (evictions.forM evict).Yields t u) :
    t.map (·.call) = evictions.map Eviction.call := by
  induction evictions generalizing t with
  | nil =>
    obtain ⟨rfl, -⟩ := h.of_done
    rfl
  | cons e evictions ih =>
    rw [List.forM] at h
    obtain ⟨_, t₁, t₂, here, others, rfl⟩ := h.of_bind
    obtain ⟨answer, t₃, t₄, made, last, rfl⟩ := here.of_bind
    obtain rfl := made.of_perform
    obtain ⟨rfl, -⟩ := last.of_done
    rw [List.append_nil, List.map_append, ih others]
    rfl

/-- What is done with a report: its status is written, and unless that fails each of its evictions is tried
and the failed nodes decide on the result. -/
inductive Acting (w : Workload) (report : SyncReport) :
    List Exchange → Except (Report SyncError) Unit → Prop where
  | unnoted {noted : List Exchange} {e : Report SyncError}
      (noting : Noting w report.status noted (.error e)) : Acting w report noted (.error e)
  | evicted {noted deletions : List Exchange} (noting : Noting w report.status noted (.ok ()))
      (calls : deletions.map (·.call) = report.evictions.map Eviction.call) :
    Acting w report (noted ++ deletions)
      (if report.failedNodes = [] then .ok () else .error ⟨.nodesFailed report.failedNodes, []⟩)

theorem actOn_yields {report : SyncReport} {r : Except (Report SyncError) Unit}
    (h : (actOn w report).run.Yields t r) : Acting w report t r := by
  rcases h.of_attemptBind with ⟨e, noted, rfl⟩ | ⟨_, t₁, t₂, noted, further, rfl⟩
  · exact .unnoted (writeStatus_yields noted)
  rcases further.of_attemptBind with ⟨e, evicted, -⟩ | ⟨_, t₃, t₄, evicted, last, rfl⟩
  · obtain ⟨_, -, impossible⟩ := evicted.of_lift
    cases impossible
  obtain ⟨_, evicted, -⟩ := evicted.of_lift
  have ended : t₄ = [] ∧ r = if report.failedNodes = [] then .ok () else
      .error ⟨.nodesFailed report.failedNodes, []⟩ := by
    simp only [List.isEmpty_iff] at last
    split at last
    · next fine => rw [if_pos fine]; exact last.of_done
    · next missed => rw [if_neg missed]; exact last.of_done
  obtain ⟨rfl, rfl⟩ := ended
  rw [List.append_nil]
  exact .evicted (writeStatus_yields noted) (evictions_yield evicted)

/-- Acting on a report with a failed node never ends well. -/
theorem Acting.fails {report : SyncReport} {r : Except (Report SyncError) Unit} (h : Acting w report t r)
    (missed : report.failedNodes ≠ []) : ∃ e, r = .error e := by
  cases h with
  | unnoted noting => exact ⟨_, rfl⟩
  | evicted noting calls => exact ⟨_, if_neg missed⟩

/-- Either the status could not be written, or nothing is left out. -/
theorem Acting.ways {report : SyncReport} {r : Except (Report SyncError) Unit} (h : Acting w report t r) :
    ∃ noted deletions, t = noted ++ deletions ∧
      noted.map (·.call) = (if w.status = some report.status then []
        else [.cluster (.replaceWorkloadStatus w report.status)]) ∧
      ((∃ e, noted = [⟨.cluster (.replaceWorkloadStatus w report.status), .error e⟩] ∧
          deletions = [] ∧ r = .error ⟨.status w.name, [.cluster e]⟩) ∨
        ((∀ x ∈ noted, x = ⟨.cluster (.replaceWorkloadStatus w report.status), .ok ()⟩) ∧
          deletions.map (·.call) = report.evictions.map Eviction.call ∧
          r = if report.failedNodes = [] then .ok ()
            else .error ⟨.nodesFailed report.failedNodes, []⟩)) := by
  cases h with
  | unnoted noting =>
    refine ⟨t, [], (List.append_nil t).symm, noting.calls, .inl ?_⟩
    cases noting with
    | failed news e => exact ⟨e, rfl, rfl, rfl⟩
  | @evicted noted deletions noting calls =>
    refine ⟨noted, deletions, rfl, noting.calls, .inr ⟨?_, calls, rfl⟩⟩
    cases noting with
    | carried same => exact fun x hx => nomatch hx
    | written news => exact fun x hx => List.mem_singleton.mp hx

/-- No report asks for an eviction without a failed node. -/
theorem failedNodes_of_evictions {report : SyncReport} (h : (sync scheme w).run.Yields t (.ok report))
    (evicts : report.evictions ≠ []) : report.failedNodes ≠ [] := by
  rcases sync_visits h with ⟨-, e, impossible⟩ | ⟨nodeStates, rounds, -, reported, -⟩
  · cases impossible
  obtain rfl := Except.ok.inj reported
  rw [SyncReport.ofFindings_evictions] at evicts
  obtain ⟨e, mem⟩ := List.exists_mem_of_ne_nil _ evicts
  obtain ⟨f, found, -⟩ := List.mem_flatMap.mp mem
  obtain ⟨found, refusal⟩ := List.mem_filter.mp found
  rw [SyncReport.ofFindings_failedNodes]
  refine List.ne_nil_of_mem (a := f.node) (List.mem_map_of_mem (List.mem_filter.mpr ⟨found, ?_⟩))
  exact Finding.isMiss_of_isRefusal refusal

section Runs

variable {σ : Type} {answer : Surroundings σ} {s : σ}

/-- After a synchronization that ends with a report, the treatment acts on the report. -/
theorem treatment_acts {report : SyncReport}
    (synced : ((sync scheme w).run.run answer s).value = .ok report) :
    ∃ t, ((syncAndEvict scheme w).run.run answer s).trace =
        ((sync scheme w).run.run answer s).trace ++ t ∧
      Acting w report t ((syncAndEvict scheme w).run.run answer s).value := by
  let first := (sync scheme w).run.run answer s
  have ended : (sync scheme w).run.run answer s = ⟨.ok report, first.state, first.trace⟩ :=
    congrArg (Outcome.mk · first.state first.trace) synced
  rw [syncAndEvict_eq, run_attemptBind ended (actOn w)]
  exact ⟨_, rfl, actOn_yields (run_yields (actOn w report).run answer first.state)⟩

/-- Where a pod has to go the treatment fails, whether the pod went or not. -/
theorem treatment_fails {report : SyncReport}
    (synced : ((sync scheme w).run.run answer s).value = .ok report) (evicts : report.evictions ≠ []) :
    ∃ e, ((syncAndEvict scheme w).run.run answer s).value = .error e := by
  obtain ⟨t, -, acting⟩ := treatment_acts synced
  exact acting.fails (failedNodes_of_evictions (synced ▸ run_yields (sync scheme w).run answer s) evicts)

end Runs

/-- A workload whose treatment fails has another turn. -/
theorem workload_again {v : World} {e : Report SyncError}
    (live : w.metadata.finalizerStage workloadFinalizer = .live)
    (failed : (v.run (syncAndEvict scheme w).run).value = .error e) (setting : ControllerSetting)
    (second : Nat) : ((Round.workload scheme w).turn setting second v).again = true := by
  have work : Round.workload scheme w = { work := succeeds (syncAndEvict scheme w) } := by
    simp only [Round.workload, Round.finalized, live]
  have value : (v.run (succeeds (syncAndEvict scheme w))).value = false := by
    rw [World.run, succeeds, bind_eq, run_bind]
    exact congrArg Except.toBool failed
  simp [work, Round.turn, value]

/-- Nothing is lost when a workload is treated, whatever is answered. The synchronization itself only asks
and calls daemons; if it fails, that is all. Otherwise its status is written exactly if it differs from the
one that the workload carries. If writing fails, that is the result and no pod is deleted. If not, each
eviction is tried once and in order, whatever became of the others, and the result names the failed nodes
if there are any. There are some wherever there is an eviction, so that the workload has another turn. -/
theorem treatment_loses_nothing {σ : Type} (scheme : Scheme) (w : Workload) (answer : Surroundings σ)
    (s : σ) :
    let synced := (sync scheme w).run.run answer s
    let treated := (syncAndEvict scheme w).run.run answer s
    (∀ x ∈ synced.trace, x.call.reconciles = true) ∧
    (∀ e, synced.value = .error e → treated = ⟨.error e, synced.state, synced.trace⟩) ∧
    (∀ report, synced.value = .ok report → ∃ noted deletions,
      treated.trace = synced.trace ++ (noted ++ deletions) ∧
      noted.map (·.call) = (if w.status = some report.status then []
        else [.cluster (.replaceWorkloadStatus w report.status)]) ∧
      ((∃ e, noted = [⟨.cluster (.replaceWorkloadStatus w report.status), .error e⟩] ∧
          deletions = [] ∧ treated.value = .error ⟨.status w.name, [.cluster e]⟩) ∨
        ((∀ x ∈ noted, x = ⟨.cluster (.replaceWorkloadStatus w report.status), .ok ()⟩) ∧
          deletions.map (·.call) = report.evictions.map Eviction.call ∧
          treated.value = if report.failedNodes = [] then .ok ()
            else .error ⟨.nodesFailed report.failedNodes, []⟩)) ∧
      (report.evictions ≠ [] → ∃ e, treated.value = .error e)) ∧
    ∀ (v : World) (setting : ControllerSetting) (second : Nat) (report : SyncReport),
      w.metadata.finalizerStage workloadFinalizer = .live →
      (v.run (sync scheme w).run).value = .ok report → report.evictions ≠ [] →
      ((Round.workload scheme w).turn setting second v).again = true := by
  intro synced treated
  refine ⟨(makes_sync scheme w).of_yields (run_yields _ answer s), fun e failed => ?_,
    fun report ended => ?_, fun v setting second report live ended evicts => ?_⟩
  · exact run_attemptBind_failed (congrArg (Outcome.mk · synced.state synced.trace) failed) (actOn w)
  · obtain ⟨t, trace, acting⟩ := treatment_acts ended
    obtain ⟨noted, deletions, rfl, calls, ways⟩ := acting.ways
    exact ⟨noted, deletions, trace, calls, ways, treatment_fails ended⟩
  · obtain ⟨e, failed⟩ := treatment_fails ended evicts
    exact workload_again live failed setting second

/-- Also where the pod is not deleted: a node that turns the entry down, and a cluster that fails once. -/
theorem treatment_loses_nothing_threeTroubles :
    let v : World := { threeTroubles.world with faults := ({} : Faults).setFailures .deletePod 1 }
    let wl : Workload := { ofWebPod with
      metadata := { ofWebPod.metadata with finalizers := some [workloadFinalizer] } }
    (∃ noted deletions, (v.run (syncAndEvict .http wl).run).trace =
        (v.run (sync .http wl).run).trace ++ (noted ++ deletions) ∧
      deletions.map (·.call) = [.cluster (.deletePod "shop" "web")]) ∧
    ((Round.workload .http wl).turn ⟨60, 5, true⟩ 0 v).again = true := by
  intro v wl
  have evictions : (v.run (sync .http wl).run).value.map SyncReport.evictions =
      .ok [⟨"web", "shop"⟩] := by
    decide +kernel
  have result : (v.run (syncAndEvict .http wl).run).value.mapError Report.error =
      .error (.nodesFailed ["n1", "n2"]) := by
    decide +kernel
  obtain ⟨-, -, acts, retried⟩ := treatment_loses_nothing .http wl World.answer v
  cases ended : (v.run (sync .http wl).run).value with
  | error e => exact nomatch ended ▸ evictions
  | ok report =>
    rw [ended] at evictions
    have evictions : report.evictions = [⟨"web", "shop"⟩] := Except.ok.inj evictions
    refine ⟨?_, retried v ⟨60, 5, true⟩ 0 report rfl ended (evictions ▸ List.cons_ne_nil _ _)⟩
    obtain ⟨noted, deletions, trace, calls, ⟨e, rfl, rfl, failed⟩ | ⟨-, tried, -⟩, -⟩ :=
      acts report ended
    · rw [World.run, failed] at result
      cases Except.error.inj result
    · rw [evictions] at tried
      exact ⟨noted, deletions, trace, tried⟩

end CachePartition
