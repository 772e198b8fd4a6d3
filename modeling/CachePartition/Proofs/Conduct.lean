import CachePartition.Proofs.Changes
import CachePartition.Proofs.Discipline
import CachePartition.World.Basic

/-! Careful passes in a world without scripted answers: each of their calls is one change on behalf of
their workload, and what they know from their last listing stays true. -/
namespace CachePartition

variable {u : String} {last : Option Listing}

namespace Daemons

variable {d : Daemons}

/-- The listing tells which entry the workload has on the daemon now, if any. -/
def Shows (d : Daemons) (u : String) (last : Option Listing) : Prop :=
  ∀ l, last = some l →
    (Entry.findByUuid (d.entriesAt l.address) u).map (·.id) =
      (Entry.findByUuid l.entries u).map (·.id)

theorem shows_none (d : Daemons) (u : String) : d.Shows u none := fun _ h => nomatch h

/-- What a justified write relies on is so in the table itself. -/
theorem Shows.fits {c : DaemonCall} (h : d.Shows u last) (hj : (Call.daemon c).Justified u last)
    (hw : c.writes = true) : c.Fits u (d.entriesAt c.address) := by
  obtain ⟨l, rfl, ha, fits⟩ := hj hw
  have shown := h l rfl
  rw [ha] at shown
  cases c with
  | list | cacheReport => trivial
  | create a body =>
    obtain ⟨own, absent⟩ := fits
    rw [absent] at shown
    exact ⟨own, Option.map_eq_none_iff.mp shown⟩
  | update a id body =>
    obtain ⟨own, e, found, rfl⟩ := fits
    rw [found] at shown
    exact ⟨own, Option.map_eq_some_iff.mp shown⟩
  | delete a id =>
    obtain ⟨e, found, rfl⟩ := fits
    rw [found] at shown
    exact Option.map_eq_some_iff.mp shown

theorem serve_change {c : DaemonCall} (h : d.Shows u last) (hj : (Call.daemon c).Justified u last) :
    Change u d (d.serve c).2 := by
  cases c with
  | list a => exact .keep
  | cacheReport a =>
    rw [serve]
    split <;> exact .keep
  | create a body =>
    obtain ⟨own, absent⟩ := h.fits hj rfl
    rw [serve]
    split
    · exact .push a body own (Entry.findByUuid_eq_none_iff.mp absent)
    · exact .keep
    · exact .keep
  | update a id body =>
    obtain ⟨-, e, found, rfl⟩ := h.fits hj rfl
    obtain ⟨held, own⟩ := Entry.mem_of_findByUuid found
    rw [serve]
    split
    · exact .amend a e body held own
    · exact .keep
  | delete a id =>
    obtain ⟨e, found, rfl⟩ := h.fits hj rfl
    obtain ⟨held, own⟩ := Entry.mem_of_findByUuid found
    exact .drop a e held own

theorem answer_change {c : DaemonCall} (h : d.Shows u last) (hj : (Call.daemon c).Justified u last) :
    Change u d (d.answer c).2 := by
  unfold answer
  split
  · exact .keep
  · exact serve_change h hj

@[simp] theorem answer_list_state (d : Daemons) (a : String) : (d.answer (.list a)).2 = d := by
  unfold answer
  split <;> rfl

/-- A listing just made shows the table; after any other call nothing is claimed. -/
theorem answer_shows (d : Daemons) (c : DaemonCall) :
    (d.answer c).2.Shows u (Listing.after last (.daemon c) (d.answer c).1) := by
  unfold answer
  cases c with
  | list a =>
    split
    · exact shows_none d u
    · rintro _ ⟨⟩
      rfl
  | _ => exact shows_none _ u

end Daemons

/-- A query leaves the cluster as it is. -/
theorem Cluster.answer_query (k : Cluster) {c : ClusterCall} (query : c.isQuery = true) :
    (k.answer c).2 = k := by
  unfold answer
  split
  · rfl
  · cases c with
    | nodeStates | pod | node => rfl
    | _ => cases query

namespace World

variable {w : World}

/-- No answers are laid down for daemons. -/
def Unscripted (w : World) : Prop := ∀ m a, w.faults.scriptsAt m a = []

theorem Unscripted.answerDaemon (h : w.Unscripted) (c : DaemonCall) :
    w.answerDaemon c = ((w.daemons.answer c).1, { w with daemons := (w.daemons.answer c).2 }) := by
  simp only [World.answerDaemon, h c.method c.address]

/-- A call to the cluster leaves the daemons and their scripts alone. -/
theorem answerCluster_daemons (w : World) (c : ClusterCall) :
    (w.answerCluster c).2.daemons = w.daemons ∧
      (w.answerCluster c).2.faults.scripts = w.faults.scripts := by
  unfold World.answerCluster
  split <;> exact ⟨rfl, rfl⟩

/-- No call lays answers down. -/
theorem Unscripted.answer (h : w.Unscripted) (c : Call) : (w.answer c).2.Unscripted := by
  cases c with
  | daemon c =>
    simp only [World.answer, h.answerDaemon]
    exact h
  | cluster c =>
    intro m a
    simpa only [World.answer, Faults.scriptsAt, (w.answerCluster_daemons c).2] using h m a
  | podCpus | enlist | dismiss => exact h

/-- Each justified call is one change, and the pass still knows what it knew. -/
theorem answer_justified {c : Call} (hw : w.Unscripted) (hs : w.daemons.Shows u last)
    (hj : c.Justified u last) :
    (w.answer c).2.Unscripted ∧ Daemons.Change u w.daemons (w.answer c).2.daemons ∧
      (w.answer c).2.daemons.Shows u (Listing.after last c (w.answer c).1) := by
  refine ⟨hw.answer c, ?_⟩
  cases c with
  | daemon c =>
    simp only [answer, hw.answerDaemon]
    exact ⟨Daemons.answer_change hs hj, Daemons.answer_shows _ c⟩
  | cluster c =>
    have same := (w.answerCluster_daemons c).1
    constructor
    · simpa only [answer, same] using Daemons.Change.keep
    · simpa only [answer, same, Listing.after] using hs
  | podCpus | enlist | dismiss => exact ⟨.keep, hs⟩

/-- A whole careful pass is a series of changes on behalf of its workload. -/
theorem run_careful {α : Type} {p : Pass α} (hp : p.Careful u last) (hw : w.Unscripted)
    (hs : w.daemons.Shows u last) :
    (w.run p).state.Unscripted ∧
      Relation.ReflTransGen (Daemons.Change u) w.daemons (w.run p).state.daemons := by
  induction p generalizing w last with
  | done a => exact ⟨hw, .refl⟩
  | call c next ih =>
    obtain ⟨hj, hnext⟩ := hp
    obtain ⟨hw', change, hs'⟩ := answer_justified hw hs hj
    obtain ⟨quiet, changes⟩ := ih _ (hnext _) hw' hs'
    exact ⟨quiet, .head change changes⟩

end World

end CachePartition
