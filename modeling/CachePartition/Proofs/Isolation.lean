import CachePartition.Proofs.Views
import Mathlib.Logic.Function.Basic

/-! Passes of different workloads in one world, their calls interleaved in any order. Each pass leaves
and reports what it would alone, up to the ids that daemons issue. -/
namespace CachePartition

open Pass

section Pace

variable {α β : Type} {u v : String} {Q : α → β → Prop} {w w' : World} {p : Pass α} {value : β}
  {final : World} {left : Nat}

/-- A run alone has come to a point that looks the same to the workload's pass. It ends with this value
and in this world, after so many more calls. -/
inductive Paced (u : String) (Q : α → β → Prop) (w : World) (p : Pass α) (value : β)
    (final : World) (left : Nat) : Prop where
  | intro {w' : World} {q : Pass β} {last last' : Option Listing} (here : w.Underway u p last)
      (there : w'.Underway u q last') (same : w.SameView u w') (alike : Alike u Q p q)
      (ends : (w'.run q).value = value) (leaves : (w'.run q).state = final)
      (calls : (w'.run q).trace.length = left)

namespace Paced

theorem start {Q : α → α → Prop} (quiet : w.Quiet) (sound : w.daemons.Sound)
    (careful : p.Careful u none) (alike : Alike u Q p p) :
    Paced u Q w p (w.run p).value (w.run p).state (w.run p).trace.length := by
  have underway : w.Underway u p none := ⟨quiet, sound, careful, w.daemons.shows_none u⟩
  exact ⟨underway, underway, .refl u w, alike, rfl, rfl, rfl⟩

/-- A call of the pass itself is matched by a call of the run alone. -/
theorem step {c : Call} {next : c.Answer → Pass α} (h : Paced u Q w (.call c next) value final left) :
    Paced u Q (w.answer c).2 (next (w.answer c).1) value final (left - 1) := by
  obtain ⟨here, there, same, alike, ends, leaves, rfl⟩ := h
  obtain ⟨c', next', rfl, alike', same'⟩ := World.alike_step alike here there same
  exact ⟨here.step, there.step, same', alike', ends, leaves, rfl⟩

/-- A call of the pass is a change on behalf of its workload, and none of the cluster. -/
theorem conduct {c : Call} {next : c.Answer → Pass α} (h : Paced u Q w (.call c next) value final left) :
    Daemons.Change u w.daemons (w.answer c).2.daemons ∧ (w.answer c).2.cluster = w.cluster := by
  obtain ⟨here, -, -, alike, -, -, -⟩ := h
  exact ⟨here.change, World.alike_cluster alike here.quiet⟩

/-- A change on behalf of another workload leaves the pass where it is. -/
theorem other (h : Paced v Q w p value final left) (change : Daemons.Change u w.daemons w'.daemons)
    (hv : v ≠ u) (quiet : w'.Quiet) (cluster : w'.cluster = w.cluster) :
    Paced v Q w' p value final left := by
  obtain ⟨here, there, same, alike, ends, leaves, calls⟩ := h
  have underway : w'.Underway v p _ :=
    ⟨quiet, change.sound here.sound, here.careful, change.shows here.sound hv here.shows⟩
  have view := change.sameFor here.sound hv same.daemons
  exact ⟨underway, there, ⟨cluster.trans same.cluster, view⟩, alike, ends, leaves, calls⟩

/-- A pass has ended when the run alone has no call left. -/
theorem exhausted (h : Paced u Q w p value final 0) : ∃ a, p = .done a := by
  obtain ⟨-, -, -, alike, -, -, calls⟩ := h
  cases alike with
  | done => exact ⟨_, rfl⟩
  | _ => exact nomatch calls

/-- A pass that has ended has ended like the run alone. -/
theorem ended {a : α} (h : Paced u Q w (.done a) value final left) :
    Q a value ∧ w.daemons.SameFor u final.daemons := by
  obtain ⟨here, there, same, alike, rfl, rfl, -⟩ := h
  cases alike with
  | done related => exact ⟨related, same.daemons⟩

theorem left_of_ended {a : α} (h : Paced u Q w (.done a) value final left) : left = 0 := by
  obtain ⟨-, -, -, alike, -, -, rfl⟩ := h
  cases alike with
  | done => rfl

end Paced

end Pace

/-- Passes under way in one world. -/
structure Interleaving (ι α : Type) where
  world : World
  passes : ι → Pass α

namespace Interleaving

variable {ι α : Type} [DecidableEq ι]

/-- One of the passes makes its next call, if it has not ended, and goes on with the answer. -/
def turn (r : Interleaving ι α) (i : ι) : Interleaving ι α :=
  match r.passes i with
  | .done _ => r
  | .call c next =>
    let answered := r.world.answer c
    ⟨answered.2, Function.update r.passes i (next answered.1)⟩

/-- The passes take turns in a given order. -/
def run (r : Interleaving ι α) (order : List ι) : Interleaving ι α := order.foldl turn r

/-- Each pass keeps pace with a run of its own, which has so many calls left. -/
structure Isolated (uuid : ι → String) (Q : α → α → Prop) (alone : ι → Outcome World α)
    (left : ι → Nat) (r : Interleaving ι α) : Prop where
  quiet : r.world.Quiet
  sound : r.world.daemons.Sound
  paced (i : ι) : Paced (uuid i) Q r.world (r.passes i) (alone i).value (alone i).state (left i)

variable {uuid : ι → String} {Q : α → α → Prop} {alone : ι → Outcome World α} {left : ι → Nat}
  {r : Interleaving ι α}

theorem Isolated.turn (h : Isolated uuid Q alone left r) (distinct : Function.Injective uuid) (i : ι) :
    Isolated uuid Q alone (Function.update left i (left i - 1)) (r.turn i) := by
  unfold Interleaving.turn
  split
  · next a ended =>
    have none_left : left i = 0 := (ended ▸ h.paced i).left_of_ended
    rwa [none_left, Nat.zero_sub, ← none_left, Function.update_eq_self]
  · next c next calls =>
    have own : Paced (uuid i) Q r.world (.call c next) (alone i).value (alone i).state (left i) :=
      calls ▸ h.paced i
    obtain ⟨change, cluster⟩ := own.conduct
    refine ⟨h.quiet.answer c, change.sound h.sound, fun j => ?_⟩
    by_cases hj : j = i
    · subst hj
      simpa only [Function.update_self] using own.step
    · -- To the other passes this turn is a change on behalf of another workload.
      simp only [Function.update_of_ne hj]
      exact (h.paced j).other change (distinct.ne hj) (h.quiet.answer c) cluster

theorem Isolated.run (h : Isolated uuid Q alone left r) (distinct : Function.Injective uuid)
    (order : List ι) :
    Isolated uuid Q alone (fun i => left i - order.count i) (r.run order) := by
  induction order generalizing r left with
  | nil => exact h
  | cons i order ih =>
    have fewer : (fun j => Function.update left i (left i - 1) j - order.count j) =
        fun j => left j - (i :: order).count j := by
      funext j
      by_cases hj : j = i
      · subst hj
        rw [Function.update_self, List.count_cons_self]
        omega
      · rw [Function.update_of_ne hj, List.count_cons_of_ne (Ne.symm hj)]
    exact fewer ▸ ih (h.turn distinct i)

end Interleaving

/-- One pass for a workload. -/
inductive Job where
  | sync (w : Workload)
  | remove (w : Workload)

inductive JobResult where
  | synced (r : Except (Report SyncError) SyncReport)
  | removed (r : Except (Report SyncError) Unit)
  deriving DecidableEq

namespace Job

def workload : Job → Workload
  | .sync w => w
  | .remove w => w

def uuid (j : Job) : String := j.workload.uuid

def pass (scheme : Scheme) : Job → Pass JobResult
  | .sync w => (CachePartition.sync scheme w).run.bind fun r => .done (.synced r)
  | .remove w => (CachePartition.remove scheme w).run.bind fun r => .done (.removed r)

theorem careful_pass (scheme : Scheme) (j : Job) : (j.pass scheme).Careful j.uuid none := by
  cases j with
  | sync w => exact (careful_sync scheme w).bind fun _ _ => trivial
  | remove w => exact (careful_remove scheme w).bind fun _ _ => trivial

end Job

/-- The results are the same; of a status, up to ids. -/
inductive JobResult.SameUpToIds : JobResult → JobResult → Prop where
  | synced {r r' : Except (Report SyncError) SyncReport} (h : Agree SyncReport.SameUpToIds r r') :
      SameUpToIds (.synced r) (.synced r')
  | removed (r : Except (Report SyncError) Unit) : SameUpToIds (.removed r) (.removed r)

theorem Job.alike_pass (scheme : Scheme) (j : Job) :
    Alike j.uuid JobResult.SameUpToIds (j.pass scheme) (j.pass scheme) := by
  cases j with
  | sync w => exact (alike_sync scheme w).bind fun _ _ h => .done (.synced h)
  | remove w =>
    refine (alike_remove scheme w).bind fun r r' h => .done ?_
    obtain rfl : r = r' := by cases h <;> simp_all
    exact .removed r

/-- Passes of different workloads do not interfere. In a world where nothing is laid down and the tables
are sound, as scenarios leave them, let any number of workloads run one pass each, their calls in any
order. No daemon ever holds two entries of one
workload. A pass has ended once it has had a turn for each call that it makes when it runs alone from
the same start. Its result and the entries of its workload are then, up to ids, what that run leaves. -/
theorem passes_isolated {ι : Type} [DecidableEq ι] {scheme : Scheme} {start : World} {jobs : ι → Job}
    (distinct : Function.Injective fun i => (jobs i).uuid) (quiet : start.Quiet)
    (sound : start.daemons.Sound) (order : List ι) :
    let r := Interleaving.run ⟨start, fun i => (jobs i).pass scheme⟩ order
    (∀ a u, (Entry.owned u (r.world.daemons.entriesAt a)).length ≤ 1) ∧
    ∀ i, let alone := start.run ((jobs i).pass scheme)
      (alone.trace.length ≤ order.count i → ∃ result, r.passes i = .done result) ∧
      ∀ result, r.passes i = .done result → result.SameUpToIds alone.value ∧
        ∀ a, (Entry.owned (jobs i).uuid (r.world.daemons.entriesAt a)).map Entry.anonymous =
          (Entry.owned (jobs i).uuid (alone.state.daemons.entriesAt a)).map Entry.anonymous := by
  have initially : Interleaving.Isolated (fun i => (jobs i).uuid) JobResult.SameUpToIds
      (fun i => start.run ((jobs i).pass scheme)) _ ⟨start, fun i => (jobs i).pass scheme⟩ :=
    ⟨quiet, sound, fun i => .start quiet sound ((jobs i).careful_pass scheme)
      ((jobs i).alike_pass scheme)⟩
  have isolated := initially.run distinct order
  refine ⟨fun a u => (isolated.sound.distinct a).length_owned_le u, fun i => ?_⟩
  have paced := isolated.paced i
  refine ⟨fun enough => ?_, fun result ended => ?_⟩
  · rw [Nat.sub_eq_zero_of_le enough] at paced
    exact paced.exhausted
  · rw [ended] at paced
    obtain ⟨same, after⟩ := paced.ended
    exact ⟨same, after.owned⟩

/-- A node that holds an entry of one workload. -/
def crossingStart : World where
  daemons := ({} : Daemons).insert "http://10.0.0.1:8443" "v."
  cluster := ({} : Cluster).addDaemonNode "n1" "rmd" "10.0.0.1" 4

/-- One workload comes to the node while the other leaves it. -/
def crossing : Bool → Job
  | true => .sync { metadata := { name := some "w" }, spec := { nodes := ["n1"] } }
  | false => .remove { metadata := { name := some "v" }, spec := {} }

def crossingOrder : List Bool := [true, false, false, true, true, false, true, false, true]

theorem passes_isolated_crossing :
    let r := Interleaving.run ⟨crossingStart, fun i => (crossing i).pass .http⟩ crossingOrder
    ∃ result, r.passes true = .done result ∧
      result.SameUpToIds (crossingStart.run ((crossing true).pass .http)).value := by
  have distinct : Function.Injective fun i => (crossing i).uuid := by
    intro i j
    revert i j
    decide +kernel
  have quiet : crossingStart.Quiet := ⟨fun _ _ => rfl, fun _ => rfl⟩
  have sound : crossingStart.daemons.Sound := Daemons.Sound.empty.push nofun
  obtain ⟨ends, same⟩ := (@passes_isolated _ _ .http _ _ distinct quiet sound crossingOrder).2 true
  obtain ⟨result, ended⟩ := ends (by decide +kernel)
  exact ⟨result, ended, (same result ended).1⟩

end CachePartition
