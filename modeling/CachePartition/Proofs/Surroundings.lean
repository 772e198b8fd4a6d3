import CachePartition.Pass
import CachePartition.World.Basic

/-! What surroundings hold, as far as the exchanges tell. A call to a cluster that is granted changes it as
it should and a call that fails does not, so what a run leaves can be read off its trace. -/
namespace CachePartition

open Pass

/-- Whether a call to the cluster was answered without failure. -/
def ClusterCall.granted : (c : ClusterCall) → c.Answer → Bool
  | .nodeStates, answer => answer.isOk
  | .pod _ _, answer => answer.isOk
  | .node _, answer => answer.isOk
  | .deletePod _ _, answer => answer.isOk
  | .replaceWorkloadStatus _ _, answer => answer.isOk
  | .replaceNodeStateStatus _ _, answer => answer.isOk
  | .applyWorkload _, answer => answer.isOk
  | .findPod _, answer => answer.isOk
  | .ensureNodeState _ _, answer => answer.isOk

@[simp] theorem ClusterCall.granted_failed (c : ClusterCall) (e : ClusterError) :
    c.granted (c.failed e) = false := by
  cases c <;> rfl

/-- The cluster after an exchange. -/
def Cluster.after (k : Cluster) : Exchange → Cluster
  | ⟨.cluster c, answer⟩ => if c.granted answer then (k.serve c).2 else k
  | _ => k

/-- The registry after an exchange. -/
def Registry.after (r : Registry) (x : Exchange) : Registry :=
  match x.call with
  | .enlist node => r.add node
  | .dismiss node => r.remove node
  | _ => r

theorem Registry.contains_add (r : Registry) (node : String) : (r.add node).contains node = true := by
  simp [add, contains, TextSet.contains, TextSet.insert, SortedMap.contains]

/-- The exchanges account for a part of what surroundings hold. How they answer is left open. -/
structure Accounts {σ β : Type} (answer : Surroundings σ) (held : σ → β) (after : β → Exchange → β) :
    Prop where
  step (s : σ) (c : Call) : held (answer s c).2 = after (held s) ⟨c, (answer s c).1⟩

/-- What is held after a run is known from what was held before and the trace. -/
theorem Accounts.run {σ β α : Type} {answer : Surroundings σ} {held : σ → β} {after : β → Exchange → β}
    (accounts : Accounts answer held after) (p : Pass α) (s : σ) :
    held (p.run answer s).state = (p.run answer s).trace.foldl after (held s) := by
  induction p generalizing s with
  | done a => rfl
  | call c next ih =>
    simp only [Pass.run, List.foldl_cons]
    rw [ih, accounts.step]

namespace World

theorem accounts_cluster : Accounts World.answer World.cluster Cluster.after where
  step w c := by
    cases c with
    | daemon c =>
      simp only [answer, answerDaemon]
      split <;> rfl
    | cluster c =>
      have served : c.granted (w.cluster.serve c).1 = true := by
        cases c <;> rfl
      cases left : w.faults.failures c.method with
      | succ _ => simp [answer, answerCluster, left, Cluster.after]
      | zero =>
        cases down : w.cluster.isDown with
        | true => simp [answer, answerCluster, left, Cluster.answer, down, Cluster.after]
        | false => simp [answer, answerCluster, left, Cluster.answer, down, Cluster.after, served]
    | podCpus | enlist | dismiss => rfl

theorem accounts_registry : Accounts World.answer World.registry Registry.after where
  step w c := by
    cases c with
    | daemon c =>
      simp only [answer, answerDaemon]
      split <;> rfl
    | cluster c =>
      simp only [answer, answerCluster]
      split <;> rfl
    | podCpus | enlist | dismiss => rfl

end World

end CachePartition
