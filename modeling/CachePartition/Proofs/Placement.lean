import CachePartition.Proofs.Applications
import CachePartition.Proofs.Faultless

/-! From a pod to its partitions. The workloads derived from a pod and synchronized in any order give each
container that qualifies its CPUs and its cache ways on the node of the pod, and nothing else changes. -/
namespace CachePartition

open Pass

/-- All containers of a pod, the initial ones last. -/
def Pod.containers (p : Pod) : List Container :=
  (p.spec.map fun s => s.containers ++ s.initContainers.getD []).getD []

section Names

variable {pod : Pod} {c c' : Container}

theorem workloadName_injective (h : workloadName pod.name c.name = workloadName pod.name c'.name) :
    c.name = c'.name := by
  rw [← String.toList_inj, toList_workloadName, toList_workloadName] at h
  simpa [String.toList_inj] using h

theorem Pod.containersOn?_eq_some {hostIp : String} {containers : List Container}
    (h : pod.containersOn? hostIp = some containers) : containers = pod.containers := by
  unfold containersOn? at h
  unfold Pod.containers
  cases status : pod.status with
  | none => simp [status] at h
  | some status' =>
    cases spec : pod.spec with
    | none => simp [status, spec] at h
    | some spec' => simp_all

theorem Pod.qualifying_sublist (pod : Pod) (hostIp : String) :
    (pod.qualifying hostIp).Sublist pod.containers := by
  unfold qualifying
  cases there : pod.containersOn? hostIp with
  | none => exact List.nil_sublist _
  | some containers =>
    rw [Option.getD_some, ← Pod.containersOn?_eq_some there]
    exact List.filter_sublist

/-- What tells apart containers by their names tells apart all that qualify. -/
theorem Pod.qualifying_nodup {β : Type} {f : Container → β} (hostIp : String)
    (names : (pod.containers.map Container.name).Nodup)
    (injective : ∀ {c c'}, f c = f c' → c.name = c'.name) : ((pod.qualifying hostIp).map f).Nodup := by
  have own : ((pod.qualifying hostIp).map Container.name).Nodup :=
    names.sublist ((pod.qualifying_sublist hostIp).map _)
  unfold List.Nodup at own ⊢
  rw [List.pairwise_map] at own ⊢
  exact own.imp fun ne same => ne (injective same)

end Names

section Workloads

variable {pod : Pod} {c : Container} {t : List Exchange} {wl : Workload}

theorem Yielding.key_eq (h : Yielding pod c t wl) :
    wl.key = ⟨pod.spaceOrDefault, workloadName pod.name c.name⟩ := by
  cases h
  rfl

theorem Yielding.explicit (h : Yielding pod c t wl) : wl.spec.allCores = false := by
  cases h
  rfl

theorem ContainerCpus.cores_ascending (pinned : ContainerCpus) :
    ∃ ids : List Int64, ids.Perm pinned.cpuIds ∧ ids.Pairwise (· ≤ ·) ∧
      pinned.cores = ids.map fun id => Text.signedDecimal id.toInt := by
  have trans (a b c : Int64) (hab : decide (a ≤ b) = true) (hbc : decide (b ≤ c) = true) :
      decide (a ≤ c) = true := by
    simp only [decide_eq_true_eq] at hab hbc ⊢
    exact Int64.le_trans hab hbc
  have total (a b : Int64) : (decide (a ≤ b) || decide (b ≤ a)) = true := by
    simp only [Bool.or_eq_true, decide_eq_true_eq]
    exact Int64.le_total a b
  have sorted := List.pairwise_mergeSort trans total pinned.cpuIds
  simp only [decide_eq_true_eq] at sorted
  exact ⟨_, List.mergeSort_perm _ _, sorted, rfl⟩

end Workloads

namespace World

variable {w : World} {scheme : Scheme}

/-- Applying workloads leads to no faults. -/
theorem Faultless.applying (h : w.Faultless scheme) (workloads : List Workload) :
    Faultless { w with cluster := w.cluster.applying workloads } scheme where
  quiet := ⟨h.quiet.unscripted, h.quiet.unfailing⟩
  up := h.up
  sound := h.sound
  nodes := h.nodes
  apart := h.apart
  staffed := h.staffed

/-- What a synchronized workload has on a target: one entry with the settings specified. -/
theorem Synced.settled {workloads : List Workload} {v : World} {wl : Workload} {n : NodeState}
    (h : w.Synced scheme workloads v) (mem : wl ∈ workloads) (explicit : wl.spec.allCores = false)
    (stated : n ∈ w.cluster.nodeStates) (target : n.node ∈ wl.spec.nodes) :
    ∃ a e, w.cluster.address? scheme n.node n.space = some a ∧
      Entry.owned wl.uuid (v.daemons.entriesAt a) = [e] ∧
      e.SameSettings (.ofSpec wl.uuid wl.spec.cores wl.spec) := by
  have staffed := h.faultless.staffed
  rw [h.cluster] at staffed
  obtain ⟨a, found, -⟩ := staffed n stated
  have right := h.inLine wl mem n stated a found
  rw [InLine, if_pos target] at right
  obtain ⟨cores, chosen, e, only, same⟩ := right
  have listed : w.cluster.cores? wl.spec n.node = some wl.spec.cores := by
    simp [Cluster.cores?, WorkloadSpec.coreSelection, explicit]
  obtain rfl : cores = wl.spec.cores := Option.some.inj (chosen.symm.trans listed)
  exact ⟨a, e, found, only, same⟩

/-- What it has elsewhere: none. -/
theorem Synced.absent {workloads : List Workload} {v : World} {wl : Workload} {n : NodeState} {a : String}
    (h : w.Synced scheme workloads v) (mem : wl ∈ workloads) (stated : n ∈ w.cluster.nodeStates)
    (untargeted : n.node ∉ wl.spec.nodes) (found : w.cluster.address? scheme n.node n.space = some a) :
    Entry.owned wl.uuid (v.daemons.entriesAt a) = [] := by
  have right := h.inLine wl mem n stated a found
  rwa [InLine, if_neg untargeted] at right

end World

/-- A pod with a container that qualifies and one like it that runs before. -/
def podOfTwo : Pod :=
  let pod := guaranteedPod "web-0" "nginx"
  { pod with
    spec := pod.spec.map fun s =>
      { s with initContainers := some (s.containers.map fun c => { c with name := "setup" }) } }

/-- A cluster of two nodes, of which the second holds an entry left over, and the CPUs of that pod. -/
def pinnedHost : World where
  daemons := ({} : Daemons).insert "http://10.0.0.2:8443" "web-0-rmd-workload-nginx.shop"
  cluster := (twoPodsHost.cluster.addDaemonNode "n1" "rmd" "10.0.0.1" 16).addDaemonNode
    "n2" "rmd" "10.0.0.2" 16
  podCpus := .ok [⟨"web-0", "shop", [⟨"nginx", [10]⟩, ⟨"setup", [3]⟩]⟩]

end CachePartition
