import CachePartition.Proofs.Annotations
import CachePartition.Proofs.Obstacles

/-! What becomes of an annotation for one container. The workload of the container carries what the annotation
says unless a later key overtakes it. Such a key goes on behind the name of the container with the character
that the suffix starts with, or one beyond it. -/
namespace CachePartition

open Pass

namespace Setting

/-- The key of the annotation for the setting of a container. -/
def keyFor (s : Setting) (container : String) : String := container ++ s.suffix

theorem suffix_start (s : Setting) : ∃ rest, s.suffix.toList = '_' :: rest := by
  apply List.head?_eq_some_iff.mp
  cases s <;> decide +kernel

theorem offers_keyFor {s : Setting} {container value : String} {v : s.Value} (h : s.Accepts value v) :
    Offers container s (s.keyFor container) value v := by
  constructor
  · simp [keyFor]
  · simp [keyFor]
  · exact h

end Setting

/-- A key behind that of the container's own annotation offers the setting a value as well. -/
structure Overtakes (annotations : TextMap String) (container : String) (s : Setting) (key : String) :
    Prop where
  offered : ∃ v, Offered annotations container s key v
  behind : s.keyFor container < key

section Keys

variable {annotations : TextMap String} {container key value : String} {s : Setting} {v w : s.Value}

/-- A key that overtakes starts with the name of the container, and does not go on with a character before the
underscore. -/
theorem Overtakes.goes_on (h : Overtakes annotations container s key) :
    ∃ x rest, '_' ≤ x ∧ key.toList = container.toList ++ x :: rest := by
  obtain ⟨⟨_, _, _, offers⟩, behind⟩ := h
  obtain ⟨goes_on, split⟩ := offers.starts
  obtain ⟨field, start⟩ := s.suffix_start
  have later : '_' :: field < goes_on := by
    rw [String.lt_iff, Setting.keyFor, String.toList_append, ← split, start] at behind
    by_contra before
    rcases List.le_iff_lt_or_eq.mp (List.not_lt.mp before) with less | rfl
    · exact List.lt_asymm behind (List.append_left_lt less)
    · exact List.lt_irrefl _ behind
  cases goes_on with
  | nil => exact absurd later (List.not_lt_nil _)
  | cons x rest =>
    refine ⟨x, rest, ?_, split.symm⟩
    rcases List.cons_lt_cons_iff.mp later with less | ⟨rfl, -⟩
    · exact Char.not_lt.mp (Char.lt_asymm less)
    · exact Char.le_refl _

/-- The own annotation of a container decides, or a key that overtakes it. -/
theorem Decides.own_or_overtakes (h : Decides annotations container s key w)
    (bound : annotations.get? (s.keyFor container) = some value) (accepted : s.Accepts value v) :
    key = s.keyFor container ∧ w = v ∨ Overtakes annotations container s key := by
  have own : Offered annotations container s (s.keyFor container) v :=
    ⟨value, bound, Setting.offers_keyFor accepted⟩
  rcases KeyOrder.lt_connected key (s.keyFor container) with before | rfl | behind
  · have reached := Text.utf8Bytes_le_iff.mp (h.greatest _ _ own)
    exact absurd before (String.not_lt.mpr reached)
  · exact .inl ⟨rfl, h.offered.value_eq own⟩
  · exact .inr ⟨⟨w, h.offered⟩, behind⟩

end Keys

/-- What a workload carries for a setting. -/
def Workload.setting (w : Workload) : (s : Setting) → s.Value
  | .policy => w.spec.policy
  | .mbaPercentage => w.spec.allocation.bandwidth.percentage
  | .mbaMbps => w.spec.allocation.bandwidth.mbps
  | .powerRatio => w.spec.powerState.ratio
  | .powerMonitoring => w.spec.powerState.monitoring

theorem Yielding.setting_eq {pod : Pod} {c : Container} {t : List Exchange} {w : Workload}
    (h : Yielding pod c t w) (s : Setting) :
    w.setting s = (Overrides.ofAnnotations pod.annotations c.name).get s := by
  cases h
  cases s <;> rfl

/-- What holds of each container that qualifies and what it yields holds of the workloads derived, in order. -/
theorem derived_forall {σ : Type} {answer : Surroundings σ} {st : σ} {pod : Pod} {hostIp : String}
    {workloads : List Workload} {R : Container → Workload → Prop}
    (derived : ((derive pod hostIp).run.run answer st).value = .ok workloads)
    (each : ∀ c t w, Yielding pod c t w → R c w) : List.Forall₂ R (pod.qualifying hostIp) workloads := by
  have yields := run_yields (derive pod hostIp).run answer st
  rw [derived] at yields
  obtain ⟨rounds, -, rfl, all⟩ := derive_rounds yields
  rw [List.forall₂_map_right_iff]
  exact all.imp fun c round yielding => each c round.1 round.2 yielding

/-- A container's own annotation, if its value is acceptable, decides the setting in the workload derived for the
container unless other keys overtake it: keys that start with the name of the container, end with the suffix of
the setting, have an acceptable value and come later. Then the greatest of them decides. None of them goes on
behind the name of the container with a character before the underscore, such as a hyphen or a digit. -/
theorem own_annotation_unless_overtaken {σ : Type} {answer : Surroundings σ} {st : σ} {pod : Pod}
    {hostIp : String} {workloads : List Workload}
    (derived : ((derive pod hostIp).run.run answer st).value = .ok workloads) :
    List.Forall₂ (fun c w => ∀ (s : Setting) (value : String) (v : s.Value),
        pod.annotations.get? (s.keyFor c.name) = some value → s.Accepts value v →
        ((∀ key, ¬ Overtakes pod.annotations c.name s key) → w.setting s = v) ∧
        ((∃ key, Overtakes pod.annotations c.name s key) → ∃ key,
          Overtakes pod.annotations c.name s key ∧ Decides pod.annotations c.name s key (w.setting s)) ∧
        ∀ key, Overtakes pod.annotations c.name s key →
          ∃ x rest, '_' ≤ x ∧ key.toList = c.name.toList ++ x :: rest)
      (pod.qualifying hostIp) workloads := by
  apply derived_forall derived
  intro c t w yielding s value v bound accepted
  have own : Offered pod.annotations c.name s (s.keyFor c.name) v :=
    ⟨value, bound, Setting.offers_keyFor accepted⟩
  have decided : ∃ key, Decides pod.annotations c.name s key (w.setting s) := by
    rw [yielding.setting_eq]
    rcases decides_or_unset pod.annotations c.name s with decided | ⟨silent, -⟩
    · exact decided
    · exact absurd own (silent _ _)
  obtain ⟨key, decides⟩ := decided
  refine ⟨?_, ?_, fun key' overtakes => overtakes.goes_on⟩
  · intro alone
    rcases decides.own_or_overtakes bound accepted with ⟨-, same⟩ | overtakes
    · exact same
    · exact absurd overtakes (alone key)
  · rintro ⟨key', overtakes'⟩
    refine ⟨key, ?_, decides⟩
    rcases decides.own_or_overtakes bound accepted with ⟨rfl, -⟩ | overtakes
    · obtain ⟨⟨v', offered⟩, behind⟩ := overtakes'
      have reached := Text.utf8Bytes_le_iff.mp (decides.greatest _ _ offered)
      exact absurd behind (String.not_lt.mpr reached)
    · exact overtakes

/-- A pod with two containers, of which one qualifies, and an annotation for each of them. -/
def neighbouredPod : Pod :=
  let pod := guaranteedPod "web-0" "web"
  { pod with
    metadata := { pod.metadata with
      annotations := some (.ofList [("web_policy", "gold"), ("webapp_policy", "silver")]) }
    spec := pod.spec.map fun s => { s with containers := s.containers ++ [{ name := "webapp" }] } }

/-- A host on which a CPU is pinned for the first of them. -/
def neighbouredHost : World where
  podCpus := .ok [⟨"web-0", "shop", [⟨"web", [1]⟩]⟩]

/-- The container's own annotation does not decide, but that for a container whose name goes on with a letter. -/
theorem neighbour_overtakes :
    let derived := (derive neighbouredPod "192.168.1.10").run.run World.answer neighbouredHost
    neighbouredPod.annotations.get? (Setting.policy.keyFor "web") = some "gold" ∧
    Setting.policy.Accepts "gold" "gold" ∧
    derived.value.map (List.map fun w => (w.name, w.spec.policy)) =
      .ok [(workloadName "web-0" "web", "silver")] := by
  intro derived
  refine ⟨by decide +kernel, ⟨by decide, rfl⟩, ?_⟩
  decide +kernel

/-- So does the greatest of the keys that overtake. -/
theorem own_annotation_unless_overtaken_neighboured :
    ∃ w, ((derive neighbouredPod "192.168.1.10").run.run World.answer neighbouredHost).value = .ok [w] ∧
      Overtakes neighbouredPod.annotations "web" .policy "webapp_policy" ∧
      ∃ key, Overtakes neighbouredPod.annotations "web" .policy key ∧
        Decides neighbouredPod.annotations "web" .policy key w.spec.policy := by
  have qualifying : (neighbouredPod.qualifying "192.168.1.10").map (·.name) = ["web"] := by decide +kernel
  have succeeded : ((derive neighbouredPod "192.168.1.10").run.run World.answer
      neighbouredHost).value.toOption.isSome = true := by decide +kernel
  have own : neighbouredPod.annotations.get? (Setting.policy.keyFor "web") = some "gold" := by decide +kernel
  have overtakes : Overtakes neighbouredPod.annotations "web" .policy "webapp_policy" := by
    refine ⟨⟨"silver", "silver", by decide +kernel, ?_⟩, by decide +kernel⟩
    exact ⟨by decide +kernel, by decide +kernel, by decide, rfl⟩
  cases derived : ((derive neighbouredPod "192.168.1.10").run.run World.answer neighbouredHost).value with
  | error r =>
    rw [derived] at succeeded
    cases succeeded
  | ok workloads =>
    have each := own_annotation_unless_overtaken derived
    obtain ⟨c, alone, named⟩ := List.map_eq_singleton_iff.mp qualifying
    rw [alone] at each
    obtain ⟨w, _, carries, rest, rfl⟩ := List.forall₂_cons_left_iff.mp each
    obtain rfl := List.forall₂_nil_left_iff.mp rest
    refine ⟨w, rfl, overtakes, ?_⟩
    have carried := carries .policy "gold" "gold"
    simp only [named] at carried
    exact (carried own ⟨by decide, rfl⟩).2.1 ⟨_, overtakes⟩

end CachePartition
