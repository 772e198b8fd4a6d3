import CachePartition.Naming
import Mathlib.Data.List.Infix

/-! The names of derived workloads: which of them lead back to their pod, and which pairs of a pod and a
container share one. Containers are checked for the separator and pods are not, and two separators can
have a hyphen in common. -/
namespace CachePartition

namespace Text

variable {sep s a b d x y z : List Char}

/-- Splitting is at the first of all occurrences. -/
theorem splitOnce?_first (h : splitOnce? sep s = some (a, b)) (occurs : s = x ++ sep ++ y) :
    a.length ≤ x.length := by
  induction s generalizing a b x with
  | nil =>
    simp only [splitOnce?] at h
    split at h
    · cases h
      exact Nat.zero_le _
    · cases h
  | cons c rest ih =>
    simp only [splitOnce?] at h
    split at h
    · cases h
      exact Nat.zero_le _
    · next absent =>
      obtain ⟨⟨a', b'⟩, later, heq⟩ := Option.map_eq_some_iff.mp h
      cases heq
      cases x with
      | nil =>
        have here : sep.isPrefixOf (c :: rest) = true := by
          rw [List.isPrefixOf_iff_prefix, occurs]
          exact ⟨y, rfl⟩
        exact absurd here absent
      | cons c' x => exact Nat.succ_le_succ (ih later (List.cons.inj occurs).2)

/-- A text before an occurrence is what splitting gives, unless another occurrence begins in it. -/
theorem splitOnce?_append_iff : splitOnce? sep (a ++ (sep ++ b)) = some (a, b) ↔
    ∀ x d y, a = x ++ d → sep ++ y = d ++ (sep ++ b) → d = [] := by
  have occurs : sep <:+: a ++ (sep ++ b) := ⟨a, b, by simp⟩
  have found := splitOnce?_isSome_of_infix occurs
  obtain ⟨⟨a', b'⟩, split⟩ := Option.isSome_iff_exists.mp found
  have parts := append_of_splitOnce? split
  rw [split]
  constructor
  · rintro ⟨⟩ x d y rfl h
    have first := splitOnce?_first split (x := x) (y := y) (by simp [h])
    rw [List.length_append] at first
    exact List.length_eq_zero_iff.mp (by omega)
  · intro alone
    have first := splitOnce?_first split (x := a) (y := b) (by simp)
    rw [List.append_assoc] at parts
    obtain ⟨d, rfl⟩ : a' <+: a :=
      List.prefix_of_prefix_length_le (parts.symm ▸ List.prefix_append a' (sep ++ b'))
        (List.prefix_append _ _) first
    rw [List.append_assoc, List.append_cancel_left_eq] at parts
    -- Were there more of the text before the occurrence, another one would begin in it.
    obtain rfl := alone a' d b' rfl parts.symm
    rw [List.nil_append, List.append_cancel_left_eq] at parts
    rw [List.append_nil, parts]

/-- Two occurrences of a text that begins like its end in one character only: the second begins where the
first does, or with its last character, or after it. -/
theorem occurrences_apart (borders : ∀ n, 0 < n → n + 1 < sep.length → ¬ sep.drop n <+: sep)
    (h : sep ++ y = d ++ (sep ++ z)) : d = [] ∨ d = sep.dropLast ∨ sep <+: d := by
  have first : sep <+: sep ++ y := List.prefix_append _ _
  have start : d <+: sep ++ y := h ▸ List.prefix_append _ _
  by_cases after : sep.length ≤ d.length
  · exact .inr (.inr (List.prefix_of_prefix_length_le first start after))
  -- The second occurrence begins inside the first, which then ends as it begins.
  have within : d <+: sep := List.prefix_of_prefix_length_le start first (by omega)
  have shared : sep.drop d.length <+: sep := by
    obtain ⟨t, rfl⟩ := within
    rw [List.append_assoc, List.append_cancel_left_eq] at h
    rw [List.drop_left]
    exact List.prefix_of_prefix_length_le ⟨y, h⟩ (List.prefix_append _ _) (by simp)
  by_cases same : d.length = 0
  · exact .inl (List.length_eq_zero_iff.mp same)
  have last : ¬ d.length + 1 < sep.length := fun inside => borders _ (by omega) inside shared
  refine .inr (.inl ?_)
  rw [List.dropLast_eq_take, List.prefix_iff_eq_take.mp within]
  congr 1
  omega

end Text

/-- The separator without its last hyphen. -/
def separatorStem : String := "-rmd-workload"

/-- A separator begins in the name of the pod if another one follows it: the name holds a separator, or
ends in all of one but the last hyphen. -/
def beginsSeparator (pod : String) : Bool :=
  Text.occursIn workloadSeparator.toList pod.toList ||
    Text.endsWith pod.toList separatorStem.toList

/-- The second pod is named like the first with most of a separator after it, which the name of the
first's container completes. -/
def Overlap (pod container pod' container' : String) : Prop :=
  pod' = pod ++ separatorStem ∧ container = "rmd-workload-" ++ container'

/-- The pairs of a pod and a container are the same, or overlap. -/
def Meet (pod container pod' container' : String) : Prop :=
  (pod = pod' ∧ container = container') ∨ Overlap pod container pod' container' ∨
    Overlap pod' container' pod container

variable {pod container pod' container' : String}

theorem workloadSeparator_borders : ∀ n, 0 < n → n + 1 < workloadSeparator.toList.length →
    ¬ workloadSeparator.toList.drop n <+: workloadSeparator.toList := by
  have each : ∀ n < workloadSeparator.toList.length, 0 < n → n + 1 < workloadSeparator.toList.length →
      ¬ workloadSeparator.toList.drop n <+: workloadSeparator.toList := by
    decide
  exact fun n positive inside => each n (by omega) positive inside

theorem toList_workloadName (pod container : String) : (workloadName pod container).toList =
    pod.toList ++ (workloadSeparator.toList ++ container.toList) := by
  simp [workloadName]

theorem beginsSeparator_iff : beginsSeparator pod = true ↔
    workloadSeparator.toList <:+: pod.toList ∨ separatorStem.toList <:+ pod.toList := by
  rw [beginsSeparator, Bool.or_eq_true, Text.occursIn_iff_infix, Text.endsWith,
    List.isSuffixOf_iff_suffix]

/-- A name leads back to what stands before its first separator, unless nothing does. -/
theorem podOfWorkload?_eq_some {name : String} : podOfWorkload? name = some pod ↔ pod ≠ "" ∧
    ∃ rest, Text.splitOnce? workloadSeparator.toList name.toList = some (pod.toList, rest) := by
  rw [podOfWorkload?]
  cases Text.splitOnce? workloadSeparator.toList name.toList with
  | none => simp
  | some p =>
    obtain ⟨x, y⟩ := p
    have same : x = pod.toList ↔ String.ofList x = pod := by
      rw [← String.toList_inj, String.toList_ofList]
    have empty : x = [] ↔ String.ofList x = "" := by
      rw [← String.toList_inj, String.toList_ofList]
      rfl
    rw [Option.ite_none_left_eq_some, Option.some.injEq, ← same, List.isEmpty_iff]
    constructor
    · rintro ⟨something, rfl⟩
      exact ⟨fun nothing => something (empty.mpr ((same.mp rfl).trans nothing)), y, rfl⟩
    · rintro ⟨named, rest, split⟩
      obtain ⟨rfl, -⟩ := Prod.mk.inj (Option.some.inj split)
      exact ⟨fun nothing => named ((same.mp rfl).symm.trans (empty.mp nothing)), rfl⟩

theorem podOfWorkload?_eq_some_iff (named : pod ≠ "") :
    podOfWorkload? (workloadName pod container) = some pod ↔
      Text.splitOnce? workloadSeparator.toList (workloadName pod container).toList =
        some (pod.toList, container.toList) := by
  rw [podOfWorkload?_eq_some, and_iff_right named]
  refine ⟨fun ⟨rest, split⟩ => ?_, fun split => ⟨_, split⟩⟩
  have parts := Text.append_of_splitOnce? split
  rw [toList_workloadName, List.append_assoc, List.append_cancel_left_eq,
    List.append_cancel_left_eq] at parts
  rw [split, parts]

/-- The name of a derived workload leads back to its pod unless a separator begins in the name of the
pod. -/
theorem podOfWorkload?_workloadName (named : pod ≠ "") :
    podOfWorkload? (workloadName pod container) = some pod ↔ beginsSeparator pod = false := by
  rw [podOfWorkload?_eq_some_iff named, toList_workloadName, Text.splitOnce?_append_iff,
    ← Bool.not_eq_true, beginsSeparator_iff]
  constructor
  · rintro alone (⟨x, d, h⟩ | ⟨x, h⟩)
    · have := alone x (workloadSeparator.toList ++ d) _ (by simpa using h.symm) (List.append_assoc ..).symm
      simp [workloadSeparator] at this
    · have := alone x separatorStem.toList ("rmd-workload-".toList ++ container.toList) h.symm
        (by simp [separatorStem, workloadSeparator])
      simp [separatorStem] at this
  · intro none_begins x d y hpod h
    rcases Text.occurrences_apart workloadSeparator_borders h with rfl | rfl | inside
    · rfl
    · exact absurd (.inr (hpod ▸ List.suffix_append _ _)) none_begins
    · exact absurd (.inl (hpod ▸ inside.isInfix.trans (List.suffix_append _ _).isInfix)) none_begins

theorem Overlap.workloadName_eq (h : Overlap pod container pod' container') :
    workloadName pod container = workloadName pod' container' := by
  obtain ⟨rfl, rfl⟩ := h
  rw [← String.toList_inj, toList_workloadName, toList_workloadName]
  simp [workloadSeparator, separatorStem]

/-- What follows the longer of two pod names in equal workload names decides how the pairs are related. -/
theorem same_or_overlap {d : List Char}
    (plain : Text.occursIn workloadSeparator.toList container.toList = false)
    (hpod : pod'.toList = pod.toList ++ d) (h : workloadSeparator.toList ++ container.toList =
      d ++ (workloadSeparator.toList ++ container'.toList)) :
    (pod = pod' ∧ container = container') ∨ Overlap pod container pod' container' := by
  rcases Text.occurrences_apart workloadSeparator_borders h with rfl | rfl | ⟨e, rfl⟩
  · exact .inl ⟨by simpa [String.toList_inj] using hpod.symm, by simpa [String.toList_inj] using h⟩
  · refine .inr ⟨?_, ?_⟩
    · rw [← String.toList_inj, hpod, String.toList_append]
      rfl
    · rw [← String.toList_inj]
      simpa [workloadSeparator] using h
  · rw [List.append_assoc, List.append_cancel_left_eq] at h
    have holds := Text.occursIn_iff_infix.mpr ⟨e, container'.toList, by simpa using h.symm⟩
    exact absurd (plain.symm.trans holds) (by decide)

/-- Names of derived workloads whose containers hold no separator are equal only for the same pod and
container and for pairs that overlap. -/
theorem workloadName_eq_iff
    (plain : Text.occursIn workloadSeparator.toList container.toList = false)
    (plain' : Text.occursIn workloadSeparator.toList container'.toList = false) :
    workloadName pod container = workloadName pod' container' ↔
      Meet pod container pod' container' := by
  constructor
  · intro h
    rw [← String.toList_inj, toList_workloadName, toList_workloadName] at h
    rcases List.append_eq_append_iff.mp h with ⟨d, hpod, rest⟩ | ⟨d, hpod, rest⟩
    · rcases same_or_overlap plain hpod rest with same | overlap
      · exact .inl same
      · exact .inr (.inl overlap)
    · rcases same_or_overlap plain' hpod rest with ⟨rfl, rfl⟩ | overlap
      · exact .inl ⟨rfl, rfl⟩
      · exact .inr (.inr overlap)
  · rintro (⟨rfl, rfl⟩ | overlap | overlap)
    · rfl
    · exact overlap.workloadName_eq
    · exact overlap.workloadName_eq.symm

end CachePartition
