import CachePartition.Proofs.Numerals
import CachePartition.Proofs.Obstacles

/-! Which CPUs are pinned to a container. They are those that the current listing shows for the first container
of the name in the pods of the name, in ascending order as numbers, and nothing else in the listing matters. -/
namespace CachePartition

open Pass

namespace Text

/-- The canonical text of a number: its digits, of which zero leads only alone, behind a minus sign if the number
is negative. -/
inductive CanonicalInt : List Char → Int → Prop where
  | natural {ds : List Char} (whole : Decimal.Whole ds) : CanonicalInt ds (Decimal.digitsValue 0 ds)
  | negative {ds : List Char} (whole : Decimal.Whole ds) (nonzero : Decimal.digitsValue 0 ds ≠ 0) :
    CanonicalInt ('-' :: ds) (-(Decimal.digitsValue 0 ds : Int))

theorem canonicalInt_signedDecimal (i : Int) : CanonicalInt (signedDecimal i).toList i := by
  have whole := Decimal.whole_toDigits i.natAbs
  have value := Decimal.digitsValue_toDigits i.natAbs
  unfold signedDecimal
  split
  · next negative =>
    have written := CanonicalInt.negative whole (by omega)
    rw [value, show -(i.natAbs : Int) = i by omega] at written
    rwa [String.toList_ofList]
  · next natural =>
    have written := CanonicalInt.natural whole
    rw [value, show (i.natAbs : Int) = i by omega] at written
    rwa [decimal, String.toList_ofList]

end Text

/-- The CPUs of a container are given by number, in ascending order, each as often as it is listed. -/
theorem ContainerCpus.cores_numbers (c : ContainerCpus) : ∃ ids : List Int,
    List.Forall₂ (fun text i => Text.CanonicalInt text.toList i) c.cores ids ∧ ids.Pairwise (· ≤ ·) ∧
      ids.Perm (c.cpuIds.map Int64.toInt) := by
  obtain ⟨ids, all, ascending, cores⟩ := c.cores_ascending
  refine ⟨ids.map Int64.toInt, ?_, ?_, all.map _⟩
  · rw [cores, List.forall₂_map_left_iff, List.forall₂_map_right_iff, List.forall₂_same]
    intro id _
    exact Text.canonicalInt_signedDecimal id.toInt
  · rw [List.pairwise_map]
    exact ascending.imp Int64.le_iff_toInt_le.mp

/-- A pod is of a name and has a container of a name. -/
def PodCpus.Holds (p : PodCpus) (space pod container : String) : Prop :=
  (p.space = space ∧ p.name = pod) ∧ ∃ c ∈ p.containers, c.name = container

/-- The first container of a name in the pods of a name, in the order of the listing. -/
inductive FirstListed (pods : List PodCpus) (space pod container : String) : ContainerCpus → Prop where
  | intro {p : PodCpus} {before after : List PodCpus} {c : ContainerCpus} {earlier later : List ContainerCpus}
      (split : pods = before ++ p :: after) (absent : ∀ q ∈ before, ¬ q.Holds space pod container)
      (own : p.space = space ∧ p.name = pod) (containers : p.containers = earlier ++ c :: later)
      (first : ∀ d ∈ earlier, d.name ≠ container) (named : c.name = container) :
    FirstListed pods space pod container c

/-- Listings that differ in nothing but pods without the container and other containers. -/
inductive AlikeFor (space pod container : String) : List PodCpus → List PodCpus → Prop where
  | nil : AlikeFor space pod container [] []
  | added {p : PodCpus} {l l' : List PodCpus} (without : ¬ p.Holds space pod container)
      (rest : AlikeFor space pod container l l') : AlikeFor space pod container l (p :: l')
  | removed {p : PodCpus} {l l' : List PodCpus} (without : ¬ p.Holds space pod container)
      (rest : AlikeFor space pod container l l') : AlikeFor space pod container (p :: l) l'
  | altered {p p' : PodCpus} {l l' : List PodCpus} (names : p.space = p'.space ∧ p.name = p'.name)
      (same : p.containers.filter (·.name = container) = p'.containers.filter (·.name = container))
      (rest : AlikeFor space pod container l l') : AlikeFor space pod container (p :: l) (p' :: l')

section Listing

variable {space pod container : String} {p p' : PodCpus} {pods pods' : List PodCpus} {c : ContainerCpus}

/-- The container of a name in a pod, if the pod is of a name. -/
def PodCpus.find? (p : PodCpus) (space pod container : String) : Option ContainerCpus :=
  if p.space = space ∧ p.name = pod then (p.containers.filter (·.name = container)).head? else none

theorem PodCpus.find?_eq_none : p.find? space pod container = none ↔ ¬ p.Holds space pod container := by
  unfold find? Holds
  split
  · next own => simp [own]
  · next other => simp [other]

theorem PodCpus.find?_eq_some : p.find? space pod container = some c ↔
    (p.space = space ∧ p.name = pod) ∧ ∃ earlier later, p.containers = earlier ++ c :: later ∧
      (∀ d ∈ earlier, d.name ≠ container) ∧ c.name = container := by
  unfold find?
  split
  · next own =>
    rw [List.head?_filter, List.find?_eq_some_iff_append]
    constructor
    · rintro ⟨named, earlier, later, split, first⟩
      exact ⟨own, earlier, later, split, by simpa using first, by simpa using named⟩
    · rintro ⟨-, earlier, later, split, first, named⟩
      exact ⟨by simpa using named, earlier, later, split, by simpa using first⟩
  · next other => simp [other]

/-- A container is looked for in one pod after the other. -/
theorem findContainer?_eq_findSome? (pods : List PodCpus) (space pod container : String) :
    findContainer? pods space pod container = pods.findSome? (·.find? space pod container) := by
  unfold findContainer?
  induction pods with
  | nil => rfl
  | cons p pods ih =>
    rw [List.findSome?_cons, List.filter_cons]
    unfold PodCpus.find?
    split
    · next own =>
      have own : p.space = space ∧ p.name = pod := by simpa using own
      rw [List.flatMap_cons, List.find?_append, ih, if_pos own, List.head?_filter]
      cases p.containers.find? fun c => c.name = container <;> rfl
    · next other =>
      have other : ¬ (p.space = space ∧ p.name = pod) := by simpa using other
      rw [ih, if_neg other]
      rfl

theorem findContainer?_eq_none : findContainer? pods space pod container = none ↔
    ∀ p ∈ pods, ¬ p.Holds space pod container := by
  simp only [findContainer?_eq_findSome?, List.findSome?_eq_none_iff, PodCpus.find?_eq_none]

theorem findContainer?_eq_some : findContainer? pods space pod container = some c ↔
    FirstListed pods space pod container c := by
  rw [findContainer?_eq_findSome?, List.findSome?_eq_some_iff]
  constructor
  · rintro ⟨before, p, after, split, found, absent⟩
    obtain ⟨own, earlier, later, containers, first, named⟩ := PodCpus.find?_eq_some.mp found
    exact .intro split (fun q mem => PodCpus.find?_eq_none.mp (absent q mem)) own containers first named
  · rintro ⟨split, absent, own, containers, first, named⟩
    refine ⟨_, _, _, split, ?_, fun q mem => PodCpus.find?_eq_none.mpr (absent q mem)⟩
    exact PodCpus.find?_eq_some.mpr ⟨own, _, _, containers, first, named⟩

theorem AlikeFor.findContainer?_eq (h : AlikeFor space pod container pods pods') :
    findContainer? pods space pod container = findContainer? pods' space pod container := by
  simp only [findContainer?_eq_findSome?]
  induction h with
  | nil => rfl
  | added without _ ih => rw [List.findSome?_cons, PodCpus.find?_eq_none.mpr without, ih]
  | removed without _ ih => rw [List.findSome?_cons, PodCpus.find?_eq_none.mpr without, ih]
  | @altered p p' _ _ names same _ ih =>
    have found : p.find? space pod container = p'.find? space pod container := by
      unfold PodCpus.find?
      rw [names.1, names.2, same]
    rw [List.findSome?_cons, List.findSome?_cons, found, ih]

end Listing

/-- The CPUs of a container are what the current listing shows, which is asked for once, and for nothing else. They
are not found just if no pod of the name and namespace has a container of the name. If one has, they are the numbers
of the first such container, in ascending order, each as often as it is listed and in its canonical text. Other pods
and containers in the listing change nothing, nor does what went before. -/
theorem pinned_cpus_ascending (space pod container : String) {σ : Type} (answer : Surroundings σ) (s : σ) :
    let o := (containerCpus space pod container).run.run answer s
    let listing := (answer s .podCpus).1
    (o.trace = [⟨.podCpus, listing⟩] ∧ o.state = (answer s .podCpus).2) ∧
    (∀ e, listing = .error e → o.value = .error ⟨e, []⟩) ∧
    ∀ pods, listing = .ok pods →
      (o.value = .error ⟨.notFound (space ++ "/" ++ pod) container, []⟩ ↔
        ∀ p ∈ pods, ¬ p.Holds space pod container) ∧
      (∀ p ∈ pods, p.Holds space pod container → ∃ c texts ids, FirstListed pods space pod container c ∧
        o.value = .ok texts ∧ List.Forall₂ (fun text i => Text.CanonicalInt text.toList i) texts ids ∧
        ids.Pairwise (· ≤ ·) ∧ ids.Perm (c.cpuIds.map Int64.toInt)) ∧
      ∀ pods', AlikeFor space pod container pods pods' →
        ∀ {τ : Type} (answer' : Surroundings τ) (t : τ), (answer' t .podCpus).1 = .ok pods' →
          ((containerCpus space pod container).run.run answer' t).value = o.value := by
  intro o listing
  have ran : o = _ := run_containerCpus space pod container
  refine ⟨⟨congrArg Outcome.trace ran, congrArg Outcome.state ran⟩, ?_, ?_⟩
  · intro e failed
    rw [ran]
    simp only [listing] at failed
    simp [coresListed, failed]
  · intro pods listed
    have value : o.value = coresListed space pod container (.ok pods) := by
      rw [ran, ← listed]
    refine ⟨?_, ?_, ?_⟩
    · rw [value, ← findContainer?_eq_none]
      cases found : findContainer? pods space pod container <;> simp [coresListed, found]
    · intro p mem holds
      cases found : findContainer? pods space pod container with
      | none => exact absurd holds (findContainer?_eq_none.mp found p mem)
      | some c =>
        obtain ⟨ids, numbers, ascending, all⟩ := c.cores_numbers
        refine ⟨c, c.cores, ids, findContainer?_eq_some.mp found, ?_, numbers, ascending, all⟩
        simp [value, coresListed, found]
    · intro pods' alike τ answer' t listed'
      rw [run_containerCpus, listed', value]
      simp only [coresListed, alike.findContainer?_eq]

/-- A listing with other containers and pods around a container. -/
def crowdedListing : List PodCpus :=
  [⟨"web", "staging", [⟨"nginx", [4]⟩]⟩,
    ⟨"web", "shop", [⟨"nginx-sidecar", [5]⟩, ⟨"nginx", [12, -3, 10, 2, 10]⟩, ⟨"nginx", [7]⟩]⟩]

/-- The same container without them. -/
def sparseListing : List PodCpus := [⟨"web", "shop", [⟨"nginx", [12, -3, 10, 2, 10]⟩, ⟨"nginx", [7]⟩]⟩]

/-- As texts the numbers would be in another order. -/
theorem pinned_cpus_ascending_crowded :
    let cpus (pods : List PodCpus) :=
      ((containerCpus "shop" "web" "nginx").run.run World.answer { podCpus := .ok pods }).value
    AlikeFor "shop" "web" "nginx" crowdedListing sparseListing ∧ cpus sparseListing = cpus crowdedListing ∧
    (∃ p ∈ crowdedListing, p.Holds "shop" "web" "nginx") ∧ ∃ texts, cpus crowdedListing = .ok texts ∧
      List.Forall₂ (fun text i => Text.CanonicalInt text.toList i) texts [-3, 2, 10, 10, 12] := by
  intro cpus
  have alike : AlikeFor "shop" "web" "nginx" crowdedListing sparseListing := by
    refine .removed ?_ (.altered ⟨rfl, rfl⟩ (by decide) .nil)
    rintro ⟨⟨other, -⟩, -⟩
    exact absurd other (by decide)
  have holds : PodCpus.Holds ⟨"web", "shop",
      [⟨"nginx-sidecar", [5]⟩, ⟨"nginx", [12, -3, 10, 2, 10]⟩, ⟨"nginx", [7]⟩]⟩ "shop" "web" "nginx" :=
    ⟨⟨rfl, rfl⟩, ⟨"nginx", [7]⟩, by decide, rfl⟩
  have mem : _ ∈ crowdedListing := List.mem_cons_of_mem _ List.mem_cons_self
  obtain ⟨-, found, unmoved⟩ := (pinned_cpus_ascending "shop" "web" "nginx" World.answer
    { podCpus := .ok crowdedListing }).2.2 crowdedListing rfl
  have same : cpus sparseListing = cpus crowdedListing :=
    unmoved sparseListing alike World.answer { podCpus := .ok sparseListing } rfl
  obtain ⟨c, texts, ids, first, told, numbers, ascending, all⟩ := found _ mem holds
  have own : findContainer? crowdedListing "shop" "web" "nginx" = some ⟨"nginx", [12, -3, 10, 2, 10]⟩ := by
    decide +kernel
  obtain rfl := Option.some.inj (own.symm.trans (findContainer?_eq_some.mpr first))
  have sorted : ids = [-3, 2, 10, 10, 12] := by
    have listed : ids.Perm [-3, 2, 10, 10, 12] := all.trans (by decide)
    exact listed.eq_of_pairwise (fun _ _ _ _ => Int.le_antisymm) ascending (by decide)
  exact ⟨alike, same, ⟨_, mem, holds⟩, texts, told, sorted ▸ numbers⟩

end CachePartition
