import CachePartition.Reconcile.Synchronization

/-! The external ids that entries carry: which pairs of a name and a namespace share one. A point stands
between the two, and names may hold points too, so an id tells its pair only if namespaces hold none. -/
namespace CachePartition

variable {name space name' space' : String}

/-- The second pair's name is the first one's, a point and a part with which, before another point, the
first pair's namespace begins. -/
def Shifted (name space name' space' : String) : Prop :=
  ∃ part, name' = name ++ "." ++ part ∧ space = part ++ "." ++ space'

theorem Shifted.externalId_eq (h : Shifted name space name' space') :
    externalId name space = externalId name' space' := by
  obtain ⟨part, rfl, rfl⟩ := h
  simp only [externalId, String.append_assoc]

theorem Shifted.point_mem (h : Shifted name space name' space') : '.' ∈ space.toList := by
  obtain ⟨part, -, rfl⟩ := h
  simp

theorem Shifted.name_ne (h : Shifted name space name' space') : name ≠ name' := by
  obtain ⟨part, longer, -⟩ := h
  intro same
  have length := congrArg String.length (same.trans longer)
  simp only [String.length_append] at length
  have : ".".length = 1 := rfl
  omega

theorem toList_externalId (name space : String) :
    (externalId name space).toList = name.toList ++ '.' :: space.toList := by
  simp [externalId]

/-- What follows the shorter of two names in equal ids decides how the pairs are related. -/
theorem same_or_shifted {rest : List Char} (hname : name'.toList = name.toList ++ rest)
    (h : '.' :: space.toList = rest ++ '.' :: space'.toList) :
    (name = name' ∧ space = space') ∨ Shifted name space name' space' := by
  cases rest with
  | nil =>
    rw [List.append_nil, String.toList_inj] at hname
    exact .inl ⟨hname.symm, String.toList_inj.mp (List.cons.inj h).2⟩
  | cons c part =>
    obtain ⟨rfl, hspace⟩ := List.cons.inj h
    refine .inr ⟨String.ofList part, ?_, ?_⟩
    · simp [← String.toList_inj, hname]
    · simp [← String.toList_inj, hspace]

/-- Ids are equal for no other pairs than those that are the same or shifted. -/
theorem externalId_eq_iff : externalId name space = externalId name' space' ↔
    (name = name' ∧ space = space') ∨ Shifted name space name' space' ∨
      Shifted name' space' name space := by
  constructor
  · intro h
    rw [← String.toList_inj, toList_externalId, toList_externalId] at h
    rcases List.append_eq_append_iff.mp h with ⟨rest, hname, hspace⟩ | ⟨rest, hname, hspace⟩
    · rcases same_or_shifted hname hspace with same | shifted
      · exact .inl same
      · exact .inr (.inl shifted)
    · rcases same_or_shifted hname hspace with ⟨rfl, rfl⟩ | shifted
      · exact .inl ⟨rfl, rfl⟩
      · exact .inr (.inr shifted)
  · rintro (⟨rfl, rfl⟩ | shifted | shifted)
    · rfl
    · exact shifted.externalId_eq
    · exact shifted.externalId_eq.symm

example : Shifted "web" "prod.eu" "web.prod" "eu" := ⟨"prod", rfl, rfl⟩

theorem externalId_inj : externalId name space = externalId name' space ↔ name = name' := by
  rw [externalId, externalId, ← String.toList_inj, ← String.toList_inj]
  simp

theorem eq_of_externalId (plain : '.' ∉ space.toList) (plain' : '.' ∉ space'.toList)
    (h : externalId name space = externalId name' space') : name = name' ∧ space = space' := by
  rcases externalId_eq_iff.mp h with same | shifted | shifted
  · exact same
  · exact absurd shifted.point_mem plain
  · exact absurd shifted.point_mem plain'

theorem space_eq_of_externalId (h : externalId name space = externalId name space') :
    space = space' := by
  rcases externalId_eq_iff.mp h with ⟨-, same⟩ | shifted | shifted
  · exact same
  · exact absurd rfl shifted.name_ne
  · exact absurd rfl shifted.name_ne

/-- Ids tell the workloads apart: their namespaces hold no point, or their names are the same. -/
def Workload.Discernible (v w : Workload) : Prop :=
  ('.' ∉ v.space.toList ∧ '.' ∉ w.space.toList) ∨ v.name = w.name

theorem Workload.Discernible.key_eq {v w : Workload} (h : v.Discernible w) (same : v.uuid = w.uuid) :
    v.key = w.key := by
  have pairs : v.name = w.name ∧ v.space = w.space := by
    rcases h with ⟨plain, plain'⟩ | names
    · exact eq_of_externalId plain plain' same
    · rw [uuid, uuid, names] at same
      exact ⟨names, space_eq_of_externalId same⟩
  change ObjectKey.mk v.space v.name = ObjectKey.mk w.space w.name
  rw [pairs.1, pairs.2]

end CachePartition
