import CachePartition.World.Daemons
import Mathlib.Data.List.Nodup

/-! The tables of daemons, address by address: what each way of changing them does to what is held, and
the facts that make an id or a workload name at most one entry. -/
namespace CachePartition

/-- The entry with the settings of another; it keeps what the daemon gave it. -/
def Entry.withSettings (e body : Entry) : Entry :=
  { e with
    coreIds := body.coreIds
    policy := body.policy
    allocation := body.allocation
    plugins := body.plugins }

@[simp] theorem Entry.withSettings_id (e body : Entry) : (e.withSettings body).id = e.id := rfl

@[simp] theorem Entry.withSettings_uuid (e body : Entry) : (e.withSettings body).uuid = e.uuid := rfl

namespace Daemons

theorem amend_cons (id : String) (body e : Entry) (rest : List Entry) :
    amend id body (e :: rest) =
      if e.id = id then e.withSettings body :: rest else e :: amend id body rest := rfl

/-- Where ids are distinct, amending the first entry with an id is amending each. -/
theorem amend_eq_map {l : List Entry} (h : (l.map (·.id)).Nodup) (id : String) (body : Entry) :
    amend id body l = l.map fun e => if e.id = id then e.withSettings body else e := by
  induction l with
  | nil => rfl
  | cons e rest ih =>
    obtain ⟨he, hr⟩ := List.nodup_cons.mp h
    rw [amend_cons, List.map_cons]
    by_cases hid : e.id = id
    · have absent : ∀ f ∈ rest, f.id ≠ id := by
        intro f hf hfid
        exact he (List.mem_map.mpr ⟨f, hf, hfid.trans hid.symm⟩)
      have unchanged : rest.map (fun e => if e.id = id then e.withSettings body else e) = rest :=
        (List.map_congr_left fun f hf => if_neg (absent f hf)).trans (List.map_id' rest)
      rw [if_pos hid, if_pos hid, unchanged]
    · rw [if_neg hid, if_neg hid, ih hr]

/-- Amending keeps what an entry is known by. -/
theorem map_amend {β : Type} (g : Entry → β) (hg : ∀ e body : Entry, g (e.withSettings body) = g e)
    (id : String) (body : Entry) (l : List Entry) : (amend id body l).map g = l.map g := by
  induction l with
  | nil => rfl
  | cons e rest ih =>
    rw [amend_cons]
    split
    · rw [List.map_cons, List.map_cons, hg]
    · rw [List.map_cons, List.map_cons, ih]

end Daemons

namespace Entry

/-- The entries of a workload. -/
def owned (u : String) (l : List Entry) : List Entry := l.filter fun e => e.uuid = u

/-- The entries of all other workloads. -/
def foreign (u : String) (l : List Entry) : List Entry := l.filter fun e => e.uuid ≠ u

theorem findByUuid_eq_head? (l : List Entry) (u : String) :
    findByUuid l u = (owned u l).head? := by
  simp [findByUuid, owned]

theorem mem_of_findByUuid {l : List Entry} {u : String} {e : Entry}
    (h : findByUuid l u = some e) : e ∈ l ∧ e.uuid = u :=
  ⟨List.mem_of_find?_eq_some h, by simpa using List.find?_some h⟩

theorem findByUuid_eq_none_iff {l : List Entry} {u : String} :
    findByUuid l u = none ↔ ∀ e ∈ l, e.uuid ≠ u := by
  simp [findByUuid]

theorem owned_eq_nil_iff {l : List Entry} {u : String} : owned u l = [] ↔ ∀ e ∈ l, e.uuid ≠ u := by
  simp [owned]

theorem owned_of_foreign_eq {l l' : List Entry} {u v : String} (h : foreign u l' = foreign u l)
    (hv : v ≠ u) : owned v l' = owned v l := by
  have inside (l : List Entry) : owned v (foreign u l) = owned v l := by
    rw [owned, foreign, List.filter_filter, owned]
    refine List.filter_congr fun e _ => ?_
    by_cases he : e.uuid = v
    · simp [he, hv]
    · simp [he]
  rw [← inside l', h, inside]

section Drops

variable {l l' : List Entry} {u : String} {e : Entry}

/-- An id of one workload's entry is the id of no other workload's. -/
theorem foreign_drop (ids : (l.map (·.id)).Nodup) (held : e ∈ l) (own : e.uuid = u) :
    foreign u (l.filter fun f => f.id ≠ e.id) = foreign u l := by
  rw [foreign, List.filter_filter, foreign]
  refine List.filter_congr fun f hf => ?_
  by_cases same : f.id = e.id
  · obtain rfl := List.inj_on_of_nodup_map ids hf held same
    simp [own]
  · simp [same]

/-- A table from which the first entry of a workload, if it has any, has been taken. -/
structure Relieved (u : String) (l l' : List Entry) : Prop where
  owned : owned u l' = (owned u l).tail
  kept : l'.Sublist l

theorem relieved_absent (absent : findByUuid l u = none) : Relieved u l l := by
  have unowned : owned u l = [] := owned_eq_nil_iff.mpr (findByUuid_eq_none_iff.mp absent)
  exact ⟨by rw [unowned, List.tail_nil], List.Sublist.refl l⟩

theorem relieved_drop (ids : (l.map (·.id)).Nodup) (first : findByUuid l u = some e) :
    Relieved u l (l.filter fun f => f.id ≠ e.id) := by
  refine ⟨?_, List.filter_sublist⟩
  rw [findByUuid_eq_head?] at first
  obtain ⟨rest, held⟩ := List.head?_eq_some_iff.mp first
  have idsOwned : ((e :: rest).map (·.id)).Nodup := held ▸ ids.sublist (List.filter_sublist.map _)
  rw [List.map_cons, List.nodup_cons] at idsOwned
  have others : rest.filter (fun f => f.id ≠ e.id) = rest := by
    refine List.filter_eq_self.mpr fun f hf => decide_eq_true fun same => ?_
    exact idsOwned.1 (same ▸ List.mem_map_of_mem hf)
  have picked : Entry.owned u (l.filter fun f => f.id ≠ e.id) =
      (Entry.owned u l).filter fun f => f.id ≠ e.id := by
    simp only [Entry.owned, List.filter_filter, Bool.and_comm]
  rw [picked, held, List.filter_cons_of_neg (by simp), others, List.tail_cons]

end Drops

/-- No two entries share an id, and none belong to the same workload. -/
structure Distinct (l : List Entry) : Prop where
  ids : (l.map (·.id)).Nodup
  uuids : (l.map (·.uuid)).Nodup

namespace Distinct

variable {l : List Entry} {e f : Entry}

theorem eq_of_id (h : Distinct l) (he : e ∈ l) (hf : f ∈ l) (hid : e.id = f.id) : e = f :=
  List.inj_on_of_nodup_map h.ids he hf hid

theorem eq_of_uuid (h : Distinct l) (he : e ∈ l) (hf : f ∈ l) (hu : e.uuid = f.uuid) : e = f :=
  List.inj_on_of_nodup_map h.uuids he hf hu

/-- An id of one workload's entry is the id of no other workload's. -/
theorem id_ne (h : Distinct l) (he : e ∈ l) (hf : f ∈ l) (hu : f.uuid ≠ e.uuid) : f.id ≠ e.id :=
  fun hid => hu (congrArg uuid (h.eq_of_id hf he hid))

theorem owned_eq (h : Distinct l) (he : e ∈ l) : owned e.uuid l = [e] := by
  have nodup : (owned e.uuid l).Nodup := (h.uuids.of_map _).filter _
  refine List.perm_singleton.mp ((List.perm_ext_iff_of_nodup nodup (List.nodup_singleton e)).mpr ?_)
  intro f
  simp only [owned, List.mem_filter, decide_eq_true_eq, List.mem_singleton]
  constructor
  · rintro ⟨hf, hu⟩
    exact h.eq_of_uuid hf he hu
  · rintro rfl
    exact ⟨he, rfl⟩

theorem length_owned_le (h : Distinct l) (u : String) : (owned u l).length ≤ 1 := by
  cases ho : owned u l with
  | nil => simp
  | cons e rest =>
    obtain ⟨he, hu⟩ := List.mem_filter.mp (ho ▸ List.mem_cons_self : e ∈ owned u l)
    obtain rfl := of_decide_eq_true hu
    have only : e :: rest = [e] := ho.symm.trans (h.owned_eq he)
    simp [only]

/-- An id stands at one place only. -/
theorem index_eq (h : Distinct l) {i j : Nat} (he : l[i]? = some e) (hf : l[j]? = some f)
    (hid : e.id = f.id) : i = j := by
  have hi : (l.map (·.id))[i]? = some e.id := by simp [he]
  have hj : (l.map (·.id))[j]? = some f.id := by simp [hf]
  exact (List.getElem?_inj (List.getElem?_eq_some_iff.mp hi).1 h.ids).mp (by rw [hi, hj, hid])

/-- Amending commutes with picking entries by their workload. -/
theorem filter_amend (h : Distinct l) (p : String → Bool) (id : String) (body : Entry) :
    (Daemons.amend id body l).filter (fun f => p f.uuid) =
      (l.filter fun f => p f.uuid).map fun f => if f.id = id then f.withSettings body else f := by
  rw [Daemons.amend_eq_map h.ids, List.filter_map]
  congr 1
  refine List.filter_congr fun f _ => ?_
  simp only [Function.comp_apply]
  split <;> rfl

theorem owned_amend (h : Distinct l) (he : e ∈ l) (body : Entry) :
    owned e.uuid (Daemons.amend e.id body l) = [e.withSettings body] := by
  have only : l.filter (fun f => f.uuid = e.uuid) = [e] := h.owned_eq he
  rw [owned, h.filter_amend (· = e.uuid), only, List.map_singleton, if_pos rfl]

theorem foreign_amend (h : Distinct l) (he : e ∈ l) (body : Entry) :
    foreign e.uuid (Daemons.amend e.id body l) = foreign e.uuid l := by
  rw [foreign, h.filter_amend (· ≠ e.uuid)]
  refine (List.map_congr_left fun f hf => if_neg ?_).trans (List.map_id' _)
  obtain ⟨hf, hu⟩ := List.mem_filter.mp hf
  exact h.id_ne he hf (of_decide_eq_true hu)

theorem owned_drop (h : Distinct l) (he : e ∈ l) :
    owned e.uuid (l.filter fun f => f.id ≠ e.id) = [] := by
  rw [owned_eq_nil_iff]
  intro f hf hu
  obtain ⟨hf, hid⟩ := List.mem_filter.mp hf
  exact of_decide_eq_true hid (congrArg id (h.eq_of_uuid hf he hu))

end Distinct

end Entry

/-- What an entry is known by: the id the daemon issued and the workload it belongs to. -/
structure Entry.Identity where
  id : String
  uuid : String
  deriving DecidableEq, Repr

def Entry.identity (e : Entry) : Entry.Identity := ⟨e.id, e.uuid⟩

namespace Daemons

variable {d : Daemons} {a b u v : String} {e : Entry}

/-- The entry that a daemon keeps when it is given one. -/
def stored (d : Daemons) (e : Entry) : Entry :=
  { e with id := d.nextId, status := "Successful", className := classOf e.uuid }

theorem entriesAt_push (d : Daemons) (a : String) (e : Entry) (b : String) :
    (d.push a e).entriesAt b =
      if b = a then d.entriesAt a ++ [d.stored e] else d.entriesAt b := by
  by_cases h : b = a
  · subst h
    simp [entriesAt, push, stored]
  · simp [entriesAt, push, h, SortedMap.getD_insert_ne]

theorem mem_entriesAt_push {f : Entry} (h : f ∈ (d.push a e).entriesAt b) :
    f ∈ d.entriesAt b ∨ (b = a ∧ f = d.stored e) := by
  rw [entriesAt_push] at h
  split at h
  · next same =>
    rcases List.mem_append.mp h with old | recent
    · exact .inl (same ▸ old)
    · exact .inr ⟨same, List.mem_singleton.mp recent⟩
  · exact .inl h

/-- An entry given to a daemon that holds none of its workload is found there. -/
theorem findByUuid_push (absent : Entry.findByUuid (d.entriesAt a) e.uuid = none) :
    Entry.findByUuid ((d.push a e).entriesAt a) e.uuid = some (d.stored e) := by
  rw [entriesAt_push, if_pos rfl, Entry.findByUuid, List.find?_append, ← Entry.findByUuid, absent]
  simp [stored]

theorem entriesAt_mapAt (d : Daemons) (a : String) {f : List Entry → List Entry} (hf : f [] = [])
    (b : String) :
    (d.mapAt a f).entriesAt b = if b = a then f (d.entriesAt a) else d.entriesAt b := by
  have known (l : List Entry) (h : d.entries.get? a = some l) : d.entriesAt a = l := by
    simp [entriesAt, SortedMap.getD, h]
  cases h : d.entries.get? a with
  | none =>
    have empty : d.entriesAt a = [] := by simp [entriesAt, SortedMap.getD, h]
    by_cases hb : b = a
    · subst hb
      simp [mapAt, h, empty, hf]
    · simp [mapAt, h, hb]
  | some l =>
    rw [known l h]
    by_cases hb : b = a
    · subst hb
      simp [mapAt, h, entriesAt]
    · simp [mapAt, h, hb, entriesAt, SortedMap.getD_insert_ne]

/-- The identities of the entries at an address. -/
def identitiesAt (d : Daemons) (a : String) : List Entry.Identity :=
  (d.entriesAt a).map Entry.identity

theorem identity_mem (h : e ∈ d.entriesAt a) : e.identity ∈ d.identitiesAt a :=
  List.mem_map_of_mem h

theorem mem_identitiesAt {r : Entry.Identity} :
    r ∈ d.identitiesAt a ↔ ∃ e ∈ d.entriesAt a, e.identity = r := List.mem_map

theorem held_of_identity (h : e.identity ∈ d.identitiesAt a) :
    ∃ f ∈ d.entriesAt a, f.id = e.id ∧ f.uuid = e.uuid := by
  obtain ⟨f, hf, same⟩ := mem_identitiesAt.mp h
  exact ⟨f, hf, congrArg (·.id) same, congrArg (·.uuid) same⟩

theorem identitiesAt_push (d : Daemons) (a : String) (e : Entry) (b : String) :
    (d.push a e).identitiesAt b =
      if b = a then d.identitiesAt a ++ [⟨d.nextId, e.uuid⟩] else d.identitiesAt b := by
  by_cases h : b = a
  · simp [identitiesAt, entriesAt_push, h, stored, Entry.identity]
  · simp [identitiesAt, entriesAt_push, h]

/-- Each daemon holds at most one entry of a workload, and an id belongs to one entry of all the
daemons, which have issued it. -/
structure Sound (d : Daemons) : Prop where
  uuids (a : String) : ((d.identitiesAt a).map (·.uuid)).Nodup
  ids (a : String) : ((d.identitiesAt a).map (·.id)).Nodup
  apart {a b : String} {r s : Entry.Identity} :
    r ∈ d.identitiesAt a → s ∈ d.identitiesAt b → r.id = s.id → a = b
  issued {a : String} {r : Entry.Identity} :
    r ∈ d.identitiesAt a → ∃ k < d.issued, r.id = Text.decimal (k + 1)

namespace Sound

theorem empty : Sound {} where
  uuids _ := List.nodup_nil
  ids _ := List.nodup_nil
  apart h := by cases h
  issued h := by cases h

theorem distinct (h : d.Sound) (a : String) : Entry.Distinct (d.entriesAt a) where
  ids := by simpa [identitiesAt, Function.comp_def, Entry.identity] using h.ids a
  uuids := by simpa [identitiesAt, Function.comp_def, Entry.identity] using h.uuids a

/-- Fewer entries under the same ids keep tables sound. -/
theorem of_sublist {d' : Daemons} (h : d.Sound) (hi : d.issued ≤ d'.issued)
    (hs : ∀ a, (d'.identitiesAt a).Sublist (d.identitiesAt a)) : d'.Sound where
  uuids a := (h.uuids a).sublist ((hs a).map _)
  ids a := (h.ids a).sublist ((hs a).map _)
  apart hr hs' hid := h.apart ((hs _).subset hr) ((hs _).subset hs') hid
  issued hr := by
    obtain ⟨k, hk, hid⟩ := h.issued ((hs _).subset hr)
    exact ⟨k, Nat.lt_of_lt_of_le hk hi, hid⟩

/-- No entry has the id that is issued next. -/
theorem fresh (h : d.Sound) {r : Entry.Identity} (hr : r ∈ d.identitiesAt a) : r.id ≠ d.nextId := by
  obtain ⟨k, hk, hid⟩ := h.issued hr
  intro heq
  have : k + 1 = d.issued + 1 := Text.decimal_injective (hid.symm.trans heq)
  omega

theorem push (h : d.Sound) (absent : ∀ f ∈ d.entriesAt a, f.uuid ≠ e.uuid) :
    (d.push a e).Sound := by
  have member {b : String} {r : Entry.Identity} (hr : r ∈ (d.push a e).identitiesAt b) :
      r ∈ d.identitiesAt b ∨ b = a ∧ r = ⟨d.nextId, e.uuid⟩ := by
    rw [identitiesAt_push] at hr
    split at hr
    · next hb =>
      rcases List.mem_append.mp hr with hr | hr
      · exact .inl (hb ▸ hr)
      · exact .inr ⟨hb, List.mem_singleton.mp hr⟩
    · exact .inl hr
  constructor
  case uuids =>
    intro b
    rw [identitiesAt_push]
    split
    · have unowned : e.uuid ∉ (d.identitiesAt a).map (·.uuid) := by
        intro hm
        obtain ⟨r, hr, hu⟩ := List.mem_map.mp hm
        obtain ⟨f, hf, rfl⟩ := mem_identitiesAt.mp hr
        exact absent f hf hu
      rw [List.map_append, List.map_singleton]
      exact List.concat_eq_append ▸ (h.uuids a).concat unowned
    · exact h.uuids b
  case ids =>
    intro b
    rw [identitiesAt_push]
    split
    · have unused : d.nextId ∉ (d.identitiesAt a).map (·.id) := by
        intro hm
        obtain ⟨r, hr, hid⟩ := List.mem_map.mp hm
        exact h.fresh hr hid
      rw [List.map_append, List.map_singleton]
      exact List.concat_eq_append ▸ (h.ids a).concat unused
    · exact h.ids b
  case apart =>
    intro b c r s hr hs hid
    rcases member hr with old | ⟨hb, rfl⟩ <;> rcases member hs with old' | ⟨hc, rfl⟩
    · exact h.apart old old' hid
    · exact absurd hid (h.fresh old)
    · exact absurd hid.symm (h.fresh old')
    · exact hb.trans hc.symm
  case issued =>
    intro b r hr
    rcases member hr with hr | ⟨rfl, rfl⟩
    · obtain ⟨k, hk, hid⟩ := h.issued hr
      exact ⟨k, Nat.lt_succ_of_lt hk, hid⟩
    · exact ⟨d.issued, Nat.lt_succ_self _, rfl⟩

end Sound

end Daemons

end CachePartition
