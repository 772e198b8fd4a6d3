import CachePartition.Proofs.Tables
import Mathlib.Logic.Relation

/-! The changes that one workload's pass makes to daemons. Everything that such a pass keeps is read off
the four ways in which a change can go. -/
namespace CachePartition.Daemons

variable {d d' d'' : Daemons} {u v a b : String}

/-- A change on behalf of a workload: nothing, an entry where the workload has none, or a change of an
entry that belongs to it. -/
inductive Change (u : String) (d : Daemons) : Daemons → Prop where
  | keep : Change u d d
  | push (a : String) (body : Entry) (own : body.uuid = u)
      (absent : ∀ e ∈ d.entriesAt a, e.uuid ≠ u) : Change u d (d.push a body)
  | amend (a : String) (e body : Entry) (held : e ∈ d.entriesAt a) (own : e.uuid = u) :
      Change u d (d.mapAt a (amend e.id body))
  | drop (a : String) (e : Entry) (held : e ∈ d.entriesAt a) (own : e.uuid = u) :
      Change u d (d.mapAt a fun l => l.filter fun f => f.id ≠ e.id)

@[simp] theorem issued_mapAt (d : Daemons) (a : String) (f : List Entry → List Entry) :
    (d.mapAt a f).issued = d.issued := by
  unfold mapAt
  split <;> rfl

@[simp] theorem behaviour_mapAt (d : Daemons) (a : String) (f : List Entry → List Entry) :
    (d.mapAt a f).behaviour = d.behaviour := by
  unfold mapAt
  split <;> rfl

@[simp] theorem unreachable_mapAt (d : Daemons) (a : String) (f : List Entry → List Entry) :
    (d.mapAt a f).unreachable = d.unreachable := by
  unfold mapAt
  split <;> rfl

theorem identitiesAt_mapAt (d : Daemons) (a : String) {f : List Entry → List Entry} (hf : f [] = [])
    (b : String) : (d.mapAt a f).identitiesAt b =
      if b = a then (f (d.entriesAt a)).map Entry.identity else d.identitiesAt b := by
  rw [identitiesAt, entriesAt_mapAt d a hf]
  split <;> rfl

@[simp] theorem identitiesAt_amend (d : Daemons) (a id : String) (body : Entry) (b : String) :
    (d.mapAt a (Daemons.amend id body)).identitiesAt b = d.identitiesAt b := by
  rw [identitiesAt_mapAt d a rfl, map_amend _ fun _ _ => rfl]
  split
  · next h => rw [h, identitiesAt]
  · rfl

theorem identitiesAt_filter (d : Daemons) (a : String) (p : Entry → Bool) (b : String) :
    ((d.mapAt a (List.filter p)).identitiesAt b).Sublist (d.identitiesAt b) := by
  rw [identitiesAt_mapAt d a rfl]
  split
  · next h => exact h ▸ List.filter_sublist.map _
  · exact List.Sublist.refl _

/-- At each address, what is held later is some of what was held, in the same order, and behind it
entries under ids that had not been issued. -/
structure Continues (d d' : Daemons) : Prop where
  issued : d.issued ≤ d'.issued
  tables (a : String) : ∃ kept fresh, d'.identitiesAt a = kept ++ fresh ∧
    kept.Sublist (d.identitiesAt a) ∧
    ∀ r ∈ fresh, ∃ k, d.issued ≤ k ∧ k < d'.issued ∧ r.id = Text.decimal (k + 1)

namespace Continues

theorem of_sublist (hi : d.issued ≤ d'.issued)
    (hs : ∀ a, (d'.identitiesAt a).Sublist (d.identitiesAt a)) : d.Continues d' where
  issued := hi
  tables a := ⟨_, [], (List.append_nil _).symm, hs a, fun _ h => by cases h⟩

theorem refl (d : Daemons) : d.Continues d := of_sublist (Nat.le_refl _) fun _ => List.Sublist.refl _

theorem trans (h : d.Continues d') (h' : d'.Continues d'') : d.Continues d'' where
  issued := Nat.le_trans h.issued h'.issued
  tables a := by
    obtain ⟨kept, fresh, eq, sub, new⟩ := h.tables a
    obtain ⟨kept', fresh', eq', sub', new'⟩ := h'.tables a
    -- What the second step keeps comes partly from what the first one kept, partly from its new entries.
    obtain ⟨old, recent, rfl, hold, hrecent⟩ := List.sublist_append_iff.mp (eq ▸ sub')
    refine ⟨old, recent ++ fresh', by rw [eq', List.append_assoc], hold.trans sub, ?_⟩
    intro r hr
    rcases List.mem_append.mp hr with hr | hr
    · obtain ⟨k, hk, hk', hid⟩ := new r (hrecent.subset hr)
      exact ⟨k, hk, Nat.lt_of_lt_of_le hk' h'.issued, hid⟩
    · obtain ⟨k, hk, hk', hid⟩ := new' r hr
      exact ⟨k, Nat.le_trans h.issued hk, hk', hid⟩

theorem push (d : Daemons) (a : String) (body : Entry) : d.Continues (d.push a body) where
  issued := Nat.le_succ _
  tables b := by
    rw [identitiesAt_push]
    split
    · next h =>
      refine ⟨_, _, rfl, h ▸ List.Sublist.refl _, ?_⟩
      intro r hr
      obtain rfl := List.mem_singleton.mp hr
      exact ⟨d.issued, Nat.le_refl _, Nat.lt_succ_self _, rfl⟩
    · exact ⟨_, [], (List.append_nil _).symm, List.Sublist.refl _, fun _ h => by cases h⟩

/-- What is held under an id that had been issued was held then. -/
theorem held_before (h : d.Continues d') {r : Entry.Identity} (hr : r ∈ d'.identitiesAt a) {k : Nat}
    (hk : k < d.issued) (hid : r.id = Text.decimal (k + 1)) : r ∈ d.identitiesAt a := by
  obtain ⟨kept, fresh, eq, sub, new⟩ := h.tables a
  rw [eq] at hr
  rcases List.mem_append.mp hr with old | recent
  · exact sub.subset old
  · obtain ⟨k', hk', -, hid'⟩ := new r recent
    have : k' + 1 = k + 1 := Text.decimal_injective (hid'.symm.trans hid)
    omega

/-- An id that was held and is held later is held at the same address by the same workload. -/
theorem same_identity (h : d.Continues d') (sound : d.Sound) {r s : Entry.Identity}
    (hr : r ∈ d.identitiesAt a) (hs : s ∈ d'.identitiesAt b) (hid : s.id = r.id) : b = a ∧ s = r := by
  obtain ⟨k, hk, hrk⟩ := sound.issued hr
  have before := h.held_before hs hk (hid.trans hrk)
  obtain rfl := sound.apart before hr hid
  exact ⟨rfl, List.inj_on_of_nodup_map (sound.ids b) before hr hid⟩

end Continues

/-- Entries may be gone; none have come and no id has been issued. -/
structure Dwindles (d d' : Daemons) : Prop where
  issued : d'.issued = d.issued
  tables (a : String) : (d'.identitiesAt a).Sublist (d.identitiesAt a)

theorem Dwindles.refl (d : Daemons) : d.Dwindles d := ⟨rfl, fun _ => List.Sublist.refl _⟩

theorem Dwindles.continues (h : d.Dwindles d') : d.Continues d' :=
  .of_sublist (Nat.le_of_eq h.issued.symm) h.tables

theorem Dwindles.sound (h : d.Dwindles d') (hd : d.Sound) : d'.Sound :=
  hd.of_sublist (Nat.le_of_eq h.issued.symm) h.tables

theorem dwindles_amend (d : Daemons) (a id : String) (body : Entry) :
    d.Dwindles (d.mapAt a (Daemons.amend id body)) := by
  refine ⟨issued_mapAt .., fun b => ?_⟩
  rw [identitiesAt_amend]

theorem dwindles_filter (d : Daemons) (a : String) (p : Entry → Bool) :
    d.Dwindles (d.mapAt a (List.filter p)) :=
  ⟨issued_mapAt .., identitiesAt_filter d a p⟩

namespace Change

theorem continues (h : Change u d d') : d.Continues d' := by
  cases h with
  | keep => exact .refl d
  | push a body => exact .push d a body
  | amend a e body => exact (dwindles_amend d a e.id body).continues
  | drop a e => exact (dwindles_filter d a _).continues

theorem sound (h : Change u d d') (hd : d.Sound) : d'.Sound := by
  cases h with
  | keep => exact hd
  | push a body own absent => exact hd.push fun f hf => own ▸ absent f hf
  | amend a e body => exact (dwindles_amend d a e.id body).sound hd
  | drop a e => exact (dwindles_filter d a _).sound hd

/-- How daemons behave is not changed. -/
theorem conduct (h : Change u d d') : d'.behaviour = d.behaviour ∧ d'.unreachable = d.unreachable := by
  cases h with
  | keep => exact ⟨rfl, rfl⟩
  | push a body => exact ⟨rfl, rfl⟩
  | amend a e body => exact ⟨behaviour_mapAt .., unreachable_mapAt ..⟩
  | drop a e => exact ⟨behaviour_mapAt .., unreachable_mapAt ..⟩

/-- The entries of all other workloads stay as they are. -/
theorem foreign (h : Change u d d') (hd : ∀ a, Entry.Distinct (d.entriesAt a)) (b : String) :
    Entry.foreign u (d'.entriesAt b) = Entry.foreign u (d.entriesAt b) := by
  cases h with
  | keep => rfl
  | push a body own =>
    rw [entriesAt_push]
    split
    · next hb => simp [Entry.foreign, stored, own, hb]
    · rfl
  | amend a e body held own =>
    subst own
    rw [entriesAt_mapAt d a rfl]
    split
    · next hb => rw [hb, (hd a).foreign_amend held]
    · rfl
  | drop a e held own =>
    subst own
    rw [entriesAt_mapAt d a rfl]
    split
    · next hb => rw [hb, Entry.foreign_drop (hd a).ids held rfl]
    · rfl

end Change

end CachePartition.Daemons
