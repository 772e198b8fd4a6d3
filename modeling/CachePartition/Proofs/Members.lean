import CachePartition.Json.Codec
import CachePartition.Proofs.JsonTexts
import CachePartition.Proofs.Targets
import Mathlib.Data.List.Nodup

/-! What is written of a value and decoded again. A field that is left out still stands for a value, and a
record is decoded field by field. -/
namespace CachePartition

theorem SortedMap.ofList_entries {κ α : Type} [KeyOrder κ] (m : SortedMap κ α) : ofList m.entries = m :=
  ext fun _ => Option.ext fun _ => (get?_ofList m.keys_nodup).trans get?_eq_some_iff.symm

namespace Json

open Decimal

/-- What a decoder makes of the text of a value. -/
def reread? {α : Type} (f : Json → Option α) (j : Json) : Option α := (read? j.print).bind f

/-- Whether a value has a text of its own and stands for `a`. -/
structure Encodes {α : Type} (j : Json) (f : Json → Option α) (a : α) : Prop where
  legible : Legible j
  decoded : f j = some a

/-- Whether a field is written legibly, if at all, and stands for `a` either way. -/
structure Member {α : Type} (field : Option Json) (f : Option Json → Option α) (a : α) : Prop where
  legible : ∀ j ∈ field, Legible j
  decoded : f field = some a

section

variable {α : Type} {f : Json → Option α} {g : α → Json} {a : α} {j : Json}

theorem Encodes.reread? (h : Encodes j f a) : j.reread? f = some a := by
  rw [Json.reread?, read?_print h.legible]
  exact h.decoded

theorem encodes_text (s : String) : Encodes (.string s) text? s := ⟨.string s, rfl⟩

theorem encodes_bool (b : Bool) : Encodes (.bool b) bool? b := ⟨.bool b, rfl⟩

theorem encodes_texts (l : List String) : Encodes (.ofTexts l) texts? l where
  legible := by
    refine .array fun j hj => ?_
    obtain ⟨s, -, rfl⟩ := List.mem_map.1 hj
    exact .string s
  decoded := mapM_written (f := text?) (g := .string) (fun _ => rfl) l

theorem encodes_textMap (each : ∀ a, Encodes (g a) f a) (m : TextMap α) :
    Encodes (ofTextMap g m) (textMap? f) m where
  legible := by
    refine .object fun e he => ?_
    obtain ⟨e, -, rfl⟩ := List.mem_map.1 he
    exact (each e.2).legible
  decoded := by
    have bindings : (m.entries.map fun e => (e.1, g e.2)).mapM
        (fun e => (f e.2).map fun v => (e.1, v)) = some m.entries :=
      mapM_written (fun e => by rw [(each e.2).decoded]; rfl) m.entries
    rw [ofTextMap, textMap?, bindings, Option.map_some, SortedMap.ofList_entries]

theorem natBelow?_ofNat {n bound : Nat} (below : n < bound) (fits : bound ≤ 1 <<< 64) :
    (ofNat n).natBelow? bound = some n := by
  rw [ofNat, natBelow?, number?_ofNat (Nat.lt_of_lt_of_le below fits)]
  exact if_pos below

theorem legible_ofNat (n : Nat) : Legible (ofNat n) := .number (wellFormed_ofNat n)

theorem encodes_uint32 (n : UInt32) : Encodes (.ofNat n.toNat) uint32? n where
  legible := legible_ofNat _
  decoded := by
    have value : (ofNat n.toNat).natBelow? (1 <<< 32) = some n.toNat :=
      natBelow?_ofNat n.toNat_lt (by decide)
    rw [uint32?, value, Option.map_some, UInt32.ofNat_toNat]

theorem encodes_uint64 (n : UInt64) : Encodes (.ofNat n.toNat) uint64? n where
  legible := legible_ofNat _
  decoded := by
    have value : (ofNat n.toNat).natBelow? (1 <<< 64) = some n.toNat :=
      natBelow?_ofNat n.toNat_lt (by decide)
    rw [uint64?, value, Option.map_some, UInt64.ofNat_toNat]

theorem Encodes.member (h : Encodes j f a) (d : α) : Member (some j) (orElse · f d) a :=
  ⟨by rintro _ ⟨⟩; exact h.legible, h.decoded⟩

theorem Encodes.required (h : Encodes j f a) : Member (some j) (required · f) a :=
  ⟨by rintro _ ⟨⟩; exact h.legible, h.decoded⟩

theorem member_unlessEmpty (s : String) : Member (unlessEmpty s) (orElse · text? "") s := by
  unfold unlessEmpty
  split
  · next empty => exact ⟨by simp, by rw [String.isEmpty_iff.1 empty]; rfl⟩
  · exact (encodes_text s).member ""

theorem member_unlessNone (l : List String) : Member (unlessNone l) (orElse · texts? []) l := by
  unfold unlessNone
  split
  · next empty => exact ⟨by simp, by rw [List.isEmpty_iff.1 empty]; rfl⟩
  · exact (encodes_texts l).member []

/-- No value is written as null, so an absent field is told from one that is there. -/
theorem member_maybe_of {β : Type} {g : β → Json} {h : β → α} (null : f .null = none) {o : Option β}
    (each : ∀ b ∈ o, Encodes (g b) f (h b)) : Member (o.map g) (maybe · f) (o.map h) := by
  cases o with
  | none => exact ⟨by simp, rfl⟩
  | some b =>
    obtain ⟨legible, decoded⟩ := each b rfl
    refine ⟨by rintro _ ⟨⟩; exact legible, ?_⟩
    show nullable? f (g b) = some (some (h b))
    have filled : g b ≠ .null := by
      intro isNull
      rw [isNull, null] at decoded
      cases decoded
    unfold nullable?
    split
    · next isNull => exact absurd isNull filled
    · rw [decoded]; rfl

theorem member_maybe (null : f .null = none) {o : Option α} (each : ∀ a ∈ o, Encodes (g a) f a) :
    Member (o.map g) (maybe · f) o := by
  simpa using member_maybe_of (h := id) null each

end

/-- The value of a field of a record. -/
def valueOf (name : String) (fields : List (String × Option Json)) : Option Json :=
  (fields.find? fun f => f.1 = name).bind (·.2)

/-- The fields of a record that have a value. -/
def written (fields : List (String × Option Json)) : List (String × Json) :=
  fields.filterMap fun f => f.2.map fun j => (f.1, j)

section

variable {fields : List (String × Option Json)}

theorem names_sublist (fields : List (String × Option Json)) :
    ((written fields).map (·.1)).Sublist (fields.map (·.1)) := by
  induction fields with
  | nil => exact .refl _
  | cons f fields ih =>
    obtain ⟨n, _ | j⟩ := f
    · exact ih.cons n
    · exact ih.cons_cons n

theorem countName_le_one {l : List (String × Json)} (distinct : (l.map (·.1)).Nodup) (name : String) :
    countName name l ≤ 1 := by
  have once := List.nodup_iff_count_le_one.1 distinct name
  rw [List.count_eq_countP, List.countP_map, List.countP_eq_length_filter] at once
  exact once

theorem findName_written (distinct : (fields.map (·.1)).Nodup) (name : String) :
    findName name (written fields) = valueOf name fields := by
  induction fields with
  | nil => rfl
  | cons f fields ih =>
    obtain ⟨n, o⟩ := f
    obtain ⟨fresh, distinct⟩ := List.nodup_cons.1 distinct
    have rest := ih distinct
    by_cases same : n = name
    · subst same
      cases o with
      | none =>
        -- The names after this one are different, so a field without a value is not found at all.
        have missing : findName n (written fields) = none := by
          refine Option.map_eq_none_iff.2 (List.find?_eq_none.2 fun e he heq => fresh ?_)
          simp only [decide_eq_true_eq] at heq
          exact heq ▸ (names_sublist fields).subset (List.mem_map_of_mem he)
        show findName n (written fields) = valueOf n ((n, none) :: fields)
        simp [missing, valueOf]
      | some j => simp [written, findName, valueOf]
    · have skip : valueOf name ((n, o) :: fields) = valueOf name fields := by simp [valueOf, same]
      rw [skip, ← rest]
      cases o with
      | none => rfl
      | some j => simp [written, findName, same]

/-- A record gives each field its value, also where that is none. -/
theorem record?_record (distinct : (fields.map (·.1)).Nodup) (names : List String) :
    (record fields).record? names = some fun n => valueOf n fields := by
  have single : ∀ n, countName n (written fields) ≤ 1 :=
    countName_le_one (distinct.sublist (names_sublist fields))
  have accepted : ¬ names.any (fun n => 1 < countName n (written fields)) = true := by
    simp only [List.any_eq_true, decide_eq_true_eq, not_exists, not_and, Nat.not_lt]
    exact fun n _ => single n
  show (if names.any fun n => 1 < countName n (written fields) then none
    else some fun n => findName n (written fields)) = _
  rw [if_neg accepted]
  exact congrArg some (funext fun n => findName_written distinct n)

theorem forall_written {p : Json → Prop} (each : fields.Forall fun f => ∀ j ∈ f.2, p j) :
    ∀ e ∈ written fields, p e.2 := by
  intro e he
  obtain ⟨f, hf, same⟩ := List.mem_filterMap.1 he
  obtain ⟨j, hj, rfl⟩ := Option.map_eq_some_iff.1 same
  exact List.forall_iff_forall_mem.1 each f hf j hj

theorem legible_record (each : fields.Forall fun f => ∀ j ∈ f.2, Legible j) : Legible (record fields) :=
  .object (forall_written each)

theorem object_eq_record (fields : List (String × Json)) :
    object fields = record (fields.map fun f => (f.1, some f.2)) := by
  simp [record, List.filterMap_map]

/-- A record is decoded by what is made of its fields. -/
theorem encodes_record {α : Type} {a : α} {names : List String} {f : (String → Option Json) → Option α}
    (distinct : (fields.map (·.1)).Nodup) (each : fields.Forall fun g => ∀ j ∈ g.2, Legible j)
    (decoded : f (fun n => valueOf n fields) = some a) :
    Encodes (record fields) (fun j => (j.record? names).bind f) a := by
  refine ⟨legible_record each, ?_⟩
  show ((record fields).record? names).bind f = some a
  rw [record?_record distinct, Option.bind_some]
  exact decoded

end

end Json

end CachePartition
