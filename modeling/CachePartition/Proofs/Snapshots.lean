import CachePartition.Entry.Snapshot
import CachePartition.Proofs.Numerals
import CachePartition.Proofs.Targets

/-! What snapshots show of entries: under the name of each setting its text, if the setting is filled. A number
that is zero is none to show, but a ratio is shown even so. -/
namespace CachePartition

open Decimal

/-- The settings of an entry. -/
inductive Entry.Setting where
  | id
  | uuid
  | coreIds
  | taskIds
  | policy
  | status
  | className
  | cacheMax
  | cacheMin
  | percentage
  | mbps
  | ratio
  | monitoring
  deriving DecidableEq, Repr

namespace Entry.Setting

/-- The name under which a setting is shown. -/
def name : Setting → String
  | id => "id"
  | uuid => "uuid"
  | coreIds => "core_ids"
  | taskIds => "task_ids"
  | policy => "policy"
  | status => "status"
  | className => "cos_name"
  | cacheMax => "cache_max"
  | cacheMin => "cache_min"
  | percentage => "mba_percentage"
  | mbps => "mba_mbps"
  | ratio => "pstate_ratio"
  | monitoring => "pstate_monitoring"

def all : List Setting :=
  [id, uuid, coreIds, taskIds, policy, status, className, cacheMax, cacheMin, percentage, mbps, ratio, monitoring]

/-- What a setting can hold. -/
inductive Value where
  | text (s : String)
  | texts (l : List String)
  | number (n : UInt32)
  | ratio (x : Binary64)
  deriving DecidableEq, Repr

namespace Value

/-- A value in writing. -/
def written : Value → String
  | text s => s
  | texts l => Text.join "," l
  | number n => Text.decimal n.toNat
  | ratio x => display x

def IsZero : Value → Prop
  | text _ => False
  | texts _ => False
  | number n => n = 0
  | ratio x => ∃ negative, x = .zero negative

/-- Whether a value is worth showing. -/
def Filled (v : Value) : Prop := v.written ≠ "" ∧ ¬ v.IsZero

end Value

end Entry.Setting

open Entry.Setting

/-- What an entry holds for a setting; none if a part that leads to it is absent. -/
def Entry.value? (e : Entry) : Entry.Setting → Option Value
  | .id => some (.text e.id)
  | .uuid => some (.text e.uuid)
  | .coreIds => some (.texts e.coreIds)
  | .taskIds => some (.texts e.taskIds)
  | .policy => some (.text e.policy)
  | .status => some (.text e.status)
  | .className => some (.text e.className)
  | .cacheMax => (e.allocation.bind (·.cache)).map (.number ·.max)
  | .cacheMin => (e.allocation.bind (·.cache)).map (.number ·.min)
  | .percentage => ((e.allocation.bind (·.bandwidth)).bind (·.percentage)).map .number
  | .mbps => ((e.allocation.bind (·.bandwidth)).bind (·.mbps)).map .number
  | .ratio => ((e.plugins.bind (·.powerState)).bind (·.ratio)).map .ratio
  | .monitoring => ((e.plugins.bind (·.powerState)).bind (·.monitoring)).map .text

theorem Text.decimal_ne_empty (n : Nat) : Text.decimal n ≠ "" := by
  simp [Text.decimal]

/-- Every number has a plain text. -/
theorem Decimal.display_ne_empty (x : Binary64) : display x ≠ "" := by
  unfold display
  cases view : x.view with
  | nan => simp
  | infinite negative => cases negative <;> simp
  | finite negative m e =>
    obtain ⟨n, written⟩ : ∃ n, plainForm.write? x = some n := by simp [Form.write?, view]
    have filled := (Form.wellFormed_write? written).whole.filled
    simp [written, Numeral.text, filled]

namespace Entry.Setting.Value

variable {v : Value} {t : String}

/-- What is shown of a value; the empty text stands for nothing. -/
def shown : Value → String
  | number n => Entry.nonZero n
  | v => v.written

theorem filled_number {n : UInt32} : (number n).Filled ↔ n ≠ 0 := by
  simp [Filled, written, IsZero, Text.decimal_ne_empty]

theorem shown_number (n : UInt32) : (number n).shown = t ∧ t ≠ "" ↔ (number n).written = t ∧ n ≠ 0 := by
  show Entry.nonZero n = t ∧ t ≠ "" ↔ Text.decimal n.toNat = t ∧ n ≠ 0
  unfold Entry.nonZero
  split
  · next zero =>
    constructor
    · rintro ⟨rfl, filled⟩
      exact absurd rfl filled
    · rintro ⟨-, other⟩
      exact absurd zero other
  · next other =>
    constructor
    · rintro ⟨rfl, -⟩
      exact ⟨rfl, other⟩
    · rintro ⟨rfl, -⟩
      exact ⟨rfl, Text.decimal_ne_empty _⟩

/-- What is shown is the text of a value worth showing, and that of a ratio even if it is zero. -/
theorem shown_iff : v.shown = t ∧ t ≠ "" ↔ v.written = t ∧ (v.Filled ∨ ∃ negative, v = ratio (.zero negative)) := by
  cases v with
  | number n => simp only [shown_number, filled_number, reduceCtorEq, exists_false, or_false]
  | ratio x =>
    have zero_or_not : ((ratio x).Filled ∨ ∃ negative, ratio x = ratio (.zero negative)) := by
      by_cases zero : (ratio x).IsZero
      · obtain ⟨negative, rfl⟩ := zero
        exact .inr ⟨negative, rfl⟩
      · exact .inl ⟨display_ne_empty x, zero⟩
    constructor
    · rintro ⟨rfl, -⟩
      exact ⟨rfl, zero_or_not⟩
    · rintro ⟨rfl, -⟩
      exact ⟨rfl, display_ne_empty x⟩
  | text s =>
    simp only [shown, Filled, IsZero, not_false_eq_true, and_true, reduceCtorEq, exists_false, or_false]
    exact and_congr_right fun same => by rw [same]
  | texts l =>
    simp only [shown, Filled, IsZero, not_false_eq_true, and_true, reduceCtorEq, exists_false, or_false]
    exact and_congr_right fun same => by rw [same]

end Entry.Setting.Value

theorem Entry.Setting.mem_all (s : Entry.Setting) : s ∈ all := by
  cases s <;> decide

theorem Entry.Setting.name_injective : Function.Injective name := by
  have apart : ∀ s ∈ all, ∀ s' ∈ all, s.name = s'.name → s = s' := by decide
  exact fun s s' => apart s s.mem_all s' s'.mem_all

namespace Entry

variable {e : Entry} {k t : String}

theorem settings_eq (e : Entry) :
    e.settings = Setting.all.map fun s => (s.name, (e.value? s).elim "" Value.shown) := by
  have monitoring (o : Option String) : o.getD "" = (o.map Value.text).elim "" Value.shown := by
    cases o <;> rfl
  simp only [settings, Setting.all, List.map_cons, List.map_nil, value?, Option.elim_map, monitoring]
  rfl

/-- Each setting has a name of its own. -/
theorem settings_nodup (e : Entry) : (e.settings.map (·.1)).Nodup := by
  rw [settings_eq, List.map_map]
  exact (by decide : (Setting.all.map Setting.name).Nodup)

/-- A snapshot holds what is shown of each setting, and nothing else. -/
theorem get?_snapshot : e.snapshot.get? k = some t ↔
    t ≠ "" ∧ ∃ s : Setting, s.name = k ∧ (e.value? s).elim "" Value.shown = t := by
  have keys : ((e.settings.filter fun s => !s.2.isEmpty).map (·.1)).Nodup :=
    e.settings_nodup.sublist (List.filter_sublist.map _)
  rw [snapshot, SortedMap.get?_ofList keys, List.mem_filter, settings_eq, and_comm]
  simp [Setting.mem_all]

/-- What a snapshot holds of one setting. -/
theorem get?_snapshot_name {s : Setting} :
    e.snapshot.get? s.name = some t ↔ ∃ v, e.value? s = some v ∧ v.shown = t ∧ t ≠ "" := by
  rw [get?_snapshot]
  constructor
  · rintro ⟨filled, s', same, shown⟩
    obtain rfl := Setting.name_injective same
    cases held : e.value? s' with
    | none =>
      rw [held] at shown
      exact absurd shown.symm filled
    | some v =>
      rw [held] at shown
      exact ⟨v, rfl, shown, filled⟩
  · rintro ⟨v, held, shown, filled⟩
    refine ⟨filled, s, rfl, ?_⟩
    rw [held]
    exact shown

/-- A snapshot tells to which workload its entry belongs. -/
theorem get?_snapshot_uuid (named : t ≠ "") : e.snapshot.get? "uuid" = some t ↔ e.uuid = t := by
  have own := get?_snapshot_name (e := e) (t := t) (s := .uuid)
  simpa [Setting.name, value?, Value.shown, Value.written, named] using own

end Entry

/-- A snapshot holds a setting just if an entry holds it and its value is filled, or is a ratio of zero. It holds
the value in writing, nothing empty and nothing under other names. -/
theorem snapshot_shows_settings (e : Entry) :
    (∀ (s : Entry.Setting) (t : String), e.snapshot.get? s.name = some t ↔ ∃ v, e.value? s = some v ∧
      v.written = t ∧ (v.Filled ∨ ∃ negative, v = .ratio (.zero negative))) ∧
    ∀ k t, e.snapshot.get? k = some t → t ≠ "" ∧ ∃ s : Entry.Setting, k = s.name := by
  constructor
  · intro s t
    simp only [Entry.get?_snapshot_name, Value.shown_iff]
  · intro k t held
    obtain ⟨filled, s, same, -⟩ := Entry.get?_snapshot.mp held
    exact ⟨filled, s, same.symm⟩

/-- An entry that sets a ratio of zero and nothing else. -/
def zeroRatio : Entry := { plugins := some { powerState := some { ratio := some (.zero false) } } }

/-- A snapshot may hold a value that is not worth showing. -/
theorem zero_ratio_is_shown :
    ∃ v, zeroRatio.value? .ratio = some v ∧ ¬ v.Filled ∧ zeroRatio.snapshot.get? "pstate_ratio" = some "0" := by
  refine ⟨.ratio (.zero false), rfl, ?_, ?_⟩
  · intro filled
    exact filled.2 ⟨false, rfl⟩
  · decide +kernel

end CachePartition
