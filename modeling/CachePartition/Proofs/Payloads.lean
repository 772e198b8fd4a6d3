import CachePartition.CacheReport.Codec
import CachePartition.Entry.Codec
import CachePartition.Proofs.Resources

/-! What goes between the operator and a daemon. Entries and cache reports are read from their texts as
they were, an empty part of an entry told from an absent one. -/
namespace CachePartition

open Json Decimal

theorem Json.legible_ofBinary64 {x : Binary64} (finite : x.isFinite = true) : Legible (.ofBinary64 x) := by
  obtain ⟨n, written⟩ := dataForm.write?_of_finite finite
  rw [Json.ofBinary64, written]
  exact .number (Form.wellFormed_write? written)

/-- A finite number that its text gives back is decoded as it was. -/
theorem Json.encodes_binary64 {x : Binary64} (finite : x.isFinite = true)
    (inverse : (Json.ofBinary64 x).reread? binary64? = some x) : Encodes (.ofBinary64 x) binary64? x := by
  have legible := legible_ofBinary64 finite
  refine ⟨legible, ?_⟩
  rwa [reread?, read?_print legible, Option.bind_some] at inverse

/-- A number that is not finite is written as null. -/
theorem Json.ofBinary64_eq_null {x : Binary64} : Json.ofBinary64 x = .null ↔ x.isFinite = false := by
  constructor
  · intro null
    by_contra finite
    rw [Bool.not_eq_false] at finite
    obtain ⟨n, written⟩ := dataForm.write?_of_finite finite
    simp [Json.ofBinary64, written] at null
  · intro infinite
    have exponent : x.exponentField = 2047 := by simpa [Binary64.isFinite] using infinite
    unfold Json.ofBinary64 Form.write? Binary64.view
    rw [if_pos exponent]
    by_cases zero : x.fraction = 0
    · rw [if_pos zero]
      rfl
    · rw [if_neg zero]
      rfl

namespace Entry

/-- The ratio of an entry's power state, if there is one. -/
def ratio? (e : Entry) : Option Binary64 := (e.plugins.bind (·.powerState)).bind (·.ratio)

theorem mem_ratio? {e : Entry} {x : Binary64} :
    x ∈ e.ratio? ↔ ∃ p ∈ e.plugins, ∃ s ∈ p.powerState, x ∈ s.ratio := by
  constructor
  · intro held
    obtain ⟨s, held, ratio⟩ := Option.bind_eq_some_iff.mp held
    obtain ⟨p, present, powerState⟩ := Option.bind_eq_some_iff.mp held
    exact ⟨p, present, s, powerState, ratio⟩
  · rintro ⟨p, present, s, powerState, ratio⟩
    have held : e.plugins.bind (·.powerState) = some s := Option.bind_eq_some_iff.mpr ⟨p, present, powerState⟩
    exact Option.bind_eq_some_iff.mpr ⟨s, held, ratio⟩

/-- What a text conveys of a power state: everything but a ratio that is not finite. -/
def PowerState.conveyed (p : PowerState) : PowerState := { p with ratio := p.ratio.filter (·.isFinite) }

def Plugins.conveyed (p : Plugins) : Plugins := { p with powerState := p.powerState.map (·.conveyed) }

def conveyed (e : Entry) : Entry := { e with plugins := e.plugins.map (·.conveyed) }

theorem conveyed_eq_self {e : Entry} : e.conveyed = e ↔ ∀ x ∈ e.ratio?, x.isFinite = true := by
  obtain ⟨id, uuid, coreIds, taskIds, policy, status, className, allocation, plugins⟩ := e
  obtain _ | ⟨_ | ⟨_ | x, monitoring⟩⟩ := plugins <;>
    simp [conveyed, Plugins.conveyed, PowerState.conveyed, ratio?, Option.filter_eq_some_iff]

theorem member_ratio {o : Option Binary64}
    (kept : ∀ x ∈ o, x.isFinite = true → Encodes (.ofBinary64 x) binary64? x) :
    Member (o.map Json.ofBinary64) (maybe · binary64?) (o.filter (·.isFinite)) := by
  cases o with
  | none => exact ⟨by simp, rfl⟩
  | some x =>
    cases finite : x.isFinite with
    | true =>
      rw [Option.filter_some_pos finite]
      refine member_maybe (f := binary64?) rfl ?_
      rintro _ ⟨⟩
      exact kept x rfl finite
    | false =>
      rw [Option.filter_some_neg finite, Option.map_some, Json.ofBinary64_eq_null.mpr finite]
      refine ⟨?_, rfl⟩
      rintro _ ⟨⟩
      exact .null

theorem PowerState.conveys {p : PowerState}
    (kept : ∀ x ∈ p.ratio, x.isFinite = true → Encodes (.ofBinary64 x) binary64? x) :
    Encodes p.toJson PowerState.ofJson? p.conveyed := by
  have ratio := member_ratio kept
  have monitoring := member_maybe (f := text?) rfl (o := p.monitoring) fun s _ => encodes_text s
  refine encodes_record (by simp) ⟨ratio.legible, monitoring.legible⟩ ?_
  simp [valueOf, ratio.decoded, monitoring.decoded, conveyed]

theorem Plugins.conveys {p : Plugins}
    (kept : ∀ s ∈ p.powerState, ∀ x ∈ s.ratio, x.isFinite = true → Encodes (.ofBinary64 x) binary64? x) :
    Encodes p.toJson Plugins.ofJson? p.conveyed := by
  have powerState : Member (p.powerState.map PowerState.toJson) (maybe · PowerState.ofJson?)
      (p.powerState.map (·.conveyed)) :=
    member_maybe_of rfl fun s hs => PowerState.conveys (kept s hs)
  refine encodes_record (by simp) powerState.legible ?_
  simp [valueOf, powerState.decoded, conveyed]

theorem Bandwidth.encodes (b : Bandwidth) : Encodes b.toJson Bandwidth.ofJson? b := by
  have percentage := member_maybe (f := uint32?) rfl (o := b.percentage) fun n _ => encodes_uint32 n
  have mbps := member_maybe (f := uint32?) rfl (o := b.mbps) fun n _ => encodes_uint32 n
  refine encodes_record (by simp) ⟨percentage.legible, mbps.legible⟩ ?_
  simp [valueOf, percentage.decoded, mbps.decoded]

theorem Allocation.encodes (a : Allocation) : Encodes a.toJson Allocation.ofJson? a := by
  have cache := member_maybe (f := CacheBounds.ofJson?) rfl (o := a.cache) fun b _ => b.encodes
  have bandwidth := member_maybe (f := Bandwidth.ofJson?) rfl (o := a.bandwidth) fun b _ => b.encodes
  refine encodes_record (by simp) ⟨cache.legible, bandwidth.legible⟩ ?_
  simp [valueOf, cache.decoded, bandwidth.decoded]

theorem conveys {e : Entry} (kept : ∀ x ∈ e.ratio?, x.isFinite = true → Encodes (.ofBinary64 x) binary64? x) :
    Encodes e.toJson Entry.ofJson? e.conveyed := by
  have id := member_unlessEmpty e.id
  have uuid := member_unlessEmpty e.uuid
  have coreIds := member_unlessNone e.coreIds
  have taskIds := member_unlessNone e.taskIds
  have policy := member_unlessEmpty e.policy
  have status := member_unlessEmpty e.status
  have className := member_unlessEmpty e.className
  have allocation := member_maybe (f := Allocation.ofJson?) rfl (o := e.allocation) fun a _ => a.encodes
  have plugins : Member (e.plugins.map Plugins.toJson) (maybe · Plugins.ofJson?)
      (e.plugins.map (·.conveyed)) := by
    refine member_maybe_of rfl fun p hp => Plugins.conveys fun s hs x hx => ?_
    exact kept x (mem_ratio?.mpr ⟨p, hp, s, hs, hx⟩)
  refine encodes_record (by simp) ⟨id.legible, uuid.legible, coreIds.legible, taskIds.legible, policy.legible,
    status.legible, className.legible, allocation.legible, plugins.legible⟩ ?_
  simp [valueOf, id.decoded, uuid.decoded, coreIds.decoded, taskIds.decoded, policy.decoded,
    status.decoded, className.decoded, allocation.decoded, plugins.decoded, conveyed]

theorem encodes {e : Entry} (kept : ∀ x ∈ e.ratio?, Encodes (.ofBinary64 x) binary64? x) :
    Encodes e.toJson Entry.ofJson? e := by
  have finite : ∀ x ∈ e.ratio?, x.isFinite = true := by
    intro x held
    by_contra infinite
    have decoded := (kept x held).decoded
    rw [Json.ofBinary64_eq_null.mpr (eq_false_of_ne_true infinite)] at decoded
    cases decoded
  have read := conveys fun x held _ => kept x held
  rwa [conveyed_eq_self.mpr finite] at read

/-- Whether a field has something to say. -/
def Filled (j : Json) : Prop := j ≠ .null ∧ j ≠ .string "" ∧ j ≠ .array []

theorem filled_unlessEmpty (s : String) : ∀ j ∈ unlessEmpty s, Filled j := by
  intro j hj
  unfold unlessEmpty at hj
  split at hj
  · cases hj
  · next filled =>
    obtain rfl := Option.some.inj hj
    exact ⟨by simp, by simpa using filled, by simp⟩

theorem filled_unlessNone (l : List String) : ∀ j ∈ unlessNone l, Filled j := by
  intro j hj
  unfold unlessNone at hj
  split at hj
  · cases hj
  · next filled =>
    obtain rfl := Option.some.inj hj
    exact ⟨by simp [ofTexts], by simp [ofTexts], by simpa [ofTexts] using filled⟩

theorem filled_record {α : Type} (fields : α → List (String × Option Json)) (o : Option α) :
    ∀ j ∈ o.map fun a => record (fields a), Filled j := by
  intro j hj
  obtain ⟨a, -, rfl⟩ := Option.map_eq_some_iff.1 hj
  exact ⟨by simp [record], by simp [record], by simp [record]⟩

/-- Nothing empty is written of an entry. -/
theorem filled_toJson (e : Entry) : ∃ fields, e.toJson = .object fields ∧ ∀ f ∈ fields, Filled f.2 := by
  refine ⟨_, rfl, forall_written ?_⟩
  exact ⟨filled_unlessEmpty _, filled_unlessEmpty _, filled_unlessNone _, filled_unlessNone _,
    filled_unlessEmpty _, filled_unlessEmpty _, filled_unlessEmpty _, filled_record _ _, filled_record _ _⟩

end Entry

theorem CacheDetails.encodes (c : CacheDetails) : Encodes c.toJson CacheDetails.ofJson? c := by
  have numWays := (encodes_uint32 c.numWays).member 0
  have numSets := (encodes_uint32 c.numSets).member 0
  have numPartitions := (encodes_uint32 c.numPartitions).member 0
  have lineSize := (encodes_uint32 c.lineSize).member 0
  have totalSize := (encodes_uint64 c.totalSize).member 0
  have waySize := (encodes_uint64 c.waySize).member 0
  have numClasses := (encodes_uint32 c.numClasses).member 0
  have availableWays := (encodes_text c.availableWays).member ""
  have availableCpu := (encodes_text c.availableCpu).member ""
  rw [CacheDetails.toJson, object_eq_record]
  refine encodes_record (by simp) ⟨numWays.legible, numSets.legible, numPartitions.legible, lineSize.legible,
    totalSize.legible, waySize.legible, numClasses.legible, availableWays.legible, availableCpu.legible⟩ ?_
  simp [valueOf, numWays.decoded, numSets.decoded, numPartitions.decoded, lineSize.decoded,
    totalSize.decoded, waySize.decoded, numClasses.decoded, availableWays.decoded, availableCpu.decoded]

theorem CacheReport.encodes (r : CacheReport) : Encodes r.toJson CacheReport.ofJson? r := by
  have allocation := (encodes_bool r.allocation).member false
  have monitoring := (encodes_bool r.monitoring).member false
  have codeData := (encodes_bool r.codeData).member false
  have codeDataEnabled := (encodes_bool r.codeDataEnabled).member false
  have cacheAllocation := (encodes_bool r.cacheAllocation).member false
  have cacheAllocationEnabled := (encodes_bool r.cacheAllocationEnabled).member false
  have caches := (encodes_textMap CacheDetails.encodes r.caches).member SortedMap.empty
  rw [CacheReport.toJson, object_eq_record]
  refine encodes_record (by simp) ⟨allocation.legible, monitoring.legible, codeData.legible,
    codeDataEnabled.legible, cacheAllocation.legible, cacheAllocationEnabled.legible, caches.legible⟩ ?_
  simp [valueOf, allocation.decoded, monitoring.decoded, codeData.decoded, codeDataEnabled.decoded,
    cacheAllocation.decoded, cacheAllocationEnabled.decoded, caches.decoded]

/-- An entry is read from its text as it was, if its ratio is, although nothing empty is written of it;
so is every cache report. -/
theorem payloads_read_back :
    (∀ e : Entry, (∀ x ∈ e.ratio?, x.isFinite = true) →
      (∀ x ∈ e.ratio?, x.isFinite = true → (Json.ofBinary64 x).reread? binary64? = some x) →
      e.toJson.reread? Entry.ofJson? = some e) ∧
    (∀ e : Entry, ∃ fields, e.toJson = .object fields ∧ ∀ f ∈ fields, Entry.Filled f.2) ∧
    ∀ r : CacheReport, r.toJson.reread? CacheReport.ofJson? = some r := by
  refine ⟨?_, Entry.filled_toJson, fun r => r.encodes.reread?⟩
  intro e finite inverse
  have kept : ∀ x ∈ e.ratio?, Encodes (.ofBinary64 x) binary64? x := by
    intro x hx
    exact encodes_binary64 (finite x hx) (inverse x hx (finite x hx))
  exact (Entry.encodes kept).reread?

/-- An entry with a ratio of 1.1, an empty part, and texts that have to be escaped. -/
def strangeEntry : Entry where
  id := "\x01\"\\/😀"
  coreIds := ["", "0-3"]
  allocation := some { bandwidth := some {} }
  plugins := some { powerState := some { ratio := some ⟨0x3ff199999999999a⟩, monitoring := some "" } }

theorem payloads_read_back_strangeEntry :
    (∀ x ∈ strangeEntry.ratio?, x.isFinite = true) ∧
    (∀ x ∈ strangeEntry.ratio?, x.isFinite = true → (Json.ofBinary64 x).reread? binary64? = some x) ∧
    strangeEntry.toJson.reread? Entry.ofJson? = some strangeEntry := by
  have finite : ∀ x ∈ strangeEntry.ratio?, x.isFinite = true := by
    rintro x ⟨⟩
    decide
  have inverse : ∀ x ∈ strangeEntry.ratio?, x.isFinite = true →
      (Json.ofBinary64 x).reread? binary64? = some x := by
    rintro x ⟨⟩ -
    decide +kernel
  exact ⟨finite, inverse, payloads_read_back.1 strangeEntry finite inverse⟩

end CachePartition
