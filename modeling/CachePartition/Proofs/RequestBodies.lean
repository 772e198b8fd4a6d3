import CachePartition.Proofs.Payloads

/-! What a request asks for. Its body has a part for each wish of the specification and no others, and its
text stands for it unless the wish is for a ratio that is not finite. -/
namespace CachePartition

open Json Decimal

namespace Json

/-- The part of a value that a path of field names leads to. -/
def at? : List String → Json → Option Json
  | [], j => some j
  | name :: path, .object fields => (findName name fields).bind (at? path)
  | _ :: _, _ => none

/-- Values without a null in them. -/
inductive NullFree : Json → Prop where
  | bool (b : Bool) : NullFree (.bool b)
  | number (n : Numeral) : NullFree (.number n)
  | string (s : String) : NullFree (.string s)
  | array {items : List Json} (each : ∀ j ∈ items, NullFree j) : NullFree (.array items)
  | object {fields : List (String × Json)} (each : ∀ f ∈ fields, NullFree f.2) : NullFree (.object fields)

section

variable {fields : List (String × Option Json)} {name : String} {path : List String}

theorem bind_at?_nil (o : Option Json) : o.bind (at? []) = o := by
  cases o <;> rfl

theorem at?_record (distinct : (fields.map (·.1)).Nodup) :
    (record fields).at? (name :: path) = (valueOf name fields).bind (at? path) :=
  congrArg (Option.bind · (at? path)) (findName_written distinct name)

theorem valueOf_eq {f : String × Option Json} (distinct : (fields.map (·.1)).Nodup) (listed : f ∈ fields) :
    valueOf f.1 fields = f.2 := by
  induction fields with
  | nil => cases listed
  | cons g fields ih =>
    obtain ⟨fresh, distinct⟩ := List.nodup_cons.mp distinct
    rcases List.mem_cons.mp listed with rfl | later
    · simp [valueOf]
    · have other : g.1 ≠ f.1 := by
        intro same
        exact fresh (List.mem_map.mpr ⟨f, later, same.symm⟩)
      have skip : valueOf f.1 (g :: fields) = valueOf f.1 fields := by simp [valueOf, other]
      rw [skip]
      exact ih distinct later

theorem valueOf_eq_none (missing : name ∉ fields.map (·.1)) : valueOf name fields = none := by
  rw [valueOf, List.find?_eq_none.mpr, Option.bind_none]
  intro f listed same
  simp only [decide_eq_true_eq] at same
  exact missing (List.mem_map.mpr ⟨f, listed, same⟩)

/-- A record that is left out if nothing is in it. -/
def recordIfAny (fields : List (String × Option Json)) : Option Json :=
  if fields.any (·.2.isSome) then some (record fields) else none

theorem isSome_recordIfAny : (recordIfAny fields).isSome ↔ ∃ f ∈ fields, f.2.isSome := by
  rw [← List.any_eq_true, recordIfAny]
  cases fields.any (·.2.isSome) <;> simp

theorem bind_at?_recordIfAny (distinct : (fields.map (·.1)).Nodup) :
    (recordIfAny fields).bind (at? (name :: path)) = (valueOf name fields).bind (at? path) := by
  unfold recordIfAny
  split
  · exact at?_record distinct
  · next empty =>
    have none_held : valueOf name fields = none := by
      by_contra held
      obtain ⟨j, held⟩ := Option.ne_none_iff_exists'.mp held
      obtain ⟨f, found, present⟩ := Option.bind_eq_some_iff.mp held
      exact empty (List.any_eq_true.mpr ⟨f, List.mem_of_find?_eq_some found, by rw [present]; rfl⟩)
    rw [none_held]
    rfl

theorem nullFree_record : NullFree (record fields) ↔ ∀ f ∈ fields, ∀ j ∈ f.2, NullFree j := by
  constructor
  · rintro (_ | _ | _ | _ | each) f listed j held
    exact each (f.1, j) (List.mem_filterMap.mpr ⟨f, listed, by rw [held]; rfl⟩)
  · intro each
    exact .object (forall_written (List.forall_iff_forall_mem.mpr each))

end

theorem nullFree_ofBinary64 {x : Binary64} : NullFree (.ofBinary64 x) ↔ x.isFinite = true := by
  constructor
  · intro free
    by_contra infinite
    rw [ofBinary64_eq_null.mpr (eq_false_of_ne_true infinite)] at free
    cases free
  · intro finite
    obtain ⟨n, written⟩ := dataForm.write?_of_finite finite
    rw [ofBinary64, written]
    exact .number n

theorem nullFree_unlessEmpty (s : String) : ∀ j ∈ unlessEmpty s, NullFree j := by
  intro j held
  unfold unlessEmpty at held
  split at held
  · cases held
  · obtain rfl := Option.some.inj held
    exact .string s

theorem nullFree_unlessNone (l : List String) : ∀ j ∈ unlessNone l, NullFree j := by
  intro j held
  unfold unlessNone at held
  split at held
  · cases held
  · obtain rfl := Option.some.inj held
    refine .array fun j listed => ?_
    obtain ⟨s, -, rfl⟩ := List.mem_map.mp listed
    exact .string s

end Json

namespace Entry

theorem Allocation.nullFree (a : Allocation) : NullFree a.toJson := by
  have number (n : Nat) : NullFree (.ofNat n) := .number _
  have cache (b : CacheBounds) : NullFree b.toJson := by
    rw [CacheBounds.toJson, object_eq_record, nullFree_record]
    simp [number]
  have bandwidth (b : Bandwidth) : NullFree b.toJson := by
    rw [Bandwidth.toJson, nullFree_record]
    simp [number]
  rw [Allocation.toJson, nullFree_record]
  simp [cache, bandwidth]

theorem PowerState.nullFree {p : PowerState} : NullFree p.toJson ↔ ∀ x ∈ p.ratio, x.isFinite = true := by
  have text (s : String) : NullFree (.string s) := .string s
  rw [PowerState.toJson, nullFree_record]
  simp [text, nullFree_ofBinary64]

theorem nullFree {e : Entry} : NullFree e.toJson ↔ ∀ x ∈ e.ratio?, x.isFinite = true := by
  have plugins (p : Plugins) : NullFree p.toJson ↔ ∀ s ∈ p.powerState, NullFree s.toJson := by
    rw [Plugins.toJson, nullFree_record]
    simp
  constructor
  · intro free x held
    obtain ⟨p, present, s, powerState, ratio⟩ := mem_ratio?.mp held
    have whole := nullFree_record.mp free ("plugins", e.plugins.map Plugins.toJson) (by simp) p.toJson
      (Option.mem_map_of_mem _ present)
    exact PowerState.nullFree.mp ((plugins p).mp whole s powerState) x ratio
  · intro finite
    have allocation : ∀ j ∈ e.allocation.map Allocation.toJson, NullFree j := by
      intro j held
      obtain ⟨a, -, rfl⟩ := Option.map_eq_some_iff.mp held
      exact a.nullFree
    have plugins : ∀ j ∈ e.plugins.map Plugins.toJson, NullFree j := by
      intro j held
      obtain ⟨p, present, rfl⟩ := Option.map_eq_some_iff.mp held
      refine (plugins p).mpr fun s powerState => PowerState.nullFree.mpr fun x ratio => ?_
      exact finite x (mem_ratio?.mpr ⟨p, present, s, powerState, ratio⟩)
    refine .object (forall_written ?_)
    exact ⟨nullFree_unlessEmpty _, nullFree_unlessEmpty _, nullFree_unlessNone _, nullFree_unlessNone _,
      nullFree_unlessEmpty _, nullFree_unlessEmpty _, nullFree_unlessEmpty _, allocation, plugins⟩

end Entry

/-- The ratio that a specification's text stands for, if it stands for one. -/
def WorkloadSpec.ratio? (s : WorkloadSpec) : Option Binary64 :=
  Decimal.read? (Text.trimBlanks s.powerState.ratio.toList)

/-- What a request can ask for. -/
inductive Wish where
  | uuid
  | coreIds
  | policy
  | cacheMax
  | cacheMin
  | percentage
  | mbps
  | ratio
  | monitoring
  deriving DecidableEq, Repr

namespace Wish

/-- Where a wish stands in a body. -/
def path : Wish → List String
  | uuid => ["uuid"]
  | coreIds => ["core_ids"]
  | policy => ["policy"]
  | cacheMax => ["rdt", "cache", "max"]
  | cacheMin => ["rdt", "cache", "min"]
  | percentage => ["rdt", "mba", "percentage"]
  | mbps => ["rdt", "mba", "mbps"]
  | ratio => ["plugins", "pstate", "ratio"]
  | monitoring => ["plugins", "pstate", "monitoring"]

/-- What is asked for. The bounds on the cache are asked for together. -/
def value? (uuid : String) (coreIds : List String) (spec : WorkloadSpec) : Wish → Option Json
  | .uuid => if uuid = "" then none else some (.string uuid)
  | .coreIds => if coreIds = [] then none else some (.ofTexts coreIds)
  | .policy => if spec.policy = "" then none else some (.string spec.policy)
  | .cacheMax =>
    if spec.allocation.cache.max = 0 ∧ spec.allocation.cache.min = 0 then none
    else some (.ofNat spec.allocation.cache.max.toNat)
  | .cacheMin =>
    if spec.allocation.cache.max = 0 ∧ spec.allocation.cache.min = 0 then none
    else some (.ofNat spec.allocation.cache.min.toNat)
  | .percentage =>
    if spec.allocation.bandwidth.percentage = 0 then none
    else some (.ofNat spec.allocation.bandwidth.percentage.toNat)
  | .mbps =>
    if spec.allocation.bandwidth.mbps = 0 then none
    else some (.ofNat spec.allocation.bandwidth.mbps.toNat)
  | .ratio => spec.ratio?.map Json.ofBinary64
  | .monitoring =>
    if spec.powerState.monitoring = "" then none else some (.string spec.powerState.monitoring)

theorem path_prefix {w w' : Wish} (leads : w.path <+: w'.path) : w' = w := by
  cases w <;> cases w' <;> simp [path] at leads ⊢

variable {uuid : String} {coreIds : List String} {spec : WorkloadSpec}

/-- What is asked for has no parts of its own. -/
theorem at?_value {w : Wish} {j : Json} (asked : w.value? uuid coreIds spec = some j) (name : String)
    (path : List String) : j.at? (name :: path) = none := by
  cases w with
  | ratio =>
    obtain ⟨x, -, rfl⟩ := Option.map_eq_some_iff.mp asked
    unfold Json.ofBinary64
    cases dataForm.write? x <;> rfl
  | _ =>
    obtain ⟨-, same⟩ := Option.ite_none_left_eq_some.mp asked
    obtain rfl := Option.some.inj same
    rfl

/-- Whether a part of a body at a place is made up of the wishes that stand below the place. -/
structure MakeUp (uuid : String) (coreIds : List String) (spec : WorkloadSpec) (place : List String)
    (part : Option Json) : Prop where
  held : ∀ (w : Wish) (p : List String), place ++ p = w.path → part.bind (at? p) = w.value? uuid coreIds spec
  standing : ∀ p, (part.bind (at? p)).isSome ↔
    ∃ w : Wish, place ++ p <+: w.path ∧ (w.value? uuid coreIds spec).isSome

namespace MakeUp

variable {place : List String} {fields : List (String × Option Json)}

theorem wish (w : Wish) : MakeUp uuid coreIds spec w.path (w.value? uuid coreIds spec) where
  held w' p leads := by
    obtain rfl := path_prefix ⟨p, leads⟩
    obtain rfl := List.append_right_eq_self.mp leads
    exact bind_at?_nil _
  standing p := by
    cases p with
    | nil =>
      rw [List.append_nil, bind_at?_nil]
      constructor
      · intro asked
        exact ⟨w, List.prefix_refl _, asked⟩
      · rintro ⟨w', leads, asked⟩
        obtain rfl := path_prefix leads
        exact asked
    | cons name p =>
      constructor
      · intro present
        obtain ⟨j', inside⟩ := Option.isSome_iff_exists.mp present
        obtain ⟨j, asked, inside⟩ := Option.bind_eq_some_iff.mp inside
        rw [at?_value asked] at inside
        cases inside
      · rintro ⟨w', leads, -⟩
        obtain rfl := path_prefix ((List.prefix_append _ _).trans leads)
        have short := leads.length_le
        rw [List.length_append, List.length_cons] at short
        omega

/-- Nothing stands where no wish does. -/
theorem absent (apart : ∀ w : Wish, ¬ place <+: w.path) : MakeUp uuid coreIds spec place none where
  held w p leads := absurd ⟨p, leads⟩ (apart w)
  standing p := by
    constructor
    · rintro ⟨⟩
    · rintro ⟨w, leads, -⟩
      exact absurd ((List.prefix_append place p).trans leads) (apart w)

/-- Below its own place, a record is made up of wishes if its fields are. -/
theorem below (place : List String) (distinct : (fields.map (·.1)).Nodup)
    (each : fields.Forall fun f => MakeUp uuid coreIds spec (place ++ [f.1]) f.2)
    (through : ∀ w : Wish, place <+: w.path → ∃ name ∈ fields.map (·.1), place ++ [name] <+: w.path)
    (name : String) (p : List String) :
    (∀ w : Wish, place ++ name :: p = w.path →
      (valueOf name fields).bind (at? p) = w.value? uuid coreIds spec) ∧
    (((valueOf name fields).bind (at? p)).isSome ↔
      ∃ w : Wish, place ++ name :: p <+: w.path ∧ (w.value? uuid coreIds spec).isSome) := by
  by_cases listed : name ∈ fields.map (·.1)
  · obtain ⟨f, member, rfl⟩ := List.mem_map.mp listed
    have own := List.forall_iff_forall_mem.mp each f member
    rw [valueOf_eq distinct member, ← List.singleton_append, ← List.append_assoc]
    exact ⟨fun w => own.held w p, own.standing p⟩
  · have apart (w : Wish) : ¬ place ++ name :: p <+: w.path := by
      intro leads
      obtain ⟨name', member, way⟩ := through w ((List.prefix_append _ _).trans leads)
      have same : place ++ [name'] <+: place ++ name :: p :=
        List.prefix_of_prefix_length_le way leads (by simp)
      obtain ⟨rfl, -⟩ := List.cons_prefix_cons.mp ((List.prefix_append_right_inj place).mp same)
      exact listed member
    rw [valueOf_eq_none listed, Option.bind_none]
    constructor
    · intro w leads
      exact absurd (leads ▸ List.prefix_refl _) (apart w)
    · constructor
      · rintro ⟨⟩
      · rintro ⟨w, leads, -⟩
        exact absurd leads (apart w)

/-- A record that is left out if nothing is in it is made up of wishes if its fields are. -/
theorem record (distinct : (fields.map (·.1)).Nodup)
    (each : fields.Forall fun f => MakeUp uuid coreIds spec (place ++ [f.1]) f.2)
    (through : ∀ w : Wish, place <+: w.path → ∃ name ∈ fields.map (·.1), place ++ [name] <+: w.path) :
    MakeUp uuid coreIds spec place (recordIfAny fields) where
  held w p leads := by
    cases p with
    | nil =>
      -- No wish stands at the place of a record, since its path goes on through a field.
      obtain ⟨name, -, way⟩ := through w ⟨[], leads⟩
      have short := way.length_le
      rw [← leads, List.length_append, List.length_append, List.length_singleton, List.length_nil] at short
      omega
    | cons name p =>
      rw [bind_at?_recordIfAny distinct]
      exact (below place distinct each through name p).1 w leads
  standing p := by
    cases p with
    | cons name p =>
      rw [bind_at?_recordIfAny distinct]
      exact (below place distinct each through name p).2
    | nil =>
      rw [bind_at?_nil, List.append_nil, isSome_recordIfAny]
      have own (f) (member : f ∈ fields) : f.2.isSome ↔
          ∃ w : Wish, place ++ [f.1] <+: w.path ∧ (w.value? uuid coreIds spec).isSome := by
        have standing := (List.forall_iff_forall_mem.mp each f member).standing []
        rwa [bind_at?_nil, List.append_nil] at standing
      constructor
      · rintro ⟨f, member, present⟩
        obtain ⟨w, leads, asked⟩ := (own f member).mp present
        exact ⟨w, (List.prefix_append _ _).trans leads, asked⟩
      · rintro ⟨w, leads, asked⟩
        obtain ⟨name, listed, way⟩ := through w leads
        obtain ⟨f, member, rfl⟩ := List.mem_map.mp listed
        exact ⟨f, member, (own f member).mpr ⟨w, way, asked⟩⟩

end MakeUp

end Wish

section

variable {uuid : String} {coreIds : List String} {spec : WorkloadSpec}

open Wish (MakeUp)

theorem makeUp_cache :
    MakeUp uuid coreIds spec ["rdt", "cache"] ((Entry.cacheOf spec.allocation.cache).map CacheBounds.toJson) := by
  have parts : (Entry.cacheOf spec.allocation.cache).map CacheBounds.toJson = recordIfAny
      [("max", Wish.cacheMax.value? uuid coreIds spec), ("min", Wish.cacheMin.value? uuid coreIds spec)] := by
    unfold Entry.cacheOf Wish.value?
    split <;> rfl
  rw [parts]
  refine .record (by simp) ⟨.wish .cacheMax, .wish .cacheMin⟩ ?_
  rintro ⟨⟩ <;> simp [Wish.path]

theorem makeUp_bandwidth : MakeUp uuid coreIds spec ["rdt", "mba"]
    ((Entry.bandwidthOf spec.allocation.bandwidth).map Entry.Bandwidth.toJson) := by
  have parts : (Entry.bandwidthOf spec.allocation.bandwidth).map Entry.Bandwidth.toJson = recordIfAny
      [("percentage", Wish.percentage.value? uuid coreIds spec), ("mbps", Wish.mbps.value? uuid coreIds spec)] := by
    unfold Entry.bandwidthOf Entry.unlessZero Wish.value?
    by_cases percentage : spec.allocation.bandwidth.percentage = 0 <;>
      by_cases mbps : spec.allocation.bandwidth.mbps = 0 <;>
      simp [percentage, mbps, recordIfAny, Entry.Bandwidth.toJson]
  rw [parts]
  refine .record (by simp) ⟨.wish .percentage, .wish .mbps⟩ ?_
  rintro ⟨⟩ <;> simp [Wish.path]

theorem makeUp_allocation : MakeUp uuid coreIds spec ["rdt"]
    ((Entry.allocationOf spec.allocation).map Entry.Allocation.toJson) := by
  have parts : (Entry.allocationOf spec.allocation).map Entry.Allocation.toJson = recordIfAny
      [("cache", (Entry.cacheOf spec.allocation.cache).map CacheBounds.toJson),
        ("mba", (Entry.bandwidthOf spec.allocation.bandwidth).map Entry.Bandwidth.toJson)] := by
    unfold Entry.allocationOf
    cases Entry.cacheOf spec.allocation.cache <;> cases Entry.bandwidthOf spec.allocation.bandwidth <;> rfl
  rw [parts]
  refine .record (by simp) ⟨makeUp_cache, makeUp_bandwidth⟩ ?_
  rintro ⟨⟩ <;> simp [Wish.path]

theorem makeUp_plugins : MakeUp uuid coreIds spec ["plugins"]
    ((Entry.pluginsOf spec.powerState).map Entry.Plugins.toJson) := by
  have parts : (Entry.pluginsOf spec.powerState).map Entry.Plugins.toJson = recordIfAny [("pstate", recordIfAny
      [("ratio", Wish.ratio.value? uuid coreIds spec), ("monitoring", Wish.monitoring.value? uuid coreIds spec)])] := by
    unfold Entry.pluginsOf Wish.value? WorkloadSpec.ratio?
    cases Decimal.read? (Text.trimBlanks spec.powerState.ratio.toList) <;>
      by_cases monitoring : spec.powerState.monitoring = "" <;>
      simp [monitoring, recordIfAny, Entry.Plugins.toJson, Entry.PowerState.toJson]
  have powerState : MakeUp uuid coreIds spec ["plugins", "pstate"] (recordIfAny
      [("ratio", Wish.ratio.value? uuid coreIds spec), ("monitoring", Wish.monitoring.value? uuid coreIds spec)]) := by
    refine .record (by simp) ⟨.wish .ratio, .wish .monitoring⟩ ?_
    rintro ⟨⟩ <;> simp [Wish.path]
  rw [parts]
  refine .record (by simp) powerState ?_
  rintro ⟨⟩ <;> simp [Wish.path]

/-- A body is made up of the wishes for it. -/
theorem body_below (name : String) (p : List String) :
    (∀ w : Wish, name :: p = w.path →
      (Entry.ofSpec uuid coreIds spec).toJson.at? (name :: p) = w.value? uuid coreIds spec) ∧
    (((Entry.ofSpec uuid coreIds spec).toJson.at? (name :: p)).isSome ↔
      ∃ w : Wish, name :: p <+: w.path ∧ (w.value? uuid coreIds spec).isSome) := by
  have text (s : String) : unlessEmpty s = if s = "" then none else some (.string s) := by
    simp [unlessEmpty, String.isEmpty_iff]
  have texts (l : List String) : unlessNone l = if l = [] then none else some (.ofTexts l) := by
    simp [unlessNone, List.isEmpty_iff]
  have absent (name : String) (apart : ∀ w : Wish, ¬ [name] <+: w.path) :
      MakeUp uuid coreIds spec [name] (unlessEmpty "") := .absent apart
  have ids : MakeUp uuid coreIds spec ["uuid"] (unlessEmpty uuid) := by
    rw [text]
    exact .wish .uuid
  have cores : MakeUp uuid coreIds spec ["core_ids"] (unlessNone coreIds) := by
    rw [texts]
    exact .wish .coreIds
  have policy : MakeUp uuid coreIds spec ["policy"] (unlessEmpty spec.policy) := by
    rw [text]
    exact .wish .policy
  rw [Entry.toJson, at?_record (by simp)]
  refine MakeUp.below [] (by simp) ?_ ?_ name p
  · refine ⟨absent "id" ?_, ids, cores, absent "task_ids" ?_, policy, absent "status" ?_, absent "cos_name" ?_,
      makeUp_allocation, makeUp_plugins⟩
    all_goals rintro ⟨⟩ <;> simp [Wish.path]
  · rintro ⟨⟩ <;> simp [Wish.path]

end

theorem Entry.ratio?_ofSpec (uuid : String) (coreIds : List String) (spec : WorkloadSpec) :
    (Entry.ofSpec uuid coreIds spec).ratio? = spec.ratio? := by
  show ((Entry.pluginsOf spec.powerState).bind (·.powerState)).bind (·.ratio) = spec.ratio?
  unfold Entry.pluginsOf WorkloadSpec.ratio?
  cases Decimal.read? (Text.trimBlanks spec.powerState.ratio.toList) <;>
    by_cases monitoring : spec.powerState.monitoring = "" <;> simp [monitoring]

/-- The body of a request holds what is asked for at its place, and a part stands in it just if a wish stands there
or below. The text of the body stands for it, except that a ratio that is not finite is written as null and read
as absent. -/
theorem body_asks_for_spec (uuid : String) (coreIds : List String) (spec : WorkloadSpec)
    (inverse : ∀ x ∈ spec.ratio?, x.isFinite = true → (Json.ofBinary64 x).reread? binary64? = some x) :
    (∀ w : Wish, (Entry.ofSpec uuid coreIds spec).toJson.at? w.path = w.value? uuid coreIds spec) ∧
    (∀ p ≠ [], ((Entry.ofSpec uuid coreIds spec).toJson.at? p).isSome ↔
      ∃ w : Wish, p <+: w.path ∧ (w.value? uuid coreIds spec).isSome) ∧
    Json.read? (Entry.ofSpec uuid coreIds spec).toJson.print = some (Entry.ofSpec uuid coreIds spec).toJson ∧
    ((Entry.ofSpec uuid coreIds spec).toJson.NullFree ↔ ∀ x ∈ spec.ratio?, x.isFinite = true) ∧
    (Entry.ofSpec uuid coreIds spec).toJson.reread? Entry.ofJson? =
      some (Entry.ofSpec uuid coreIds spec).conveyed ∧
    ((Entry.ofSpec uuid coreIds spec).toJson.reread? Entry.ofJson? = some (Entry.ofSpec uuid coreIds spec) ↔
      ∀ x ∈ spec.ratio?, x.isFinite = true) := by
  have ratio : (Entry.ofSpec uuid coreIds spec).ratio? = spec.ratio? := Entry.ratio?_ofSpec uuid coreIds spec
  have encodes : Encodes (Entry.ofSpec uuid coreIds spec).toJson Entry.ofJson?
      (Entry.ofSpec uuid coreIds spec).conveyed := by
    refine Entry.conveys fun x held finite => encodes_binary64 finite ?_
    rw [ratio] at held
    exact inverse x held finite
  refine ⟨?_, ?_, read?_print encodes.legible, ?_, encodes.reread?, ?_⟩
  · intro w
    obtain ⟨name, p, path⟩ : ∃ name p, w.path = name :: p := by cases w <;> exact ⟨_, _, rfl⟩
    rw [path]
    exact (body_below name p).1 w path.symm
  · intro p filled
    obtain ⟨name, p, rfl⟩ := List.exists_cons_of_ne_nil filled
    exact (body_below name p).2
  · rw [Entry.nullFree, ratio]
  · rw [encodes.reread?, Option.some_inj, Entry.conveyed_eq_self, ratio]

/-- A specification of one bound on the cache, a policy, and a ratio between blanks. -/
def mixedSpec : WorkloadSpec where
  allocation := { cache := { max := 2 } }
  policy := "gold"
  powerState := { ratio := " 1.5 " }

theorem body_asks_for_spec_mixed :
    (∀ x ∈ mixedSpec.ratio?, x.isFinite = true → (Json.ofBinary64 x).reread? binary64? = some x) ∧
    (Entry.ofSpec "w.shop" ["1"] mixedSpec).toJson.at? ["rdt", "cache", "min"] = some (.ofNat 0) ∧
    ((Entry.ofSpec "w.shop" ["1"] mixedSpec).toJson.at? ["rdt", "mba"]).isSome = false ∧
    (Entry.ofSpec "w.shop" ["1"] mixedSpec).toJson.NullFree := by
  have ratio : mixedSpec.ratio? = some ⟨0x3ff8000000000000⟩ := by decide +kernel
  have inverse : ∀ x ∈ mixedSpec.ratio?, x.isFinite = true → (Json.ofBinary64 x).reread? binary64? = some x := by
    rw [ratio]
    rintro x ⟨⟩ -
    decide +kernel
  obtain ⟨held, standing, -, nullFree, -⟩ := body_asks_for_spec "w.shop" ["1"] mixedSpec inverse
  refine ⟨inverse, held .cacheMin, ?_, nullFree.mpr ?_⟩
  · rw [← Bool.not_eq_true, standing _ (by simp)]
    rintro ⟨w, leads, asked⟩
    cases w <;> simp [Wish.path] at leads <;> cases asked
  · rw [ratio]
    rintro x ⟨⟩
    decide

/-- A specification whose ratio is infinite. -/
def infiniteRatio : WorkloadSpec := { powerState := { ratio := "inf" } }

/-- A body may hold a null, and its text stand for another body. -/
theorem infinite_ratio_is_null :
    (Entry.ofSpec "w.shop" ["1"] infiniteRatio).toJson.at? ["plugins", "pstate", "ratio"] = some .null ∧
    ¬ (Entry.ofSpec "w.shop" ["1"] infiniteRatio).toJson.NullFree ∧
    (Entry.ofSpec "w.shop" ["1"] infiniteRatio).toJson.reread? Entry.ofJson? ≠
      some (Entry.ofSpec "w.shop" ["1"] infiniteRatio) := by
  have ratio : (Entry.ofSpec "w.shop" ["1"] infiniteRatio).ratio? = some (.infinity false) := by decide +kernel
  refine ⟨rfl, ?_, ?_⟩
  · rw [Entry.nullFree, ratio]
    intro finite
    exact absurd (finite _ rfl) (by decide)
  · decide +kernel

end CachePartition
