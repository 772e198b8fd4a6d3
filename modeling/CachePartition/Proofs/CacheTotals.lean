import CachePartition.CacheReport.Basic
import CachePartition.Proofs.ByteOrder
import Mathlib.Algebra.BigOperators.Group.List.Basic
import Mathlib.Algebra.GroupWithZero.Nat
import Mathlib.Algebra.Order.BigOperators.Group.List
import Mathlib.Data.List.Perm.Basic

/-! The total of the cache ways of a report. It is the sum of what the masks stand for, whichever caches they
belong to, and where there is none the first cache that stands in the way is named. -/
namespace CachePartition

open Text

/-- What masks stand for, all of them numerals. -/
def MasksRead (masks : List String) (ways : List Nat) : Prop :=
  List.Forall₂ (fun mask n => readWays mask = .ok n) masks ways

namespace CacheReport

/-- The masks of all caches, in the order of their ids. -/
def masks (r : CacheReport) : List String := r.caches.entries.map (·.2.availableWays)

/-- The masks of the caches with ids up to `id`, compared byte by byte. -/
def masksUpTo (r : CacheReport) (id : String) : List String :=
  (r.caches.entries.filter fun c => utf8Bytes c.1.toList ≤ utf8Bytes id.toList).map (·.2.availableWays)

/-- A cache stands in the way of a total: its mask is no numeral, or it takes the sum out of bounds. -/
inductive Offends (r : CacheReport) : String → WaysError → Prop where
  | invalid {id : String} {cache : CacheDetails} {reason : NumeralError}
    (held : r.caches.get? id = some cache) (unread : readWays cache.availableWays = .error reason) :
    Offends r id (.invalid id cache.availableWays reason)
  | overflow {id : String} {cache : CacheDetails} {ways : List Nat} (held : r.caches.get? id = some cache)
    (read : MasksRead (r.masksUpTo id) ways) (large : 1 <<< 64 ≤ ways.sum) :
    Offends r id (.overflow id)

end CacheReport

namespace MasksRead

variable {masks masks' : List String} {ways ways' : List Nat}

theorem unique (h : MasksRead masks ways) (h' : MasksRead masks ways') : ways = ways' := by
  have single : Relator.RightUnique fun mask n => readWays mask = .ok n := by
    intro mask m n hm hn
    exact Except.ok.inj (hm.symm.trans hn)
  exact single.forall₂ h h'

/-- Fewer masks stand for no more. -/
theorem sublist (h : MasksRead masks ways) (fewer : masks'.Sublist masks) :
    ∃ ways', MasksRead masks' ways' ∧ ways'.sum ≤ ways.sum := by
  induction fewer generalizing ways with
  | slnil => exact ⟨ways, h, le_rfl⟩
  | cons mask _ ih =>
    cases h with
    | cons _ rest =>
      obtain ⟨ways', read, le⟩ := ih rest
      refine ⟨ways', read, ?_⟩
      rw [List.sum_cons]
      omega
  | cons_cons mask _ ih =>
    cases h with
    | cons first rest =>
      obtain ⟨ways', read, le⟩ := ih rest
      refine ⟨_ :: ways', .cons first read, ?_⟩
      rw [List.sum_cons, List.sum_cons]
      omega

theorem of_mem (h : MasksRead masks ways) {mask : String} (held : mask ∈ masks) :
    ∃ n, readWays mask = .ok n := by
  obtain ⟨_, read, -⟩ := h.sublist (List.singleton_sublist.mpr held)
  cases read with
  | cons first _ => exact ⟨_, first⟩

theorem perm (h : MasksRead masks ways) (same : masks'.Perm masks) :
    ∃ ways', MasksRead masks' ways' ∧ ways'.sum = ways.sum := by
  obtain ⟨ways', read, moved⟩ := List.perm_comp_forall₂ same h
  exact ⟨ways', read, moved.sum_eq⟩

end MasksRead

section Fold

variable {l : List (String × CacheDetails)} {start t : Nat} {e : WaysError}

theorem addWays_eq_ok {c : String × CacheDetails} {total : Nat} :
    addWays total c = .ok t ↔
      ∃ n, readWays c.2.availableWays = .ok n ∧ total + n < 1 <<< 64 ∧ t = total + n := by
  unfold addWays
  cases readWays c.2.availableWays with
  | error reason => simp
  | ok n =>
    simp only [Except.ok.injEq, exists_eq_left']
    split
    · next fits => simp only [Except.ok.injEq, fits, true_and, eq_comm]
    · next large => simp only [reduceCtorEq, large, false_and]

theorem addWays_eq_error {c : String × CacheDetails} {total : Nat} :
    addWays total c = .error e ↔
      (∃ reason, readWays c.2.availableWays = .error reason ∧ e = .invalid c.1 c.2.availableWays reason) ∨
      ∃ n, readWays c.2.availableWays = .ok n ∧ 1 <<< 64 ≤ total + n ∧ e = .overflow c.1 := by
  unfold addWays
  cases readWays c.2.availableWays with
  | error reason => simp [eq_comm]
  | ok n =>
    simp only [reduceCtorEq, false_and, exists_false, Except.ok.injEq, exists_eq_left', false_or]
    split
    · next fits => simp only [reduceCtorEq, Nat.not_le.mpr fits, false_and]
    · next large => simp only [Except.error.injEq, Nat.not_lt.mp large, true_and, eq_comm]

/-- A total that was reached is the sum of what was read. -/
theorem foldlM_addWays_eq_ok (room : start < 1 <<< 64) :
    l.foldlM addWays start = .ok t ↔
      ∃ ways, MasksRead (l.map (·.2.availableWays)) ways ∧ t = start + ways.sum ∧ t < 1 <<< 64 := by
  induction l generalizing start with
  | nil =>
    constructor
    · rintro ⟨⟩
      exact ⟨[], .nil, by simp, room⟩
    · rintro ⟨ways, read, rfl, -⟩
      cases read
      rfl
  | cons c l ih =>
    rw [List.foldlM_cons, List.map_cons]
    constructor
    · intro summed
      cases added : addWays start c with
      | error e =>
        rw [added] at summed
        cases summed
      | ok next =>
        rw [added] at summed
        obtain ⟨n, read, fits, rfl⟩ := addWays_eq_ok.mp added
        obtain ⟨ways, rest, rfl, below⟩ := (ih fits).mp summed
        exact ⟨n :: ways, .cons read rest, by rw [List.sum_cons, Nat.add_assoc], below⟩
    · rintro ⟨_, read, same, below⟩
      cases read with
      | @cons _ n _ ways first rest =>
        rw [List.sum_cons, ← Nat.add_assoc] at same
        have fits : start + n < 1 <<< 64 := by omega
        rw [addWays_eq_ok.mpr ⟨n, first, fits, rfl⟩]
        exact (ih fits).mpr ⟨ways, rest, same, below⟩

/-- Where adding up stops, what stands before was added up. -/
theorem foldlM_addWays_eq_error (stopped : l.foldlM addWays start = .error e) :
    ∃ before c after total, l = before ++ c :: after ∧ before.foldlM addWays start = .ok total ∧
      addWays total c = .error e := by
  induction l generalizing start with
  | nil => cases stopped
  | cons c l ih =>
    rw [List.foldlM_cons] at stopped
    cases added : addWays start c with
    | error e' =>
      rw [added] at stopped
      cases stopped
      exact ⟨[], c, l, start, rfl, rfl, added⟩
    | ok next =>
      rw [added] at stopped
      obtain ⟨before, d, after, total, rfl, summed, last⟩ := ih stopped
      refine ⟨c :: before, d, after, total, rfl, ?_, last⟩
      rw [List.foldlM_cons, added]
      exact summed

end Fold

namespace CacheReport

variable {r : CacheReport} {id id' : String} {e e' : WaysError} {t : Nat}

theorem totalWays_eq_ok :
    r.totalWays = .ok t ↔ ∃ ways, MasksRead r.masks ways ∧ t = ways.sum ∧ t < 1 <<< 64 := by
  have room : 0 < 1 <<< 64 := by decide
  have summed : r.totalWays = .ok t ↔ _ := foldlM_addWays_eq_ok room
  simp only [Nat.zero_add] at summed
  exact summed

theorem masksUpTo_sublist (r : CacheReport) (id : String) : (r.masksUpTo id).Sublist r.masks :=
  List.filter_sublist.map _

theorem filter_upTo_eq_nil {l : List (String × CacheDetails)} (later : ∀ c ∈ l, id < c.1) :
    l.filter (fun c => utf8Bytes c.1.toList ≤ utf8Bytes id.toList) = [] := by
  refine List.filter_eq_nil_iff.mpr fun c hc => ?_
  rw [decide_eq_true_eq, utf8Bytes_le_iff, String.not_le]
  exact later c hc

section Split

variable {before after : List (String × CacheDetails)} {c : String × CacheDetails}

/-- The caches up to one are those that stand before it, and itself. -/
theorem masksUpTo_eq (split : r.caches.entries = before ++ c :: after) :
    r.masksUpTo c.1 = before.map (·.2.availableWays) ++ [c.2.availableWays] := by
  have ascending := r.caches.ascending
  rw [split, List.pairwise_append, List.pairwise_cons] at ascending
  obtain ⟨-, ⟨later, -⟩, earlier⟩ := ascending
  have kept : before.filter (fun d => utf8Bytes d.1.toList ≤ utf8Bytes c.1.toList) = before := by
    refine List.filter_eq_self.mpr fun d hd => decide_eq_true ?_
    exact utf8Bytes_le_iff.mpr (String.not_lt.mp (String.lt_asymm (earlier d hd c List.mem_cons_self)))
  simp [masksUpTo, split, kept, filter_upTo_eq_nil later]

/-- Those up to an id before that of a cache stand before the cache. -/
theorem masksUpTo_sublist_before (split : r.caches.entries = before ++ c :: after) (earlier : id < c.1) :
    (r.masksUpTo id).Sublist (before.map (·.2.availableWays)) := by
  have ascending := r.caches.ascending
  rw [split, List.pairwise_append, List.pairwise_cons] at ascending
  have later : ∀ d ∈ c :: after, id < d.1 := by
    intro d hd
    rcases List.mem_cons.mp hd with rfl | hd
    · exact earlier
    · exact String.lt_trans earlier (ascending.2.1.1 d hd)
  rw [masksUpTo, split, List.filter_append, filter_upTo_eq_nil later, List.append_nil]
  exact List.filter_sublist.map _

end Split

/-- The mask of a cache is among those up to it. -/
theorem mem_masksUpTo {cache : CacheDetails} (held : r.caches.get? id = some cache) :
    cache.availableWays ∈ r.masksUpTo id := by
  refine List.mem_map.mpr ⟨(id, cache), List.mem_filter.mpr ⟨?_, ?_⟩, rfl⟩
  · exact SortedMap.get?_eq_some_iff.mp held
  · exact decide_eq_true (List.le_refl _)

/-- Masks that are numerals with a sum in bounds offend nowhere up to them. -/
theorem Offends.not_read {ways : List Nat} (h : r.Offends id e) (read : MasksRead (r.masksUpTo id) ways) :
    1 <<< 64 ≤ ways.sum := by
  cases h with
  | invalid held unread =>
    obtain ⟨n, fine⟩ := read.of_mem (mem_masksUpTo held)
    rw [unread] at fine
    cases fine
  | overflow held read' large =>
    rw [read.unique read']
    exact large

theorem Offends.unique (h : r.Offends id e) (h' : r.Offends id e') : e = e' := by
  cases h with
  | invalid held unread =>
    cases h' with
    | invalid held' unread' =>
      obtain rfl := Option.some.inj (held.symm.trans held')
      obtain rfl := Except.error.inj (unread.symm.trans unread')
      rfl
    | overflow _ read _ =>
      obtain ⟨n, fine⟩ := read.of_mem (mem_masksUpTo held)
      rw [unread] at fine
      cases fine
  | overflow _ read _ =>
    cases h' with
    | invalid held' unread' =>
      obtain ⟨n, fine⟩ := read.of_mem (mem_masksUpTo held')
      rw [unread'] at fine
      cases fine
    | overflow => rfl

/-- No cache offends in a report with a total. -/
theorem Offends.no_total (h : r.Offends id e) : r.totalWays ≠ .ok t := by
  intro total
  obtain ⟨ways, read, rfl, below⟩ := totalWays_eq_ok.mp total
  obtain ⟨fewer, read', le⟩ := read.sublist (r.masksUpTo_sublist id)
  have large := h.not_read read'
  omega

/-- Adding up stops at a cache that offends, and none before it does. -/
theorem offends_of_totalWays_eq_error (stopped : r.totalWays = .error e) :
    ∃ id, r.Offends id e ∧ ∀ id' < id, ∀ e', ¬ r.Offends id' e' := by
  obtain ⟨before, c, after, total, split, summed, last⟩ := foldlM_addWays_eq_error stopped
  obtain ⟨ways, read, rfl, below⟩ := (foldlM_addWays_eq_ok (by decide)).mp summed
  have held : r.caches.get? c.1 = some c.2 := by
    apply SortedMap.get?_eq_some_iff.mpr
    simp [split]
  have upTo := masksUpTo_eq split
  refine ⟨c.1, ?_, ?_⟩
  · rcases addWays_eq_error.mp last with ⟨reason, unread, rfl⟩ | ⟨n, fine, large, rfl⟩
    · exact .invalid held unread
    · have read' : MasksRead (r.masksUpTo c.1) (ways ++ [n]) := by
        rw [upTo]
        exact List.rel_append read (.cons fine .nil)
      refine .overflow held read' ?_
      rw [List.sum_append, List.sum_singleton]
      omega
  · -- What stands up to an earlier cache stands before this one, and that was added up.
    intro id' earlier e' offends
    obtain ⟨fewer, read', le⟩ := read.sublist (masksUpTo_sublist_before split earlier)
    have large := offends.not_read read'
    omega

/-- A report has no total just for the cache that offends first. -/
theorem totalWays_eq_error :
    r.totalWays = .error e ↔ ∃ id, r.Offends id e ∧ ∀ id' < id, ∀ e', ¬ r.Offends id' e' := by
  refine ⟨offends_of_totalWays_eq_error, ?_⟩
  rintro ⟨id, offends, first⟩
  cases stopped : r.totalWays with
  | ok t => exact absurd stopped offends.no_total
  | error e' =>
    obtain ⟨id', offends', first'⟩ := offends_of_totalWays_eq_error stopped
    rcases KeyOrder.lt_connected id id' with before | rfl | after
    · exact absurd offends (first' id before e)
    · rw [offends.unique offends']
    · exact absurd offends' (first id' after e')

theorem totalWays_congr {r' : CacheReport} (same : r'.masks.Perm r.masks) (total : r.totalWays = .ok t) :
    r'.totalWays = .ok t := by
  obtain ⟨ways, read, rfl, below⟩ := totalWays_eq_ok.mp total
  obtain ⟨ways', read', sum⟩ := read.perm same
  exact totalWays_eq_ok.mpr ⟨ways', read', sum.symm, below⟩

end CacheReport

/-- The total of a report is the sum of all its masks and is below the bound. It does not hang on which cache
has which mask. There is none just if a cache offends, and the error is that of the first such cache in the
byte order of ids. -/
theorem totals_exact (r : CacheReport) :
    (∀ t, r.totalWays = .ok t ↔ ∃ ways, MasksRead r.masks ways ∧ t = ways.sum ∧ t < 1 <<< 64) ∧
    (∀ r' : CacheReport, r'.masks.Perm r.masks → ∀ t, r'.totalWays = .ok t ↔ r.totalWays = .ok t) ∧
    ∀ e, r.totalWays = .error e ↔ ∃ id, r.Offends id e ∧
      ∀ id', utf8Bytes id'.toList < utf8Bytes id.toList → ∀ e', ¬ r.Offends id' e' := by
  refine ⟨fun t => CacheReport.totalWays_eq_ok, ?_, ?_⟩
  · intro r' same t
    exact ⟨CacheReport.totalWays_congr same.symm, CacheReport.totalWays_congr same⟩
  · intro e
    simp only [utf8Bytes_lt_iff]
    exact CacheReport.totalWays_eq_error

/-- A report of caches with ids and masks. -/
def reportOf (caches : List (String × String)) : CacheReport where
  caches := .ofList (caches.map fun c => (c.1, { availableWays := c.2 }))

/-- Masks written in three ways and dealt out twice, and a sum out of bounds before a mask that is none. -/
theorem totals_exact_threeCaches :
    let r := reportOf [("0", " 0x7ff\n"), ("1", "7FF"), ("10", "+01")]
    let r' := reportOf [("a", "7FF"), ("b", "+01"), ("c", " 0x7ff\n")]
    let s := reportOf [("0", "ffffffffffffffff"), ("2", "zz"), ("10", "1")]
    r'.masks.Perm r.masks ∧ r.totalWays = .ok 4095 ∧ r'.totalWays = .ok 4095 ∧
      s.totalWays = .error (.overflow "10") := by
  intro r r' s
  have same : r'.masks.Perm r.masks := by decide
  have read : MasksRead r.masks [2047, 2047, 1] :=
    .cons (by decide) (.cons (by decide) (.cons (by decide) .nil))
  have total : r.totalWays = .ok 4095 := ((totals_exact r).1 _).mpr ⟨_, read, by decide, by decide⟩
  refine ⟨same, total, ((totals_exact r).2.1 r' same _).mpr total, ?_⟩
  have upTo : MasksRead (s.masksUpTo "10") [0xffffffffffffffff, 1] :=
    .cons (by decide) (.cons (by decide) .nil)
  have held : s.caches.get? "10" = some { availableWays := "1" } := by decide
  have offends : s.Offends "10" (.overflow "10") := .overflow held upTo (by decide)
  refine ((totals_exact s).2.2 _).mpr ⟨"10", offends, ?_⟩
  intro id' earlier e' offends'
  have listed : id' ∈ s.caches.keys := by
    cases offends' with
    | invalid held _ => exact List.mem_map_of_mem (SortedMap.get?_eq_some_iff.mp held)
    | overflow held _ _ => exact List.mem_map_of_mem (SortedMap.get?_eq_some_iff.mp held)
  rw [show s.caches.keys = ["0", "10", "2"] by decide] at listed
  simp only [List.mem_cons, List.not_mem_nil, or_false] at listed
  rcases listed with rfl | rfl | rfl
  · have first : MasksRead (s.masksUpTo "0") [0xffffffffffffffff] := .cons (by decide) .nil
    exact absurd (offends'.not_read first) (by decide)
  · exact absurd earlier (by decide)
  · exact absurd earlier (by decide)

end CachePartition
