import CachePartition.PodCpus.Wire
import Mathlib.Tactic.Ring

/-! The wire forms of numbers and fields, with numbers longer than they need be and groups in groups. Each
is read to its last byte and no further, whatever follows. -/
namespace CachePartition.Wire

/-- The bytes of a number: seven bits a byte, the low ones first, and the high bit set on all bytes but
the last. Zeros may follow the number's own bits. -/
inductive Groups : Nat → Bytes → Prop where
  | last {b : UInt8} (small : b.toNat < 128) : Groups b.toNat [b]
  | more {b : UInt8} {n : Nat} {s : Bytes} (large : 128 ≤ b.toNat) (others : Groups n s) :
      Groups (b.toNat % 128 + 128 * n) (b :: s)

/-- The wire forms of a number of 64 bits. -/
structure Varint (n : Nat) (s : Bytes) : Prop where
  groups : Groups n s
  length_le : s.length ≤ 10
  fits : n < 1 <<< 64

variable {n : Nat} {s : Bytes}

theorem Groups.length_pos (h : Groups n s) : 0 < s.length := by
  cases h <;> simp

/-- Reading may start in the middle of a number, after `k` bytes. -/
theorem Groups.read {k : Nat} (h : Groups n s) (value : Nat) (rest : Bytes) (length : k + s.length ≤ 10)
    (fits : n <<< (7 * k) < 1 <<< 64) :
    readVarintFrom? (7 * k) value (s ++ rest) = some (value + n <<< (7 * k), rest) := by
  induction h generalizing k value with
  | @last b small =>
    have whole : b.toNat % 128 = b.toNat := Nat.mod_eq_of_lt small
    have top : ¬ (7 * k = 63 ∧ 2 ≤ b.toNat) := by
      rintro ⟨at63, two⟩
      rw [at63, Nat.shiftLeft_eq] at fits
      omega
    simp only [List.singleton_append, readVarintFrom?, if_pos small, if_neg top, whole]
  | @more b n s large others ih =>
    have shorter : k ≤ 8 := by
      have := others.length_pos
      simp only [List.length_cons] at length
      omega
    have split : (b.toNat % 128 + 128 * n) <<< (7 * k) =
        (b.toNat % 128) <<< (7 * k) + n <<< (7 * (k + 1)) := by
      simp only [Nat.shiftLeft_eq]
      rw [show 7 * (k + 1) = 7 * k + 7 by omega, Nat.pow_add]
      ring
    rw [split] at fits
    have next := ih (k := k + 1) (value + (b.toNat % 128) <<< (7 * k))
      (by simp only [List.length_cons] at length; omega) (Nat.lt_of_le_of_lt (Nat.le_add_left ..) fits)
    simp only [List.cons_append, readVarintFrom?]
    rw [if_neg (by omega), if_neg (by omega), show 7 * k + 7 = 7 * (k + 1) by omega, next, split,
      Nat.add_assoc]

theorem Varint.read (h : Varint n s) (rest : Bytes) : readVarint? (s ++ rest) = some (n, rest) := by
  have whole := h.groups.read (k := 0) 0 rest (by have := h.length_le; omega) (by simpa using h.fits)
  simpa [readVarint?] using whole

theorem varint_byte {b : UInt8} (value : b.toNat = n) (small : n < 128) : Varint n [b] := by
  subst value
  exact ⟨.last small, by simp, by omega⟩

theorem groups_writeVarint (n : Nat) : Groups n (writeVarint n) := by
  induction n using Nat.strongRecOn with
  | _ n ih =>
    rw [writeVarint]
    split
    · next small =>
      have same : (UInt8.ofNat n).toNat = n := by simp; omega
      conv => lhs; rw [← same]
      exact .last (by omega)
    · next large =>
      have byte : (UInt8.ofNat (n % 128 + 128)).toNat = n % 128 + 128 := by simp; omega
      have whole : n = (UInt8.ofNat (n % 128 + 128)).toNat % 128 + 128 * (n / 128) := by omega
      conv => lhs; rw [whole]
      exact .more (by omega) (ih (n / 128) (by omega))

theorem length_writeVarint_le {k : Nat} (h : n < 1 <<< (7 * (k + 1))) : (writeVarint n).length ≤ k + 1 := by
  induction k generalizing n with
  | zero =>
    rw [writeVarint, if_pos (by omega)]
    simp
  | succ k ih =>
    rw [writeVarint]
    split
    · simp
    · have fewer : n / 128 < 1 <<< (7 * (k + 1)) := by
        rw [Nat.shiftLeft_eq, show 7 * (k + 1 + 1) = 7 * (k + 1) + 7 by omega, Nat.pow_add] at h
        rw [Nat.shiftLeft_eq]
        omega
      have := ih fewer
      simp only [List.length_cons]
      omega

theorem varint_writeVarint (h : n < 1 <<< 64) : Varint n (writeVarint n) := by
  refine ⟨groups_writeVarint n, length_writeVarint_le (k := 9) ?_, h⟩
  exact h.trans (by decide)

/-- The wire forms of a field's number and type. -/
structure Key (number type : Nat) (s : Bytes) : Prop where
  varint : Varint (number * 8 + type) s
  pos : 0 < number
  fits : number < 1 <<< 29

/-- The payloads of a type that is no group's. -/
inductive Plain : Nat → Bytes → Prop where
  | varint {n : Nat} {s : Bytes} (value : Varint n s) : Plain 0 s
  | eight {s : Bytes} (length : s.length = 8) : Plain 1 s
  | counted {l s : Bytes} (length : Varint s.length l) : Plain 2 (l ++ s)
  | four {s : Bytes} (length : s.length = 4) : Plain 5 s

/-- Rows of fields with numbers that are not among `known`. Groups nest in them at most `depth` deep,
and the innermost of that many is empty. -/
inductive Unknown : List Nat → Nat → Bytes → Prop where
  | nil {known : List Nat} {depth : Nat} : Unknown known depth []
  | plain {known : List Nat} {depth n type : Nat} {k p s : Bytes} (other : n ∉ known)
      (key : Key n type k) (payload : Plain type p) (others : Unknown known (depth + 1) s) :
      Unknown known (depth + 1) (k ++ p ++ s)
  | group {known : List Nat} {depth n : Nat} {k inner k' s : Bytes} (other : n ∉ known)
      (opens : Key n 3 k) (within : Unknown [] depth inner) (closes : Key n 4 k')
      (others : Unknown known (depth + 1) s) :
      Unknown known (depth + 1) (k ++ inner ++ k' ++ s)

section Fields

variable {known : List Nat} {depth number type : Nat} {k p u : Bytes} {f : Field} {fs : List Field}

theorem Key.read (h : Key number type k) (valid : type < 6) (rest : Bytes) :
    readKey? (k ++ rest) = some (number, type, rest) := by
  have pos := h.pos
  have fits := h.fits
  have number_eq : (number * 8 + type) / 8 = number := by omega
  have type_eq : (number * 8 + type) % 8 = type := by omega
  rw [readKey?, h.varint.read]
  simp only [number_eq, type_eq]
  rw [if_pos (by omega)]

theorem key_bytesKey (pos : 0 < number) (fits : number < 1 <<< 29) : Key number 2 (bytesKey number) :=
  ⟨varint_writeVarint (by omega), pos, fits⟩

theorem key_byte (b : UInt8) (pos : 0 < b.toNat / 8) (small : b.toNat < 128) :
    Key (b.toNat / 8) (b.toNat % 8) [b] :=
  ⟨varint_byte (by omega) (by omega), pos, by omega⟩

theorem Key.length_pos (h : Key number type k) : 0 < k.length := h.varint.groups.length_pos

theorem take?_append (s rest : Bytes) : take? s.length (s ++ rest) = some (s, rest) := by
  simp [take?]

theorem readPlain?_varint (h : Varint n s) (number : Nat) (rest : Bytes) :
    readPlain? number 0 (s ++ rest) = some (.varint number n, rest) := by
  simp [readPlain?, h.read]

theorem readPlain?_counted {l : Bytes} (h : Varint s.length l) (number : Nat) (rest : Bytes) :
    readPlain? number 2 (l ++ s ++ rest) = some (.bytes number s, rest) := by
  simp [readPlain?, readPayload?, List.append_assoc, h.read, take?_append]

theorem Plain.read (h : Plain type p) (number : Nat) (rest : Bytes) :
    ∃ f, f.number = number ∧ readPlain? number type (p ++ rest) = some (f, rest) := by
  cases h with
  | varint value => exact ⟨_, rfl, readPlain?_varint value number rest⟩
  | eight length =>
    refine ⟨.skipped number, rfl, ?_⟩
    simp [readPlain?, ← length, take?_append]
  | counted length => exact ⟨_, rfl, readPlain?_counted length number rest⟩
  | four length =>
    refine ⟨.skipped number, rfl, ?_⟩
    simp [readPlain?, ← length, take?_append]

theorem Plain.type_cases (h : Plain type p) : type < 6 ∧ type ≠ 3 ∧ type ≠ 4 := by
  cases h <;> decide

/-- A field that is no group. -/
theorem readField?_plain (key : Key number type k) (plain : type < 6 ∧ type ≠ 3 ∧ type ≠ 4)
    (payload : readPlain? number type (p ++ s) = some (f, s)) :
    readField? depth (k ++ p ++ s) = some (f, s) := by
  rw [List.append_assoc, readField?, key.read plain.1]
  simp only [if_neg plain.2.1, payload]

/-- Inside an open group the reader skips a row of fields. It takes fuel, but no more than bytes. -/
theorem Unknown.skip (h : Unknown known depth u) (number : Nat) (opened : List Nat) (rest : Bytes)
    (fuel : Nat) (enough : (u ++ rest).length < fuel) : ∃ fuel', rest.length < fuel' ∧
      skipGroups? (depth + opened.length + 1) fuel (number :: opened) (u ++ rest) =
        skipGroups? (depth + opened.length + 1) fuel' (number :: opened) rest := by
  induction h generalizing number opened rest fuel with
  | nil => exact ⟨fuel, enough, rfl⟩
  | @plain known depth n type k p s other key payload others ih =>
    obtain ⟨valid, no_group, no_end⟩ := payload.type_cases
    obtain ⟨f, -, read⟩ := payload.read n (s ++ rest)
    have pos := key.length_pos
    simp only [List.append_assoc, List.length_append] at enough ⊢
    obtain ⟨fuel, rfl⟩ : ∃ m, fuel = m + 1 := ⟨fuel - 1, by omega⟩
    obtain ⟨fuel', enough', same⟩ := ih number opened rest fuel
      (by simp only [List.length_append]; omega)
    refine ⟨fuel', enough', ?_⟩
    rw [← same, skipGroups?, key.read valid]
    simp only [no_group, if_false, read]
    rw [if_neg (by omega)]
  | @group known depth n k inner k' s other opens within closes others ihWithin ih =>
    have pos := opens.length_pos
    have pos' := closes.length_pos
    simp only [List.append_assoc, List.length_append] at enough ⊢
    obtain ⟨fuel, rfl⟩ : ∃ m, fuel = m + 1 := ⟨fuel - 1, by omega⟩
    -- The fields within are skipped with one more group open; the closing key leaves the others to skip.
    obtain ⟨fuel', enough', same⟩ := ihWithin n (number :: opened) (k' ++ (s ++ rest)) fuel
      (by simp only [List.length_append]; omega)
    simp only [List.length_append] at enough'
    obtain ⟨fuel', rfl⟩ : ∃ m, fuel' = m + 1 := ⟨fuel' - 1, by omega⟩
    obtain ⟨fuel'', enough'', same'⟩ := ih number opened rest fuel'
      (by simp only [List.length_append]; omega)
    refine ⟨fuel'', enough'', ?_⟩
    have depth_eq : depth + (number :: opened).length + 1 = depth + 1 + opened.length + 1 := by
      simp only [List.length_cons]; omega
    rw [depth_eq] at same
    rw [← same', skipGroups?, opens.read (by decide)]
    simp only [if_true]
    rw [if_neg (by omega), same, skipGroups?, closes.read (by decide)]
    simp only [if_true]

/-- A group is one field. -/
theorem readField?_group {inner k' : Bytes} (opens : Key number 3 k) (within : Unknown [] depth inner)
    (closes : Key number 4 k') :
    readField? (depth + 1) (k ++ inner ++ k' ++ s) = some (.skipped number, s) := by
  simp only [List.append_assoc]
  rw [readField?, opens.read (by decide)]
  have pos := closes.length_pos
  obtain ⟨fuel, enough, same⟩ := within.skip number [] (k' ++ s)
    ((inner ++ (k' ++ s)).length + 2) (by omega)
  simp only [List.length_append] at enough
  obtain ⟨fuel, rfl⟩ : ∃ m, fuel = m + 2 := ⟨fuel - 2, by omega⟩
  simp only [List.length_nil, Nat.add_zero] at same
  simp only [if_true, Nat.add_one_ne_zero, if_false, same]
  rw [skipGroups?, closes.read (by decide)]
  simp [skipGroups?]

/-- A message is read as a row of fields, whatever fuel is left beyond its length. -/
def Row (depth : Nat) (s : Bytes) (fields : List Field) : Prop :=
  ∀ fuel, s.length ≤ fuel → readFieldsFrom? depth fuel s = some fields

theorem Row.read (h : Row depth s fs) : readFields? depth s = some fs := h _ (Nat.le_refl _)

theorem row_nil (depth : Nat) : Row depth [] [] := by
  intro fuel _
  cases fuel <;> rfl

theorem Row.cons (h : Row depth s fs) (pos : 0 < u.length)
    (first : readField? depth (u ++ s) = some (f, s)) : Row depth (u ++ s) (f :: fs) := by
  intro fuel enough
  rw [List.length_append] at enough
  obtain ⟨fuel, rfl⟩ : ∃ m, fuel = m + 1 := ⟨fuel - 1, by omega⟩
  have filled : 0 < (u ++ s).length := by
    rw [List.length_append]
    omega
  obtain ⟨b, t, cons⟩ := List.exists_cons_of_length_pos filled
  rw [cons] at first ⊢
  simp only [readFieldsFrom?, first, h fuel (by omega), Option.map_some]

/-- Unknown fields may stand before a row; they are read as fields with other numbers. -/
theorem Unknown.row (h : Unknown known depth u) (row : Row depth s fs) :
    ∃ us, (∀ f ∈ us, f.number ∉ known) ∧ Row depth (u ++ s) (us ++ fs) := by
  induction h with
  | nil => exact ⟨[], by simp, row⟩
  | @plain known depth n type k p u other key payload others ih =>
    obtain ⟨us, unknown, row⟩ := ih row
    obtain ⟨f, rfl, read⟩ := payload.read n (u ++ s)
    have pos := key.length_pos
    refine ⟨f :: us, by simpa using ⟨other, unknown⟩, ?_⟩
    rw [List.append_assoc (k ++ p)]
    exact row.cons (by rw [List.length_append]; omega)
      (readField?_plain key payload.type_cases read)
  | @group known depth n k inner k' u other opens within closes others _ ih =>
    obtain ⟨us, unknown, row⟩ := ih row
    have pos := opens.length_pos
    refine ⟨.skipped n :: us, by simpa using ⟨other, unknown⟩, ?_⟩
    rw [List.append_assoc (k ++ inner ++ k')]
    exact row.cons (by simp only [List.length_append]; omega) (readField?_group opens within closes)

end Fields

/-- Read field by field, a message takes a state to another. -/
def Leads {σ : Type} (depth : Nat) (take? : σ → Field → Option σ) (s : Bytes) (a b : σ) : Prop :=
  ∃ fs, Row depth s fs ∧ fs.foldlM take? a = some b

namespace Leads

variable {σ : Type} {depth number type : Nat} {take? : σ → Field → Option σ} {a b c : σ} {k p u : Bytes}
  {f : Field}

theorem nil : Leads depth take? [] a a := ⟨[], row_nil depth, rfl⟩

theorem read (h : Leads depth take? s a b) :
    ∃ fs, readFields? depth s = some fs ∧ fs.foldlM take? a = some b := by
  obtain ⟨fs, row, taken⟩ := h
  exact ⟨fs, row.read, taken⟩

theorem plain (h : Leads depth take? s b c) (key : Key number type k)
    (valid : type < 6 ∧ type ≠ 3 ∧ type ≠ 4) (payload : readPlain? number type (p ++ s) = some (f, s))
    (first : take? a f = some b) : Leads depth take? (k ++ p ++ s) a c := by
  obtain ⟨fs, row, taken⟩ := h
  have pos := key.length_pos
  refine ⟨f :: fs, row.cons (by rw [List.length_append]; omega) (readField?_plain key valid payload), ?_⟩
  rw [List.foldlM_cons, first]
  exact taken

/-- Fields that leave the state alone may stand before a message. -/
theorem unknown {known : List Nat} (h : Leads depth take? s a b) (fields : Unknown known depth u)
    (skips : ∀ (a : σ) (f : Field), f.number ∉ known → take? a f = some a) :
    Leads depth take? (u ++ s) a b := by
  obtain ⟨fs, row, taken⟩ := h
  obtain ⟨us, others, row⟩ := fields.row row
  refine ⟨us ++ fs, row, ?_⟩
  clear row
  induction us with
  | nil => exact taken
  | cons f us ih =>
    obtain ⟨other, others⟩ := List.forall_mem_cons.mp others
    rw [List.cons_append, List.foldlM_cons, skips a f other]
    exact ih others

end Leads

end CachePartition.Wire
