import CachePartition.Text.Numeral
import Mathlib.Data.Nat.Digits.Defs

/-! What the bounded readers of numerals accept. A numeral is one digit or more behind at most one plus sign,
and it is read just if its value is below the bound, however many zeros it starts with. -/
namespace CachePartition.Text

/-- The digits of a text, the first one leading. -/
def HasDigits (base : Nat) (s : List Char) (ds : List Nat) : Prop :=
  List.Forall₂ (fun c d => digitValue? base c = some d) s ds

/-- A digit of a base up to sixteen, a letter in either case. -/
def DigitOf (base : Nat) (c : Char) (d : Nat) : Prop :=
  d < base ∧ (c = d.digitChar ∨ c = d.digitChar.toUpper)

instance (base : Nat) (c : Char) (d : Nat) : Decidable (DigitOf base c d) :=
  inferInstanceAs (Decidable (_ ∧ _))

/-- What holds of all digits holds of a digit. -/
theorem DigitOf.of_all {base d : Nat} {c : Char} {p : Char → Bool} (h : DigitOf base c d)
    (all : ∀ d < base, p d.digitChar = true ∧ p d.digitChar.toUpper = true) : p c = true := by
  obtain ⟨lower, upper⟩ := all d h.1
  rcases h.2 with rfl | rfl
  · exact lower
  · exact upper

section Digits

variable {base d : Nat} {c : Char}

theorem digitValue?_of_le (small : base ≤ 16) :
    digitValue? base c = some d ↔ digitValue? 16 c = some d ∧ d < base := by
  unfold digitValue?
  simp only [Option.filter_eq_some_iff, decide_eq_true_eq, and_assoc]
  apply and_congr_right
  intro _
  omega

theorem toNat_of_digitValue? (value : digitValue? 16 c = some d) : c.toNat < 128 := by
  have upTo {a b : Char} (range : a ≤ c ∧ c ≤ b) : c.toNat ≤ b.toNat := by
    simpa [Char.le_def, UInt32.le_iff_toNat_le] using range.2
  unfold digitValue? at value
  split at value
  · next digit => exact Nat.lt_of_le_of_lt (upTo digit) (by decide)
  split at value
  · next lower => exact Nat.lt_of_le_of_lt (upTo lower) (by decide)
  split at value
  · next upper => exact Nat.lt_of_le_of_lt (upTo upper) (by decide)
  · cases value

theorem digitValue?_eq_some (small : base ≤ 16) : digitValue? base c = some d ↔ DigitOf base c d := by
  have found : ∀ k < 128, ∀ d ∈ digitValue? 16 (Char.ofNat k),
      Char.ofNat k = d.digitChar ∨ Char.ofNat k = d.digitChar.toUpper := by decide +kernel
  have known : ∀ d < 16, digitValue? 16 d.digitChar = some d ∧
      digitValue? 16 d.digitChar.toUpper = some d := by decide
  rw [digitValue?_of_le small, and_comm]
  apply and_congr_right
  intro below
  constructor
  · intro value
    have written := found c.toNat (toNat_of_digitValue? value) d
    rw [Char.ofNat_toNat] at written
    exact written value
  · rintro (rfl | rfl)
    · exact (known d (by omega)).1
    · exact (known d (by omega)).2

theorem hasDigits_iff {s : List Char} {ds : List Nat} (small : base ≤ 16) :
    HasDigits base s ds ↔ List.Forall₂ (DigitOf base) s ds := by
  unfold HasDigits
  simp only [digitValue?_eq_some small]

end Digits

/-- A numeral in a base for a number. -/
inductive NumeralOf (base : Nat) : List Char → Nat → Prop where
  | plain {s : List Char} {ds : List Nat} (filled : s ≠ []) (digits : HasDigits base s ds) :
    NumeralOf base s (Nat.ofDigits base ds.reverse)
  | plus {s : List Char} {ds : List Nat} (filled : s ≠ []) (digits : HasDigits base s ds) :
    NumeralOf base ('+' :: s) (Nat.ofDigits base ds.reverse)

section Reading

variable {base bound : Nat} {s : List Char} {n : Nat}

/-- The value of digits behind others is that of the longer text. -/
theorem readDigits_eq_ok (pos : 0 < base) {leading : List Nat}
    (small : Nat.ofDigits base leading < bound) :
    readDigits base bound (Nat.ofDigits base leading) s = .ok n ↔
      ∃ ds, HasDigits base s ds ∧ n = Nat.ofDigits base (ds.reverse ++ leading) ∧ n < bound := by
  induction s generalizing leading with
  | nil =>
    constructor
    · rintro ⟨⟩
      exact ⟨[], .nil, by simp, small⟩
    · rintro ⟨ds, digits, rfl, -⟩
      cases digits
      rfl
  | cons c s ih =>
    have value (d : Nat) : Nat.ofDigits base leading * base + d = Nat.ofDigits base (d :: leading) := by
      rw [Nat.ofDigits_cons, Nat.mul_comm, Nat.add_comm]
    -- A digit that leads out of bounds is followed by none that leads back.
    have grows (ds : List Nat) (d : Nat) :
        Nat.ofDigits base (d :: leading) ≤ Nat.ofDigits base (ds.reverse ++ d :: leading) := by
      rw [Nat.ofDigits_append]
      have scaled := Nat.le_mul_of_pos_left (Nat.ofDigits base (d :: leading))
        (Nat.pow_pos (n := ds.reverse.length) pos)
      exact Nat.le_trans scaled (Nat.le_add_left _ _)
    have split : (∃ ds, HasDigits base (c :: s) ds ∧ n = Nat.ofDigits base (ds.reverse ++ leading) ∧
        n < bound) ↔ ∃ d, digitValue? base c = some d ∧ ∃ ds, HasDigits base s ds ∧
          n = Nat.ofDigits base (ds.reverse ++ d :: leading) ∧ n < bound := by
      constructor
      · rintro ⟨_, all, same, below⟩
        cases all with
        | cons first digits => exact ⟨_, first, _, digits, by simpa using same, below⟩
      · rintro ⟨d, first, ds, digits, same, below⟩
        exact ⟨d :: ds, .cons first digits, by simpa using same, below⟩
    rw [split, readDigits]
    cases first : digitValue? base c with
    | none => simp
    | some d =>
      simp only [value, Option.some.injEq, exists_eq_left']
      split
      · next fits => exact ih fits
      · next large =>
        constructor
        · rintro ⟨⟩
        · rintro ⟨ds, -, rfl, below⟩
          exact absurd (Nat.lt_of_le_of_lt (grows ds d) below) large

theorem readDigits_zero_eq_ok (pos : 0 < base) (room : 0 < bound) :
    readDigits base bound 0 s = .ok n ↔
      ∃ ds, HasDigits base s ds ∧ n = Nat.ofDigits base ds.reverse ∧ n < bound := by
  have empty : Nat.ofDigits base [] < bound := by simpa using room
  simpa using readDigits_eq_ok (s := s) (n := n) pos empty

/-- No plus sign is a digit. -/
theorem digitValue?_plus : digitValue? base '+' = none := by
  simp [digitValue?]

/-- A text is read just if it is a numeral for a number in bounds. -/
theorem readUnsigned_eq_ok (pos : 0 < base) (room : 0 < bound) :
    readUnsigned base bound s = .ok n ↔ NumeralOf base s n ∧ n < bound := by
  constructor
  · intro read
    unfold readUnsigned at read
    split at read
    · cases read
    · cases read
    · next rest alone =>
      obtain ⟨ds, digits, rfl, below⟩ := (readDigits_zero_eq_ok pos room).mp read
      exact ⟨.plus (fun empty => alone (by rw [empty])) digits, below⟩
    · next filled _ _ =>
      obtain ⟨ds, digits, rfl, below⟩ := (readDigits_zero_eq_ok pos room).mp read
      exact ⟨.plain filled digits, below⟩
  · rintro ⟨numeral, below⟩
    cases numeral with
    | @plain s ds filled digits =>
      have read := (readDigits_zero_eq_ok pos room).mpr ⟨ds, digits, rfl, below⟩
      have unsigned : ∀ rest, s ≠ '+' :: rest := by
        rintro rest rfl
        cases digits with
        | cons first _ => simp [digitValue?_plus] at first
      rw [readUnsigned]
      · exact read
      · exact filled
      · exact unsigned []
      · exact unsigned
    | @plus s ds filled digits =>
      have read := (readDigits_zero_eq_ok pos room).mpr ⟨ds, digits, rfl, below⟩
      rw [readUnsigned]
      · exact read
      · simpa using filled

theorem readDecimal?_eq_some (room : 0 < bound) :
    readDecimal? bound s = some n ↔ NumeralOf 10 s n ∧ n < bound := by
  rw [← readUnsigned_eq_ok (by decide) room, readDecimal?]
  cases readUnsigned 10 bound s <;> simp [Except.toOption]

end Reading

end CachePartition.Text
