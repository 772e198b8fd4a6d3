import CachePartition.Derivation.Quantity
import CachePartition.Proofs.DerivedNames
import CachePartition.Proofs.Obstacles
import CachePartition.Proofs.Trimming
import CachePartition.Proofs.UnsignedNumerals
import Mathlib.Algebra.Order.Field.Rat
import Mathlib.Tactic.FieldSimp
import Mathlib.Tactic.LinearCombination
import Mathlib.Tactic.NormNum
import Mathlib.Tactic.Ring

/-! What resource quantities stand for. Each text that is read stands for a rational number with at most three
decimal places, and what is read are exactly its thousandths. -/
namespace CachePartition

open Text

namespace Quantity

/-- What stands before a point, or alone: a numeral, or nothing for zero. -/
inductive WholePart : List Char → Nat → Prop where
  | absent : WholePart [] 0
  | numeral {s : List Char} {n : Nat} (numeral : NumeralOf 10 s n) : WholePart s n

/-- A text without blanks around it stands for a number. -/
inductive Denotes : List Char → ℚ → Prop where
  | thousandths {s : List Char} {n : Nat} (numeral : NumeralOf 10 s n) : Denotes (s ++ ['m']) (n / 1000)
  | whole {s : List Char} {n : Nat} (part : WholePart s n) : Denotes s n
  | fraction {s f : List Char} {n : Nat} {ds : List Nat} (part : WholePart s n) (digits : HasDigits 10 f ds)
      (short : f.length ≤ 3) : Denotes (s ++ '.' :: f) (n + (Nat.ofDigits 10 ds.reverse : Nat) / 10 ^ f.length)

/-- A quantity, between blanks, stands for a number. -/
def HasValue (quantity : String) (q : ℚ) : Prop := ∃ t, Stripped quantity.toList t ∧ Denotes t q

end Quantity

namespace Text

variable {s : List Char} {ds : List Nat} {c : Char} {n : Nat}

theorem isDigit_of_digitOf {d : Nat} (h : DigitOf 10 c d) : isDigit c = true := by
  apply h.of_all
  decide

theorem exists_digit (digit : isDigit c = true) : ∃ d, digitValue? 10 c = some d := by
  have range : '0' ≤ c ∧ c ≤ '9' := by simpa [isDigit] using digit
  have below : c.toNat ≤ 57 := by
    simpa [Char.le_def, UInt32.le_iff_toNat_le] using range.2
  refine ⟨c.toNat - 48, ?_⟩
  unfold digitValue?
  simp only [range, and_self, if_true, Option.filter_eq_some_iff, decide_eq_true_eq]
  exact ⟨rfl, by omega⟩

theorem HasDigits.all_isDigit (digits : HasDigits 10 s ds) : s.all isDigit = true := by
  rw [hasDigits_iff (by decide)] at digits
  induction digits with
  | nil => rfl
  | cons first _ ih => simp [isDigit_of_digitOf first, ih]

theorem exists_hasDigits (all : s.all isDigit = true) : ∃ ds, HasDigits 10 s ds := by
  induction s with
  | nil => exact ⟨[], .nil⟩
  | cons c s ih =>
    rw [List.all_cons, Bool.and_eq_true] at all
    obtain ⟨d, first⟩ := exists_digit all.1
    obtain ⟨ds, rest⟩ := ih all.2
    exact ⟨d :: ds, .cons first rest⟩

/-- Numerals are made of digits and a sign. -/
theorem NumeralOf.chars (h : NumeralOf 10 s n) (hc : c ∈ s) : c = '+' ∨ isDigit c = true := by
  cases h with
  | plain _ digits => exact .inr (List.all_eq_true.mp digits.all_isDigit c hc)
  | plus _ digits =>
    rcases List.mem_cons.mp hc with rfl | hc
    · exact .inl rfl
    · exact .inr (List.all_eq_true.mp digits.all_isDigit c hc)

/-- Zeros that follow multiply the value. -/
theorem HasDigits.append_zeros (digits : HasDigits 10 s ds) (k : Nat) :
    HasDigits 10 (s ++ List.replicate k '0') (ds ++ List.replicate k 0) := by
  have zeros : HasDigits 10 (List.replicate k '0') (List.replicate k 0) := by
    induction k with
    | zero => exact .nil
    | succ k ih => exact .cons (by decide) ih
  exact List.rel_append digits zeros

theorem ofDigits_append_zeros (ds : List Nat) (k : Nat) :
    Nat.ofDigits 10 (ds ++ List.replicate k 0).reverse = Nat.ofDigits 10 ds.reverse * 10 ^ k := by
  rw [List.reverse_append, List.reverse_replicate]
  induction k with
  | zero => simp
  | succ k ih =>
    rw [List.replicate_succ, List.cons_append, Nat.ofDigits_cons, ih]
    ring

theorem HasDigits.value_lt (digits : HasDigits 10 s ds) : Nat.ofDigits 10 ds.reverse < 10 ^ s.length := by
  have below : ∀ d ∈ ds, d < 10 := by
    rw [hasDigits_iff (by decide)] at digits
    induction digits with
    | nil => simp
    | cons first _ ih => simpa [first.1] using ih
  have bound := Nat.ofDigits_lt_base_pow_length (b := 10) (l := ds.reverse) (by decide) (by simpa using below)
  rwa [List.length_reverse, ← List.Forall₂.length_eq digits] at bound

theorem stripEnd?_append (s ending : List Char) : stripEnd? ending (s ++ ending) = some s := by
  have ends : ending.isSuffixOf (s ++ ending) = true := by simp
  simp [stripEnd?, ends]

theorem stripEnd?_eq_none (absent : c ∉ s) : stripEnd? [c] s = none := by
  have other : ¬ [c] <:+ s := by
    rintro ⟨t, rfl⟩
    simp at absent
  simp [stripEnd?, other]

theorem append_of_stripEnd? {ending rest : List Char} (h : stripEnd? ending s = some rest) : s = rest ++ ending := by
  unfold stripEnd? at h
  split at h
  · next ends =>
    obtain ⟨t, rfl⟩ := List.isSuffixOf_iff_suffix.mp ends
    simpa using Option.some.inj h
  · cases h

theorem splitOnce?_single {f : List Char} (absent : c ∉ s) : splitOnce? [c] (s ++ c :: f) = some (s, f) := by
  apply splitOnce?_append_iff.mpr
  intro x d y split again
  cases d with
  | nil => rfl
  | cons e d =>
    obtain rfl : c = e := (List.cons.inj again).1
    simp [split] at absent

theorem splitOnce?_eq_none (absent : c ∉ s) : splitOnce? [c] s = none := by
  have nowhere : occursIn [c] s = false := by
    rw [Bool.eq_false_iff, ne_eq, occursIn_iff_infix]
    rintro ⟨a, b, rfl⟩
    simp at absent
  simpa [occursIn] using nowhere

end Text

namespace Quantity

variable {s f t : List Char} {n v : Nat} {q : ℚ}

theorem readPart?_eq_some : readPart? s = some n ↔ WholePart s n ∧ n < 2 ^ 64 := by
  unfold readPart?
  split
  · next empty =>
    rw [List.isEmpty_iff] at empty
    subst empty
    constructor
    · rintro ⟨⟩
      exact ⟨.absent, by decide⟩
    · rintro ⟨part, -⟩
      cases part with
      | absent => rfl
      | numeral numeral =>
        cases numeral with
        | plain filled _ => exact absurd rfl filled
  · next filled =>
    rw [readDecimal?_eq_some (by decide)]
    constructor
    · rintro ⟨numeral, below⟩
      exact ⟨.numeral numeral, below⟩
    · rintro ⟨part, below⟩
      cases part with
      | absent => exact absurd rfl filled
      | numeral numeral => exact ⟨numeral, below⟩

theorem WholePart.chars (h : WholePart s n) {c : Char} (hc : c ∈ s) : c = '+' ∨ isDigit c = true := by
  cases h with
  | absent => cases hc
  | numeral numeral => exact numeral.chars hc

theorem WholePart.plain (h : WholePart s n) : 'm' ∉ s ∧ '.' ∉ s := by
  constructor
  · intro hm
    exact absurd (h.chars hm) (by decide)
  · intro hp
    exact absurd (h.chars hp) (by decide)

/-- The digits of a fraction are read as thousandths, however many of the three places they fill. -/
theorem readPart?_thousandths {ds : List Nat} (digits : HasDigits 10 f ds) (short : f.length ≤ 3) :
    readPart? (thousandths f) = some (Nat.ofDigits 10 ds.reverse * 10 ^ (3 - f.length)) := by
  have filled : thousandths f ≠ [] := by
    intro empty
    have length := congrArg List.length empty
    simp only [thousandths, List.length_append, List.length_replicate, List.length_nil] at length
    omega
  have padded := NumeralOf.plain filled (digits.append_zeros (3 - f.length))
  rw [ofDigits_append_zeros] at padded
  refine readPart?_eq_some.mpr ⟨.numeral padded, ?_⟩
  calc
    _ < 10 ^ f.length * 10 ^ (3 - f.length) := by
      apply Nat.mul_lt_mul_of_pos_right digits.value_lt
      exact Nat.pow_pos (by decide)
    _ = 10 ^ 3 := by rw [← pow_add, Nat.add_sub_cancel' short]
    _ < 2 ^ 64 := by decide

/-- A fraction of at most three places has so many thousandths. -/
theorem value_mul_thousand (n d : Nat) {k : Nat} (short : k ≤ 3) :
    ((n : ℚ) + d / 10 ^ k) * 1000 = (n * 1000 + d * 10 ^ (3 - k) : Nat) := by
  have places : (10 : ℚ) ^ (3 - k) * 10 ^ k = 1000 := by
    rw [← pow_add, Nat.sub_add_cancel short]
    norm_num
  have filled : (10 : ℚ) ^ k ≠ 0 := by positivity
  push_cast
  field_simp
  linear_combination (-(d : ℚ)) * places

/-- The parts before and after a point are read just if they are of the right form and the value is in bounds. -/
theorem readDecimalMillis?_eq_some : readDecimalMillis? s f = some v ↔
    ∃ n ds, WholePart s n ∧ HasDigits 10 f ds ∧ f.length ≤ 3 ∧
      ((n : ℚ) + (Nat.ofDigits 10 ds.reverse : Nat) / 10 ^ f.length) * 1000 = v ∧ v < 2 ^ 64 := by
  unfold readDecimalMillis?
  constructor
  · intro read
    split at read
    · cases read
    · next formed =>
      rw [not_or, Nat.not_lt, Bool.not_eq_true, Bool.not_eq_false'] at formed
      obtain ⟨short, all⟩ := formed
      obtain ⟨ds, digits⟩ := exists_hasDigits all
      rw [readPart?_thousandths digits short] at read
      cases first : readPart? s with
      | none => simp [first] at read
      | some n =>
        simp only [first, Option.ite_none_right_eq_some, Option.some.injEq] at read
        obtain ⟨below, rfl⟩ := read
        exact ⟨n, ds, (readPart?_eq_some.mp first).1, digits, short, value_mul_thousand n _ short, below⟩
  · rintro ⟨n, ds, part, digits, short, value, below⟩
    rw [value_mul_thousand n _ short, Nat.cast_inj] at value
    have first : readPart? s = some n := readPart?_eq_some.mpr ⟨part, by omega⟩
    have formed : ¬ (3 < f.length ∨ (!f.all isDigit) = true) := by
      simp [digits.all_isDigit, short]
    have room : n * 1000 + Nat.ofDigits 10 ds.reverse * 10 ^ (3 - f.length) < 1 <<< 64 := by
      rw [value]
      exact below
    rw [if_neg formed, readPart?_thousandths digits short, first]
    dsimp only
    rw [if_pos room, value]

/-- A text without blanks around it is read just if the thousandfold of what it stands for is in bounds. -/
theorem millis?_eq_some {quantity : String} (stripped : Stripped quantity.toList t) :
    millis? quantity = some v ↔ ∃ q, Denotes t q ∧ q * 1000 = v ∧ v < 2 ^ 64 := by
  unfold millis?
  dsimp only
  rw [stripped.trimBlanks_eq]
  constructor
  · intro read
    split at read
    · next digits ends =>
      rw [append_of_stripEnd? ends]
      obtain ⟨numeral, below⟩ := (readDecimal?_eq_some (by decide)).mp read
      refine ⟨v / 1000, .thousandths numeral, ?_, below⟩
      field_simp
    · split at read
      · next whole fraction point =>
        rw [append_of_splitOnce? point, List.append_assoc]
        obtain ⟨n, ds, part, digits, short, value⟩ := readDecimalMillis?_eq_some.mp read
        exact ⟨_, .fraction part digits short, value⟩
      · obtain ⟨n, ds, part, digits, short, value, below⟩ := readDecimalMillis?_eq_some.mp read
        obtain rfl : ds = [] := List.forall₂_nil_left_iff.mp digits
        refine ⟨n, .whole part, ?_, below⟩
        simpa using value
  · rintro ⟨q, denotes, value, below⟩
    cases denotes with
    | @thousandths s n numeral =>
      have same : n = v := by
        field_simp at value
        exact_mod_cast value
      rw [same] at numeral
      rw [stripEnd?_append]
      exact (readDecimal?_eq_some (by decide)).mpr ⟨numeral, below⟩
    | whole part =>
      rw [stripEnd?_eq_none part.plain.1, splitOnce?_eq_none part.plain.2]
      exact readDecimalMillis?_eq_some.mpr ⟨_, [], part, .nil, by simp, by simpa using value, below⟩
    | @fraction s f n ds part digits short =>
      have unmarked : 'm' ∉ s ++ '.' :: f := by
        intro hm
        rcases List.mem_append.mp hm with hm | hm
        · exact part.plain.1 hm
        · rcases List.mem_cons.mp hm with hm | hm
          · cases hm
          · exact absurd (List.all_eq_true.mp digits.all_isDigit _ hm) (by decide)
      rw [stripEnd?_eq_none unmarked, splitOnce?_single part.plain.2]
      exact readDecimalMillis?_eq_some.mpr ⟨n, ds, part, digits, short, value, below⟩

/-- Quantities stand for so many thousandths. -/
theorem Denotes.thousandfold (h : Denotes t q) : ∃ v : Nat, q * 1000 = v := by
  cases h with
  | @thousandths s n _ =>
    refine ⟨n, ?_⟩
    field_simp
  | @whole s n _ =>
    refine ⟨n * 1000, ?_⟩
    push_cast
    rfl
  | @fraction s f n ds _ _ short => exact ⟨_, value_mul_thousand n _ short⟩

/-- So many thousandths are a whole number just if they are a multiple of a thousand. -/
theorem eq_of_thousandfold (scaled : q * 1000 = v) (whole : v % 1000 = 0) : q = (v / 1000 : Nat) := by
  have parts : v / 1000 * 1000 = v := Nat.div_mul_cancel (Nat.dvd_of_mod_eq_zero whole)
  have same : q * 1000 = (v / 1000 : Nat) * 1000 := by
    rw [scaled]
    exact_mod_cast parts.symm
  linarith

section Reading

variable {quantity : String}

theorem millis?_iff : millis? quantity = some v ↔ ∃ q, HasValue quantity q ∧ q * 1000 = v ∧ v < 2 ^ 64 := by
  rw [millis?_eq_some (stripped_trimBlanks _)]
  constructor
  · rintro ⟨q, denotes, value⟩
    exact ⟨q, ⟨_, stripped_trimBlanks _, denotes⟩, value⟩
  · rintro ⟨q, ⟨t, stripped, denotes⟩, value⟩
    rw [← stripped.trimBlanks_eq] at denotes
    exact ⟨q, denotes, value⟩

/-- A quantity with a value in bounds is read. -/
theorem HasValue.read (h : HasValue quantity q) (below : q * 1000 < 2 ^ 64) :
    ∃ v : Nat, millis? quantity = some v ∧ q * 1000 = v := by
  obtain ⟨t, stripped, denotes⟩ := h
  obtain ⟨v, value⟩ := denotes.thousandfold
  have small : v < 2 ^ 64 := by
    rw [value] at below
    exact_mod_cast below
  exact ⟨v, millis?_iff.mpr ⟨q, ⟨t, stripped, denotes⟩, value, small⟩, value⟩

theorem millis?_eq_none : millis? quantity = none ↔ ∀ q, HasValue quantity q → 2 ^ 64 ≤ q * 1000 := by
  constructor
  · intro unread q value
    by_contra below
    obtain ⟨v, read, -⟩ := value.read (not_le.mp below)
    rw [unread] at read
    cases read
  · intro large
    cases read : millis? quantity with
    | none => rfl
    | some v =>
      obtain ⟨q, value, same, below⟩ := millis?_iff.mp read
      have bound := large q value
      rw [same] at bound
      have : 2 ^ 64 ≤ v := by exact_mod_cast bound
      omega

theorem whole?_eq_some {w : UInt32} : whole? quantity = some w ↔ HasValue quantity w.toNat := by
  unfold whole?
  constructor
  · intro read
    obtain ⟨v, thousandths, rest⟩ := Option.bind_eq_some_iff.mp read
    rw [Option.ite_none_right_eq_some] at rest
    obtain ⟨⟨whole, small⟩, same⟩ := rest
    obtain rfl := Option.some.inj same
    obtain ⟨q, value, scaled, -⟩ := millis?_iff.mp thousandths
    rw [UInt32.toNat_ofNat_of_lt' small]
    rwa [eq_of_thousandfold scaled whole] at value
  · intro value
    have small := w.toNat_lt
    have below : (w.toNat : ℚ) * 1000 < 2 ^ 64 := by
      exact_mod_cast (by omega : w.toNat * 1000 < 2 ^ 64)
    obtain ⟨v, read, scaled⟩ := value.read below
    obtain rfl : v = w.toNat * 1000 := by exact_mod_cast scaled.symm
    simp [read, small]

end Reading

end Quantity

namespace Container

open Quantity

variable {c : Container}

theorem wantsWholeCpus_iff_positive : c.wantsWholeCpus = .ok true ↔ ∃ request, c.request? "cpu" = some request ∧
    ∃ n : Nat, 0 < n ∧ HasValue request n ∧ n * 1000 < 2 ^ 64 := by
  rw [wantsWholeCpus_eq_true]
  constructor
  · rintro ⟨request, v, asked, read, pos, whole⟩
    obtain ⟨q, value, scaled, below⟩ := millis?_iff.mp read
    rw [eq_of_thousandfold scaled whole] at value
    exact ⟨request, asked, v / 1000, by omega, value, by omega⟩
  · rintro ⟨request, asked, n, pos, value, below⟩
    obtain ⟨v, read, scaled⟩ := value.read (by exact_mod_cast below)
    obtain rfl : v = n * 1000 := by exact_mod_cast scaled.symm
    exact ⟨request, n * 1000, asked, read, by omega, by omega⟩

theorem wantsWholeCpus_eq_false : c.wantsWholeCpus = .ok false ↔ ∀ request, c.request? "cpu" = some request →
    ∃ q, HasValue request q ∧ q * 1000 < 2 ^ 64 ∧ ∀ n : Nat, q = n → n = 0 := by
  unfold wantsWholeCpus
  cases c.request? "cpu" with
  | none => simp
  | some request =>
    simp only [Option.some.injEq, forall_eq']
    constructor
    · intro wanted
      cases read : millis? request with
      | none => simp [read] at wanted
      | some v =>
        obtain ⟨q, value, scaled, below⟩ := millis?_iff.mp read
        refine ⟨q, value, ?_, ?_⟩
        · rw [scaled]
          exact_mod_cast below
        · rintro n rfl
          obtain rfl : v = n * 1000 := by exact_mod_cast scaled.symm
          simp [read, isPositiveWhole] at wanted
          omega
    · rintro ⟨q, value, below, unwanted⟩
      obtain ⟨v, read, scaled⟩ := value.read below
      simp only [read, isPositiveWhole, Except.ok.injEq, Bool.and_eq_false_iff, decide_eq_false_iff_not]
      by_contra positive
      have zero := unwanted _ (eq_of_thousandfold scaled (by omega))
      omega

end Container

/-- What is read from a quantity are the thousandths of the number that it stands for, and nothing is read just if
it stands for none in bounds. Where a whole number is wanted, it is that number. A request counts as one of whole
CPUs just if it stands for a positive whole number; only without a number in bounds it is an error. -/
theorem quantities_exact (quantity : String) (c : Container) :
    (∀ v, Quantity.millis? quantity = some v ↔
      ∃ q, Quantity.HasValue quantity q ∧ q * 1000 = v ∧ v < 2 ^ 64) ∧
    (Quantity.millis? quantity = none ↔ ∀ q, Quantity.HasValue quantity q → 2 ^ 64 ≤ q * 1000) ∧
    (∀ w, Quantity.whole? quantity = some w ↔ Quantity.HasValue quantity w.toNat) ∧
    (c.wantsWholeCpus = .ok true ↔ ∃ request, c.request? "cpu" = some request ∧
      ∃ n : Nat, 0 < n ∧ Quantity.HasValue request n ∧ n * 1000 < 2 ^ 64) ∧
    (c.wantsWholeCpus = .ok false ↔ ∀ request, c.request? "cpu" = some request →
      ∃ q, Quantity.HasValue request q ∧ q * 1000 < 2 ^ 64 ∧ ∀ n : Nat, q = n → n = 0) ∧
    ∀ e, c.wantsWholeCpus = .error e ↔ ∃ request, c.request? "cpu" = some request ∧
      (∀ q, Quantity.HasValue request q → 2 ^ 64 ≤ q * 1000) ∧ e = .quantity c.name "cpu" request := by
  refine ⟨?_, Quantity.millis?_eq_none, ?_, Container.wantsWholeCpus_iff_positive,
    Container.wantsWholeCpus_eq_false, ?_⟩
  · intro v
    exact Quantity.millis?_iff
  · intro w
    exact Quantity.whole?_eq_some
  · intro e
    rw [Container.wantsWholeCpus_eq_error]
    simp only [Quantity.millis?_eq_none]

/-- A container that asks for CPUs. -/
def containerAsking (cpu : String) : Container where
  resources := some { requests := some (.ofList [("cpu", cpu)]) }

/-- A quantity with a sign and a fraction between blanks, one without digits behind its point, and one of thousandths
that fill the bounds. -/
theorem quantities_exact_threeForms :
    Quantity.millis? " +1.50\n" = some 1500 ∧ (containerAsking "2.").wantsWholeCpus = .ok true ∧
      Quantity.millis? "018446744073709551615m" = some 18446744073709551615 := by
  have half : Quantity.HasValue " +1.50\n" (1 + (50 : Nat) / 10 ^ 2) := by
    have digits : HasDigits 10 "1".toList [1] := .cons (by decide) .nil
    have places : HasDigits 10 "50".toList [5, 0] := .cons (by decide) (.cons (by decide) .nil)
    have denotes := Quantity.Denotes.fraction (.numeral (.plus (by decide) digits)) places (by decide)
    have fifty : Nat.ofDigits 10 [5, 0].reverse = 50 := by decide
    rw [fifty] at denotes
    exact ⟨"+1.50".toList, stripped_iff.mpr (by decide), by simpa using denotes⟩
  have two : Quantity.HasValue "2." (2 : Nat) := by
    have digits : HasDigits 10 "2".toList [2] := .cons (by decide) .nil
    have denotes := Quantity.Denotes.fraction (.numeral (.plain (by decide) digits)) .nil (by decide)
    exact ⟨"2.".toList, stripped_iff.mpr (by decide), by simpa using denotes⟩
  have most : Quantity.HasValue "018446744073709551615m" ((18446744073709551615 : Nat) / 1000) := by
    have digits : HasDigits 10 "018446744073709551615".toList
        [0, 1, 8, 4, 4, 6, 7, 4, 4, 0, 7, 3, 7, 0, 9, 5, 5, 1, 6, 1, 5] := by
      rw [hasDigits_iff (by decide)]
      decide
    have denotes := Quantity.Denotes.thousandths (.plain (by decide) digits)
    exact ⟨_, stripped_iff.mpr (by decide), denotes⟩
  refine ⟨?_, ?_, ?_⟩
  · apply ((quantities_exact _ {}).1 _).mpr
    exact ⟨_, half, by norm_num, by decide⟩
  · apply (quantities_exact "" _).2.2.2.1.mpr
    exact ⟨"2.", by decide, 2, by decide, two, by decide⟩
  · apply ((quantities_exact _ {}).1 _).mpr
    exact ⟨_, most, by norm_num, by decide⟩

end CachePartition
