import CachePartition.Decimal.Number
import CachePartition.Json.Reader
import Mathlib.Data.List.Basic

/-! Numerals of data texts. Every number is written as one of them, and each is read from its text whatever
follows, as long as that cannot be taken for a part of it. -/
namespace CachePartition

open Text

namespace Decimal

/-- Digits with a first one, as they may stand before a point. -/
structure Whole (ds : List Char) : Prop where
  digits : ∀ c ∈ ds, isDigit c = true
  filled : ds ≠ []
  /-- Zero leads only alone. -/
  lead : ds.head? = some '0' → ds = ['0']

/-- Numerals as a data text may have them. -/
structure Numeral.WellFormed (n : Numeral) : Prop where
  whole : Whole n.whole
  fraction : ∀ c ∈ n.fraction, isDigit c = true
  power : ∀ p ∈ n.power, p.digits ≠ [] ∧ ∀ c ∈ p.digits, isDigit c = true

end Decimal

namespace Json

open Decimal

/-- What may follow a numeral: nothing that could be taken for a part of it. -/
def EndsNumeral (rest : List Char) : Prop :=
  ∀ c ∈ rest.head?, isDigit c = false ∧ c ≠ '.' ∧ c ≠ 'e' ∧ c ≠ 'E'

theorem spanDigits_append {ds rest : List Char} (digits : ∀ c ∈ ds, isDigit c = true)
    (stop : ∀ c ∈ rest.head?, isDigit c = false) : spanDigits (ds ++ rest) = (ds, rest) := by
  have none_taken : rest.takeWhile isDigit = [] ∧ rest.dropWhile isDigit = rest := by
    cases rest with
    | nil => exact ⟨rfl, rfl⟩
    | cons c rest => simp [stop c rfl]
  rw [spanDigits, List.takeWhile_append_of_pos digits, List.dropWhile_append_of_pos digits,
    none_taken.1, none_taken.2, List.append_nil]

theorem readWhole_append {ds rest : List Char} (h : Whole ds)
    (stop : ∀ c ∈ rest.head?, isDigit c = false) : readWhole (ds ++ rest) = some (ds, rest) := by
  rw [readWhole, spanDigits_append h.digits stop]
  split
  · next heq => exact absurd (congrArg Prod.fst heq) h.filled
  · next heq => rw [← heq]
  · next only heq =>
    obtain ⟨rfl, -⟩ := Prod.mk.inj heq
    exact absurd (h.lead rfl) (by simpa using only)
  · next heq => rw [← heq]

theorem readFraction_append {ds rest : List Char} (digits : ∀ c ∈ ds, isDigit c = true)
    (stop : ∀ c ∈ rest.head?, isDigit c = false ∧ c ≠ '.') :
    readFraction ((if ds.isEmpty then [] else '.' :: ds) ++ rest) = some (ds, rest) := by
  cases ds with
  | nil =>
    cases rest with
    | nil => rfl
    | cons c rest =>
      have other := (stop c rfl).2
      simp [readFraction, other]
  | cons d ds =>
    have span := spanDigits_append digits fun c hc => (stop c hc).1
    simp only [List.isEmpty_cons, Bool.false_eq_true, if_false, List.cons_append] at span ⊢
    simp only [readFraction, span]

theorem readPower_append {p : Option Power} {rest : List Char}
    (digits : ∀ q ∈ p, q.digits ≠ [] ∧ ∀ c ∈ q.digits, isDigit c = true) (stop : EndsNumeral rest) :
    readPower (p.elim [] Power.text ++ rest) = some (p, rest) := by
  cases p with
  | none =>
    cases rest with
    | nil => rfl
    | cons c rest =>
      obtain ⟨-, -, small, capital⟩ := stop c rfl
      simp [readPower, small, capital]
  | some q =>
    obtain ⟨filled, digits⟩ := digits q rfl
    have span := spanDigits_append digits fun c hc => (stop c hc).1
    obtain ⟨negative, ds⟩ := q
    have sign : readSign ((if negative then '-' else '+') :: (ds ++ rest)) = (negative, ds ++ rest) := by
      cases negative <;> rfl
    simp only [Option.elim_some, Power.text, List.cons_append, readPower, decide_true, Bool.true_or,
      if_true, sign, span]

theorem readMagnitude_append {n : Numeral} (h : n.WellFormed) {rest : List Char} (stop : EndsNumeral rest) :
    readMagnitude n.negative (n.whole ++ (if n.fraction.isEmpty then [] else '.' :: n.fraction) ++
      n.power.elim [] Power.text ++ rest) = some (n, rest) := by
  have power := readPower_append h.power stop
  have no_digit : ∀ c ∈ (n.power.elim [] Power.text ++ rest).head?, isDigit c = false ∧ c ≠ '.' := by
    cases hp : n.power with
    | none => exact fun c hc => ⟨(stop c hc).1, (stop c hc).2.1⟩
    | some p =>
      rintro c ⟨⟩
      decide
  have fraction := readFraction_append h.fraction no_digit
  have whole : readWhole (n.whole ++ ((if n.fraction.isEmpty then [] else '.' :: n.fraction) ++
      (n.power.elim [] Power.text ++ rest))) = some (n.whole,
        (if n.fraction.isEmpty then [] else '.' :: n.fraction) ++ (n.power.elim [] Power.text ++ rest)) := by
    refine readWhole_append h.whole fun c hc => ?_
    split at hc
    · exact (no_digit c hc).1
    · obtain rfl : '.' = c := by simpa using hc
      decide
  simp only [List.append_assoc] at *
  simp only [readMagnitude, whole, fraction, power, Option.bind_eq_bind, Option.bind_some]

/-- What a well-formed numeral is written as is read as the numeral. -/
theorem readNumeral_append {n : Numeral} (h : n.WellFormed) {rest : List Char} (stop : EndsNumeral rest) :
    readNumeral (n.text ++ rest) = some (n, rest) := by
  have read := readMagnitude_append h stop
  cases hn : n.negative with
  | true => simpa [Numeral.text, hn, readNumeral] using read
  | false =>
    obtain ⟨c, ds, whole⟩ := List.exists_cons_of_ne_nil h.whole.filled
    have digit := h.whole.digits c (whole ▸ List.mem_cons_self)
    have no_sign : c ≠ '-' := by
      rintro rfl
      exact absurd digit (by decide)
    simp only [Numeral.text, hn, cond_false, List.nil_append, whole, List.cons_append] at read ⊢
    rw [readNumeral]
    · exact read
    · rintro rest ⟨⟩
      exact no_sign rfl

end Json

namespace Decimal

theorem isDigit_of_mem_toDigits {n : Nat} {c : Char} (h : c ∈ Nat.toDigits 10 n) : isDigit c = true := by
  have digit := Nat.isDigit_of_mem_toDigits (by decide) (by decide) h
  simpa [Char.isDigit, isDigit, Char.le_def] using digit

theorem all_isDigit_toDigits (n : Nat) : (Nat.toDigits 10 n).all isDigit = true :=
  List.all_eq_true.mpr fun _ => isDigit_of_mem_toDigits

/-- The digits of a number that is not zero start with one that is not. -/
theorem head?_toDigits_ne {n : Nat} (h : n ≠ 0) : (Nat.toDigits 10 n).head? ≠ some '0' := by
  induction n using Nat.strongRecOn with
  | _ n ih =>
    rw [Nat.toDigits_eq_if (by decide)]
    split
    · next small =>
      have digits : ∀ m < 10, m ≠ 0 → m.digitChar ≠ '0' := by decide
      simpa using digits n small h
    · next large =>
      rw [List.head?_append_of_ne_nil _ Nat.toDigits_ne_nil]
      exact ih (n / 10) (by omega) (by omega)

theorem whole_toDigits (n : Nat) : Whole (Nat.toDigits 10 n) := by
  refine ⟨fun c => isDigit_of_mem_toDigits, Nat.toDigits_ne_nil, fun zero => ?_⟩
  by_cases h : n = 0
  · subst h
    rfl
  · exact absurd zero (head?_toDigits_ne h)

theorem wellFormed_ofNat (n : Nat) : (Numeral.ofNat n).WellFormed :=
  ⟨whole_toDigits n, by simp [Numeral.ofNat], by simp [Numeral.ofNat]⟩

theorem Span.not_holds_zero {s : Span} (pos : 0 < s.low) (e : Int) : s.holds ⟨0, e⟩ = false := by
  have scale : 0 < s.low * Nat.pow 10 (-e).toNat := Nat.mul_pos pos (Nat.pow_pos (by decide))
  have zero : 0 * Nat.pow 10 e.toNat * s.den = 0 := by simp
  unfold holds
  simp only [zero]
  split
  · simp only [Bool.and_eq_false_imp, decide_eq_true_eq]
    omega
  · simp

theorem Span.digits_onGrid? {s : Span} {tie : Tie} {e : Int} {p : Point} (pos : 0 < s.low)
    (h : s.onGrid? tie e = some p) : p.digits ≠ 0 := by
  have held : s.holds p = true := by
    unfold onGrid? at h
    dsimp only at h
    split at h
    · next lower upper =>
      rw [← Option.some.inj h, apply_ite s.holds, lower, upper, ite_self]
    · next lower _ => exact Option.some.inj h ▸ lower
    · next _ upper => exact Option.some.inj h ▸ upper
    · cases h
  intro zero
  obtain ⟨d, e⟩ := p
  obtain rfl : d = 0 := zero
  rw [not_holds_zero pos] at held
  cases held

theorem Span.digits_firstGrid {s : Span} (tie : Tie) (pos : 0 < s.low) {fuel : Nat} {e : Int}
    (last : (s.neighbours (e - fuel)).1 ≠ 0) : (s.firstGrid tie fuel e).digits ≠ 0 := by
  induction fuel generalizing e with
  | zero => simpa [firstGrid] using last
  | succ fuel ih =>
    unfold firstGrid
    split
    · next found => exact digits_onGrid? pos found
    · exact ih (by rwa [show e - 1 - (fuel : Int) = e - ((fuel + 1 : Nat) : Int) by omega])

theorem lt_pow_length (n : Nat) : n < Nat.pow 10 (Nat.toDigits 10 n).length :=
  (Nat.length_toDigits_le_iff (by decide) (List.length_pos_iff.mpr Nat.toDigits_ne_nil)).mp (Nat.le_refl _)

theorem pow_length_le {n : Nat} (h : n ≠ 0) : Nat.pow 10 ((Nat.toDigits 10 n).length - 1) ≤ n := by
  by_cases one : (Nat.toDigits 10 n).length - 1 = 0
  · rw [one]
    exact Nat.one_le_iff_ne_zero.mpr h
  · refine Nat.le_of_not_lt fun less => ?_
    have := (Nat.length_toDigits_le_iff (b := 10) (by decide) (Nat.pos_of_ne_zero one)).mpr less
    omega

/-- A number is no less than a step of the grid twenty steps below its ceiling. -/
theorem Span.neighbours_ceiling {s : Span} (value : 0 < s.value) (den : 0 < s.den) :
    (s.neighbours (s.ceiling - 20)).1 ≠ 0 := by
  have step : s.den * Nat.pow 10 (s.ceiling - 20).toNat ≤ s.value * Nat.pow 10 (-(s.ceiling - 20)).toNat := by
    unfold ceiling
    dsimp only
    split
    · next whole =>
      generalize hL : (Nat.toDigits 10 (s.value / s.den)).length = L
      have grid : Nat.pow 10 ((L : Int) - 20).toNat ≤ s.value / s.den :=
        Nat.le_trans (Nat.pow_le_pow_right (by decide) (by omega))
          (hL ▸ pow_length_le (Nat.ne_of_gt whole))
      calc s.den * Nat.pow 10 ((L : Int) - 20).toNat
        _ ≤ s.den * (s.value / s.den) := Nat.mul_le_mul_left _ grid
        _ ≤ s.value := Nat.mul_div_le ..
        _ ≤ s.value * Nat.pow 10 (-((L : Int) - 20)).toNat :=
          Nat.le_mul_of_pos_right _ (Nat.pow_pos (by decide))
    · next whole =>
      generalize hL : (Nat.toDigits 10 (s.den / s.value)).length = L
      have above : s.den / s.value + 1 ≤ Nat.pow 10 L := hL ▸ lt_pow_length _
      have unit : (1 - (L : Int) - 20).toNat = 0 := by omega
      calc s.den * Nat.pow 10 (1 - (L : Int) - 20).toNat
        _ = s.den := by rw [unit]; exact Nat.mul_one _
        _ ≤ s.value * (s.den / s.value + 1) := Nat.le_of_lt (Nat.lt_mul_div_succ _ value)
        _ ≤ s.value * Nat.pow 10 L := Nat.mul_le_mul_left _ above
        _ ≤ s.value * Nat.pow 10 (-(1 - (L : Int) - 20)).toNat :=
          Nat.mul_le_mul_left _ (Nat.pow_le_pow_right (by decide) (by omega))
  have pos : 0 < s.den * Nat.pow 10 (s.ceiling - 20).toNat := Nat.mul_pos den (Nat.pow_pos (by decide))
  exact Nat.ne_of_gt (Nat.div_pos step pos)

theorem Point.digits_strip {p : Point} (h : p.digits ≠ 0) (fuel : Nat) : (p.strip fuel).digits ≠ 0 := by
  induction fuel generalizing p with
  | zero => exact h
  | succ fuel ih =>
    unfold strip
    split
    · next trailing => exact ih (by simp only; omega)
    · exact h

theorem shortest_digits (tie : Tie) {m : Nat} (h : m ≠ 0) (e : Int) : (shortest tie m e).digits ≠ 0 := by
  have shift (k : Nat) : 0 < 1 <<< k := by
    rw [Nat.one_shiftLeft]
    exact Nat.two_pow_pos k
  have scale : 0 < 1 <<< (e - 2).toNat := shift _
  have low : 0 < (Span.ofFinite m e).low := by
    refine Nat.mul_pos ?_ scale
    split <;> omega
  have value : 0 < (Span.ofFinite m e).value := Nat.mul_pos (by omega) scale
  have den : 0 < (Span.ofFinite m e).den := shift _
  exact Point.digits_strip (Span.digits_firstGrid tie low (Span.neighbours_ceiling value den)) 20

theorem Whole.of_head {ds : List Char} (digits : ∀ c ∈ ds, isDigit c = true) (filled : ds ≠ [])
    (lead : ds.head? ≠ some '0') : Whole ds :=
  ⟨digits, filled, fun zero => absurd zero lead⟩

theorem isDigit_zeros {n : Nat} {c : Char} (h : c ∈ zeros n) : isDigit c = true := by
  rw [List.eq_of_mem_replicate h]
  rfl

theorem Point.wellFormed_positional {p : Point} (h : p.digits ≠ 0) (negative pointZero : Bool) :
    (p.positional negative pointZero).WellFormed := by
  have whole := whole_toDigits p.digits
  have lead := head?_toDigits_ne h
  unfold positional
  dsimp only
  split
  · refine ⟨.of_head ?_ (by simp [whole.filled]) ?_, ?_, by simp⟩
    · intro c hc
      rcases List.mem_append.mp hc with hc | hc
      · exact whole.digits c hc
      · exact isDigit_zeros hc
    · rwa [List.head?_append_of_ne_nil _ whole.filled]
    · cases pointZero with
      | false => simp
      | true =>
        simp
        rfl
  · split
    · next short =>
      refine ⟨.of_head (fun c hc => whole.digits c (List.mem_of_mem_take hc)) ?_ ?_,
        fun c hc => whole.digits c (List.mem_of_mem_drop hc), by simp⟩
      · simp [whole.filled]; omega
      · rwa [List.head?_take, if_neg (by omega)]
    · refine ⟨⟨by simp; rfl, by simp, fun _ => rfl⟩, ?_, by simp⟩
      intro c hc
      rcases List.mem_append.mp hc with hc | hc
      · exact isDigit_zeros hc
      · exact whole.digits c hc

theorem Point.wellFormed_scientific {p : Point} (h : p.digits ≠ 0) (negative : Bool) :
    (p.scientific negative).WellFormed := by
  have whole := whole_toDigits p.digits
  unfold scientific
  refine ⟨.of_head (fun c hc => whole.digits c (List.mem_of_mem_take hc)) ?_ ?_,
    fun c hc => whole.digits c (List.mem_of_mem_drop hc), ?_⟩
  · simp [whole.filled]
  · rw [List.head?_take, if_neg (by decide)]
    exact head?_toDigits_ne h
  · rintro q ⟨⟩
    exact ⟨Nat.toDigits_ne_nil, fun c => isDigit_of_mem_toDigits⟩

/-- Both forms write well-formed numerals. -/
theorem Form.wellFormed_write? {f : Form} {x : Binary64} {n : Numeral} (h : f.write? x = some n) :
    n.WellFormed := by
  unfold write? at h
  split at h
  · next negative m e view =>
    obtain rfl := Option.some.inj h
    split
    · refine ⟨⟨by simp; rfl, by simp, fun _ => rfl⟩, ?_, by simp⟩
      cases f.pointZero with
      | false => simp
      | true =>
        simp
        rfl
    · next nonzero =>
      have digits := shortest_digits f.tie nonzero e
      unfold writePoint
      dsimp only
      split
      · exact Point.wellFormed_positional digits negative _
      · split
        · exact Point.wellFormed_positional digits negative _
        · exact Point.wellFormed_scientific digits negative
  · cases h

theorem Form.write?_of_finite (f : Form) {x : Binary64} (finite : x.isFinite = true) :
    ∃ n, f.write? x = some n := by
  have exponent : x.exponentField ≠ 2047 := by simpa [Binary64.isFinite] using finite
  unfold write? Binary64.view
  rw [if_neg exponent]
  by_cases small : x.exponentField = 0
  · rw [if_pos small]
    exact ⟨_, rfl⟩
  · rw [if_neg small]
    exact ⟨_, rfl⟩

theorem le_digitsValue (v : Nat) (ds : List Char) : v ≤ digitsValue v ds := by
  induction ds generalizing v with
  | nil => exact Nat.le_refl v
  | cons c ds ih =>
    have step : v ≤ 10 * v + (c.toNat - '0'.toNat) := by omega
    exact Nat.le_trans step (ih _)

/-- Digits whose value fits 64 bits are all taken. -/
theorem Leading.ofWhole_of_lt {l : Leading} {ds : List Char} (fits : digitsValue l.significand ds < 1 <<< 64) :
    l.ofWhole ds = ⟨digitsValue l.significand ds, l.exponent⟩ := by
  induction ds generalizing l with
  | nil => rfl
  | cons c ds ih =>
    have next : digitsValue l.significand [c] < 1 <<< 64 :=
      Nat.lt_of_le_of_lt (le_digitsValue _ ds) fits
    rw [Leading.ofWhole]
    simp only [next, if_true]
    exact ih fits

theorem digitsValue_toDigits (n : Nat) : digitsValue 0 (Nat.toDigits 10 n) = n :=
  Nat.ofDigitChars_ten_toDigits

theorem number?_ofNat {n : Nat} (fits : n < 1 <<< 64) : (Numeral.ofNat n).number? = some (.unsigned n) := by
  have leading : (Numeral.ofNat n).leading = ⟨n, 0⟩ := by
    show Leading.ofWhole ⟨0, 0⟩ (Nat.toDigits 10 n) = ⟨n, 0⟩
    rw [Leading.ofWhole_of_lt (by rw [digitsValue_toDigits]; exact fits), digitsValue_toDigits]
  rw [Numeral.number?, leading]
  rfl

end Decimal

end CachePartition
