import CachePartition.SortedMap
import CachePartition.Text.Utf8

/-! The order of texts is that of their bytes: what differs in two characters differs first in a byte, and the
greater byte is that of the greater character. -/
namespace CachePartition.Text

/-- The bytes of two characters are in the order of the characters, whatever follows. -/
theorem utf8EncodeChar_lt {c d : Char} (h : c < d) (rest rest' : List UInt8) :
    String.utf8EncodeChar c ++ rest < String.utf8EncodeChar d ++ rest' := by
  have below : c.val.toNat < d.val.toNat := h
  have top : d.val.toNat < 1114112 := by
    rcases d.valid with low | ⟨-, high⟩
    · exact Nat.lt_trans low (by decide)
    · exact high
  generalize first : c.val.toNat = m at below
  generalize second : d.val.toNat = n at below top
  -- Every byte but the leading one holds a digit in base 64.
  have digits : m / 262144 < n / 262144 ∨ m / 262144 = n / 262144 ∧ (m / 4096 % 64 < n / 4096 % 64 ∨
      m / 4096 % 64 = n / 4096 % 64 ∧ (m / 64 % 64 < n / 64 % 64 ∨
        m / 64 % 64 = n / 64 % 64 ∧ m % 64 < n % 64)) := by
    have twice (k : Nat) : k / 4096 = k / 64 / 64 := (Nat.div_div_eq_div_mul k 64 64).symm
    have thrice (k : Nat) : k / 262144 = k / 64 / 64 / 64 := by
      rw [Nat.div_div_eq_div_mul, Nat.div_div_eq_div_mul]
    have lead {a b : Nat} (less : a < b) : a / 64 < b / 64 ∨ a / 64 = b / 64 ∧ a % 64 < b % 64 := by omega
    rw [twice, twice, thrice, thrice]
    rcases lead below with above | last
    · rcases lead above with above' | last'
      · rcases lead above' with top | last''
        · exact .inl top
        · omega
      · omega
    · omega
  have leading : m / 262144 % 8 = m / 262144 ∧ n / 262144 % 8 = n / 262144 := by omega
  have byte (k : Nat) : (UInt8.ofNat k).toNat = k % 256 := UInt8.toNat_ofNat'
  unfold String.utf8EncodeChar
  simp only [first, second]
  repeat' split
  all_goals
    simp (disch := omega) only [List.cons_append, List.nil_append, List.cons_lt_cons_iff,
      UInt8.lt_iff_toNat_lt, ← UInt8.toNat_inj, byte, leading, Nat.mod_eq_of_lt (b := 256)]
    omega

theorem utf8Bytes_cons (c : Char) (s : List Char) :
    utf8Bytes (c :: s) = String.utf8EncodeChar c ++ utf8Bytes s := by
  simp [utf8Bytes, List.utf8Encode]

theorem utf8Bytes_lt_of_lt {s t : List Char} (h : s < t) : utf8Bytes s < utf8Bytes t := by
  induction s generalizing t with
  | nil =>
    cases t with
    | nil => exact absurd h (List.lt_irrefl _)
    | cons d t =>
      obtain ⟨b, l, filled⟩ := List.exists_cons_of_ne_nil (String.utf8EncodeChar_ne_nil (c := d))
      rw [utf8Bytes_cons, filled]
      exact List.nil_lt_cons b _
  | cons c s ih =>
    cases t with
    | nil => exact absurd h (List.not_lt_nil _)
    | cons d t =>
      rw [utf8Bytes_cons, utf8Bytes_cons]
      rcases List.cons_lt_cons_iff.mp h with less | ⟨rfl, rest⟩
      · exact utf8EncodeChar_lt less _ _
      · exact List.append_left_lt (ih rest)

theorem utf8Bytes_lt_iff {s t : String} : utf8Bytes s.toList < utf8Bytes t.toList ↔ s < t := by
  constructor
  · intro less
    rcases KeyOrder.lt_connected s t with below | rfl | above
    · exact below
    · exact absurd less (List.lt_irrefl _)
    · exact absurd (utf8Bytes_lt_of_lt above) (List.lt_asymm less)
  · intro below
    exact utf8Bytes_lt_of_lt below

theorem utf8Bytes_le_iff {s t : String} : utf8Bytes s.toList ≤ utf8Bytes t.toList ↔ s ≤ t := by
  rw [← String.not_lt, ← List.not_lt, utf8Bytes_lt_iff]

end CachePartition.Text
