import CachePartition.Proofs.Numerals
import CachePartition.Url.Host
import Mathlib.Data.Bool.AllAny
import Mathlib.Tactic.IntervalCases

/-! The texts of network addresses of both versions, written out as their standards give them, and how they
are read: an address of version 4 as a host by itself, one of version 6 in brackets. -/
namespace CachePartition

open Text Url

def decimalDigits : List Char := "0123456789".toList

/-- The digits of groups, with letters of either case. -/
def hexDigits : List Char := decimalDigits ++ "abcdefABCDEF".toList

/-- The characters of addresses. -/
def addressChars : List Char := ':' :: '.' :: hexDigits

/-- Four bytes in decimal with points between them. -/
def dotted (a b c d : Fin 256) : List Char :=
  Nat.toDigits 10 a ++ '.' :: (Nat.toDigits 10 b ++ '.' :: (Nat.toDigits 10 c ++ '.' :: Nat.toDigits 10 d))

/-- One to four hexadecimal digits. -/
structure HexGroup (s : List Char) : Prop where
  filled : s ≠ []
  short : s.length ≤ 4
  digits : ∀ c ∈ s, c ∈ hexDigits

instance (s : List Char) : Decidable (HexGroup s) :=
  decidable_of_iff (s ≠ [] ∧ s.length ≤ 4 ∧ s.all fun c => c ∈ hexDigits)
    ⟨fun ⟨filled, short, digits⟩ => ⟨filled, short, List.all_iff_forall_prop.mp digits⟩,
      fun h => ⟨h.filled, h.short, List.all_iff_forall_prop.mpr h.digits⟩⟩

def hexValue (s : List Char) : Nat := s.foldl (fun n c => n * 16 + (digitValue? 16 c).getD 0) 0

/-- Groups with colons between them; at the end of an address four bytes may stand for two. -/
inductive Groups (atEnd : Bool) : List Char → List Nat → Prop where
  | one {s : List Char} (h : HexGroup s) : Groups atEnd s [hexValue s]
  | bytes (a b c d : Fin 256) (h : atEnd = true) :
    Groups atEnd (dotted a b c d) [a * 256 + b, c * 256 + d]
  | more {s t : List Char} {l : List Nat} (h : HexGroup s) (rest : Groups atEnd t l) :
    Groups atEnd (s ++ ':' :: t) (hexValue s :: l)

/-- What may stand on a side of a double colon. -/
inductive Side (atEnd : Bool) : List Char → List Nat → Prop where
  | nothing : Side atEnd [] []
  | groups {s : List Char} {l : List Nat} (h : Groups atEnd s l) : Side atEnd s l

/-- An address of version 6: eight groups, or fewer with a double colon for those that are zero. -/
inductive Ipv6Text : List Char → Nat → Prop where
  | full {s : List Char} {l : List Nat} (h : Groups true s l) (eight : l.length = 8) :
    Ipv6Text s (l.foldl (fun n g => n * 65536 + g) 0)
  | shortened {s t : List Char} {l m : List Nat} (before : Side false s l) (after : Side true t m)
      (fewer : l.length + m.length < 8) : Ipv6Text (s ++ ':' :: ':' :: t)
    ((l ++ List.replicate (8 - l.length - m.length) 0 ++ m).foldl (fun n g => n * 65536 + g) 0)

/-- The text of an address. -/
inductive AddressText : String → Host → Prop where
  | ipv4 (a b c d : Fin 256) :
    AddressText (String.ofList (dotted a b c d)) (.ipv4 (((a * 256 + b) * 256 + c) * 256 + d))
  | ipv6 {s : List Char} {n : Nat} (h : Ipv6Text s n) : AddressText (String.ofList s) (.ipv6 n)

section Characters

variable {c : Char} {s : List Char} {l : List Nat} {atEnd : Bool}

theorem mem_decimalDigits_of_isDigit (h : isDigit c = true) : c ∈ decimalDigits := by
  have range : 48 ≤ c.toNat ∧ c.toNat ≤ 57 := by
    simpa [isDigit, Char.le_def, UInt32.le_iff_toNat_le] using h
  obtain ⟨low, high⟩ := range
  rw [← Char.ofNat_toNat c]
  generalize c.toNat = k at low high
  interval_cases k <;> decide

theorem mem_decimalDigits_of_mem_toDigits {n : Nat} (h : c ∈ Nat.toDigits 10 n) : c ∈ decimalDigits :=
  mem_decimalDigits_of_isDigit (Decimal.isDigit_of_mem_toDigits h)

theorem mem_hexDigits_of_decimal (h : c ∈ decimalDigits) : c ∈ hexDigits := List.mem_append_left _ h

theorem mem_dotted {a b d e : Fin 256} (h : c ∈ dotted a b d e) : c ∈ '.' :: decimalDigits := by
  have digit {n : Nat} (h : c ∈ Nat.toDigits 10 n) : c ∈ '.' :: decimalDigits :=
    List.mem_cons_of_mem _ (mem_decimalDigits_of_mem_toDigits h)
  simp only [dotted, List.mem_append, List.mem_cons] at h
  rcases h with h | rfl | h | rfl | h | rfl | h
  case inr.inl | inr.inr.inr.inl | inr.inr.inr.inr.inr.inl => exact List.mem_cons_self
  all_goals exact digit h

theorem HexGroup.no_colon (h : HexGroup s) : ':' ∉ s := fun mem => absurd (h.digits _ mem) (by decide)

theorem HexGroup.no_point (h : HexGroup s) : '.' ∉ s := fun mem => absurd (h.digits _ mem) (by decide)

theorem colon_not_mem_dotted {a b c d : Fin 256} : ':' ∉ dotted a b c d := fun mem =>
  absurd (mem_dotted mem) (by decide)

theorem Groups.chars (h : Groups atEnd s l) : ∀ c ∈ s, c ∈ addressChars := by
  have hex {c : Char} (h : c ∈ hexDigits) : c ∈ addressChars :=
    List.mem_cons_of_mem _ (List.mem_cons_of_mem _ h)
  induction h with
  | one h => exact fun c mem => hex (h.digits c mem)
  | bytes a b d e =>
    intro c mem
    rcases List.mem_cons.mp (mem_dotted mem) with rfl | digit
    · decide
    · exact hex (mem_hexDigits_of_decimal digit)
  | more h rest ih =>
    intro c mem
    rcases List.mem_append.mp mem with mem | mem
    · exact hex (h.digits c mem)
    · rcases List.mem_cons.mp mem with rfl | mem
      · decide
      · exact ih c mem

theorem Side.chars (h : Side atEnd s l) : ∀ c ∈ s, c ∈ addressChars := by
  cases h with
  | nothing => exact fun c mem => nomatch mem
  | groups h => exact h.chars

theorem Ipv6Text.chars {n : Nat} (h : Ipv6Text s n) : ∀ c ∈ s, c ∈ addressChars := by
  cases h with
  | full h => exact h.chars
  | shortened before after =>
    intro c mem
    rcases List.mem_append.mp mem with mem | mem
    · exact before.chars c mem
    · rcases List.mem_cons.mp mem with rfl | mem
      · decide
      · rcases List.mem_cons.mp mem with rfl | mem
        · decide
        · exact after.chars c mem

/-- One group alone is no address. -/
theorem Ipv6Text.colon {n : Nat} (h : Ipv6Text s n) : ':' ∈ s := by
  cases h with
  | full h eight =>
    cases h with
    | one | bytes => cases eight
    | more => exact List.mem_append_right _ List.mem_cons_self
  | shortened => exact List.mem_append_right _ List.mem_cons_self

end Characters

theorem AddressText.filled {ip : String} {host : Host} (h : AddressText ip host) : ip ≠ "" := by
  cases h with
  | ipv4 => simp [dotted]
  | ipv6 h =>
    have filled := List.ne_nil_of_mem h.colon
    simpa using filled

section Splitting

variable {sep : Char} {s t : List Char}

theorem splitAt_of_not_mem (h : sep ∉ s) : splitAt sep s = [s] := by
  induction s with
  | nil => rfl
  | cons c s ih =>
    rw [List.mem_cons, not_or] at h
    have rest := ih h.2
    rw [splitAt] at rest ⊢
    rw [List.foldr_cons, rest, if_neg (Ne.symm h.1)]

theorem splitAt_append (h : sep ∉ s) (t : List Char) :
    splitAt sep (s ++ sep :: t) = s :: splitAt sep t := by
  induction s with
  | nil => simp [splitAt]
  | cons c s ih =>
    rw [List.mem_cons, not_or] at h
    have rest := ih h.2
    rw [splitAt] at rest ⊢
    rw [List.cons_append, List.foldr_cons, rest, if_neg (Ne.symm h.1)]

theorem splitAt_ne_nil (sep : Char) (s : List Char) : splitAt sep s ≠ [] := by
  induction s with
  | nil => exact List.cons_ne_nil _ _
  | cons c s ih =>
    rw [splitAt, List.foldr_cons]
    split
    · exact List.cons_ne_nil _ _
    · split <;> exact List.cons_ne_nil _ _

end Splitting

theorem readDecimalByte?_toDigits : ∀ n : Fin 256, readDecimalByte? (Nat.toDigits 10 n) = some n.val := by
  decide +kernel

theorem readIpv4Number?_toDigits : ∀ n : Fin 256, readIpv4Number? (Nat.toDigits 10 n) = some n.val := by
  decide +kernel

theorem splitAt_dotted (a b c d : Fin 256) : splitAt '.' (dotted a b c d) =
    [Nat.toDigits 10 a, Nat.toDigits 10 b, Nat.toDigits 10 c, Nat.toDigits 10 d] := by
  have whole (n : Nat) : '.' ∉ Nat.toDigits 10 n := fun mem =>
    absurd (mem_decimalDigits_of_mem_toDigits mem) (by decide)
  rw [dotted, splitAt_append (whole _), splitAt_append (whole _), splitAt_append (whole _),
    splitAt_of_not_mem (whole _)]

theorem readEmbeddedIpv4?_dotted (a b c d : Fin 256) :
    readEmbeddedIpv4? (dotted a b c d) = some [a.val * 256 + b.val, c.val * 256 + d.val] := by
  simp [readEmbeddedIpv4?, splitAt_dotted, readDecimalByte?_toDigits]

theorem readGroup?_hex {s : List Char} (h : HexGroup s) : readGroup? s = some (hexValue s) := by
  have each : ∀ c ∈ hexDigits, digitValue? 16 c = some ((digitValue? 16 c).getD 0) :=
    List.all_iff_forall_prop.mp (by decide)
  have value (l : List Char) (digits : ∀ c ∈ l, c ∈ hexDigits) (n : Nat) :
      l.foldlM (fun n c => (digitValue? 16 c).map fun d => n * 16 + d) n =
        some (l.foldl (fun n c => n * 16 + (digitValue? 16 c).getD 0) n) := by
    induction l generalizing n with
    | nil => rfl
    | cons c l ih =>
      rw [List.foldlM_cons, each c (digits c List.mem_cons_self), Option.map_some]
      exact ih (fun c hc => digits c (List.mem_cons_of_mem _ hc)) _
  have bounds : ¬ (s.isEmpty = true ∨ 4 < s.length) := by
    rw [List.isEmpty_iff]
    exact not_or.mpr ⟨h.filled, Nat.not_lt.mpr h.short⟩
  rw [readGroup?, if_neg bounds]
  exact value s h.digits 0

/-- Groups are read one by one. -/
theorem readGroups?_more {s t : List Char} {n : Nat} {l : List Nat} {atEnd : Bool} (plain : ':' ∉ s)
    (first : readGroup? s = some n) (filled : t ≠ []) (rest : readGroups? atEnd t = some l) :
    readGroups? atEnd (s ++ ':' :: t) = some (n :: l) := by
  have parts := splitAt_ne_nil ':' t
  have filled' : (s ++ ':' :: t).isEmpty = false := by simp
  rw [readGroups?, List.isEmpty_eq_false_iff.mpr filled] at rest
  rw [readGroups?, filled', splitAt_append plain]
  simp only [Bool.false_eq_true, if_false] at rest ⊢
  rw [List.getLast?_cons_of_ne_nil parts, List.dropLast_cons_of_ne_nil parts, List.mapM_cons, first]
  simp only [Option.bind_eq_bind, Option.bind_eq_some_iff] at rest
  obtain ⟨last, ends, init, begins, read⟩ := rest
  simp only [ends, begins, Option.bind_eq_bind, Option.bind_some, Option.pure_def]
  have after_first {tail? : Option (List Nat)} (read : (tail?.bind fun tail => some (init ++ tail)) = some l) :
      (tail?.bind fun tail => some (n :: init ++ tail)) = some (n :: l) := by
    obtain ⟨tail, rfl, same⟩ := Option.bind_eq_some_iff.mp read
    rw [← Option.some.inj same]
    rfl
  -- The last group is read as it was without the first.
  by_cases four : atEnd = true ∧ '.' ∈ last
  · rw [if_pos four] at read ⊢
    exact after_first read
  · rw [if_neg four] at read ⊢
    exact after_first read

theorem Groups.filled {s : List Char} {l : List Nat} {atEnd : Bool} (h : Groups atEnd s l) : s ≠ [] := by
  cases h with
  | one h => exact h.filled
  | bytes => simp [dotted]
  | more => simp

theorem Groups.read {s : List Char} {l : List Nat} {atEnd : Bool} (h : Groups atEnd s l) :
    readGroups? atEnd s = some l := by
  induction h with
  | one h =>
    simp [readGroups?, h.filled, splitAt_of_not_mem h.no_colon, h.no_point, readGroup?_hex h]
  | bytes a b c d h =>
    have filled : dotted a b c d ≠ [] := by simp [dotted]
    have point : '.' ∈ dotted a b c d := by simp [dotted]
    simp [readGroups?, filled, splitAt_of_not_mem colon_not_mem_dotted, point, h,
      readEmbeddedIpv4?_dotted]
  | more h rest ih => exact readGroups?_more h.no_colon (readGroup?_hex h) rest.filled ih

theorem Side.read {s : List Char} {l : List Nat} {atEnd : Bool} (h : Side atEnd s l) :
    readGroups? atEnd s = some l := by
  cases h with
  | nothing => rfl
  | groups h => exact h.read

/-- No double colon begins where no colon is. -/
theorem splitOnce?_skip {s : List Char} (plain : ':' ∉ s) (t : List Char) :
    splitOnce? [':', ':'] (s ++ t) = (splitOnce? [':', ':'] t).map fun p => (s ++ p.1, p.2) := by
  induction s with
  | nil => simp
  | cons c s ih =>
    rw [List.mem_cons, not_or] at plain
    have other : [':', ':'].isPrefixOf (c :: (s ++ t)) = false := by
      simp [List.isPrefixOf, plain.1]
    rw [List.cons_append, splitOnce?, other, if_neg Bool.false_ne_true, ih plain.2, Option.map_map]
    rfl

theorem splitOnce?_colon {t : List Char} (single : t.head? ≠ some ':') :
    splitOnce? [':', ':'] (':' :: t) = (splitOnce? [':', ':'] t).map fun p => (':' :: p.1, p.2) := by
  have other : [':', ':'].isPrefixOf (':' :: t) = false := by
    cases t with
    | nil => rfl
    | cons c t =>
      have apart : ':' ≠ c := fun same => single (congrArg some same.symm)
      simp [List.isPrefixOf, apart]
  rw [splitOnce?, other, if_neg Bool.false_ne_true]

theorem Groups.head?_ne {s : List Char} {l : List Nat} {atEnd : Bool} (h : Groups atEnd s l)
    (t : List Char) : (s ++ t).head? ≠ some ':' := by
  have first {g : List Char} (filled : g ≠ []) (plain : ':' ∉ g) (t : List Char) :
      (g ++ t).head? ≠ some ':' := by
    rw [List.head?_append_of_ne_nil _ filled]
    exact fun head => plain (List.mem_of_head? head)
  cases h with
  | one h => exact first h.filled h.no_colon t
  | bytes a b c d => exact first (by simp [dotted]) colon_not_mem_dotted t
  | more h rest =>
    rw [List.append_assoc]
    exact first h.filled h.no_colon _

/-- Groups hold no double colon. -/
theorem Groups.splitOnce? {s : List Char} {l : List Nat} {atEnd : Bool} (h : Groups atEnd s l)
    (t : List Char) : splitOnce? [':', ':'] (s ++ t) =
      (Text.splitOnce? [':', ':'] t).map fun p => (s ++ p.1, p.2) := by
  induction h with
  | one h => exact splitOnce?_skip h.no_colon t
  | bytes a b c d => exact splitOnce?_skip colon_not_mem_dotted t
  | more h rest ih =>
    rw [List.append_assoc, List.cons_append, splitOnce?_skip h.no_colon,
      splitOnce?_colon (rest.head?_ne t), ih, Option.map_map, Option.map_map]
    simp [Function.comp_def]

/-- Every address of version 6 is read as what it stands for. -/
theorem Ipv6Text.read {s : List Char} {n : Nat} (h : Ipv6Text s n) : readIpv6? s = some n := by
  cases h with
  | full h eight =>
    have split := h.splitOnce? []
    rw [List.append_nil] at split
    have none : Text.splitOnce? [':', ':'] s = none := split
    simp [readIpv6?, none, h.read, eight]
  | @shortened s t l m before after fewer =>
    have split : Text.splitOnce? [':', ':'] (s ++ ':' :: ':' :: t) = some (s, t) := by
      cases before with
      | nothing => rfl
      | groups h =>
        rw [h.splitOnce?]
        simp [Text.splitOnce?]
    have eight : (l ++ List.replicate (8 - l.length - m.length) 0 ++ m).length = 8 := by
      simp only [List.length_append, List.length_replicate]
      omega
    simp only [readIpv6?, split, before.read, after.read, if_pos fewer, Option.bind_eq_bind,
      Option.bind_some, if_pos eight]

theorem Ipv6Text.readHost? {s : List Char} {n : Nat} (h : Ipv6Text s n) :
    readHost? ('[' :: (s ++ [']'])) = some (.ipv6 n) := by
  simp [Url.readHost?, readBracketed?, h.read]

/-- Text without escapes is read as it is. -/
theorem utf8Lossy_decode {s : List Char} (h : ∀ c ∈ s, c ∈ addressChars) :
    utf8Lossy none (decode s) = s := by
  have byte : ∀ c ∈ addressChars, c ≠ '%' ∧ utf8Bytes [c] = [UInt8.ofNat c.toNat] ∧
      utf8Step none (UInt8.ofNat c.toNat).toNat = ([c], none) :=
    List.all_iff_forall_prop.mp (by decide +kernel)
  induction s with
  | nil => rfl
  | cons c s ih =>
    obtain ⟨unescaped, bytes, char⟩ := byte c (h c List.mem_cons_self)
    have decoded : decode (c :: s) = utf8Bytes [c] ++ decode s := by
      rw [decode]
      exact fun _ _ _ escape _ => unescaped escape
    rw [decoded, bytes, List.singleton_append, utf8Lossy, char,
      ih fun d hd => h d (List.mem_cons_of_mem _ hd)]
    rfl

theorem labels_dotted (a b c d : Fin 256) : labels (dotted a b c d) =
    [Nat.toDigits 10 a, Nat.toDigits 10 b, Nat.toDigits 10 c, Nat.toDigits 10 d] := by
  have filled : Nat.toDigits 10 d ≠ [] := Nat.toDigits_ne_nil
  simp [labels, splitAt_dotted, filled]

theorem readIpv4?_dotted (a b c d : Fin 256) :
    readIpv4? (dotted a b c d) = some (((a.val * 256 + b) * 256 + c) * 256 + d) := by
  have filled (n : Nat) : Nat.toDigits 10 n ≠ [] := Nat.toDigits_ne_nil
  have bytes : ¬ (255 < a.val ∨ 255 < b.val ∨ 255 < c.val) := by omega
  simp [readIpv4?, labels_dotted, filled, readIpv4Number?_toDigits, bytes, Nat.shiftLeft_eq]

theorem endsInNumber_dotted (a b c d : Fin 256) : endsInNumber (dotted a b c d) = true := by
  have filled : Nat.toDigits 10 d ≠ [] := Nat.toDigits_ne_nil
  simp [endsInNumber, labels_dotted, filled, Decimal.all_isDigit_toDigits]

/-- Every address of version 4 is read as what it stands for. -/
theorem readHost?_dotted (a b c d : Fin 256) :
    readHost? (dotted a b c d) = some (.ipv4 (((a.val * 256 + b) * 256 + c) * 256 + d)) := by
  have plain : ∀ x ∈ '.' :: decimalDigits, x ∈ addressChars ∧ x.toLower = x ∧ x ≠ '[' ∧
      isForbiddenInDomain x = false :=
    List.all_iff_forall_prop.mp (by decide +kernel)
  have name : (utf8Lossy none (decode (dotted a b c d))).map Char.toLower = dotted a b c d := by
    rw [utf8Lossy_decode fun x hx => (plain x (mem_dotted hx)).1]
    exact (List.map_congr_left fun x hx => (plain x (mem_dotted hx)).2.1).trans (List.map_id' _)
  have filled : dotted a b c d ≠ [] := by simp [dotted]
  have allowed : (dotted a b c d).any isForbiddenInDomain = false :=
    List.any_eq_false.mpr fun x hx => by simp [(plain x (mem_dotted hx)).2.2.2]
  rw [Url.readHost?]
  · simp only [name, allowed, List.isEmpty_iff, filled, endsInNumber_dotted, readIpv4?_dotted]
    rfl
  · intro rest bracketed
    have first : '[' ∈ dotted a b c d := bracketed ▸ List.mem_cons_self
    exact (plain _ (mem_dotted first)).2.2.1 rfl

end CachePartition
