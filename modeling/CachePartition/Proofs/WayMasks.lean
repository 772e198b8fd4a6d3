import CachePartition.CacheReport.Basic
import CachePartition.Proofs.Trimming
import CachePartition.Proofs.UnsignedNumerals

/-! What a mask of cache ways may be written like. Between blanks stands a hexadecimal numeral, of any length and
with letters of either case, behind at most one mark of its base and at most one plus sign after the mark. -/
namespace CachePartition

open Text

/-- What may stand before a mask to tell its base. -/
def hexMarks : List (List Char) := [[], ['0', 'x'], ['0', 'X']]

/-- The signs of a mask. -/
def maskSigns : List (List Char) := [[], ['+']]

/-- A text without blanks around it that is written like a mask, and what it stands for. -/
inductive MaskText : List Char → Nat → Prop where
  | intro {mark sign digits : List Char} {ds : List Nat} (marked : mark ∈ hexMarks) (signed : sign ∈ maskSigns)
      (filled : digits ≠ []) (each : List.Forall₂ (DigitOf 16) digits ds) :
    MaskText (mark ++ (sign ++ digits)) (Nat.ofDigits 16 ds.reverse)

/-- Some of the ways in which a text without blanks around it fails to be a mask in bounds. -/
inductive MaskFault : List Char → Prop where
  /-- No digit follows the mark and the sign, if there are any. -/
  | bare {mark sign : List Char} (marked : mark ∈ hexMarks) (signed : sign ∈ maskSigns) : MaskFault (mark ++ sign)
  | minus {t : List Char} (negative : '-' ∈ t) : MaskFault t
  | marks {mark mark' rest : List Char} (marked : mark ∈ hexMarks) (again : mark' ∈ hexMarks)
      (first : mark ≠ []) (second : mark' ≠ []) : MaskFault (mark ++ (mark' ++ rest))
  | signs {mark rest : List Char} (marked : mark ∈ hexMarks) : MaskFault (mark ++ '+' :: '+' :: rest)
  /-- The sign comes before the mark. -/
  | order {mark rest : List Char} (marked : mark ∈ hexMarks) (first : mark ≠ []) : MaskFault ('+' :: (mark ++ rest))
  | blank {t : List Char} {c : Char} (inside : c ∈ t) (blank : isBlank c = true) : MaskFault t
  | large {t : List Char} {n : Nat} (text : MaskText t n) (large : 1 <<< 64 ≤ n) : MaskFault t

section Masks

variable {t digits : List Char} {ds : List Nat} {c : Char} {n n' : Nat}

theorem mem_hexMarks {mark : List Char} : mark ∈ hexMarks ↔ mark = [] ∨ mark = ['0', 'x'] ∨ mark = ['0', 'X'] := by
  simp [hexMarks]

theorem mem_maskSigns {sign : List Char} : sign ∈ maskSigns ↔ sign = [] ∨ sign = ['+'] := by
  simp [maskSigns]

/-- No mark, sign or blank is made of digits. -/
theorem Text.DigitOf.plain {d : Nat} (h : DigitOf 16 c d) :
    c ≠ 'x' ∧ c ≠ 'X' ∧ c ≠ '+' ∧ c ≠ '-' ∧ isBlank c = false := by
  have plain : decide (c ≠ 'x' ∧ c ≠ 'X' ∧ c ≠ '+' ∧ c ≠ '-' ∧ isBlank c = false) = true := by
    apply h.of_all
    decide
  exact of_decide_eq_true plain

theorem plain_of_digits (each : List.Forall₂ (DigitOf 16) digits ds) (hc : c ∈ digits) :
    c ≠ 'x' ∧ c ≠ 'X' ∧ c ≠ '+' ∧ c ≠ '-' ∧ isBlank c = false := by
  induction each with
  | nil => cases hc
  | cons first _ ih =>
    rcases List.mem_cons.mp hc with rfl | hc
    · exact first.plain
    · exact ih hc

/-- A text is known by the mark that is taken off it. -/
theorem dropHexMark_cases (s : List Char) : ∃ mark ∈ hexMarks, s = mark ++ dropHexMark s := by
  unfold dropHexMark stripStart?
  split
  · next lower =>
    obtain ⟨rest, rfl⟩ := List.isPrefixOf_iff_prefix.mp lower
    exact ⟨['0', 'x'], by decide, by simp⟩
  · split
    · next upper =>
      obtain ⟨rest, rfl⟩ := List.isPrefixOf_iff_prefix.mp upper
      exact ⟨['0', 'X'], by decide, by simp⟩
    · exact ⟨[], by decide, rfl⟩

/-- A mark is taken off a text that starts with it. -/
theorem dropHexMark_append {mark rest : List Char} (marked : mark ∈ hexMarks) (first : mark ≠ []) :
    dropHexMark (mark ++ rest) = rest := by
  rcases mem_hexMarks.mp marked with rfl | rfl | rfl
  · exact absurd rfl first
  · simp [dropHexMark, stripStart?]
  · simp [dropHexMark, stripStart?]

/-- Nothing is taken off a text that does not go on with a mark. -/
theorem dropHexMark_of_unmarked {s : List Char} (lower : 'x' ∉ s) (upper : 'X' ∉ s) : dropHexMark s = s := by
  have unmarked (x : Char) (absent : x ∉ s) : ¬ ['0', x] <+: s := by
    rintro ⟨rest, rfl⟩
    simp at absent
  unfold dropHexMark stripStart?
  simp [unmarked _ lower, unmarked _ upper]

/-- Behind its mark, a mask is a numeral. -/
theorem maskText_iff : MaskText t n ↔ NumeralOf 16 (dropHexMark t) n := by
  constructor
  · rintro ⟨marked, signed, filled, each⟩
    rename_i mark sign digits ds
    have plain {c : Char} (hc : c ∈ sign ++ digits) : c ≠ 'x' ∧ c ≠ 'X' := by
      rcases List.mem_append.mp hc with hc | hc
      · rcases mem_maskSigns.mp signed with rfl | rfl
        · cases hc
        · obtain rfl := List.mem_singleton.mp hc
          decide
      · have := plain_of_digits each hc
        exact ⟨this.1, this.2.1⟩
    have dropped : dropHexMark (mark ++ (sign ++ digits)) = sign ++ digits := by
      by_cases first : mark = []
      · rw [first]
        exact dropHexMark_of_unmarked (fun hx => (plain hx).1 rfl) (fun hx => (plain hx).2 rfl)
      · exact dropHexMark_append marked first
    have read : HasDigits 16 digits ds := (hasDigits_iff (by decide)).mpr each
    rw [dropped]
    rcases mem_maskSigns.mp signed with rfl | rfl
    · exact .plain filled read
    · exact .plus filled read
  · intro numeral
    obtain ⟨mark, marked, split⟩ := dropHexMark_cases t
    generalize dropHexMark t = rest at split numeral
    rw [split]
    cases numeral with
    | plain filled digits =>
      have unsigned : [] ∈ maskSigns := by decide
      exact .intro marked unsigned filled ((hasDigits_iff (by decide)).mp digits)
    | plus filled digits =>
      have signed : ['+'] ∈ maskSigns := by decide
      exact .intro marked signed filled ((hasDigits_iff (by decide)).mp digits)

theorem dropHexMark_plus (s : List Char) : dropHexMark ('+' :: s) = '+' :: s := by
  simp [dropHexMark, stripStart?]

/-- A mask stands for one number. -/
theorem MaskText.unique (h : MaskText t n) (h' : MaskText t n') : n = n' := by
  rw [maskText_iff] at h h'
  have room : 0 < n + n' + 1 := by omega
  have read := (readUnsigned_eq_ok (by decide) room).mpr ⟨h, by omega⟩
  have read' := (readUnsigned_eq_ok (by decide) room).mpr ⟨h', by omega⟩
  rw [read] at read'
  exact Except.ok.inj read'

theorem plain_of_numeral (h : NumeralOf 16 t n) (hc : c ∈ t) :
    c ≠ 'x' ∧ c ≠ 'X' ∧ c ≠ '-' ∧ isBlank c = false := by
  have plain {s : List Char} {ds : List Nat} (digits : HasDigits 16 s ds) (hc : c ∈ s) :
      c ≠ 'x' ∧ c ≠ 'X' ∧ c ≠ '-' ∧ isBlank c = false := by
    have all := plain_of_digits ((hasDigits_iff (by decide)).mp digits) hc
    exact ⟨all.1, all.2.1, all.2.2.2⟩
  cases h with
  | plain _ digits => exact plain digits hc
  | plus _ digits =>
    rcases List.mem_cons.mp hc with rfl | hc
    · decide
    · exact plain digits hc

/-- Neither minus signs nor blanks are part of masks. -/
theorem MaskText.plain (h : MaskText t n) (hc : c ∈ t) : c ≠ '-' ∧ isBlank c = false := by
  obtain ⟨mark, marked, split⟩ := dropHexMark_cases t
  rw [split] at hc
  rcases List.mem_append.mp hc with hc | hc
  · have marks : hexMarks.all (·.all fun c => c ≠ '-' ∧ isBlank c = false) = true := by decide
    exact of_decide_eq_true (List.all_eq_true.mp (List.all_eq_true.mp marks mark marked) c hc)
  · exact (plain_of_numeral (maskText_iff.mp h) hc).2.2

/-- A fault keeps a text from being a mask in bounds. -/
theorem MaskFault.le (h : MaskFault t) (text : MaskText t n) : 1 <<< 64 ≤ n := by
  have numeral := maskText_iff.mp text
  have unsigned {s : List Char} {ds : List Nat} (digits : HasDigits 16 ('+' :: s) ds) : False := by
    cases digits with
    | cons first _ => simp [digitValue?_plus] at first
  have unmarked {mark rest : List Char} (marked : mark ∈ hexMarks) (first : mark ≠ [])
      (numeral : NumeralOf 16 (mark ++ rest) n) : False := by
    rcases mem_hexMarks.mp marked with rfl | rfl | rfl
    · exact first rfl
    · exact (plain_of_numeral numeral (c := 'x') (by simp)).1 rfl
    · exact (plain_of_numeral numeral (c := 'X') (by simp)).2.1 rfl
  cases h with
  | bare marked signed =>
    have nothing : ∀ mark ∈ hexMarks, ∀ sign ∈ maskSigns, dropHexMark (mark ++ sign) = sign := by decide
    rw [nothing _ marked _ signed] at numeral
    rcases mem_maskSigns.mp signed with rfl | rfl
    · cases numeral with
      | plain filled _ => exact absurd rfl filled
    · cases numeral with
      | plain _ digits => exact (unsigned digits).elim
      | plus filled _ => exact absurd rfl filled
  | minus negative => exact absurd rfl (text.plain negative).1
  | marks marked again first second =>
    rw [dropHexMark_append marked first] at numeral
    exact (unmarked again second numeral).elim
  | @signs mark rest marked =>
    have dropped : dropHexMark (mark ++ '+' :: '+' :: rest) = '+' :: '+' :: rest := by
      by_cases first : mark = []
      · rw [first]
        exact dropHexMark_plus _
      · exact dropHexMark_append marked first
    rw [dropped] at numeral
    cases numeral with
    | plain _ digits => exact (unsigned digits).elim
    | plus _ digits => exact (unsigned digits).elim
  | order marked first =>
    rw [dropHexMark_plus] at numeral
    cases numeral with
    | plain _ digits => exact (unsigned digits).elim
    | plus filled digits => exact (unmarked marked first (.plain filled digits)).elim
  | blank inside blank =>
    rw [(text.plain inside).2] at blank
    cases blank
  | large text' large =>
    rw [text.unique text']
    exact large

end Masks

section Reading

variable {s : String} {t : List Char} {n : Nat}

theorem readWays_eq_ok (stripped : Stripped s.toList t) :
    readWays s = .ok n ↔ MaskText t n ∧ n < 1 <<< 64 := by
  unfold readWays
  rw [stripped.trimBlanks_eq, readUnsigned_eq_ok (by decide) (by decide), maskText_iff]

theorem readWays_eq_error (stripped : Stripped s.toList t) :
    (∃ e, readWays s = .error e) ↔ ∀ n, MaskText t n → 1 <<< 64 ≤ n := by
  have read (n : Nat) := readWays_eq_ok (n := n) stripped
  cases h : readWays s with
  | ok m =>
    have text := (read m).mp h
    simp only [reduceCtorEq, exists_false, false_iff, not_forall]
    exact ⟨m, text.1, Nat.not_le.mpr text.2⟩
  | error e =>
    simp only [Except.error.injEq, exists_eq', true_iff]
    intro n text
    by_contra below
    rw [(read n).mpr ⟨text, Nat.not_le.mp below⟩] at h
    cases h

end Reading

/-- A mask of ways is read just if it is, between blanks, a hexadecimal numeral below the bound behind at most one
mark and at most one sign, in this order. All else is an error. -/
theorem masks_read_by_grammar (s : String) :
    (∀ n, readWays s = .ok n ↔ ∃ t, Stripped s.toList t ∧ MaskText t n ∧ n < 1 <<< 64) ∧
    ((∃ e, readWays s = .error e) ↔ ¬ ∃ t n, Stripped s.toList t ∧ MaskText t n ∧ n < 1 <<< 64) ∧
    ∀ t, Stripped s.toList t → MaskFault t → ∃ e, readWays s = .error e := by
  have stripped := stripped_trimBlanks s.toList
  refine ⟨?_, ?_, ?_⟩
  · intro n
    rw [readWays_eq_ok stripped]
    constructor
    · intro text
      exact ⟨_, stripped, text⟩
    · rintro ⟨t, same, text⟩
      rwa [← same.trimBlanks_eq] at text
  · rw [readWays_eq_error stripped]
    constructor
    · rintro large ⟨t, n, same, text, below⟩
      rw [← same.trimBlanks_eq] at text
      have := large n text
      omega
    · intro none n text
      by_contra below
      exact none ⟨_, n, stripped, text, Nat.not_le.mp below⟩
  · intro t stripped fault
    rw [readWays_eq_error stripped]
    intro n text
    exact fault.le text

/-- A mask with a mark, a sign, leading zeros and letters of both cases, and texts that are none. -/
theorem masks_read_by_grammar_zeros :
    readWays "\t 0X+00000000000000000007fF\u3000" = .ok 2047 ∧ (∃ e, readWays " 0x0X7ff\n" = .error e) ∧
      (∃ e, readWays "0x 7ff" = .error e) ∧ ∃ e, readWays "10000000000000000" = .error e := by
  have text : MaskText "0X+00000000000000000007fF".toList 2047 := by
    have digits : List.Forall₂ (DigitOf 16) "00000000000000000007fF".toList
        (List.replicate 19 0 ++ [7, 15, 15]) := by decide
    have mask := @MaskText.intro ['0', 'X'] ['+'] _ _ (by decide) (by decide) (by decide) digits
    have value : Nat.ofDigits 16 (List.replicate 19 0 ++ [7, 15, 15]).reverse = 2047 := by decide
    rwa [value] at mask
  have large : MaskText "10000000000000000".toList (1 <<< 64) := by
    have digits : List.Forall₂ (DigitOf 16) "10000000000000000".toList (1 :: List.replicate 16 0) := by decide
    have mask := @MaskText.intro [] [] _ _ (by decide) (by decide) (by decide) digits
    have value : Nat.ofDigits 16 (1 :: List.replicate 16 0).reverse = 1 <<< 64 := by decide
    rwa [value] at mask
  have twice : MaskFault "0x0X7ff".toList :=
    @MaskFault.marks ['0', 'x'] ['0', 'X'] "7ff".toList (by decide) (by decide) (by decide) (by decide)
  have parted : MaskFault "0x 7ff".toList := .blank (c := ' ') (by decide) (by decide)
  refine ⟨?_, ?_, ?_, ?_⟩
  · apply ((masks_read_by_grammar _).1 _).mpr
    exact ⟨_, stripped_iff.mpr (by decide), text, by decide⟩
  · exact (masks_read_by_grammar _).2.2 _ (stripped_iff.mpr (by decide)) twice
  · exact (masks_read_by_grammar _).2.2 _ (stripped_iff.mpr (by decide)) parted
  · exact (masks_read_by_grammar _).2.2 _ (stripped_iff.mpr (by decide)) (.large large le_rfl)

end CachePartition
