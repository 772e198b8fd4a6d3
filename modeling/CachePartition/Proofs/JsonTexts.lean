import CachePartition.Json.Printer
import CachePartition.Proofs.Numerals

/-! JSON texts. Every value is read from the text it is written as, whatever its strings hold and however
it is nested. -/
namespace CachePartition.Json

open Decimal Text

theorem assemble?_unit {n : Nat} (high : isHighUnit n = false) (low : isLowUnit n = false)
    (rest : List Piece) : assemble? (.unit n :: rest) = (assemble? rest).map (Char.ofNat n :: ·) := by
  cases rest with
  | nil => simp [assemble?, high, low]
  | cons p rest => cases p <;> simp [assemble?, high, low]

theorem unitDigits_read : ∀ n < 0x20,
    unitDigits n = ['0', '0', Nat.digitChar (n / 16), Nat.digitChar (n % 16)] ∧
      unitOf? '0' '0' (Nat.digitChar (n / 16)) (Nat.digitChar (n % 16)) = some n := by
  decide

/-- A character is written with a letter that stands for it, by its number or as it is. -/
theorem escape_cases (c : Char) :
    (∃ e, escape c = ['\\', e] ∧ e ≠ 'u' ∧ escaped? e = some c) ∨
    (c.toNat < 0x20 ∧ escape c = '\\' :: 'u' :: unitDigits c.toNat) ∨
    (escape c = [c] ∧ c ≠ '"' ∧ c ≠ '\\' ∧ ¬ c.toNat < 0x20) := by
  by_cases lettered : c ∈ ['"', '\\', '\x08', '\x0c', '\n', '\r', '\t']
  · simp only [List.mem_cons, List.not_mem_nil, or_false] at lettered
    rcases lettered with rfl | rfl | rfl | rfl | rfl | rfl | rfl <;>
      exact .inl ⟨_, rfl, by decide, rfl⟩
  · simp only [List.mem_cons, List.not_mem_nil, or_false, not_or] at lettered
    obtain ⟨quote, backslash, back, feed, line, carriage, tab⟩ := lettered
    by_cases small : c.toNat < 0x20
    · refine .inr (.inl ⟨small, ?_⟩)
      simp only [escape, quote, backslash, back, feed, line, carriage, tab, small, if_false, if_true]
    · refine .inr (.inr ⟨?_, quote, backslash, small⟩)
      simp only [escape, quote, backslash, back, feed, line, carriage, tab, small, if_false]

/-- A character is written as one part, which stands for the character. -/
theorem readPieces_escape (c : Char) (s : List Char) : ∃ p : Piece,
    readPieces (escape c ++ s) = (readPieces s).map (fun q => (p :: q.1, q.2)) ∧
      ∀ rest, assemble? (p :: rest) = (assemble? rest).map (c :: ·) := by
  obtain ⟨e, written, no_unit, stands⟩ | ⟨small, written⟩ | ⟨written, quote, backslash, large⟩ :=
    escape_cases c
  · exact ⟨.char c, by simp [written, readPieces, no_unit, stands], fun _ => rfl⟩
  · obtain ⟨digits, read⟩ := unitDigits_read c.toNat small
    refine ⟨.unit c.toNat, by simp [written, digits, readPieces, read], fun rest => ?_⟩
    rw [assemble?_unit (by simp [isHighUnit]; omega) (by simp [isLowUnit]; omega), Char.ofNat_toNat]
  · exact ⟨.char c, by simp [written, readPieces, backslash, large], fun _ => rfl⟩

theorem readPieces_escapes (s rest : List Char) : ∃ ps : List Piece,
    readPieces (s.flatMap escape ++ '"' :: rest) = some (ps, rest) ∧ assemble? ps = some s := by
  induction s with
  | nil => exact ⟨[], by simp [readPieces], rfl⟩
  | cons c s ih =>
    obtain ⟨ps, read, assembled⟩ := ih
    obtain ⟨p, first, stands⟩ := readPieces_escape c (s.flatMap escape ++ '"' :: rest)
    refine ⟨p :: ps, ?_, by rw [stands, assembled, Option.map_some]⟩
    rw [List.flatMap_cons, List.append_assoc, first, read, Option.map_some]

/-- What a text is written as is read as the text. -/
theorem readString_stringText (s : String) (rest : List Char) :
    ∃ t, stringText s ++ rest = '"' :: t ∧ readString t = some (some s, rest) := by
  obtain ⟨ps, read, assembled⟩ := readPieces_escapes s.toList rest
  refine ⟨s.toList.flatMap escape ++ '"' :: rest, by simp [stringText], ?_⟩
  rw [readString, read, Option.map_some, assembled, Option.map_some, String.ofList_toList]

/-- Values with a text of their own. -/
inductive Legible : Json → Prop where
  | null : Legible .null
  | bool (b : Bool) : Legible (.bool b)
  | number {n : Numeral} (wellFormed : n.WellFormed) : Legible (.number n)
  | string (s : String) : Legible (.string s)
  | array {items : List Json} (each : ∀ j ∈ items, Legible j) : Legible (.array items)
  | object {fields : List (String × Json)} (each : ∀ f ∈ fields, Legible f.2) : Legible (.object fields)

/-- Whether a value ends before `rest`. -/
def Ends (rest : List Char) : Prop := ∀ c ∈ rest.head?, c = ',' ∨ c = ']' ∨ c = '\x7d'

/-- A value is read from its text, whatever follows. Two steps for each character are enough, since a value
in a row takes a step for the row and steps of its own, and the mark after it is a character too. -/
def ReadsBack (j : Json) : Prop :=
  ∀ fuel rest, Ends rest → 2 * (text j).length ≤ fuel → readValue fuel (text j ++ rest) = some (j, rest)

theorem Ends.endsNumeral {rest : List Char} (h : Ends rest) : EndsNumeral rest := by
  intro c hc
  rcases h c hc with rfl | rfl | rfl <;> decide

theorem ends_cons {c : Char} {rest : List Char} (h : c = ',' ∨ c = ']' ∨ c = '\x7d') :
    Ends (c :: rest) := by
  rintro d ⟨⟩
  exact h

theorem skipSpace_cons {c : Char} {rest : List Char} (h : isSpace c = false) :
    skipSpace (c :: rest) = c :: rest := by
  simp [skipSpace, h]

theorem isSpace_of_isDigit {c : Char} (h : isDigit c = true) : isSpace c = false := by
  simp only [isDigit, Bool.and_eq_true, decide_eq_true_eq] at h
  simp only [isSpace, Bool.or_eq_false_iff, decide_eq_false_iff_not]
  refine ⟨⟨⟨?_, ?_⟩, ?_⟩, ?_⟩ <;> (rintro rfl; exact absurd h.1 (by decide))

/-- A numeral starts with its sign or with a digit. -/
theorem text_numeral {n : Numeral} (h : n.WellFormed) :
    ∃ c s, n.text = c :: s ∧ (c = '-' ∨ isDigit c = true) := by
  cases negative : n.negative with
  | true => exact ⟨'-', _, by simp [Numeral.text, negative]; rfl, .inl rfl⟩
  | false =>
    obtain ⟨c, ds, whole⟩ := List.exists_cons_of_ne_nil h.whole.filled
    have digit := h.whole.digits c (whole ▸ List.mem_cons_self)
    exact ⟨c, _, by simp [Numeral.text, negative, whole]; rfl, .inr digit⟩

/-- What starts as a numeral is read as one. -/
theorem readValue_numeral {c : Char} (start : c = '-' ∨ isDigit c = true) (fuel : Nat) (s : List Char) :
    readValue (fuel + 1) (c :: s) = (readNumeral (c :: s)).map fun p => (.number p.1, p.2) := by
  rcases start with rfl | digit
  · simp [readValue, skipSpace, isSpace]
  have other (d : Char) (no_digit : isDigit d = false) : c ≠ d := by
    rintro rfl
    simp [digit] at no_digit
  rw [readValue, skipSpace_cons (isSpace_of_isDigit digit)]
  split
  case h_1 start => exact absurd (List.cons.inj start).1 (other 'n' rfl)
  case h_2 start => exact absurd (List.cons.inj start).1 (other 't' rfl)
  case h_3 start => exact absurd (List.cons.inj start).1 (other 'f' rfl)
  case h_4 start => exact absurd (List.cons.inj start).1 (other '"' rfl)
  case h_5 start => exact absurd (List.cons.inj start).1 (other '[' rfl)
  case h_6 start => exact absurd (List.cons.inj start).1 (other '\x7b' rfl)
  case h_7 => rfl

/-- A value with a text takes at least one step. -/
theorem ReadsBack.of_step {j : Json} (filled : text j ≠ [])
    (step : ∀ fuel rest, Ends rest → 2 * (text j).length ≤ fuel + 1 →
      readValue (fuel + 1) (text j ++ rest) = some (j, rest)) : ReadsBack j := by
  intro fuel rest ends enough
  cases fuel with
  | zero =>
    have long := List.length_pos_iff.2 filled
    omega
  | succ fuel => exact step fuel rest ends enough

theorem readsBack_null : ReadsBack .null := .of_step (by simp [text]) fun _ _ _ _ => rfl

theorem readsBack_bool (b : Bool) : ReadsBack (.bool b) := by
  cases b with
  | false => exact .of_step (by simp [text]) fun _ _ _ _ => rfl
  | true => exact .of_step (by simp [text]) fun _ _ _ _ => rfl

theorem readsBack_number {n : Numeral} (h : n.WellFormed) : ReadsBack (.number n) := by
  obtain ⟨c, s, written, start⟩ := text_numeral h
  refine .of_step (by simp [text, written]) fun fuel rest ends _ => ?_
  have read := readNumeral_append h ends.endsNumeral
  rw [text]
  rw [written, List.cons_append] at read ⊢
  rw [readValue_numeral start, read]
  rfl

theorem readsBack_string (s : String) : ReadsBack (.string s) := by
  refine .of_step (by simp [text, stringText]) fun fuel rest _ _ => ?_
  obtain ⟨t, written, read⟩ := readString_stringText s rest
  rw [text, written]
  show (readString t).map _ = _
  rw [read]
  rfl

/-- A value starts with no blank and not with the end of an array. -/
theorem text_start {j : Json} (h : Legible j) :
    ∃ c s, text j = c :: s ∧ isSpace c = false ∧ c ≠ ']' := by
  cases h with
  | null => exact ⟨_, _, rfl, rfl, by decide⟩
  | bool b => cases b <;> exact ⟨_, _, rfl, rfl, by decide⟩
  | string s => exact ⟨_, _, rfl, rfl, by decide⟩
  | array => exact ⟨_, _, by rw [text], rfl, by decide⟩
  | object => exact ⟨_, _, by rw [text], rfl, by decide⟩
  | number wellFormed =>
    obtain ⟨c, s, written, rfl | digit⟩ := text_numeral wellFormed
    · exact ⟨_, s, by rw [text, written], rfl, by decide⟩
    · have no_end : c ≠ ']' := by
        rintro rfl
        simp [isDigit] at digit
      exact ⟨c, s, by rw [text, written], isSpace_of_isDigit digit, no_end⟩

theorem readItems_itemsText {items : List Json} (filled : items ≠ []) (each : ∀ j ∈ items, ReadsBack j)
    (fuel : Nat) (rest : List Char) (enough : 2 * (itemsText items).length ≤ fuel) :
    readItems fuel (itemsText items ++ rest) = some (items, rest) := by
  induction items generalizing fuel with
  | nil => exact absurd rfl filled
  | cons j items ih =>
    obtain ⟨first, others⟩ := List.forall_mem_cons.1 each
    cases items with
    | nil =>
      simp only [itemsText, List.length_append, List.length_singleton] at enough
      obtain ⟨fuel, rfl⟩ : ∃ m, fuel = m + 1 := ⟨fuel - 1, by omega⟩
      have read := first fuel (']' :: rest) (ends_cons (by simp)) (by omega)
      simp only [itemsText, List.append_assoc, List.singleton_append, readItems, read,
        skipSpace_cons (c := ']') rfl]
    | cons k items =>
      simp only [itemsText, List.length_append, List.length_cons] at enough
      obtain ⟨fuel, rfl⟩ : ∃ m, fuel = m + 1 := ⟨fuel - 1, by omega⟩
      have read := first fuel (',' :: (itemsText (k :: items) ++ rest)) (ends_cons (by simp)) (by omega)
      have tail := ih (by simp) others fuel (by omega)
      simp only [itemsText, List.append_assoc, List.cons_append, readItems, read,
        skipSpace_cons (c := ',') rfl, tail, Option.map_some]

theorem readsBack_array {items : List Json} (legible : ∀ j ∈ items, Legible j)
    (each : ∀ j ∈ items, ReadsBack j) : ReadsBack (.array items) := by
  refine .of_step (by simp [text]) fun fuel rest _ enough => ?_
  simp only [text, List.length_cons] at enough
  cases items with
  | nil => simp [text, itemsText, readValue, skipSpace, isSpace]
  | cons j items =>
    have read := readItems_itemsText (by simp) each fuel rest (by omega)
    obtain ⟨c, s, written, no_space, no_end⟩ := text_start (legible j (by simp))
    -- The reader looks for the end of an empty array first, so it has to see that an item starts.
    have start : ∃ s, itemsText (j :: items) ++ rest = c :: s := by
      cases items <;> exact ⟨_, by simp [itemsText, written]; rfl⟩
    obtain ⟨s, start⟩ := start
    rw [text, List.cons_append]
    rw [start] at read ⊢
    rw [readValue, skipSpace_cons (c := '[') rfl]
    simp only [skipSpace_cons no_space]
    split
    · rename_i eq
      exact absurd (List.cons.inj eq).1 no_end
    · rw [read]
      rfl

theorem readFields_fieldsText {fields : List (String × Json)} (filled : fields ≠ [])
    (each : ∀ f ∈ fields, ReadsBack f.2) (fuel : Nat) (rest : List Char)
    (enough : 2 * (fieldsText fields).length ≤ fuel) :
    readFields fuel (fieldsText fields ++ rest) = some (fields.map fun f => (some f.1, f.2), rest) := by
  induction fields generalizing fuel with
  | nil => exact absurd rfl filled
  | cons f fields ih =>
    obtain ⟨k, j⟩ := f
    have first : ReadsBack j := each (k, j) List.mem_cons_self
    have others := (List.forall_mem_cons.1 each).2
    cases fields with
    | nil =>
      simp only [fieldsText, List.length_append, List.length_cons, List.length_nil] at enough
      obtain ⟨fuel, rfl⟩ : ∃ m, fuel = m + 1 := ⟨fuel - 1, by omega⟩
      obtain ⟨t, written, name⟩ := readString_stringText k (':' :: (text j ++ '\x7d' :: rest))
      have read := first fuel ('\x7d' :: rest) (ends_cons (by simp)) (by omega)
      simp only [fieldsText, List.append_assoc, List.cons_append, List.nil_append, written, readFields,
        skipSpace_cons (c := '"') rfl, name, skipSpace_cons (c := ':') rfl, read,
        skipSpace_cons (c := '\x7d') rfl, List.map_cons, List.map_nil]
    | cons g fields =>
      simp only [fieldsText, List.length_append, List.length_cons] at enough
      obtain ⟨fuel, rfl⟩ : ∃ m, fuel = m + 1 := ⟨fuel - 1, by omega⟩
      obtain ⟨t, written, name⟩ :=
        readString_stringText k (':' :: (text j ++ ',' :: (fieldsText (g :: fields) ++ rest)))
      have read := first fuel (',' :: (fieldsText (g :: fields) ++ rest)) (ends_cons (by simp)) (by omega)
      have tail := ih (by simp) others fuel (by omega)
      simp only [fieldsText, List.append_assoc, List.cons_append, written, readFields,
        skipSpace_cons (c := '"') rfl, name, skipSpace_cons (c := ':') rfl, read,
        skipSpace_cons (c := ',') rfl, tail, Option.map_some, List.map_cons]

/-- A list is read item by item from what its items are written as. -/
theorem mapM_written {α β : Type} {f : β → Option α} {g : α → β} (each : ∀ a, f (g a) = some a)
    (l : List α) : (l.map g).mapM f = some l := by
  induction l with
  | nil => rfl
  | cons a l ih =>
    rw [List.map_cons, List.mapM_cons, each, ih]
    rfl

theorem objectOf_named (fields : List (String × Json)) :
    objectOf (fields.map fun f => (some f.1, f.2)) = .object fields := by
  rw [objectOf, mapM_written (f := fun f : Option String × Json => f.1.map fun k => (k, f.2))
    (g := fun f => (some f.1, f.2)) (fun _ => rfl)]

theorem readsBack_object {fields : List (String × Json)} (each : ∀ f ∈ fields, ReadsBack f.2) :
    ReadsBack (.object fields) := by
  refine .of_step (by simp [text]) fun fuel rest _ enough => ?_
  simp only [text, List.length_cons] at enough
  cases fields with
  | nil => simp [text, fieldsText, readValue, skipSpace, isSpace]
  | cons f fields =>
    have read := readFields_fieldsText (by simp) each fuel rest (by omega)
    have start : ∃ s, fieldsText (f :: fields) ++ rest = '"' :: s := by
      cases fields <;> exact ⟨_, by simp [fieldsText, stringText]; rfl⟩
    obtain ⟨s, start⟩ := start
    rw [text, List.cons_append]
    rw [start] at read ⊢
    rw [readValue, skipSpace_cons (c := '\x7b') rfl]
    simp only [skipSpace_cons (c := '"') rfl, read, Option.map_some, objectOf_named]
    rfl

theorem Legible.readsBack {j : Json} (h : Legible j) : ReadsBack j := by
  induction h with
  | null => exact readsBack_null
  | bool b => exact readsBack_bool b
  | number wellFormed => exact readsBack_number wellFormed
  | string s => exact readsBack_string s
  | array legible ih => exact readsBack_array legible ih
  | object _ ih => exact readsBack_object ih

/-- A value with a text is read from its text. -/
theorem read?_print {j : Json} (h : Legible j) : read? j.print = some j := by
  have read := h.readsBack (2 * (text j).length + 2) [] (by simp [Ends]) (by omega)
  rw [List.append_nil] at read
  rw [read?, print, String.toList_ofList, readChars?, read]
  rfl

end CachePartition.Json
