import CachePartition.Proofs.AddressTexts
import CachePartition.Proofs.ByteOrder
import CachePartition.Url.Reader
import Mathlib.Data.List.TakeWhile

/-! Paths of URLs. A path that was read holds only characters that stand for themselves and leads nowhere else by
dots; a path of that kind is read as it is. -/
namespace CachePartition.Url

open Text

/-- Characters that stand for themselves in a path. -/
def isPathChar (c : Char) : Bool := 0x20 < c.toNat && c.toNat < 0x7f && !pathReserved c && c ≠ '\\'

/-- Whether a segment leads elsewhere. -/
def isDots (s : List Char) : Bool := isDot s || isDoubleDot s

/-- A path that stands for itself below the directory it is in. -/
structure Plain (s : List Char) : Prop where
  chars : ∀ c ∈ s, isPathChar c = true
  segments : ∀ p ∈ splitAt '/' s, isDots p = false

instance (s : List Char) : Decidable (Plain s) :=
  decidable_of_iff (s.all isPathChar = true ∧ (splitAt '/' s).all (fun p => !isDots p) = true) (by
    simp only [List.all_eq_true, Bool.not_eq_true']
    exact ⟨fun h => ⟨h.1, h.2⟩, fun h => ⟨h.chars, h.segments⟩⟩)

section Segments

variable {sep : Char} {s t p : List Char}

theorem splitAt_cons (sep c : Char) (s : List Char) : ∃ p ps, splitAt sep s = p :: ps ∧
    splitAt sep (c :: s) = if c = sep then [] :: p :: ps else (c :: p) :: ps := by
  obtain ⟨p, ps, parts⟩ := List.exists_cons_of_ne_nil (splitAt_ne_nil sep s)
  refine ⟨p, ps, parts, ?_⟩
  rw [splitAt] at parts
  rw [splitAt, List.foldr_cons, parts]

theorem splitAt_sep (s t : List Char) : splitAt sep (s ++ sep :: t) = splitAt sep s ++ splitAt sep t := by
  induction s with
  | nil => simp [splitAt]
  | cons c s ih =>
    obtain ⟨p, ps, parts, first⟩ := splitAt_cons sep c s
    obtain ⟨p', ps', parts', first'⟩ := splitAt_cons sep c (s ++ sep :: t)
    rw [ih, parts, List.cons_append, List.cons.injEq] at parts'
    obtain ⟨rfl, rfl⟩ := parts'
    rw [List.cons_append, first', first]
    split <;> rfl

/-- Segments hold no separator, and no character that is not in the text. -/
theorem mem_of_mem_splitAt (segment : p ∈ splitAt sep s) : ∀ c ∈ p, c ≠ sep ∧ c ∈ s := by
  induction s generalizing p with
  | nil =>
    obtain rfl := List.mem_singleton.mp segment
    exact fun c mem => nomatch mem
  | cons d s ih =>
    obtain ⟨q, qs, parts, first⟩ := splitAt_cons sep d s
    rw [parts] at ih
    have later : p ∈ q :: qs → ∀ c ∈ p, c ≠ sep ∧ c ∈ d :: s := fun member c mem =>
      ⟨(ih member c mem).1, List.mem_cons_of_mem _ (ih member c mem).2⟩
    rw [first] at segment
    split at segment
    · rcases List.mem_cons.mp segment with rfl | member
      · exact fun c mem => nomatch mem
      · exact later member
    · next other =>
      rcases List.mem_cons.mp segment with rfl | member
      · intro c mem
        rcases List.mem_cons.mp mem with rfl | mem
        · exact ⟨other, List.mem_cons_self⟩
        · exact ⟨(ih List.mem_cons_self c mem).1, List.mem_cons_of_mem _ (ih List.mem_cons_self c mem).2⟩
      · exact later (List.mem_cons_of_mem _ member)

/-- The segments, each behind a separator, make up the text behind one. -/
theorem flatMap_splitAt (s : List Char) : (splitAt sep s).flatMap (sep :: ·) = sep :: s := by
  induction s with
  | nil => rfl
  | cons c s ih =>
    obtain ⟨p, ps, parts, first⟩ := splitAt_cons sep c s
    rw [parts, List.flatMap_cons, List.cons_append, List.cons.injEq] at ih
    rw [first]
    split
    · next same =>
      rw [List.flatMap_cons, List.flatMap_cons, List.cons_append, List.cons_append, List.nil_append, ih.2, same]
    · rw [List.flatMap_cons, List.cons_append, List.cons_append, ih.2]

/-- Segments with separators between them are told apart again. -/
theorem splitAt_flatMap {ps : List (List Char)} (first : sep ∉ p) (whole : ∀ q ∈ ps, sep ∉ q) :
    splitAt sep (p ++ ps.flatMap (sep :: ·)) = p :: ps := by
  induction ps generalizing p with
  | nil => rw [List.flatMap_nil, List.append_nil, splitAt_of_not_mem first]
  | cons q ps ih =>
    obtain ⟨next, others⟩ := List.forall_mem_cons.mp whole
    rw [List.flatMap_cons, List.cons_append, splitAt_append first, ih next others]

end Segments

section Encoding

variable {c : Char} {s w : List Char}

theorem isPathChar_iff : isPathChar c = true ↔
    0x20 < c.toNat ∧ c.toNat < 0x7f ∧ pathReserved c = false ∧ c ≠ '\\' := by
  simp [isPathChar, and_assoc]

/-- A character is encoded as such or byte by byte. -/
theorem encodeChar_cases (c : Char) :
    (encodeChar pathReserved c = [c] ∧ (c ≠ '\\' → isPathChar c = true)) ∨
    (encodeChar pathReserved c = (utf8Bytes [c]).flatMap encodeByte ∧ c ≠ '.') := by
  unfold encodeChar
  split
  · next reserved =>
    refine .inr ⟨rfl, ?_⟩
    rintro rfl
    exact absurd reserved (by decide)
  · next kept =>
    simp only [Bool.or_eq_true, decide_eq_true_eq, not_or, Nat.not_lt, Bool.not_eq_true] at kept
    obtain ⟨⟨high, low⟩, free⟩ := kept
    refine .inl ⟨rfl, fun other => ?_⟩
    have no_blank : c.toNat ≠ 0x20 := by
      intro blank
      rw [← Char.ofNat_toNat c, blank] at free
      exact absurd free (by decide)
    exact isPathChar_iff.mpr ⟨by omega, by omega, free, other⟩

theorem encodeChar_eq_self (h : isPathChar c = true) : encodeChar pathReserved c = [c] := by
  obtain ⟨low, high, free, -⟩ := isPathChar_iff.mp h
  unfold encodeChar
  rw [if_neg]
  simp only [Bool.or_eq_true, decide_eq_true_eq, not_or, Nat.not_lt, Bool.not_eq_true]
  exact ⟨⟨by omega, by omega⟩, free⟩

theorem encode_eq_self (h : ∀ c ∈ s, isPathChar c = true) : encode pathReserved s = s := by
  induction s with
  | nil => rfl
  | cons c s ih =>
    obtain ⟨first, others⟩ := List.forall_mem_cons.mp h
    rw [encode, List.flatMap_cons, encodeChar_eq_self first]
    exact congrArg (c :: ·) (ih others)

/-- What stands for a byte is plain, and a point only for its own byte. -/
theorem encodeByte_spec (b : UInt8) : ∃ x y, encodeByte b = ['%', x, y] ∧
    (isPathChar x = true ∧ x ≠ '/') ∧ (isPathChar y = true ∧ y ≠ '/') ∧
    (x.toLower = '2' → y.toLower = 'e' → b = 0x2e) := by
  have digit : ∀ n < 16, (isPathChar (upperHex n) = true ∧ upperHex n ≠ '/') ∧
      ((upperHex n).toLower = '2' → n = 2) ∧ ((upperHex n).toLower = 'e' → n = 14) := by
    decide +kernel
  have bound : b.toNat < 256 := b.toNat_lt
  obtain ⟨high, two, -⟩ := digit (b.toNat / 16) (by omega)
  obtain ⟨low, -, fourteen⟩ := digit (b.toNat % 16) (by omega)
  refine ⟨_, _, rfl, high, low, fun isTwo isE => UInt8.toNat_inj.mp ?_⟩
  have first := two isTwo
  have second := fourteen isE
  show b.toNat = 46
  omega

/-- The first byte of a character other than a point is none of a point. -/
theorem utf8Bytes_first (c : Char) : ∃ b bs, utf8Bytes [c] = b :: bs ∧ (b = 0x2e → c = '.') := by
  obtain ⟨b, bs, bytes⟩ := List.exists_cons_of_ne_nil (String.utf8EncodeChar_ne_nil (c := c))
  refine ⟨b, bs, by rw [utf8Bytes_cons, bytes]; simp [utf8Bytes], ?_⟩
  rintro rfl
  have byte {k : Nat} (same : UInt8.ofNat k = 0x2e) : k % 256 = 46 := by
    rw [← UInt8.toNat_ofNat', same]
    rfl
  unfold String.utf8EncodeChar at bytes
  dsimp only at bytes
  split at bytes
  · have value := byte (List.cons.inj bytes).1
    have point : c.toNat = 46 := by
      show c.val.toNat = 46
      omega
    rw [← Char.ofNat_toNat c, point]
  · -- The leading byte of a longer encoding is above all of ASCII.
    split at bytes
    · have value := byte (List.cons.inj bytes).1
      omega
    · split at bytes
      · have value := byte (List.cons.inj bytes).1
        omega
      · have value := byte (List.cons.inj bytes).1
        omega

/-- What a character other than a point is encoded as starts no escape of a point. -/
theorem encodeChar_start (c : Char) :
    (encodeChar pathReserved c = [c]) ∨
    ∃ x y rest, encodeChar pathReserved c = '%' :: x :: y :: rest ∧ ¬ (x.toLower = '2' ∧ y.toLower = 'e') := by
  rcases encodeChar_cases c with ⟨kept, -⟩ | ⟨encoded, other⟩
  · exact .inl kept
  · obtain ⟨b, bs, bytes, point⟩ := utf8Bytes_first c
    obtain ⟨x, y, digits, -, -, onlyPoint⟩ := encodeByte_spec b
    refine .inr ⟨x, y, bs.flatMap encodeByte, by rw [encoded, bytes, List.flatMap_cons, digits]; rfl, ?_⟩
    rintro ⟨two, e⟩
    exact other (point (onlyPoint two e))

/-- Characters of an encoded text stand for themselves, and are slashes only if there were any. -/
theorem mem_encode {d : Char} (solid : ∀ c ∈ s, c ≠ '/' ∧ c ≠ '\\') (mem : d ∈ encode pathReserved s) :
    isPathChar d = true ∧ d ≠ '/' := by
  obtain ⟨c, member, mem⟩ := List.mem_flatMap.mp mem
  obtain ⟨no_slash, no_backslash⟩ := solid c member
  rcases encodeChar_cases c with ⟨kept, plain⟩ | ⟨encoded, -⟩
  · rw [kept, List.mem_singleton] at mem
    exact mem ▸ ⟨plain no_backslash, no_slash⟩
  · rw [encoded] at mem
    obtain ⟨b, -, mem⟩ := List.mem_flatMap.mp mem
    obtain ⟨x, y, digits, high, low, -⟩ := encodeByte_spec b
    rw [digits, List.mem_cons, List.mem_cons, List.mem_singleton] at mem
    rcases mem with rfl | rfl | rfl
    · decide
    · exact high
    · exact low

/-- A text is empty, or its first character is encoded as such, or with an escape that is none of a point. -/
theorem encode_cases (s : List Char) : s = [] ∨
    (∃ c t, s = c :: t ∧ encode pathReserved s = c :: encode pathReserved t) ∨
    ∃ x y rest, encode pathReserved s = '%' :: x :: y :: rest ∧ ¬ (x.toLower = '2' ∧ y.toLower = 'e') := by
  cases s with
  | nil => exact .inl rfl
  | cons c t =>
    rw [encode, List.flatMap_cons]
    rcases encodeChar_start c with kept | ⟨x, y, rest, encoded, no_point⟩
    · exact .inr (.inl ⟨c, t, rfl, by rw [kept]; rfl⟩)
    · exact .inr (.inr ⟨x, y, _, by rw [encoded]; rfl, no_point⟩)

def lowered (s : List Char) : List Char := s.map Char.toLower

theorem lowered_append (s t : List Char) : lowered (s ++ t) = lowered s ++ lowered t := List.map_append

/-- A point and its escape. -/
def points : List (List Char) := [['.'], ['%', '2', 'e']]

theorem isDot_iff : isDot s = true ↔ lowered s ∈ points := decide_eq_true_iff

theorem isDoubleDot_iff : isDoubleDot s = true ↔ ∃ u ∈ points, ∃ v ∈ points, lowered s = u ++ v := by
  rw [isDoubleDot, decide_eq_true_iff, ← lowered]
  simp [points, or_assoc]

/-- A first character that starts no escape was there before. -/
theorem lowered_encode_cons {d : Char} (plain : d ≠ '%') (start : lowered (encode pathReserved s) = d :: w) :
    ∃ c t, s = c :: t ∧ c.toLower = d ∧ lowered (encode pathReserved t) = w := by
  rcases encode_cases s with rfl | ⟨c, t, rfl, kept⟩ | ⟨x, y, rest, encoded, -⟩
  · cases start
  · rw [kept] at start
    obtain ⟨first, others⟩ := List.cons.inj start
    exact ⟨c, t, rfl, first, others⟩
  · rw [encoded] at start
    exact absurd (List.cons.inj start).1.symm plain

/-- A point, or an escape of one, is encoded as itself and nothing else is. -/
theorem lowered_encode_point {u : List Char} (point : u ∈ points)
    (start : lowered (encode pathReserved s) = u ++ w) :
    ∃ l t, s = l ++ t ∧ lowered l = u ∧ lowered (encode pathReserved t) = w := by
  simp only [points, List.mem_cons, List.not_mem_nil, or_false] at point
  rcases point with rfl | rfl
  · obtain ⟨c, t, rfl, same, rest⟩ := lowered_encode_cons (by decide) start
    exact ⟨[c], t, rfl, congrArg (List.cons · []) same, rest⟩
  · rcases encode_cases s with rfl | ⟨c, t, rfl, kept⟩ | ⟨x, y, rest, encoded, no_point⟩
    · cases start
    · -- A percent sign is encoded as such, and so is what has to follow it.
      rw [kept] at start
      obtain ⟨first, others⟩ := List.cons.inj start
      obtain ⟨c₂, t, rfl, second, others⟩ := lowered_encode_cons (by decide) others
      obtain ⟨c₃, t, rfl, third, others⟩ := lowered_encode_cons (by decide) others
      refine ⟨[c, c₂, c₃], t, rfl, ?_, others⟩
      simp [lowered, first, second, third]
    · rw [encoded] at start
      obtain ⟨-, start⟩ := List.cons.inj start
      obtain ⟨two, start⟩ := List.cons.inj start
      exact absurd ⟨two, (List.cons.inj start).1⟩ no_point

theorem eq_nil_of_lowered_encode (h : lowered (encode pathReserved s) = []) : s = [] := by
  rcases encode_cases s with rfl | ⟨c, t, rfl, kept⟩ | ⟨x, y, rest, encoded, -⟩
  · rfl
  · rw [kept] at h
    cases h
  · rw [encoded] at h
    cases h

theorem isDot_of_encode (dot : isDot (encode pathReserved s) = true) : isDot s = true := by
  have point := isDot_iff.mp dot
  obtain ⟨l, t, rfl, same, rest⟩ := lowered_encode_point point (List.append_nil _).symm
  obtain rfl := eq_nil_of_lowered_encode rest
  rw [isDot_iff, List.append_nil, same]
  exact point

theorem isDoubleDot_of_encode (dots : isDoubleDot (encode pathReserved s) = true) : isDoubleDot s = true := by
  obtain ⟨u, first, v, second, same⟩ := isDoubleDot_iff.mp dots
  obtain ⟨l, t, rfl, one, rest⟩ := lowered_encode_point first same
  rw [← List.append_nil v] at rest
  obtain ⟨l', t', rfl, two, rest⟩ := lowered_encode_point second rest
  obtain rfl := eq_nil_of_lowered_encode rest
  rw [isDoubleDot_iff]
  exact ⟨u, first, v, second, by rw [List.append_nil, lowered_append, one, two]⟩

/-- Encoding makes no dot segment. -/
theorem isDots_encode (h : isDots s = false) : isDots (encode pathReserved s) = false := by
  rw [isDots, Bool.or_eq_false_iff] at h ⊢
  constructor
  · by_contra dot
    rw [isDot_of_encode (eq_true_of_ne_false dot)] at h
    cases h.1
  · by_contra dots
    rw [isDoubleDot_of_encode (eq_true_of_ne_false dots)] at h
    cases h.2

end Encoding

section Paths

variable {s t dir : List Char} {done parts : List (List Char)}

theorem forall_pushSegment {P : List Char → Prop} (empty : P []) (before : ∀ p ∈ done, P p)
    (own : isDots s = false → P s) (isLast : Bool) : ∀ p ∈ pushSegment done s isLast, P p := by
  have left : ∀ p ∈ done.drop 1, P p := fun p member => before p (List.mem_of_mem_drop member)
  unfold pushSegment
  split
  · split
    · exact List.forall_mem_cons.mpr ⟨empty, left⟩
    · exact left
  · next noDoubleDot =>
    split
    · split
      · exact List.forall_mem_cons.mpr ⟨empty, before⟩
      · exact before
    · next noDot =>
      have plain : isDots s = false := by simp [isDots, noDot, noDoubleDot]
      exact List.forall_mem_cons.mpr ⟨own plain, before⟩

/-- What is left of a path comes from segments that lead nowhere else. -/
theorem forall_resolveSegments {P : List Char → Prop} (empty : P []) (before : ∀ p ∈ done, P p)
    (each : ∀ p ∈ parts, isDots p = false → P p) : ∀ p ∈ resolveSegments done parts, P p := by
  induction parts generalizing done with
  | nil => exact fun p member => before p (List.mem_reverse.mp member)
  | cons s rest ih =>
    obtain ⟨first, others⟩ := List.forall_mem_cons.mp each
    cases rest with
    | nil => exact fun p member => forall_pushSegment empty before first true p (List.mem_reverse.mp member)
    | cons s' rest => exact ih (forall_pushSegment empty before first false) others

theorem resolveSegments_plain (plain : ∀ p ∈ parts, isDots p = false) :
    resolveSegments done parts = done.reverse ++ parts := by
  induction parts generalizing done with
  | nil => simp [resolveSegments]
  | cons s rest ih =>
    obtain ⟨first, others⟩ := List.forall_mem_cons.mp plain
    have pushed (isLast : Bool) : pushSegment done s isLast = s :: done := by
      rw [isDots, Bool.or_eq_false_iff] at first
      simp [pushSegment, first]
    cases rest with
    | nil => rw [resolveSegments, pushed, List.reverse_cons]
    | cons s' rest =>
      show resolveSegments (pushSegment done s false) (s' :: rest) = done.reverse ++ s :: s' :: rest
      rw [pushed, ih others, List.reverse_cons, List.append_assoc, List.singleton_append]

theorem mem_segments {p : List Char} (segment : p ∈ segments .special s) : ∀ c ∈ p, c ≠ '/' ∧ c ≠ '\\' := by
  intro c mem
  obtain ⟨no_slash, mem⟩ := mem_of_mem_splitAt segment c mem
  obtain ⟨d, -, same⟩ := List.mem_map.mp mem
  refine ⟨no_slash, ?_⟩
  rintro rfl
  split at same
  · cases same
  · next kept =>
    subst same
    exact kept (by decide)

/-- A path consists of segments of plain characters that lead nowhere else. -/
theorem readPath_special (s : List Char) : ∃ parts : List (List Char),
    readPath .special s = parts.flatMap ('/' :: ·) ∧
      ∀ p ∈ parts, isDots p = false ∧ ∀ c ∈ p, isPathChar c = true ∧ c ≠ '/' := by
  cases s with
  | nil => exact ⟨[[]], rfl, by simp; decide⟩
  | cons c s =>
    refine ⟨(resolveSegments [] (segments .special (if isSlash .special c then s else c :: s))).map
      (encode pathReserved), by rw [List.flatMap_map]; rfl, ?_⟩
    refine List.forall_mem_map.mpr (forall_resolveSegments ?_ (fun _ member => nomatch member) ?_)
    · exact ⟨by decide, fun _ mem => nomatch mem⟩
    · intro p segment plain
      exact ⟨isDots_encode plain, fun d mem => mem_encode (mem_segments segment) mem⟩

/-- What a path holds below a directory is plain. -/
theorem plain_of_readPath (below : readPath .special s = dir ++ '/' :: t) : Plain t := by
  obtain ⟨parts, path, each⟩ := readPath_special s
  rw [below] at path
  constructor
  · intro c mem
    have inPath : c ∈ parts.flatMap ('/' :: ·) := path ▸ List.mem_append_right _ (List.mem_cons_of_mem _ mem)
    obtain ⟨p, member, mem⟩ := List.mem_flatMap.mp inPath
    rcases List.mem_cons.mp mem with rfl | mem
    · decide
    · exact ((each p member).2 c mem).1
  · intro p segment
    have whole : ∀ q ∈ parts, '/' ∉ q := fun q member mem => ((each q member).2 _ mem).2 rfl
    have cut : splitAt '/' ([] ++ parts.flatMap ('/' :: ·)) = [] :: parts := splitAt_flatMap List.not_mem_nil whole
    rw [List.nil_append, ← path, splitAt_sep] at cut
    have listed : p ∈ [] :: parts := cut ▸ List.mem_append_right _ segment
    rcases List.mem_cons.mp listed with rfl | member
    · decide
    · exact (each p member).1

theorem segments_plain (h : Plain s) : segments .special s = splitAt '/' s := by
  have unchanged : s.map (fun c => if isSlash .special c then '/' else c) = s := by
    refine (List.map_congr_left fun c mem => ?_).trans (List.map_id' s)
    split
    · next slash =>
      have no_backslash := (isPathChar_iff.mp (h.chars c mem)).2.2.2
      simpa [isSlash, no_backslash, eq_comm] using slash
    · rfl
  rw [segments, unchanged]

/-- A plain path is read as it is. -/
theorem readPath_plain (h : Plain s) : readPath .special ('/' :: s) = '/' :: s := by
  have kept : ∀ p ∈ splitAt '/' s, '/' :: encode pathReserved p = '/' :: p := by
    intro p segment
    rw [encode_eq_self fun c mem => h.chars c (mem_of_mem_splitAt segment c mem).2]
  show (resolveSegments [] (segments .special s)).flatMap (fun p => '/' :: encode pathReserved p) = '/' :: s
  rw [segments_plain h, resolveSegments_plain h.segments, List.reverse_nil, List.nil_append,
    List.flatMap_congr kept, flatMap_splitAt]

theorem Plain.append (before : Plain dir) (h : Plain t) : Plain (dir ++ '/' :: t) := by
  constructor
  · intro c mem
    rcases List.mem_append.mp mem with mem | mem
    · exact before.chars c mem
    · rcases List.mem_cons.mp mem with rfl | mem
      · decide
      · exact h.chars c mem
  · intro p segment
    rw [splitAt_sep] at segment
    rcases List.mem_append.mp segment with segment | segment
    · exact before.segments p segment
    · exact h.segments p segment

theorem exists_readTail (k : SchemeKind) (s : List Char) : ∃ s', (readTail k s).1 = readPath k s' := by
  refine ⟨(s.takeWhile (· ≠ '#')).takeWhile (· ≠ '?'), ?_⟩
  unfold readTail
  dsimp only
  split <;> rfl

/-- A fragment does not count. -/
theorem readTail_fragment {k : SchemeKind} (before : '#' ∉ s) (t : List Char) :
    readTail k (s ++ '#' :: t) = readTail k s := by
  have all : ∀ c ∈ s, decide (c ≠ '#') = true := by
    intro c mem
    rw [decide_eq_true_iff]
    rintro rfl
    exact before mem
  have cut : (s ++ '#' :: t).takeWhile (· ≠ '#') = s.takeWhile (· ≠ '#') := by
    rw [List.takeWhile_append_of_pos all, List.takeWhile_cons_of_neg (by decide), List.append_nil,
      List.takeWhile_eq_self_iff.mpr all]
  rw [readTail, readTail, cut]

theorem readTail_plain (h : Plain s) : readTail .special ('/' :: s) = ('/' :: s, none) := by
  have marks (mark : Char) (reserved : isPathChar mark = false) (other : mark ≠ '/') :
      ∀ c ∈ '/' :: s, decide (c ≠ mark) = true := by
    intro c mem
    rw [decide_eq_true_iff]
    rintro rfl
    rcases List.mem_cons.mp mem with same | mem
    · exact other same
    · rw [h.chars c mem] at reserved
      cases reserved
  have fragment := List.takeWhile_eq_self_iff.mpr (marks '#' (by decide) (by decide))
  have query := marks '?' (by decide) (by decide)
  rw [readTail, fragment, List.takeWhile_eq_self_iff.mpr query, List.dropWhile_eq_nil_iff.mpr query, readPath_plain h]

end Paths

end CachePartition.Url
