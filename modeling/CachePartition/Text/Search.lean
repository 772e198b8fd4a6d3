/-! Looking for one text inside another. -/
namespace CachePartition.Text

def startsWith (s start : List Char) : Bool :=
  start.isPrefixOf s

def endsWith (s ending : List Char) : Bool :=
  ending.isSuffixOf s

/-- The texts before and after the first occurrence of `sep`. -/
def splitOnce? (sep : List Char) : List Char → Option (List Char × List Char)
  | [] => if sep.isEmpty then some ([], []) else none
  | c :: rest =>
    if sep.isPrefixOf (c :: rest) then some ([], (c :: rest).drop sep.length)
    else (splitOnce? sep rest).map fun p => (c :: p.1, p.2)

def occursIn (sep s : List Char) : Bool :=
  (splitOnce? sep s).isSome

/-- Drops `start` from the front of the text, if the text starts with it. -/
def stripStart? (start s : List Char) : Option (List Char) :=
  if start.isPrefixOf s then some (s.drop start.length) else none

/-- Drops `ending` from the end of the text, if the text ends with it. -/
def stripEnd? (ending s : List Char) : Option (List Char) :=
  if ending.isSuffixOf s then some (s.take (s.length - ending.length)) else none

/-- The texts with `sep` between neighbours. -/
def join (sep : String) : List String → String
  | [] => ""
  | [s] => s
  | s :: rest => s ++ sep ++ join sep rest

theorem append_of_splitOnce? {sep s a b : List Char} (h : splitOnce? sep s = some (a, b)) :
    s = a ++ sep ++ b := by
  induction s generalizing a b with
  | nil =>
    simp only [splitOnce?] at h
    split at h <;> simp_all
  | cons c rest ih =>
    simp only [splitOnce?] at h
    split at h
    · next hp =>
      obtain ⟨t, ht⟩ := List.isPrefixOf_iff_prefix.mp hp
      simp only [Option.some.injEq, Prod.mk.injEq] at h
      obtain ⟨rfl, rfl⟩ := h
      simp [← ht]
    · obtain ⟨p, hp, hpq⟩ := Option.map_eq_some_iff.mp h
      simp only [Prod.mk.injEq] at hpq
      obtain ⟨rfl, rfl⟩ := hpq
      simp [ih hp]

theorem splitOnce?_isSome_of_infix {sep s : List Char} (h : sep <:+: s) :
    (splitOnce? sep s).isSome = true := by
  induction s with
  | nil => simp_all [splitOnce?]
  | cons c rest ih =>
    simp only [splitOnce?]
    split
    · rfl
    · next hp =>
      rcases List.infix_cons_iff.mp h with hpre | hinf
      · exact absurd (List.isPrefixOf_iff_prefix.mpr hpre) hp
      · simpa using ih hinf

theorem occursIn_iff_infix {sep s : List Char} : occursIn sep s = true ↔ sep <:+: s := by
  constructor
  · intro h
    obtain ⟨p, hp⟩ := Option.isSome_iff_exists.mp h
    exact ⟨p.1, p.2, (append_of_splitOnce? hp).symm⟩
  · exact splitOnce?_isSome_of_infix

end CachePartition.Text
