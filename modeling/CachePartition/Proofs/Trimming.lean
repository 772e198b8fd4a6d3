import CachePartition.Text.Blank
import Mathlib.Data.List.TakeWhile

/-! What trimming leaves of a text: the part between the blanks at its ends, which is the only part of the text
with blanks and nothing else around it that has no blank at an end of its own. -/
namespace CachePartition.Text

/-- A text consists of another one with blanks around it, and the other one has no blank at its ends. -/
structure Stripped (s t : List Char) : Prop where
  framed : ∃ a b : List Char, s = a ++ t ++ b ∧ (∀ c ∈ a, isBlank c = true) ∧ ∀ c ∈ b, isBlank c = true
  start : ∀ c ∈ t.head?, isBlank c = false
  finish : ∀ c ∈ t.getLast?, isBlank c = false

section Trimming

variable {s t : List Char}

/-- Blanks in front of a text that does not start with one are what is dropped from the front. -/
theorem dropWhile_blank_append {a : List Char} (blank : ∀ c ∈ a, isBlank c = true)
    (start : ∀ c ∈ t.head?, isBlank c = false) : (a ++ t).dropWhile isBlank = t := by
  rw [List.dropWhile_append_of_pos blank]
  cases t with
  | nil => rfl
  | cons c t =>
    apply List.dropWhile_cons_of_neg
    simp [start c rfl]

theorem trimEnd_eq_self (finish : ∀ c ∈ t.getLast?, isBlank c = false) : trimEnd t = t := by
  have kept : t.reverse.dropWhile isBlank = t.reverse := by
    apply dropWhile_blank_append (a := []) (by simp)
    simpa [List.head?_reverse] using finish
  rw [trimEnd, kept, List.reverse_reverse]

theorem Stripped.trimBlanks_eq (h : Stripped s t) : trimBlanks s = t := by
  obtain ⟨a, b, rfl, before, after⟩ := h.framed
  cases t with
  | nil =>
    have blank : ∀ c ∈ a ++ [] ++ b, isBlank c = true := by
      intro c hc
      rw [List.append_nil] at hc
      exact (List.mem_append.mp hc).elim (before c) (after c)
    rw [trimBlanks, List.dropWhile_eq_nil_iff.mpr blank]
    rfl
  | cons c t =>
    have front : (a ++ (c :: t) ++ b).dropWhile isBlank = c :: t ++ b := by
      rw [List.append_assoc]
      apply dropWhile_blank_append before
      exact h.start
    rw [trimBlanks, front, trimEnd_append_blank after]
    exact trimEnd_eq_self h.finish

/-- What trimming leaves has no blank at its ends. -/
theorem stripped_trimBlanks (s : List Char) : Stripped s (trimBlanks s) := by
  have ends (l : List Char) : ∀ c ∈ (l.dropWhile isBlank).head?, isBlank c = false := by
    intro c hc
    have stop := List.head?_dropWhile_not isBlank l
    rw [Option.mem_def.mp hc] at stop
    simpa using stop
  refine ⟨?_, ?_, ?_⟩
  · obtain ⟨a, b, split, before, after⟩ := trimBlanks_split s
    exact ⟨a, b, split, before, after⟩
  · -- The trimmed text starts as the text that is cut at its end, unless nothing is left.
    intro c hc
    have front : trimBlanks s <+: s.dropWhile isBlank := by
      have suffix := List.dropWhile_suffix isBlank (l := (s.dropWhile isBlank).reverse)
      simpa [trimBlanks, trimEnd] using List.reverse_prefix.mpr suffix
    obtain ⟨rest, whole⟩ := front
    apply ends s c
    rw [← whole, Option.mem_def, List.head?_append, Option.mem_def.mp hc]
    rfl
  · intro c hc
    rw [trimBlanks, trimEnd, List.getLast?_reverse] at hc
    exact ends _ c hc

theorem stripped_iff : Stripped s t ↔ trimBlanks s = t := by
  constructor
  · exact Stripped.trimBlanks_eq
  · intro trimmed
    rw [← trimmed]
    exact stripped_trimBlanks s

end Trimming

end CachePartition.Text
