/-
This file says how texts are trimmed and cut into pieces. Blanks around a text that has
none are what trimming removes; and a text is cut at a separator into the pieces that
it is made of, joined by the separator, if none of them holds one.
-/

import Mathlib.Data.List.Basic
import ScriptBridge.Text.Blank

namespace ScriptBridge.Text

/-! ### Blanks -/

/-- Blanks go as far as there are any. -/
theorem dropWhile_isBlank_append {before text : List Char}
    (blank : ∀ c ∈ before, isBlank c = true) (solid : ∀ c ∈ text.head?, isBlank c = false) :
    (before ++ text).dropWhile isBlank = text := by
  rw [List.dropWhile_append_of_pos blank]
  cases text with
  | nil => rfl
  | cons first rest => exact List.dropWhile_cons_of_neg (Bool.eq_false_iff.mp (solid first rfl))

/-- Blanks around a text that has none are removed. -/
theorem trim_surrounded {before text after : List Char} (some_ : text ≠ [])
    (leading : ∀ c ∈ before, isBlank c = true) (trailing : ∀ c ∈ after, isBlank c = true)
    (solid : ∀ c ∈ text, isBlank c = false) : trim (before ++ (text ++ after)) = text := by
  have started : (before ++ (text ++ after)).dropWhile isBlank = text ++ after := by
    refine dropWhile_isBlank_append leading fun c first => solid c ?_
    rw [List.head?_append_of_ne_nil _ some_] at first
    exact List.mem_of_mem_head? first
  have ended : (after.reverse ++ text.reverse).dropWhile isBlank = text.reverse :=
    dropWhile_isBlank_append (fun c member => trailing c (List.mem_reverse.mp member))
      fun c last => solid c (List.mem_reverse.mp (List.mem_of_mem_head? last))
  unfold trim trimEnd
  rw [started, List.reverse_append, ended, List.reverse_reverse]

/-! ### Pieces -/

variable {separator : Char} {text piece : List Char}

theorem pieces_eq_splitOn (separator : Char) (text : List Char) :
    pieces separator text = text.splitOn separator := by
  induction text with
  | nil => rfl
  | cons character rest inductionHypothesis =>
    rw [List.splitOn_eq_splitOnP, List.splitOnP_cons_eq_if_modifyHead,
      ← List.splitOn_eq_splitOnP, ← inductionHypothesis, pieces]
    by_cases separates : (character == separator) = true
    · rw [if_pos separates, if_pos separates]
    · have some : pieces separator rest ≠ [] :=
        inductionHypothesis ▸ List.splitOn_ne_nil separator rest
      obtain ⟨first, others, parted⟩ := List.exists_cons_of_ne_nil some
      rw [if_neg separates, if_neg separates, parted]
      rfl

/-- Pieces joined by the separator that they are free of are the pieces of what they make. -/
theorem pieces_intercalate {parts : List (List Char)} (some : parts ≠ [])
    (free : ∀ part ∈ parts, separator ∉ part) :
    pieces separator ([separator].intercalate parts) = parts := by
  rw [pieces_eq_splitOn, List.splitOn_intercalate separator free some]

theorem not_mem_of_mem_pieces (member : piece ∈ pieces separator text) : separator ∉ piece := by
  induction text generalizing piece with
  | nil =>
    rw [List.mem_singleton.mp member]
    exact List.not_mem_nil
  | cons character rest inductionHypothesis =>
    rw [pieces] at member
    by_cases separates : (character == separator) = true
    · rw [if_pos separates, List.mem_cons] at member
      obtain rfl | later := member
      · exact List.not_mem_nil
      · exact inductionHypothesis later
    · have different : separator ≠ character := fun same => separates (by simp [same])
      rw [if_neg separates] at member
      rcases parted : pieces separator rest with _ | ⟨first, others⟩
      · rw [parted, List.mem_singleton] at member
        simp [member, different]
      · rw [parted] at member inductionHypothesis
        obtain rfl | later := List.mem_cons.mp member
        · simp [different, inductionHypothesis List.mem_cons_self]
        · exact inductionHypothesis (List.mem_cons_of_mem _ later)

/-- A text is its pieces joined by the separator. -/
theorem intercalate_pieces (separator : Char) (text : List Char) :
    [separator].intercalate (pieces separator text) = text := by
  rw [pieces_eq_splitOn, List.intercalate_splitOn]

end ScriptBridge.Text
