import BooksGateway.Text.Words
import Mathlib.Data.List.TakeWhile

/-!
# Splitting texts

What cutting and splitting give for texts that are put together from parts.

* `cut_of_not_mem`, `cut_append`: a text is cut at its first mark, if it has one;
* `pieces_eq_splitOnP`: the pieces of a text are those of the library;
* `words_append_blank`: a blank sets words apart, and is no part of them;
* `words_of_solid`: a text without blanks is one word.
-/

namespace BooksGateway.Text

/-! ## 1. Cutting at a mark -/

section Cut

variable {mark : Char} {cs : List Char}

theorem ne_of_mark_not_mem (h : mark ∉ cs) : ∀ c ∈ cs, (c != mark) = true :=
  fun _ hc => bne_iff_ne.mpr fun heq => h (heq ▸ hc)

/-- A text without a mark is not cut. -/
theorem cut_of_not_mem (h : mark ∉ cs) : cut mark cs = (cs, []) := by
  have hne := ne_of_mark_not_mem h
  rw [cut, List.takeWhile_eq_self_iff.mpr hne, List.dropWhile_eq_nil_iff.mpr hne, List.drop_nil]

/-- **A text is cut at its first mark**, and what comes after it may hold more of them. -/
theorem cut_append (h : mark ∉ cs) (rest : List Char) :
    cut mark (cs ++ mark :: rest) = (cs, rest) := by
  have hne := ne_of_mark_not_mem h
  rw [cut, List.takeWhile_append_of_pos hne, List.dropWhile_append_of_pos hne,
    List.takeWhile_cons_of_neg (by simp), List.dropWhile_cons_of_neg (by simp), List.append_nil]
  rfl

end Cut

/-! ## 2. Pieces -/

/-- The pieces of a text are what the library gives for a split. -/
theorem pieces_eq_splitOnP (p : Char → Bool) (cs : List Char) : pieces p cs = cs.splitOnP p := by
  induction cs with
  | nil => exact List.splitOnP_nil.symm
  | cons c rest ih =>
    rw [List.splitOnP_cons_eq_if_modifyHead, ← ih, pieces]
    cases hc : p c with
    | true => rfl
    | false =>
      cases hrest : pieces p rest with
      -- even an empty text is one piece
      | nil =>
        rw [ih] at hrest
        exact absurd hrest (List.splitOnP_ne_nil p rest)
      | cons piece found => rfl

/-! ## 3. Words -/

/-- **A blank sets words apart**, and is no part of them. -/
theorem words_append_blank {c : Char} (hc : isBlank c = true) (cs rest : List Char) :
    words (cs ++ c :: rest) = words cs ++ words rest := by
  unfold words
  rw [pieces_eq_splitOnP, List.splitOnP_append_cons cs rest hc, List.filter_append,
    ← pieces_eq_splitOnP, ← pieces_eq_splitOnP]

theorem words_cons_blank {c : Char} (hc : isBlank c = true) (rest : List Char) :
    words (c :: rest) = words rest :=
  words_append_blank hc [] rest

/-- A text without blanks is one word. -/
theorem words_of_solid {cs : List Char} (hne : cs ≠ []) (h : ∀ c ∈ cs, isBlank c = false) :
    words cs = [cs] := by
  rw [words, pieces_eq_splitOnP, List.splitOnP_eq_singleton h]
  cases cs with
  | nil => exact absurd rfl hne
  | cons c rest => rfl

end BooksGateway.Text
