import Mathlib.Data.List.Basic

/-!
# Words

The **words** of a text are what lies between its separators, without the empty pieces:
what a stream reads from it one by one.  A separator cuts the words of a text in two
(`words_append_cons`), so that the words of parts put together with separators behind
them are those of the parts (`words_spaced`).
-/

namespace Words

variable {α : Type*} (sep : α → Bool)

/-- The words of a text. -/
def words (text : List α) : List (List α) :=
  (text.splitOnP sep).filter fun w => !w.isEmpty

/-- The parts with a separator behind each. -/
def spaced (c : α) (parts : List (List α)) : List α := parts.flatMap (· ++ [c])

theorem words_append_cons (text rest : List α) {c : α} (hc : sep c = true) :
    words sep (text ++ c :: rest) = words sep text ++ words sep rest := by
  rw [words, List.splitOnP_append_cons text rest hc, List.filter_append]
  rfl

/-- A text without separators is a word. -/
theorem words_of_any_eq_false {text : List α} (hne : text ≠ []) (h : text.any sep = false) :
    words sep text = [text] := by
  have hnone : ∀ x ∈ text, sep x = false := fun x hx => by simpa using List.any_eq_false.mp h x hx
  rw [words, List.splitOnP_eq_singleton hnone, List.filter_cons_of_pos (by simpa using hne),
    List.filter_nil]

/-- The words of spaced parts are those of the parts. -/
theorem words_spaced {c : α} (hc : sep c = true) (parts : List (List α)) :
    words sep (spaced c parts) = parts.flatMap (words sep) := by
  induction parts with
  | nil => simp [words, spaced]
  | cons part rest ih =>
      rw [spaced, List.flatMap_cons, List.append_assoc, List.singleton_append,
        words_append_cons sep part _ hc, List.flatMap_cons, ← ih, spaced]

end Words
