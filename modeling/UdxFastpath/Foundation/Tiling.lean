import Mathlib.Algebra.BigOperators.Group.List.Basic
import Mathlib.Algebra.Order.Ring.Nat
import Mathlib.Data.List.Basic

/-!
# Pieces laid end to end

A **piece** is a start and a length.  Pieces are `Consecutive` between two ends when the
first starts at one end, every other where the one before it stops, and the last stops at
the other end.  Such pieces have no point in common (`Consecutive.pairwise`).

`lay` puts pieces down by moving a cursor, and the cursor may move by something other
than the length: `consecutive_lay_iff` says that the pieces then are consecutive exactly
when it moves by the length at every piece but the last.
-/

namespace Tiling

/-- The pieces lie end to end between `start` and `stop`. -/
def Consecutive : ℕ → List (ℕ × ℕ) → ℕ → Prop
  | start, [], stop => start = stop
  | start, p :: rest, stop => p.1 = start ∧ Consecutive (start + p.2) rest stop

/-- Put down pieces of the given lengths, moving the cursor by `advance`. -/
def lay (advance : ℕ → ℕ) : ℕ → List ℕ → List (ℕ × ℕ)
  | _, [] => []
  | start, n :: rest => (start, n) :: lay advance (start + advance n) rest

section Consecutive

variable {pieces : List (ℕ × ℕ)} {start stop : ℕ}

/-- No piece starts in front of the first end, and none stops behind the other. -/
theorem Consecutive.bounds (h : Consecutive start pieces stop) :
    start ≤ stop ∧ ∀ p ∈ pieces, start ≤ p.1 ∧ p.1 + p.2 ≤ stop := by
  induction pieces generalizing start with
  | nil => exact ⟨Nat.le_of_eq h, by simp⟩
  | cons p rest ih =>
      obtain ⟨hstart, hrest⟩ := h
      obtain ⟨hle, hbounds⟩ := ih hrest
      refine ⟨by omega, fun q hq => ?_⟩
      rcases List.mem_cons.mp hq with rfl | hq
      · omega
      · have hrange := hbounds q hq
        omega

/-- A later piece starts behind the end of an earlier one. -/
theorem Consecutive.pairwise (h : Consecutive start pieces stop) :
    pieces.Pairwise fun p q => p.1 + p.2 ≤ q.1 := by
  induction pieces generalizing start with
  | nil => exact .nil
  | cons p rest ih =>
      obtain ⟨hstart, hrest⟩ := h
      refine .cons (fun q hq => ?_) (ih hrest)
      have hrange := hrest.bounds.2 q hq
      omega

end Consecutive

/-- **The cursor must move by the length**, except behind the last piece, and the lengths must
add up. -/
theorem consecutive_lay_iff (advance : ℕ → ℕ) (lengths : List ℕ) (start stop : ℕ) :
    Consecutive start (lay advance start lengths) stop ↔
      (∀ n ∈ lengths.dropLast, advance n = n) ∧ start + lengths.sum = stop := by
  induction lengths generalizing start with
  | nil => simp [lay, Consecutive]
  | cons n rest ih =>
      cases rest with
      | nil => simp [lay, Consecutive]
      | cons m rest =>
          rw [List.dropLast_cons_of_ne_nil (List.cons_ne_nil m rest), List.forall_mem_cons,
            List.sum_cons, ← Nat.add_assoc]
          by_cases hadvance : advance n = n
          · have hrest := ih (start + n)
            rw [lay, hadvance, Consecutive]
            simp only [true_and, hrest]
          · -- the second piece is not where the first one stops
            refine iff_of_false ?_ fun h => hadvance h.1.1
            rintro ⟨-, hsecond, -⟩
            exact hadvance (Nat.add_left_cancel hsecond)

end Tiling
