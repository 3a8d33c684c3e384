import Mathlib.Algebra.BigOperators.Group.Finset.Basic
import Mathlib.Data.List.Count
import Mathlib.Logic.Function.Basic

/-!
# Conservation of tokens over bounded rings

A pipeline moves **tokens** between places: bounded FIFO rings, arrays held by a
thread, a sink.  Conservation says that a token is in exactly one place, and it
is proved by counting: every move takes a token out of one place and puts it in
another, so the total count of each token is unchanged.

* `FifoRing` is the bounded FIFO; its bound is a field, so a ring over capacity
  cannot be built.  `enqueueBulk` is all-or-nothing, `dequeueBulk` too,
  `dequeueBurst` takes what there is.
* `tally` counts a token over a finite family of lists, and `tally_update` is
  the one fact used about it: replacing one member moves the total by exactly
  the difference of the two counts.
* `Reaches step guard s₀` is the set of states reached from `s₀` by steps that
  all meet `guard`; `Reaches.invariant` is its induction rule.
-/

namespace Conservation

/-! ## Bounded rings -/

/-- A FIFO ring holding at most `capacity` entries, oldest first. -/
structure FifoRing (α : Type*) where
  entries : List α
  capacity : ℕ
  bounded : entries.length ≤ capacity

namespace FifoRing

variable {α : Type*}

/-- A freshly created ring. -/
def create (capacity : ℕ) : FifoRing α := ⟨[], capacity, Nat.zero_le _⟩

/-- Room for `n` more entries. -/
def HasRoom (r : FifoRing α) (n : ℕ) : Prop := r.entries.length + n ≤ r.capacity

instance (r : FifoRing α) (n : ℕ) : Decidable (r.HasRoom n) :=
  inferInstanceAs (Decidable (_ ≤ _))

/-- Append all of `xs`, or nothing when they do not fit; the second component is
the number appended. -/
def enqueueBulk (r : FifoRing α) (xs : List α) : FifoRing α × ℕ :=
  if h : r.HasRoom xs.length then
    (⟨r.entries ++ xs, r.capacity, by simpa [HasRoom] using h⟩, xs.length)
  else (r, 0)

/-- Take up to `n` entries off the front. -/
def dequeueBurst (r : FifoRing α) (n : ℕ) : FifoRing α × List α :=
  (⟨r.entries.drop n, r.capacity, (by simp : _ ≤ r.entries.length).trans r.bounded⟩,
    r.entries.take n)

/-- Take exactly `n` entries off the front, or none when there are fewer. -/
def dequeueBulk (r : FifoRing α) (n : ℕ) : FifoRing α × List α :=
  if n ≤ r.entries.length then r.dequeueBurst n else (r, [])

@[simp] theorem entries_create (capacity : ℕ) : (create capacity : FifoRing α).entries = [] := rfl

theorem entries_enqueueBulk (r : FifoRing α) {xs : List α} (h : r.HasRoom xs.length) :
    (r.enqueueBulk xs).1.entries = r.entries ++ xs := by
  rw [enqueueBulk, dif_pos h]

/-- A burst splits the ring: what was taken followed by what is left. -/
theorem dequeueBurst_append (r : FifoRing α) (n : ℕ) :
    (r.dequeueBurst n).2 ++ (r.dequeueBurst n).1.entries = r.entries :=
  List.take_append_drop n r.entries

/-- …and so does a bulk dequeue, whether it takes `n` entries or none. -/
theorem dequeueBulk_append (r : FifoRing α) (n : ℕ) :
    (r.dequeueBulk n).2 ++ (r.dequeueBulk n).1.entries = r.entries := by
  rw [dequeueBulk]
  split
  · exact r.dequeueBurst_append n
  · rfl

end FifoRing

/-! ## Counting over a family of places -/

section Tally

variable {α : Type*} [DecidableEq α]

/-- How often `a` occurs in the lists `f 0, …, f (n - 1)` together. -/
def tally (n : ℕ) (f : ℕ → List α) (a : α) : ℕ :=
  ∑ i ∈ Finset.range n, (f i).count a

@[simp] theorem tally_nil (n : ℕ) (a : α) : tally n (fun _ => []) a = 0 := by
  simp [tally]

/-- **Replacing one member of the family.**  Stated additively, so that it can be
used in both directions without a subtraction. -/
theorem tally_update {n k : ℕ} (hk : k < n) (f : ℕ → List α) (l : List α) (a : α) :
    tally n (Function.update f k l) a + (f k).count a = tally n f a + l.count a := by
  have hmem : k ∈ Finset.range n := Finset.mem_range.mpr hk
  -- the other members are what they were
  have hrest : ∑ i ∈ (Finset.range n).erase k, (Function.update f k l i).count a =
      ∑ i ∈ (Finset.range n).erase k, (f i).count a := by
    refine Finset.sum_congr rfl fun i hi => ?_
    rw [Function.update_of_ne (Finset.ne_of_mem_erase hi)]
  rw [tally, tally, ← Finset.add_sum_erase _ _ hmem, ← Finset.add_sum_erase _ _ hmem, hrest,
    Function.update_self]
  omega

/-- …when the lists are read off a family of places. -/
theorem tally_map_update {β : Type*} {n k : ℕ} (hk : k < n) (g : β → List α) (f : ℕ → β) (x : β)
    (a : α) :
    tally n (fun j => g (Function.update f k x j)) a + (g (f k)).count a =
      tally n (fun j => g (f j)) a + (g x).count a := by
  have hlists : (fun j => g (Function.update f k x j)) =
      Function.update (fun j => g (f j)) k (g x) := by
    funext j
    by_cases hj : j = k
    · subst hj
      rw [Function.update_self, Function.update_self]
    · rw [Function.update_of_ne hj, Function.update_of_ne hj]
  rw [hlists]
  exact tally_update hk (fun j => g (f j)) (g x) a

/-- A block of fresh numbers holds each of them once. -/
theorem count_range' (start n a : ℕ) :
    (List.range' start n).count a = if start ≤ a ∧ a < start + n then 1 else 0 := by
  split
  · rename_i hmem
    exact List.count_eq_one_of_mem List.nodup_range' (List.mem_range'_1.mpr hmem)
  · rename_i hmem
    exact List.count_eq_zero.mpr (mt List.mem_range'_1.mp hmem)

end Tally

/-! ## Runs whose steps all meet a guard -/

/-- The states reached from `s₀` by steps that each meet `guard` in the state
before the step. -/
inductive Reaches {S L : Type*} (step : S → L → S) (guard : S → L → Prop) (s₀ : S) : S → Prop
  | start : Reaches step guard s₀ s₀
  | next {s : S} (l : L) : Reaches step guard s₀ s → guard s l → Reaches step guard s₀ (step s l)

/-- **The invariant rule.**  What holds at the start and survives every guarded
step holds in every state reached. -/
theorem Reaches.invariant {S L : Type*} {step : S → L → S} {guard : S → L → Prop} {s₀ s : S}
    {I : S → Prop} (hreach : Reaches step guard s₀ s) (hstart : I s₀)
    (hstep : ∀ s l, I s → guard s l → I (step s l)) : I s := by
  induction hreach with
  | start => exact hstart
  | next l _ hguard ih => exact hstep _ l ih hguard

end Conservation
