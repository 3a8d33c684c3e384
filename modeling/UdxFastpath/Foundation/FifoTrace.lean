import UdxFastpath.Foundation.Conservation

/-!
# What has passed through a ring

A ring forgets what was taken off it.  A **passage** remembers: it is the list of all
that was ever put on the ring and the list of all that was ever taken off it, both in
order.  It is written by an observer who sees the ring before and after each move and
nothing else.

If the ring only ever has something put behind the rest or taken off the front
(`FifoRing.Moves`), then what was put on it is at every moment what was taken off it
followed by what is on it (`Passage.Follows.observe`): the ring is a queue.
-/

namespace Conservation

variable {α : Type*}

/-- From one state of a ring to the next: something is put behind the rest, or something is
taken off the front. -/
inductive FifoRing.Moves (r r' : FifoRing α) : Prop
  | put (xs : List α) (h : r'.entries = r.entries ++ xs)
  | take (xs : List α) (h : r.entries = xs ++ r'.entries)

theorem FifoRing.Moves.refl (r : FifoRing α) : r.Moves r := .put [] (List.append_nil _).symm

/-- All that was put on a ring and all that was taken off it. -/
structure Passage (α : Type*) where
  entered : List α
  left : List α

namespace Passage

/-- Nothing yet. -/
def start : Passage α := ⟨[], []⟩

/-- What an observer adds who sees the ring before and after a move. -/
def observe (pa : Passage α) (r r' : FifoRing α) : Passage α where
  entered := pa.entered ++ r'.entries.drop r.entries.length
  left := pa.left ++ r.entries.take (r.entries.length - r'.entries.length)

/-- What is on the ring is what has not been taken off. -/
def Follows (pa : Passage α) (r : FifoRing α) : Prop := pa.entered = pa.left ++ r.entries

section Observe

variable {pa : Passage α} {r r' : FifoRing α} {xs : List α}

theorem observe_of_put (h : r'.entries = r.entries ++ xs) :
    pa.observe r r' = ⟨pa.entered ++ xs, pa.left⟩ := by
  simp [observe, h]

theorem observe_of_take (h : r.entries = xs ++ r'.entries) :
    pa.observe r r' = ⟨pa.entered, pa.left ++ xs⟩ := by
  simp [observe, h]

@[simp] theorem observe_self (pa : Passage α) (r : FifoRing α) : pa.observe r r = pa := by
  have hsame : r.entries = r.entries ++ [] := (List.append_nil _).symm
  rw [observe_of_put hsame, List.append_nil]

/-- **The ring is a queue**, as far as its moves are. -/
theorem Follows.observe (h : pa.Follows r) (hmoves : r.Moves r') :
    (pa.observe r r').Follows r' := by
  unfold Follows at h ⊢
  cases hmoves with
  | put xs hput => rw [observe_of_put hput, hput, h, List.append_assoc]
  | take xs htake => rw [observe_of_take htake, h, htake, List.append_assoc]

theorem follows_start (capacity : ℕ) : (start : Passage α).Follows (FifoRing.create capacity) := rfl

/-- What was taken off was put on before. -/
theorem Follows.left_sublist (h : pa.Follows r) : pa.left.Sublist pa.entered := by
  rw [h]
  exact List.sublist_append_left _ _

end Observe

end Passage

end Conservation
