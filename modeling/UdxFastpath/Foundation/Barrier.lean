import Mathlib.Algebra.BigOperators.Group.Finset.Basic
import Mathlib.Algebra.Order.BigOperators.Group.Finset
import Mathlib.Data.Finset.Card
import Mathlib.Logic.Function.Basic

/-!
# Barriers

A barrier counts arrivals: the one that makes its size full opens it for everybody who
has arrived since it last opened.  It does not know who arrives.

A **crowd** is a barrier with the parties in front of it, waiting at it and behind it.
When as many parties as the size of the barrier use it, each once (`Sound`), counting
is enough:

* `Sound.all_arrived`: nobody is behind the barrier before all have arrived;
* `Sound.mayPass`: when all have arrived, nobody has to wait any longer.

`Crowd.toGo` is how far the parties are from being behind the barrier, for arguments by
progress.
-/

namespace Barriers

universe u

/-! ## Counting -/

/-- A barrier: how many arrivals open it, how many there have been since it last opened, and how
often it has opened. -/
structure Barrier where
  size : ℕ
  count : ℕ
  generation : ℕ
  deriving DecidableEq, Repr

namespace Barrier

/-- Somebody arrives. -/
def arrive (b : Barrier) : Barrier :=
  if b.count + 1 = b.size then { b with count := 0, generation := b.generation + 1 }
  else { b with count := b.count + 1 }

@[simp] theorem size_arrive (b : Barrier) : b.arrive.size = b.size := by
  unfold arrive
  split <;> rfl

/-- One arrival more is counted. -/
theorem tally_arrive (b : Barrier) :
    b.arrive.generation * b.size + b.arrive.count = b.generation * b.size + b.count + 1 := by
  unfold arrive
  split
  · rename_i hfull
    show (b.generation + 1) * b.size + 0 = b.generation * b.size + b.count + 1
    rw [Nat.succ_mul, Nat.add_assoc, Nat.add_assoc, hfull, Nat.add_zero]
  · rfl

theorem short_arrive {b : Barrier} (h : b.count < b.size) : b.arrive.count < b.size := by
  unfold arrive
  split
  · exact Nat.lt_of_le_of_lt (Nat.zero_le _) h
  · show b.count + 1 < b.size
    omega

theorem generation_le_arrive (b : Barrier) : b.generation ≤ b.arrive.generation := by
  unfold arrive
  split
  · exact Nat.le_succ _
  · exact le_rfl

end Barrier

/-! ## Parties -/

/-- Where a party is.  One that waits has a ticket: how often the barrier had opened before. -/
inductive Visit
  | ahead
  | waiting (ticket : ℕ)
  | past
  deriving DecidableEq, Repr

/-- How far a party is from being behind the barrier. -/
def Visit.toGo : Visit → ℕ
  | .ahead => 2
  | .waiting _ => 1
  | .past => 0

/-- A barrier and its parties. -/
structure Crowd (ι : Type u) where
  barrier : Barrier
  visit : ι → Visit

namespace Crowd

variable {ι : Type u}

/-- A barrier of a size, and nobody has arrived. -/
def gather (ι : Type u) (size : ℕ) : Crowd ι := ⟨⟨size, 0, 0⟩, fun _ => .ahead⟩

/-- The barrier has opened since the party `i` arrived. -/
def mayPass (c : Crowd ι) (i : ι) : Bool :=
  match c.visit i with
  | .waiting ticket => decide (ticket < c.barrier.generation)
  | _ => false

/-- The parties that have arrived. -/
def arrived (c : Crowd ι) (parties : Finset ι) : Finset ι :=
  parties.filter fun i => c.visit i ≠ .ahead

/-- How far all parties are from being behind the barrier. -/
def toGo (c : Crowd ι) (parties : Finset ι) : ℕ := ∑ i ∈ parties, (c.visit i).toGo

/-- The barrier is for as many as there are parties and has counted those that have arrived. -/
structure Sound (parties : Finset ι) (c : Crowd ι) : Prop where
  size : c.barrier.size = parties.card
  short : c.barrier.count < c.barrier.size
  tally : c.barrier.generation * c.barrier.size + c.barrier.count = (c.arrived parties).card
  ticket : ∀ i t, c.visit i = .waiting t → t = 0
  opened : ∀ i, c.visit i = .past → 0 < c.barrier.generation

section Waiting

variable {parties : Finset ι} {c c' : Crowd ι} {i : ι}

theorem mayPass_iff :
    c.mayPass i = true ↔ ∃ ticket, c.visit i = .waiting ticket ∧ ticket < c.barrier.generation := by
  unfold mayPass
  cases c.visit i <;> simp

theorem sound_gather (h : parties.Nonempty) : Sound parties (gather ι parties.card) := by
  constructor
  · rfl
  · exact Finset.card_pos.mpr h
  · simp [gather, arrived]
  · intro i t ht
    cases ht
  · intro i hi
    cases hi

/-- As long as somebody is ahead, the barrier has not opened. -/
theorem Sound.shut (h : Sound parties c) (hi : i ∈ parties) (hahead : c.visit i = .ahead) :
    c.barrier.generation = 0 := by
  by_contra hopen
  have hlt : (c.arrived parties).card < parties.card := by
    apply Finset.card_lt_card
    rw [arrived, Finset.filter_ssubset]
    exact ⟨i, hi, not_not.mpr hahead⟩
  have hmul : 1 * c.barrier.size ≤ c.barrier.generation * c.barrier.size :=
    Nat.mul_le_mul_right _ (Nat.pos_of_ne_zero hopen)
  have htally := h.tally
  have hsize := h.size
  omega

/-- **Nobody is behind the barrier before all have arrived.** -/
theorem Sound.all_arrived (h : Sound parties c) (hpast : c.visit i = .past) {j : ι}
    (hj : j ∈ parties) : c.visit j ≠ .ahead := by
  intro hahead
  have hopened := h.opened i hpast
  rw [h.shut hj hahead] at hopened
  exact lt_irrefl 0 hopened

/-- **When all have arrived, everybody may pass.** -/
theorem Sound.mayPass (h : Sound parties c) (hall : ∀ j ∈ parties, c.visit j ≠ .ahead) {t : ℕ}
    (hi : c.visit i = .waiting t) : c.mayPass i = true := by
  have hfull : c.arrived parties = parties := Finset.filter_true_of_mem hall
  have htally := h.tally
  rw [hfull, ← h.size] at htally
  refine mayPass_iff.mpr ⟨t, hi, ?_⟩
  rw [h.ticket i t hi]
  by_contra hshut
  rw [Nat.eq_zero_of_not_pos hshut, Nat.zero_mul, Nat.zero_add] at htally
  exact absurd htally h.short.ne

theorem toGo_lt (hi : i ∈ parties) (hlt : (c'.visit i).toGo < (c.visit i).toGo)
    (hsame : ∀ j, j ≠ i → c'.visit j = c.visit j) : c'.toGo parties < c.toGo parties := by
  apply Finset.sum_lt_sum
  · intro j _
    by_cases hj : j = i
    · subst hj
      exact hlt.le
    · rw [hsame j hj]
  · exact ⟨i, hi, hlt⟩

end Waiting

/-! ## Arriving and passing -/

section Moving

variable [DecidableEq ι]

/-- The party `i` arrives. -/
def arrive (c : Crowd ι) (i : ι) : Crowd ι :=
  ⟨c.barrier.arrive, Function.update c.visit i (.waiting c.barrier.generation)⟩

/-- The party `i` goes past the barrier. -/
def pass (c : Crowd ι) (i : ι) : Crowd ι := { c with visit := Function.update c.visit i .past }

variable {parties : Finset ι} {c : Crowd ι} {i j : ι}

@[simp] theorem visit_arrive_self : (c.arrive i).visit i = .waiting c.barrier.generation :=
  Function.update_self ..

@[simp] theorem visit_arrive_of_ne (h : j ≠ i) : (c.arrive i).visit j = c.visit j :=
  Function.update_of_ne h ..

@[simp] theorem visit_pass_self : (c.pass i).visit i = .past := Function.update_self ..

@[simp] theorem visit_pass_of_ne (h : j ≠ i) : (c.pass i).visit j = c.visit j :=
  Function.update_of_ne h ..

theorem arrived_arrive (hi : i ∈ parties) :
    (c.arrive i).arrived parties = insert i (c.arrived parties) := by
  ext j
  unfold arrived
  by_cases hj : j = i
  · subst hj
    simp [hi]
  · simp [hj]

theorem arrived_pass (hi : c.visit i ≠ .ahead) :
    (c.pass i).arrived parties = c.arrived parties := by
  apply Finset.filter_congr
  intro j _
  by_cases hj : j = i
  · subst hj
    simp [hi]
  · simp [hj]

/-- A party that is ahead may arrive. -/
theorem Sound.arrive (h : Sound parties c) (hi : i ∈ parties) (hahead : c.visit i = .ahead) :
    Sound parties (c.arrive i) := by
  have hnot : i ∉ c.arrived parties := by
    simp [arrived, hahead]
  constructor
  · exact c.barrier.size_arrive.trans h.size
  · exact (Barrier.short_arrive h.short).trans_eq c.barrier.size_arrive.symm
  · rw [arrived_arrive hi, Finset.card_insert_of_notMem hnot, ← h.tally, ← Barrier.tally_arrive]
    show c.barrier.arrive.generation * c.barrier.arrive.size + c.barrier.arrive.count = _
    rw [Barrier.size_arrive]
  · intro j t ht
    by_cases hj : j = i
    · subst hj
      rw [visit_arrive_self] at ht
      cases ht
      exact h.shut hi hahead
    · rw [visit_arrive_of_ne hj] at ht
      exact h.ticket j t ht
  · intro j hj
    by_cases hji : j = i
    · subst hji
      rw [visit_arrive_self] at hj
      cases hj
    · rw [visit_arrive_of_ne hji] at hj
      exact (h.opened j hj).trans_le (Barrier.generation_le_arrive _)

/-- A party for whom the barrier has opened may pass. -/
theorem Sound.pass (h : Sound parties c) (hi : c.mayPass i = true) : Sound parties (c.pass i) := by
  obtain ⟨ticket, hwaiting, hopen⟩ := mayPass_iff.mp hi
  constructor
  · exact h.size
  · exact h.short
  · rw [arrived_pass (by rw [hwaiting]; nofun)]
    exact h.tally
  · intro j t ht
    by_cases hj : j = i
    · subst hj
      rw [visit_pass_self] at ht
      cases ht
    · rw [visit_pass_of_ne hj] at ht
      exact h.ticket j t ht
  · intro j hj
    by_cases hji : j = i
    · exact Nat.lt_of_le_of_lt (Nat.zero_le _) hopen
    · rw [visit_pass_of_ne hji] at hj
      exact h.opened j hj

theorem toGo_arrive_lt (hi : i ∈ parties) (hahead : c.visit i = .ahead) :
    (c.arrive i).toGo parties < c.toGo parties := by
  apply toGo_lt hi
  · rw [visit_arrive_self, hahead]
    exact Nat.one_lt_two
  · exact fun j hj => visit_arrive_of_ne hj

theorem toGo_pass_lt (hi : i ∈ parties) (hmay : c.mayPass i = true) :
    (c.pass i).toGo parties < c.toGo parties := by
  obtain ⟨ticket, hwaiting, -⟩ := mayPass_iff.mp hmay
  apply toGo_lt hi
  · rw [visit_pass_self, hwaiting]
    exact Nat.one_pos
  · exact fun j hj => visit_pass_of_ne hj

end Moving

end Crowd

end Barriers
