import Mathlib.Data.List.Nodup
import Mathlib.Data.Set.Lattice
import Mathlib.Logic.Function.Basic
import Mathlib.Order.SetNotation

/-!
# Resources and where they are kept

Resources are numbered in the order in which they are created.  A **ledger** says which
resource each slot of a program holds, and which have been destroyed.  A program that
acquires into empty slots and releases what a slot holds destroys nothing twice
(`Proper.once`) and loses nothing: a resource is destroyed or still held
(`Complete`).

`Clears` is what a piece of code that releases the slots of a set does to a ledger,
whatever the order in which it comes by them, and however often.
-/

namespace Ledgers

universe u

variable {σ : Type u}

/-- What the slots hold, how many resources there have been, and which are destroyed. -/
structure Ledger (σ : Type u) where
  held : σ → Option ℕ
  next : ℕ
  destroyed : List ℕ

namespace Ledger

/-- Nothing has been created. -/
def empty (σ : Type u) : Ledger σ := ⟨fun _ => none, 0, []⟩

/-- What is held or destroyed has been created, no resource is held twice, destroyed twice, or
held and destroyed. -/
structure Proper (l : Ledger σ) : Prop where
  created : ∀ s h, l.held s = some h → h < l.next
  distinct : ∀ s s' h, l.held s = some h → l.held s' = some h → s = s'
  gone : ∀ h ∈ l.destroyed, h < l.next
  once : l.destroyed.Nodup
  apart : ∀ s h, l.held s = some h → h ∉ l.destroyed

/-- Nothing is lost. -/
def Complete (l : Ledger σ) : Prop :=
  ∀ h < l.next, h ∈ l.destroyed ∨ ∃ s, l.held s = some h

theorem proper_empty : (empty σ).Proper where
  created := nofun
  distinct := nofun
  gone := nofun
  once := List.nodup_nil
  apart := nofun

theorem complete_empty : (empty σ).Complete := fun _ h => absurd h (Nat.not_lt_zero _)

/-! ## Clearing -/

variable {l l' l'' : Ledger σ}

/-- The slots of the set are empty, the others are as they were, and nothing has been created or
lost. -/
structure Clears (slots : Set σ) (l l' : Ledger σ) : Prop where
  cleared : ∀ s ∈ slots, l'.held s = none
  kept : ∀ s ∉ slots, l'.held s = l.held s
  next : l'.next = l.next
  proper : l.Proper → l'.Proper
  complete : l.Complete → l'.Complete

theorem Clears.refl (l : Ledger σ) : Clears ∅ l l :=
  ⟨nofun, fun _ _ => rfl, rfl, id, id⟩

theorem Clears.trans {slots slots' : Set σ} (h : Clears slots l l') (h' : Clears slots' l' l'') :
    Clears (slots ∪ slots') l l'' where
  cleared := by
    intro s hs
    by_cases hs' : s ∈ slots'
    · exact h'.cleared s hs'
    · rw [h'.kept s hs']
      exact h.cleared s (hs.resolve_right hs')
  kept := by
    intro s hs
    rw [h'.kept s fun hs' => hs (.inr hs'), h.kept s fun hs' => hs (.inl hs')]
  next := h'.next.trans h.next
  proper := fun hl => h'.proper (h.proper hl)
  complete := fun hl => h'.complete (h.complete hl)

/-- Slots that are empty anyway may be counted among the cleared ones. -/
theorem Clears.of_empty {slots slots' : Set σ} (h : Clears slots l l') (hsub : slots ⊆ slots')
    (hempty : ∀ s ∈ slots', s ∉ slots → l.held s = none) : Clears slots' l l' where
  cleared := by
    intro s hs
    by_cases hin : s ∈ slots
    · exact h.cleared s hin
    · rw [h.kept s hin]
      exact hempty s hs hin
  kept := fun s hs => h.kept s fun hin => hs (hsub hin)
  next := h.next
  proper := h.proper
  complete := h.complete

/-! ## Acquiring and releasing -/

variable [DecidableEq σ]

/-- A resource is created and put into the slot. -/
def acquire (l : Ledger σ) (s : σ) : Ledger σ where
  held := Function.update l.held s (some l.next)
  next := l.next + 1
  destroyed := l.destroyed

/-- What the slot holds is destroyed, and the slot is empty. -/
def release (l : Ledger σ) (s : σ) : Ledger σ :=
  match l.held s with
  | some h => ⟨Function.update l.held s none, l.next, l.destroyed ++ [h]⟩
  | none => l

/-- The slot is written over, and what it held is lost. -/
def lose (l : Ledger σ) (s : σ) : Ledger σ := { l with held := Function.update l.held s none }

variable {l : Ledger σ} {s s' : σ}

theorem lose_of_empty (h : l.held s = none) : l.lose s = l := by
  rw [lose, ← h, Function.update_eq_self]

theorem held_acquire_self : (l.acquire s).held s = some l.next := Function.update_self ..

theorem held_acquire_of_ne (h : s' ≠ s) : (l.acquire s).held s' = l.held s' :=
  Function.update_of_ne h ..

theorem release_of_empty (h : l.held s = none) : l.release s = l := by
  rw [release, h]

theorem held_release (s' : σ) : (l.release s).held s' = if s' = s then none else l.held s' := by
  unfold release
  split
  · exact Function.update_apply ..
  · rename_i hempty
    split
    · rename_i heq
      rw [heq, hempty]
    · rfl

@[simp] theorem next_release : (l.release s).next = l.next := by
  unfold release
  split <;> rfl

theorem Proper.acquire (h : l.Proper) (s : σ) : (l.acquire s).Proper := by
  have hold : ∀ s' x, (l.acquire s).held s' = some x →
      s' = s ∧ x = l.next ∨ s' ≠ s ∧ l.held s' = some x := by
    intro s' x hx
    by_cases hs : s' = s
    · subst hs
      rw [held_acquire_self] at hx
      exact .inl ⟨rfl, (Option.some.inj hx).symm⟩
    · exact .inr ⟨hs, by rwa [held_acquire_of_ne hs] at hx⟩
  constructor
  · intro s' x hx
    rcases hold s' x hx with ⟨-, rfl⟩ | ⟨-, hx⟩
    · exact Nat.lt_succ_self _
    · exact Nat.lt_succ_of_lt (h.created s' x hx)
  · intro s₁ s₂ x hx₁ hx₂
    rcases hold s₁ x hx₁ with ⟨hs₁, hnew⟩ | ⟨-, hx₁⟩
    · rcases hold s₂ x hx₂ with ⟨hs₂, -⟩ | ⟨-, hx₂⟩
      · exact hs₁.trans hs₂.symm
      · exact absurd (h.created s₂ x hx₂) hnew.ge.not_gt
    · rcases hold s₂ x hx₂ with ⟨-, hnew⟩ | ⟨-, hx₂⟩
      · exact absurd (h.created s₁ x hx₁) hnew.ge.not_gt
      · exact h.distinct s₁ s₂ x hx₁ hx₂
  · exact fun x hx => Nat.lt_succ_of_lt (h.gone x hx)
  · exact h.once
  · intro s' x hx hgone
    rcases hold s' x hx with ⟨-, rfl⟩ | ⟨-, hx⟩
    · exact lt_irrefl _ (h.gone _ hgone)
    · exact h.apart s' x hx hgone

theorem Complete.acquire (h : l.Complete) (hempty : l.held s = none) :
    (l.acquire s).Complete := by
  intro x hx
  rcases (Nat.lt_succ_iff.mp hx).lt_or_eq with hlt | rfl
  · rcases h x hlt with hgone | ⟨s', hs'⟩
    · exact .inl hgone
    · refine .inr ⟨s', ?_⟩
      rwa [held_acquire_of_ne]
      rintro rfl
      rw [hempty] at hs'
      cases hs'
  · exact .inr ⟨s, held_acquire_self⟩

theorem Proper.release (h : l.Proper) (s : σ) : (l.release s).Proper := by
  cases hs : l.held s with
  | none => rwa [release_of_empty hs]
  | some x =>
      have hheld : ∀ s' y, (l.release s).held s' = some y → s' ≠ s ∧ l.held s' = some y := by
        intro s' y hy
        rw [held_release] at hy
        split at hy
        · cases hy
        · rename_i hne
          exact ⟨hne, hy⟩
      have hgone : (l.release s).destroyed = l.destroyed ++ [x] := by
        rw [Ledger.release, hs]
      constructor
      · intro s' y hy
        rw [next_release]
        exact h.created s' y (hheld s' y hy).2
      · intro s₁ s₂ y hy₁ hy₂
        exact h.distinct s₁ s₂ y (hheld s₁ y hy₁).2 (hheld s₂ y hy₂).2
      · intro y hy
        rw [hgone, List.mem_append, List.mem_singleton] at hy
        rw [next_release]
        rcases hy with hy | rfl
        · exact h.gone y hy
        · exact h.created s y hs
      · rw [hgone]
        exact List.Nodup.append h.once (List.nodup_singleton x)
          (List.disjoint_singleton.mpr (h.apart s x hs))
      · intro s' y hy hmem
        obtain ⟨hne, hy⟩ := hheld s' y hy
        rw [hgone, List.mem_append, List.mem_singleton] at hmem
        rcases hmem with hmem | rfl
        · exact h.apart s' y hy hmem
        · exact hne (h.distinct s' s y hy hs)

theorem Complete.release (h : l.Complete) (s : σ) : (l.release s).Complete := by
  cases hs : l.held s with
  | none => rwa [release_of_empty hs]
  | some x =>
      intro y hy
      have hgone : (l.release s).destroyed = l.destroyed ++ [x] := by
        rw [Ledger.release, hs]
      rw [hgone, List.mem_append, List.mem_singleton]
      rw [next_release] at hy
      rcases h y hy with hmem | ⟨s', hs'⟩
      · exact .inl (.inl hmem)
      · by_cases hss : s' = s
        · subst hss
          rw [hs] at hs'
          exact .inl (.inr (Option.some.inj hs').symm)
        · refine .inr ⟨s', ?_⟩
          rwa [held_release, if_neg hss]

theorem clears_release (l : Ledger σ) (s : σ) : Clears {s} l (l.release s) where
  cleared := fun s' hs' => by rw [held_release, if_pos (Set.mem_singleton_iff.mp hs')]
  kept := fun s' hs' => by rw [held_release, if_neg fun h => hs' (Set.mem_singleton_iff.mpr h)]
  next := next_release
  proper := fun h => h.release s
  complete := fun h => h.release s

theorem clears_foldl_release (slots : List σ) (l : Ledger σ) :
    Clears {s | s ∈ slots} l (slots.foldl release l) := by
  induction slots generalizing l with
  | nil => exact (Clears.refl l).of_empty (Set.empty_subset _) nofun
  | cons s slots ih =>
      have h := (clears_release l s).trans (ih (l.release s))
      have hset : {s' | s' ∈ s :: slots} = {s} ∪ {s' | s' ∈ slots} := by
        ext s'
        exact List.mem_cons
      rw [hset]
      exact h

end Ledger

end Ledgers
