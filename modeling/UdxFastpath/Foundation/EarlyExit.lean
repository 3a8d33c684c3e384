import Mathlib.Data.List.Basic

/-!
# Computations that stop short

A function that checks and assigns in turn, with an exit at every check, is a
computation in `Except`: `.error` stands for an exit, with whatever is left behind
there.  Such a function is taken apart step by step.

* `bind_eq_ok_iff`: it runs to its end exactly when every step does;
* `bind_eq_error_iff`: an exit of it is the exit of one of its steps;
* `foldlM_ok` and `foldlM_error`: what every round of a loop preserves, the loop
  preserves, and an exit of the loop is the exit of a round.
-/

namespace EarlyExit

universe u v

variable {ε : Type u} {α β σ : Type v}

@[simp] theorem ok_bind (a : α) (f : α → Except ε β) : ((.ok a : Except ε α) >>= f) = f a := rfl

@[simp] theorem error_bind (e : ε) (f : α → Except ε β) :
    ((.error e : Except ε α) >>= f) = .error e := rfl

@[simp] theorem throw_eq_error (e : ε) : (throw e : Except ε α) = .error e := rfl

@[simp] theorem pure_eq_ok (a : α) : (pure a : Except ε α) = .ok a := rfl

theorem bind_eq_ok_iff {x : Except ε α} {f : α → Except ε β} {r : β} :
    (x >>= f) = .ok r ↔ ∃ a, x = .ok a ∧ f a = .ok r := by
  cases x with
  | error e =>
      constructor
      · intro h
        cases h
      · rintro ⟨a, h, -⟩
        cases h
  | ok a =>
      constructor
      · intro h
        exact ⟨a, rfl, h⟩
      · rintro ⟨a', h, hr⟩
        cases h
        exact hr

theorem bind_eq_error_iff {x : Except ε α} {f : α → Except ε β} {e : ε} :
    (x >>= f) = .error e ↔ x = .error e ∨ ∃ a, x = .ok a ∧ f a = .error e := by
  cases x with
  | error e' =>
      constructor
      · intro h
        cases h
        exact .inl rfl
      · rintro (h | ⟨a, h, -⟩)
        · cases h
          rfl
        · cases h
  | ok a =>
      constructor
      · intro h
        exact .inr ⟨a, rfl, h⟩
      · rintro (h | ⟨a', h, hr⟩)
        · cases h
        · cases h
          exact hr

section Loop

variable {step : σ → α → Except ε σ} {P : σ → Prop}

/-- What every round preserves, the loop preserves. -/
theorem foldlM_ok (hstep : ∀ s a s', P s → step s a = .ok s' → P s') :
    ∀ (l : List α) (s s' : σ), P s → l.foldlM step s = .ok s' → P s' := by
  intro l
  induction l with
  | nil =>
      intro s s' hs h
      cases h
      exact hs
  | cons a rest ih =>
      intro s s' hs h
      rw [List.foldlM_cons] at h
      obtain ⟨t, ht, hrest⟩ := bind_eq_ok_iff.mp h
      exact ih t s' (hstep s a t hs ht) hrest

/-- What each round achieves for its own item, and no later round undoes, holds for all items. -/
theorem foldlM_ok_forall {Q : α → σ → Prop} (hdone : ∀ s a s', step s a = .ok s' → Q a s')
    (hkept : ∀ b s a s', Q b s → step s a = .ok s' → Q b s') :
    ∀ (l : List α) (s s' : σ), l.foldlM step s = .ok s' → ∀ a ∈ l, Q a s' := by
  intro l
  induction l with
  | nil => exact fun _ _ _ _ ha => absurd ha List.not_mem_nil
  | cons a rest ih =>
      intro s s' h
      rw [List.foldlM_cons] at h
      obtain ⟨t, ht, hrest⟩ := bind_eq_ok_iff.mp h
      rw [List.forall_mem_cons]
      exact ⟨foldlM_ok (hkept a) rest t s' (hdone s a t ht) hrest, ih t s' hrest⟩

/-- An exit of the loop is the exit of a round. -/
theorem foldlM_error {e : ε} :
    ∀ (l : List α) (s : σ), l.foldlM step s = .error e → ∃ t a, step t a = .error e := by
  intro l
  induction l with
  | nil =>
      intro s h
      cases h
  | cons a rest ih =>
      intro s h
      rw [List.foldlM_cons] at h
      rcases bind_eq_error_iff.mp h with h | ⟨t, -, hrest⟩
      · exact ⟨s, a, h⟩
      · exact ih t hrest

/-- An exit of the loop is the exit of a round that starts with what the rounds before it have
preserved. -/
theorem foldlM_error_of {e : ε} (hstep : ∀ s a s', P s → step s a = .ok s' → P s') :
    ∀ (l : List α) (s : σ), P s → l.foldlM step s = .error e →
      ∃ t, P t ∧ ∃ a ∈ l, step t a = .error e := by
  intro l
  induction l with
  | nil =>
      intro s _ h
      cases h
  | cons a rest ih =>
      intro s hs h
      rw [List.foldlM_cons] at h
      rcases bind_eq_error_iff.mp h with h | ⟨t, ht, hrest⟩
      · exact ⟨s, hs, a, List.mem_cons_self, h⟩
      · obtain ⟨t', ht', a', ha', herror⟩ := ih t (hstep s a t hs ht) hrest
        exact ⟨t', ht', a', List.mem_cons_of_mem _ ha', herror⟩

/-- A loop that only checks runs to its end when every check passes, and nothing has changed. -/
theorem foldlM_check {c : α → Prop} [DecidablePred c] (fail : σ → ε) (l : List α) (s : σ) :
    l.foldlM (fun s a => if c a then Except.ok s else Except.error (fail s)) s =
      if ∀ a ∈ l, c a then .ok s else .error (fail s) := by
  induction l with
  | nil => simp
  | cons a rest ih =>
      rw [List.foldlM_cons]
      by_cases ha : c a
      · rw [if_pos ha, ok_bind, ih]
        simp [ha]
      · rw [if_neg ha, error_bind]
        simp [ha]

end Loop

end EarlyExit
