import Mathlib.Data.List.Basic

/-!
# Systems with outputs

A system takes actions one at a time, and a step may give out something that can be
seen.  The **trace** of a run is what is seen of it, in order.

* `trace_eq_append_cons`: a point of the trace is a point of the run.
* `after_induction`: what every step preserves holds after every run.
* `countP_trace_add_le`: a budget.  If every output of a kind costs one and no step puts
  anything back, a run has no more outputs of the kind than there was budget.

Both are about runs in which only outputs of an allowed kind are seen, and a step need
only be looked at when its output is allowed.
-/

namespace OutputTraces

universe u v w

variable {σ : Type u} {α : Type v} {ε : Type w} (step : σ → α → σ × Option ε)

/-- The state after a run. -/
def after : σ → List α → σ
  | s, [] => s
  | s, a :: run => after (step s a).1 run

/-- What is seen of a run. -/
def trace : σ → List α → List ε
  | _, [] => []
  | s, a :: run => (step s a).2.toList ++ trace (step s a).1 run

variable {step}

/-- An output of a run is that of one of its steps. -/
theorem trace_eq_append_cons {s : σ} {run : List α} {pre post : List ε} {e : ε}
    (h : trace step s run = pre ++ e :: post) :
    ∃ run₁ a run₂, run = run₁ ++ a :: run₂ ∧ trace step s run₁ = pre ∧
      (step (after step s run₁) a).2 = some e ∧
        trace step (step (after step s run₁) a).1 run₂ = post := by
  induction run generalizing s pre with
  | nil =>
      rw [trace] at h
      exact absurd h (by simp)
  | cons a run ih =>
      rw [trace] at h
      cases hout : (step s a).2 with
      | none =>
          rw [hout] at h
          obtain ⟨run₁, a', run₂, rfl, htrace, hstep, hpost⟩ := ih h
          refine ⟨a :: run₁, a', run₂, rfl, ?_, hstep, hpost⟩
          rw [trace, hout]
          exact htrace
      | some e' =>
          rw [hout] at h
          cases pre with
          | nil =>
              obtain ⟨rfl, hpost⟩ := List.cons.inj h
              exact ⟨[], a, run, rfl, rfl, hout, hpost⟩
          | cons e₀ pre =>
              obtain ⟨rfl, hrest⟩ := List.cons.inj h
              obtain ⟨run₁, a', run₂, rfl, htrace, hstep, hpost⟩ := ih hrest
              refine ⟨a :: run₁, a', run₂, rfl, ?_, hstep, hpost⟩
              rw [trace, hout, ← htrace]
              rfl

/-- What every step with allowed outputs preserves holds after every run with allowed outputs. -/
theorem after_induction (Inv : σ → Prop) (allowed : ε → Prop)
    (hstep : ∀ s a, Inv s → (∀ e ∈ (step s a).2, allowed e) → Inv (step s a).1)
    {s : σ} (h : Inv s) {run : List α} (hallowed : ∀ e ∈ trace step s run, allowed e) :
    Inv (after step s run) := by
  induction run generalizing s with
  | nil => exact h
  | cons a run ih =>
      rw [trace, List.forall_mem_append] at hallowed
      exact ih (hstep s a h fun e he => hallowed.1 e (Option.mem_toList.mpr he)) hallowed.2

section Budget

variable (Inv : σ → Prop) (allowed : ε → Prop) (kind : ε → Bool) (budget : σ → ℕ)

/-- **A budget is never exceeded** by a run whose outputs are all allowed. -/
theorem countP_trace_add_le
    (hstep : ∀ s a, Inv s → (∀ e ∈ (step s a).2, allowed e) → Inv (step s a).1 ∧
      (step s a).2.toList.countP kind + budget (step s a).1 ≤ budget s)
    {s : σ} (h : Inv s) {run : List α} (hallowed : ∀ e ∈ trace step s run, allowed e) :
    (trace step s run).countP kind + budget (after step s run) ≤ budget s := by
  induction run generalizing s with
  | nil =>
      simp [trace, after]
  | cons a run ih =>
      rw [trace, List.forall_mem_append] at hallowed
      obtain ⟨hfirst, hrest⟩ := hallowed
      obtain ⟨hinv, hcost⟩ := hstep s a h fun e he => hfirst e (Option.mem_toList.mpr he)
      have hbudget := ih hinv hrest
      rw [trace, List.countP_append, after]
      omega

end Budget

end OutputTraces
