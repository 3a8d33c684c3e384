import Mathlib.Data.List.Basic
import Mathlib.Data.List.Pairwise

/-!
# Traces of owned items

A loop that owns a batch of items leaves a **trace** of events, each about one
item.  Some events dispose of their item: they free it, or hand it on to a new
owner.  Linear use of the batch is two conditions on the trace:

* every item has exactly one disposing event (`occurrences` of that kind is `1`);
* nothing happens to an item after it was freed (`NoUseAfterFree`).

Both only compare events of one and the same item, so both are read off the
sub-trace `onItem tr i` — `noUseAfterFree_iff_onItem` is that reduction, and it
is what lets a property of a whole batch be proved one loop iteration at a time.

`burstLoop` is the loop over a batch, with a body that may break.  A body that
keeps to its own item gives every item the loop reaches the trace of one
iteration, and every item behind a break none.

`BufferedSink` is the other half of handing on: a buffer in front of a sink,
together with what a caller may assume of it, and the loop `drain` that flushes
until nothing is pending.
-/

namespace Disposal

section Trace

variable {ε ι : Type*} [DecidableEq ι] (item : ε → ι)

/-- The sub-trace of one item, in order. -/
def onItem (tr : List ε) (i : ι) : List ε := tr.filter fun e => decide (item e = i)

@[simp] theorem onItem_nil (i : ι) : onItem item [] i = [] := rfl

@[simp] theorem onItem_append (tr tr' : List ε) (i : ι) :
    onItem item (tr ++ tr') i = onItem item tr i ++ onItem item tr' i :=
  List.filter_append ..

@[simp] theorem mem_onItem {tr : List ε} {i : ι} {e : ε} :
    e ∈ onItem item tr i ↔ e ∈ tr ∧ item e = i := by
  simp [onItem]

/-- A trace about one item is its own sub-trace. -/
theorem onItem_eq_self {tr : List ε} {i : ι} (h : ∀ e ∈ tr, item e = i) :
    onItem item tr i = tr :=
  List.filter_eq_self.mpr fun e he => decide_eq_true (h e he)

/-- A trace about other items leaves no sub-trace. -/
theorem onItem_eq_nil {tr : List ε} {i : ι} (h : ∀ e ∈ tr, item e ≠ i) :
    onItem item tr i = [] :=
  List.filter_eq_nil_iff.mpr fun e he => by simpa using h e he

/-- The number of events of kind `kind` about item `i`. -/
def occurrences (kind : ε → Bool) (tr : List ε) (i : ι) : ℕ := (onItem item tr i).countP kind

/-- Nothing happens to an item after an event that frees it. -/
def NoUseAfterFree (frees : ε → Bool) (tr : List ε) : Prop :=
  tr.Pairwise fun e e' => frees e = true → item e' ≠ item e

instance (frees : ε → Bool) (tr : List ε) : Decidable (NoUseAfterFree item frees tr) :=
  inferInstanceAs (Decidable (tr.Pairwise _))

/-- **Use after free is a per-item property.**  Two events of different items
are never in conflict, so the whole trace is clean exactly when every sub-trace
is. -/
theorem noUseAfterFree_iff_onItem (frees : ε → Bool) (tr : List ε) :
    NoUseAfterFree item frees tr ↔ ∀ i, NoUseAfterFree item frees (onItem item tr i) := by
  constructor
  · intro h i
    exact List.Pairwise.filter _ h
  · intro h
    refine List.pairwise_iff_forall_sublist.mpr fun {e e'} hsub hfree hsame => ?_
    -- a conflicting pair is about one item, so it survives into that item's sub-trace
    have hpair : [e, e'].Sublist (onItem item tr (item e)) := by
      have hfilter := hsub.filter fun x => decide (item x = item e)
      simpa [onItem, hsame] using hfilter
    exact List.pairwise_iff_forall_sublist.mp (h (item e)) hpair hfree hsame

omit [DecidableEq ι] in
/-- A free in one part of a trace and any event of the same item in a later part
is a use after free. -/
theorem not_noUseAfterFree_append {frees : ε → Bool} {tr tr' : List ε} {e e' : ε} (he : e ∈ tr)
    (hfree : frees e = true) (he' : e' ∈ tr') (hsame : item e' = item e) :
    ¬ NoUseAfterFree item frees (tr ++ tr') := by
  intro h
  exact (List.pairwise_append.mp h).2.2 e he e' he' hfree hsame

omit [DecidableEq ι] in
/-- An item that occurs nowhere is not used after anything. -/
@[simp] theorem noUseAfterFree_nil (frees : ε → Bool) : NoUseAfterFree item frees [] :=
  List.Pairwise.nil

end Trace

/-! ## Loops over a batch -/

section Loop

variable {ε α σ : Type*}

/-- Run `body` on the elements of a batch from index `i` on, threading a state;
the body says whether the loop is left after it. -/
def burstLoop (body : ℕ → α → σ → List ε × Bool × σ) : ℕ → List α → σ → List ε × σ
  | _, [], s => ([], s)
  | i, a :: rest, s =>
      let r := body i a s
      if r.2.1 then (r.1, r.2.2)
      else
        let next := burstLoop body (i + 1) rest r.2.2
        (r.1 ++ next.1, next.2)

/-- The loop gets as far as index `j`: nothing in front of it makes it break. -/
def Reached (breaks : α → Prop) (batch : List α) (j : ℕ) : Prop :=
  ∀ j' < j, ∀ a, batch[j']? = some a → ¬ breaks a

variable {item : ε → ℕ} {body : ℕ → α → σ → List ε × Bool × σ} {breaks : α → Prop}

/-- The loop from `i` on only touches the items from `i` on. -/
theorem item_of_mem_burstLoop (hitem : ∀ i a s, ∀ e ∈ (body i a s).1, item e = i)
    (batch : List α) :
    ∀ (i : ℕ) (s : σ) {e : ε}, e ∈ (burstLoop body i batch s).1 →
      i ≤ item e ∧ item e < i + batch.length := by
  induction batch with
  | nil => intro i s e h; simp [burstLoop] at h
  | cons a rest ih =>
      intro i s e h
      have hhead : e ∈ (body i a s).1 → i ≤ item e ∧ item e < i + (a :: rest).length := by
        intro hmem
        rw [hitem i a s e hmem]
        simp
      rw [burstLoop] at h
      dsimp only at h
      split at h
      · exact hhead h
      · rcases List.mem_append.mp h with h | h
        · exact hhead h
        · have := ih (i + 1) _ h
          simp only [List.length_cons]
          omega

/-- The events of the first item are those of its iteration. -/
theorem onItem_burstLoop_head (hitem : ∀ i a s, ∀ e ∈ (body i a s).1, item e = i)
    (i : ℕ) (a : α) (rest : List α) (s : σ) :
    onItem item (burstLoop body i (a :: rest) s).1 i = (body i a s).1 := by
  have hself : onItem item (body i a s).1 i = (body i a s).1 :=
    onItem_eq_self item (hitem i a s)
  rw [burstLoop]
  dsimp only
  split
  · exact hself
  · have hnil : onItem item (burstLoop body (i + 1) rest (body i a s).2.2).1 i = [] := by
      refine onItem_eq_nil item fun e he => ?_
      have := item_of_mem_burstLoop hitem rest (i + 1) _ he
      omega
    rw [onItem_append, hself, hnil, List.append_nil]

/-- The events of a later item: none after a break, else those of the rest of the
loop. -/
theorem onItem_burstLoop_tail (hitem : ∀ i a s, ∀ e ∈ (body i a s).1, item e = i)
    (i j : ℕ) (a : α) (rest : List α) (s : σ) :
    onItem item (burstLoop body i (a :: rest) s).1 (i + (j + 1)) =
      if (body i a s).2.1 then []
      else onItem item (burstLoop body (i + 1) rest (body i a s).2.2).1 (i + 1 + j) := by
  have hnil : onItem item (body i a s).1 (i + (j + 1)) = [] := by
    refine onItem_eq_nil item fun e he => ?_
    rw [hitem i a s e he]
    omega
  rw [burstLoop]
  dsimp only
  split
  · exact hnil
  · rw [onItem_append, hnil, List.nil_append, show i + (j + 1) = i + 1 + j by omega]

/-- **What happens to an item the loop reaches** is its own iteration, run from
whatever state the loop is in by then. -/
theorem onItem_burstLoop_of_reached (hitem : ∀ i a s, ∀ e ∈ (body i a s).1, item e = i)
    (hbreaks : ∀ i a s, (body i a s).2.1 = true → breaks a) (batch : List α) :
    ∀ (i j : ℕ) (s : σ) {a : α}, batch[j]? = some a → Reached breaks batch j →
      ∃ s', onItem item (burstLoop body i batch s).1 (i + j) = (body (i + j) a s').1 := by
  induction batch with
  | nil => intro i j s a h; simp at h
  | cons a₀ rest ih =>
      intro i j s a hget hreach
      cases j with
      | zero =>
          rw [List.getElem?_cons_zero, Option.some.injEq] at hget
          subst hget
          exact ⟨s, onItem_burstLoop_head hitem i a₀ rest s⟩
      | succ j =>
          -- the head does not break, so item `j + 1` is item `j` of the rest
          have hgo : ¬ (body i a₀ s).2.1 = true := fun h =>
            hreach 0 (by omega) a₀ rfl (hbreaks i a₀ s h)
          rw [onItem_burstLoop_tail hitem, if_neg hgo, show i + (j + 1) = i + 1 + j by omega]
          rw [List.getElem?_cons_succ] at hget
          refine ih (i + 1) j _ hget fun j' hj' a' hget' => ?_
          exact hreach (j' + 1) (by omega) a' (by rwa [List.getElem?_cons_succ])

/-- **What happens to an item behind a break**: nothing. -/
theorem onItem_burstLoop_of_not_reached (hitem : ∀ i a s, ∀ e ∈ (body i a s).1, item e = i)
    (hbreaks : ∀ i a s, breaks a → (body i a s).2.1 = true) (batch : List α) :
    ∀ (i j : ℕ) (s : σ), ¬ Reached breaks batch j →
      onItem item (burstLoop body i batch s).1 (i + j) = [] := by
  induction batch with
  | nil => intro i j s _; rfl
  | cons a₀ rest ih =>
      intro i j s hbroken
      cases j with
      | zero => exact absurd (fun j' hj' => absurd hj' (by omega)) hbroken
      | succ j =>
          rw [onItem_burstLoop_tail hitem]
          split
          · rfl
          · rename_i hgo
            refine ih (i + 1) j _ fun hreach => hbroken ?_
            intro j' hj' a' hget' hbreak
            cases j' with
            | zero =>
                rw [List.getElem?_cons_zero, Option.some.injEq] at hget'
                exact hgo (hbreaks i a₀ s (hget' ▸ hbreak))
            | succ j' =>
                rw [List.getElem?_cons_succ] at hget'
                exact hreach j' (by omega) a' hget' hbreak

end Loop

/-! ## Buffered sinks -/

/-- A buffer in front of a sink, with what its users rely on: adding and flushing
**consume each element exactly once and in order** (what was emitted followed by
what is pending only ever grows by the added element), and a flush of a buffer
that is not empty makes progress. -/
structure BufferedSink (α S : Type*) where
  add : S → α → S
  flush : S → S
  pending : S → List α
  emitted : S → List α
  add_log : ∀ s a, emitted (add s a) ++ pending (add s a) = emitted s ++ pending s ++ [a]
  flush_log : ∀ s, emitted (flush s) ++ pending (flush s) = emitted s ++ pending s
  flush_progress : ∀ s, pending s ≠ [] → (pending (flush s)).length < (pending s).length

namespace BufferedSink

variable {α S : Type*} (sink : BufferedSink α S)

/-- Everything the buffer was ever given, oldest first. -/
def log (s : S) : List α := sink.emitted s ++ sink.pending s

@[simp] theorem log_add (s : S) (a : α) : sink.log (sink.add s a) = sink.log s ++ [a] :=
  sink.add_log s a

@[simp] theorem log_flush (s : S) : sink.log (sink.flush s) = sink.log s := sink.flush_log s

/-- Flush until nothing is pending. -/
def drain (s : S) : S :=
  if _h : sink.pending s = [] then s else drain (sink.flush s)
termination_by (sink.pending s).length
decreasing_by exact sink.flush_progress s _h

/-- Draining ends with an empty buffer. -/
theorem pending_drain (s : S) : sink.pending (sink.drain s) = [] := by
  induction s using drain.induct sink with
  | case1 s h => rwa [drain, dif_pos h]
  | case2 s h ih => rwa [drain, dif_neg h]

/-- Draining loses nothing and repeats nothing. -/
theorem log_drain (s : S) : sink.log (sink.drain s) = sink.log s := by
  induction s using drain.induct sink with
  | case1 s h => rw [drain, dif_pos h]
  | case2 s h ih => rw [drain, dif_neg h, ih, log_flush]

end BufferedSink

end Disposal
