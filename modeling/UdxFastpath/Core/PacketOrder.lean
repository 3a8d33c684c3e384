import UdxFastpath.Core.PacketConservation
import UdxFastpath.Foundation.FifoTrace

/-!
# The order of packets in the pipeline

An observer stands beside the pipeline and keeps a **trace**: on which slot each buffer
came in, what went onto each ring and off it, and what was sent from each slot.  The
buffers are numbered in the order they were received, so the order of the numbers is the
order of arrival.

* The rings are queues, and workers take whole bursts: what is not a burst yet stays on
  its rx ring, however long it waits (`frames_wait_for_burst`).
* One worker never lets a packet overtake another that came in on the same slot and
  leaves from the same slot, in any interleaving of the threads
  (`oneWorker_keeps_order`); two workers do (`twoWorkers_overtake`).
-/

namespace UdxFastpath

open ByteWindow Conservation

variable {σ : Type*}

/-! ## Traces -/

/-- What an observer of the pipeline has seen. -/
structure Trace where
  origin : ℕ → ℕ
  rx : ℕ → Passage ℕ
  tx : ℕ → Passage ℕ
  sent : ℕ → List ℕ

/-- Nothing seen yet. -/
def Trace.start : Trace where
  origin _ := 0
  rx _ := .start
  tx _ := .start
  sent _ := []

namespace Pipeline

variable (P : Pipeline σ)

/-- The observer sees one move. -/
def observe (s : State σ) (l : Label) (tr : Trace) : Trace :=
  let s' := P.step s l
  { origin := match l with
      | .rx p _ => fun id => if s.received ≤ id then P.slot p else tr.origin id
      | _ => tr.origin
    rx := fun k => (tr.rx k).observe (s.rxRings k) (s'.rxRings k)
    tx := fun k => (tr.tx k).observe (s.txRings k) (s'.txRings k)
    sent := match l with
      | .tx p _ => Function.update tr.sent (P.slot p)
          (tr.sent (P.slot p) ++ s'.device.drop s.device.length)
      | _ => tr.sent }

/-- A move of the pipeline with its observer. -/
def observedStep (st : State σ × Trace) (l : Label) : State σ × Trace :=
  (P.step st.1 l, P.observe st.1 l st.2)

/-- The pipeline and its observer after the moves of a run. -/
def observedRun (st : State σ × Trace) (run : List Label) : State σ × Trace :=
  run.foldl P.observedStep st

/-- What holds at the start and survives every move holds after every run. -/
theorem observedRun_invariant {I : State σ × Trace → Prop} {st : State σ × Trace} (hstart : I st)
    (hstep : ∀ st l, I st → I (P.observedStep st l)) (run : List Label) :
    I (P.observedRun st run) := by
  induction run generalizing st with
  | nil => exact hstart
  | cons l rest ih => exact ih (hstep st l hstart)

/-! ## What a move does to the places -/

/-- The places a move can touch, as they are before and after it. -/
inductive Shifts (s s' : State σ) : Label → Prop
  | stays {l : Label} (hrx : s'.rxRings = s.rxRings) (htx : s'.txRings = s.txRings)
      (hworkers : s'.workers = s.workers) (hdevice : s'.device = s.device)
      (hreceived : s.received ≤ s'.received) : Shifts s s' l
  | receives {p : ℕ} {frames : List Window} {n : ℕ} {r : FifoRing ℕ}
      (hrx : s'.rxRings = Function.update s.rxRings (P.slot p) r)
      (hput : r.entries = (s.rxRings (P.slot p)).entries ++ List.range' s.received n ∨
        r = s.rxRings (P.slot p))
      (htx : s'.txRings = s.txRings) (hworkers : s'.workers = s.workers)
      (hdevice : s'.device = s.device) (hreceived : s'.received = s.received + n) :
      Shifts s s' (.rx p frames)
  | transmits {p : ℕ} {takes : ℕ → ℕ} {r : FifoRing ℕ} {dq : List ℕ}
      (htx : s'.txRings = Function.update s.txRings (P.slot p) r)
      (htake : (s.txRings (P.slot p)).entries = dq ++ r.entries)
      (hdevice : s'.device = s.device ++ (P.transmit takes dq).1)
      (hrx : s'.rxRings = s.rxRings) (hworkers : s'.workers = s.workers)
      (hreceived : s'.received = s.received) : Shifts s s' (.tx p takes)
  | dequeues {w k : ℕ} {r : FifoRing ℕ} {dq : List ℕ} {next : ℕ} (hw : w < P.nWorkers)
      (hrx : s'.rxRings = Function.update s.rxRings k r)
      (htake : (s.rxRings k).entries = dq ++ r.entries) (hburst : dq = [] ∨ dq.length = P.burst)
      (hworkers : s'.workers = Function.update s.workers w ⟨dq, 0, k, next⟩)
      (htx : s'.txRings = s.txRings) (hdevice : s'.device = s.device)
      (hreceived : s'.received = s.received) : Shifts s s' (.dequeue w)
  | handles {w : ℕ} (hw : w < P.nWorkers) (hi : (s.workers w).i < (s.workers w).rxMbufs.length)
      (hworkers : s'.workers = Function.update s.workers w (s.workers w).advance)
      (htx : s'.txRings = s.txRings ∨ ∃ k r, s'.txRings = Function.update s.txRings k r ∧
        r.entries = (s.txRings k).entries ++ [(s.workers w).buffer 0])
      (hrx : s'.rxRings = s.rxRings) (hdevice : s'.device = s.device)
      (hreceived : s'.received = s.received) : Shifts s s' (.handle w)

section Shifts

variable {P} {s : State σ}

theorem shifts_receive (p : ℕ) (frames : List Window) :
    P.Shifts s (P.receive s p frames) (.rx p frames) := by
  by_cases hidle : frames.take P.burst = [] ∧ P.drainsWhenIdle = false
  · rw [receive, if_pos hidle]
    exact .stays rfl rfl rfl rfl le_rfl
  by_cases hslot : P.slot p < P.env.nRings
  · simp only [receive, hidle, if_false, hslot, if_true]
    refine .receives rfl ?_ rfl rfl rfl rfl
    unfold FifoRing.enqueueBulk
    split
    · exact .inl rfl
    · exact .inr rfl
  · simp only [receive, hidle, if_false, hslot]
    exact .stays rfl rfl rfl rfl (Nat.le_add_right _ _)

theorem shifts_transmitTurn (p : ℕ) (takes : ℕ → ℕ) :
    P.Shifts s (P.transmitTurn s p takes) (.tx p takes) := by
  unfold transmitTurn
  split
  · exact .transmits rfl ((s.txRings (P.slot p)).dequeueBurst_append P.burst).symm rfl rfl rfl rfl
  · exact .stays rfl rfl rfl rfl le_rfl

theorem shifts_dequeueBurst {w : ℕ} (hw : w < P.nWorkers) :
    P.Shifts s (P.dequeueBurst s w) (.dequeue w) := by
  unfold dequeueBurst
  dsimp only
  split
  · refine .dequeues hw rfl ((s.rxRings _).dequeueBulk_append P.burst).symm ?_ rfl rfl rfl rfl
    unfold FifoRing.dequeueBulk
    split
    · rename_i hle
      exact .inr (List.length_take_of_le hle)
    · exact .inl rfl
  · exact .stays rfl rfl rfl rfl le_rfl

/-- What an event does to the tx rings. -/
def queueOn (wk : Worker) (rings : ℕ → FifoRing ℕ) : Event → ℕ → FifoRing ℕ
  | .transmit j k _ => Function.update rings k ((rings k).enqueueBulk [wk.buffer j]).1
  | _ => rings

theorem txRings_foldl_apply (wk : Worker) (evs : List Event) (s : State σ) :
    (evs.foldl (State.apply wk) s).txRings = evs.foldl (queueOn wk) s.txRings := by
  induction evs generalizing s with
  | nil => rfl
  | cons e rest ih =>
      rw [List.foldl_cons, List.foldl_cons, ih]
      cases e <;> rfl

/-- The events of an iteration touch neither the rx rings nor the device. -/
theorem frame_foldl_apply (wk : Worker) (evs : List Event) (s : State σ) :
    (evs.foldl (State.apply wk) s).rxRings = s.rxRings ∧
      (evs.foldl (State.apply wk) s).device = s.device ∧
        (evs.foldl (State.apply wk) s).received = s.received := by
  induction evs generalizing s with
  | nil => exact ⟨rfl, rfl, rfl⟩
  | cons e rest ih =>
      obtain ⟨hrx, hdevice, hreceived⟩ := ih (State.apply wk s e)
      rw [List.foldl_cons, hrx, hdevice, hreceived]
      cases e <;> exact ⟨rfl, rfl, rfl⟩

/-- The call that queues a packet, whether or not the ring exists. -/
theorem queueOn_enqueueFirst (wk : Worker) (rings : ℕ → FifoRing ℕ) (nRings k : ℕ)
    (first : Window) :
    (enqueueFirst nRings k first).foldl (queueOn wk) rings = rings ∨
      (enqueueFirst nRings k first).foldl (queueOn wk) rings =
        Function.update rings k ((rings k).enqueueBulk [wk.buffer 0]).1 := by
  unfold enqueueFirst
  split
  · exact .inr rfl
  · exact .inl rfl

/-- **An iteration queues the front of its array, or nothing.** -/
theorem queueOn_workerPacket (env : WorkerEnv σ) (arpRing : ℕ → ℕ → ℕ) (wk : Worker) (lpid : ℕ)
    (bufs : ℕ → Window) (i : ℕ) (app : σ) (rings : ℕ → FifoRing ℕ) :
    (workerPacket env arpRing lpid bufs i app).1.foldl (queueOn wk) rings = rings ∨
      ∃ k, (workerPacket env arpRing lpid bufs i app).1.foldl (queueOn wk) rings =
        Function.update rings k ((rings k).enqueueBulk [wk.buffer 0]).1 := by
  unfold workerPacket
  dsimp only
  split_ifs
  · exact (queueOn_enqueueFirst wk rings _ _ _).imp_right fun h => ⟨_, h⟩
  · exact .inl rfl
  · exact .inl rfl
  · exact .inl rfl
  · exact .inl rfl
  · exact (queueOn_enqueueFirst wk rings _ _ _).imp_right fun h => ⟨_, h⟩

theorem shifts_handlePacket {w : ℕ} (hw : w < P.nWorkers)
    (hi : (s.workers w).i < (s.workers w).rxMbufs.length) :
    P.Shifts s (P.handlePacket s w) (.handle w) := by
  simp only [handlePacket]
  set evs := (workerPacket P.env P.arpRing (s.workers w).lpid
    (fun j => s.contents ((s.workers w).buffer j)) (s.workers w).i s.app).1 with hevs
  obtain ⟨hrx, hdevice, hreceived⟩ := frame_foldl_apply (s.workers w) evs
    { s with
      workers := Function.update s.workers w (s.workers w).advance
      contents := Function.update s.contents ((s.workers w).buffer (s.workers w).i)
        (workerPacket P.env P.arpRing (s.workers w).lpid
          (fun j => s.contents ((s.workers w).buffer j)) (s.workers w).i s.app).2.1
      app := (workerPacket P.env P.arpRing (s.workers w).lpid
        (fun j => s.contents ((s.workers w).buffer j)) (s.workers w).i s.app).2.2 }
  refine .handles hw hi (control_foldl_apply _ _ _).1 ?_ hrx hdevice hreceived
  rw [txRings_foldl_apply]
  rcases queueOn_workerPacket P.env P.arpRing (s.workers w) (s.workers w).lpid
    (fun j => s.contents ((s.workers w).buffer j)) (s.workers w).i s.app s.txRings with h | ⟨k, h⟩
  · exact .inl h
  · unfold FifoRing.enqueueBulk at h
    split at h
    · exact .inr ⟨k, _, h, rfl⟩
    · rw [Function.update_eq_self] at h
      exact .inl h

/-- **What a move does to the places.** -/
theorem shifts_step (s : State σ) (l : Label) : P.Shifts s (P.step s l) l := by
  by_cases henabled : P.Enabled s l
  · rw [step.eq_def, if_pos henabled]
    cases l with
    | rx p frames => exact shifts_receive p frames
    | tx p takes => exact shifts_transmitTurn p takes
    | dequeue w => exact shifts_dequeueBurst henabled.1
    | handle w => exact shifts_handlePacket henabled.1 henabled.2
  · rw [step.eq_def, if_neg henabled]
    exact .stays rfl rfl rfl rfl le_rfl

end Shifts

/-! ## Queues and bursts -/

/-- What the observer can say of any run, whatever the number of workers: every ring is a queue,
what left an rx ring left it in whole bursts, and what was ever put on a tx ring had left an rx
ring. -/
structure WaitsForBurst (s : State σ) (tr : Trace) : Prop where
  rxFollows : ∀ k, (tr.rx k).Follows (s.rxRings k)
  txFollows : ∀ k, (tr.tx k).Follows (s.txRings k)
  wholeBursts : ∀ k, P.burst ∣ (tr.rx k).left.length
  held : ∀ w, ∀ id ∈ (s.workers w).rxMbufs, ∃ j, id ∈ (tr.rx j).left
  queued : ∀ k, ∀ id ∈ (tr.tx k).entered, ∃ j, id ∈ (tr.rx j).left

section Queues

variable {P} {s s' : State σ} {l : Label} {tr : Trace}

/-- The rx rings move as queues do, -/
theorem Shifts.rxMoves (h : P.Shifts s s' l) (k : ℕ) : (s.rxRings k).Moves (s'.rxRings k) := by
  cases h with
  | stays hrx | transmits _ _ _ hrx | handles _ _ _ _ hrx =>
      rw [hrx]
      exact .refl _
  | @receives p _ n r hrx hput =>
      rw [hrx]
      by_cases hk : k = P.slot p
      · subst hk
        rw [Function.update_self]
        rcases hput with hput | rfl
        · exact .put _ hput
        · exact .refl _
      · rw [Function.update_of_ne hk]
        exact .refl _
  | @dequeues w j r dq next hw hrx htake =>
      rw [hrx]
      by_cases hk : k = j
      · subst hk
        rw [Function.update_self]
        exact .take _ htake
      · rw [Function.update_of_ne hk]
        exact .refl _

/-- …and so do the tx rings. -/
theorem Shifts.txMoves (h : P.Shifts s s' l) (k : ℕ) : (s.txRings k).Moves (s'.txRings k) := by
  cases h with
  | stays _ htx | receives _ _ htx | dequeues _ _ _ _ _ htx =>
      rw [htx]
      exact .refl _
  | @transmits p takes r dq htx htake =>
      rw [htx]
      by_cases hk : k = P.slot p
      · subst hk
        rw [Function.update_self]
        exact .take _ htake
      · rw [Function.update_of_ne hk]
        exact .refl _
  | handles _ _ _ htx =>
      rcases htx with htx | ⟨j, r, htx, hput⟩
      · rw [htx]
        exact .refl _
      · rw [htx]
        by_cases hk : k = j
        · subst hk
          rw [Function.update_self]
          exact .put _ hput
        · rw [Function.update_of_ne hk]
          exact .refl _

/-- Only a worker takes buffers off rx rings: the ones it holds from then on. -/
theorem left_observe (tr : Trace) (h : P.Shifts s s' l) (k : ℕ) :
    ((tr.rx k).observe (s.rxRings k) (s'.rxRings k)).left = (tr.rx k).left ∨
      ∃ w, ((tr.rx k).observe (s.rxRings k) (s'.rxRings k)).left =
        (tr.rx k).left ++ (s'.workers w).rxMbufs ∧
          ((s'.workers w).rxMbufs = [] ∨ (s'.workers w).rxMbufs.length = P.burst) := by
  cases h with
  | stays hrx | transmits _ _ _ hrx | handles _ _ _ _ hrx =>
      rw [hrx, Passage.observe_self]
      exact .inl rfl
  | @receives p _ n r hrx hput =>
      rw [hrx]
      by_cases hk : k = P.slot p
      · subst hk
        rw [Function.update_self]
        rcases hput with hput | rfl
        · rw [Passage.observe_of_put hput]
          exact .inl rfl
        · rw [Passage.observe_self]
          exact .inl rfl
      · rw [Function.update_of_ne hk, Passage.observe_self]
        exact .inl rfl
  | @dequeues w j r dq next hw hrx htake hburst hworkers =>
      rw [hrx]
      by_cases hk : k = j
      · subst hk
        refine .inr ⟨w, ?_⟩
        rw [Function.update_self, Passage.observe_of_take htake, hworkers, Function.update_self]
        exact ⟨rfl, hburst⟩
      · rw [Function.update_of_ne hk, Passage.observe_self]
        exact .inl rfl

/-- What had left an rx ring has left it. -/
theorem released_observe {id : ℕ} (h : ∃ j, id ∈ (tr.rx j).left) :
    ∃ j, id ∈ ((P.observe s l tr).rx j).left := by
  obtain ⟨j, hj⟩ := h
  exact ⟨j, List.mem_append_left _ hj⟩

/-- A worker holds what has left an rx ring. -/
theorem held_observe (h : P.WaitsForBurst s tr) (hshifts : P.Shifts s (P.step s l) l) (w : ℕ)
    {id : ℕ} (hid : id ∈ ((P.step s l).workers w).rxMbufs) :
    ∃ j, id ∈ ((P.observe s l tr).rx j).left := by
  cases hshifts with
  | stays _ _ hworkers | receives _ _ _ hworkers | transmits _ _ _ _ hworkers =>
      rw [hworkers] at hid
      exact released_observe (h.held w id hid)
  | @dequeues v k r dq next hv hrx htake hburst hworkers =>
      rw [hworkers] at hid
      by_cases hw : w = v
      · subst hw
        rw [Function.update_self] at hid
        refine ⟨k, ?_⟩
        simp only [observe, hrx, Function.update_self, Passage.observe_of_take htake]
        exact List.mem_append_right _ hid
      · rw [Function.update_of_ne hw] at hid
        exact released_observe (h.held w id hid)
  | @handles v hv hi hworkers =>
      rw [hworkers] at hid
      refine released_observe (h.held w id ?_)
      by_cases hw : w = v
      · subst hw
        rwa [Function.update_self] at hid
      · rwa [Function.update_of_ne hw] at hid

/-- The front of an array that is not empty is in it. -/
theorem buffer_zero_mem {wk : Worker} (h : wk.i < wk.rxMbufs.length) :
    wk.buffer 0 ∈ wk.rxMbufs := by
  have hlt : 0 < wk.rxMbufs.length := by omega
  rw [Worker.buffer, List.getD_eq_getElem _ _ hlt]
  exact List.getElem_mem hlt

/-- What goes onto a tx ring has left an rx ring. -/
theorem queued_observe (h : P.WaitsForBurst s tr) (hshifts : P.Shifts s (P.step s l) l) (k : ℕ)
    {id : ℕ} (hid : id ∈ ((P.observe s l tr).tx k).entered) :
    ∃ j, id ∈ ((P.observe s l tr).rx j).left := by
  simp only [observe] at hid
  cases hshifts with
  | stays _ htx | receives _ _ htx | dequeues _ _ _ _ _ htx =>
      rw [htx, Passage.observe_self] at hid
      exact released_observe (h.queued k id hid)
  | @transmits p takes r dq htx htake =>
      rw [htx] at hid
      refine released_observe (h.queued k id ?_)
      by_cases hk : k = P.slot p
      · subst hk
        rwa [Function.update_self, Passage.observe_of_take htake] at hid
      · rwa [Function.update_of_ne hk, Passage.observe_self] at hid
  | @handles w hw hi hworkers htx =>
      rcases htx with htx | ⟨j, r, htx, hput⟩
      · rw [htx, Passage.observe_self] at hid
        exact released_observe (h.queued k id hid)
      · rw [htx] at hid
        by_cases hk : k = j
        · subst hk
          rw [Function.update_self, Passage.observe_of_put hput] at hid
          rcases List.mem_append.mp hid with hid | hid
          · exact released_observe (h.queued k id hid)
          · rw [List.mem_singleton.mp hid]
            exact released_observe (h.held w _ (buffer_zero_mem hi))
        · rw [Function.update_of_ne hk, Passage.observe_self] at hid
          exact released_observe (h.queued k id hid)

/-- What a thread transmits comes off the tx ring of its slot. -/
theorem sent_observe (hshifts : P.Shifts s (P.step s l) l)
    (htransmit : ∀ takes burst, (P.transmit takes burst).1.Sublist burst) {k : ℕ}
    (h : (tr.sent k).Sublist (tr.tx k).left) :
    ((P.observe s l tr).sent k).Sublist ((P.observe s l tr).tx k).left := by
  have hleft : (tr.tx k).left.Sublist ((P.observe s l tr).tx k).left :=
    List.sublist_append_left _ _
  cases hshifts with
  | receives | dequeues | handles => exact h.trans hleft
  | stays _ _ _ hdevice =>
      cases l with
      | tx p takes =>
          simp only [observe, hdevice, List.drop_length, List.append_nil,
            Function.update_eq_self] at hleft ⊢
          exact h.trans hleft
      | rx | dequeue | handle => exact h.trans hleft
  | @transmits p takes r dq htx htake hdevice =>
      simp only [observe] at hleft ⊢
      by_cases hk : k = P.slot p
      · subst hk
        rw [Function.update_self, htx, Function.update_self, Passage.observe_of_take htake, hdevice,
          List.drop_left]
        exact h.append (htransmit takes dq)
      · rw [Function.update_of_ne hk]
        exact h.trans hleft

theorem waitsForBurst_step (h : P.WaitsForBurst s tr) (l : Label) :
    P.WaitsForBurst (P.step s l) (P.observe s l tr) where
  rxFollows k := (h.rxFollows k).observe ((P.shifts_step s l).rxMoves k)
  txFollows k := (h.txFollows k).observe ((P.shifts_step s l).txMoves k)
  wholeBursts k := by
    have hbefore := h.wholeBursts k
    rcases left_observe tr (P.shifts_step s l) k with hleft | ⟨w, hleft, hburst⟩
    · exact hleft ▸ hbefore
    · have hlength := congrArg List.length hleft
      rw [List.length_append] at hlength
      rcases hburst with hnone | hfull
      · rw [hnone, List.length_nil, Nat.add_zero] at hlength
        exact hlength ▸ hbefore
      · rw [hfull] at hlength
        exact hlength ▸ (Nat.dvd_add hbefore (dvd_refl P.burst))
  held w _ hid := held_observe h (P.shifts_step s l) w hid
  queued k _ hid := queued_observe h (P.shifts_step s l) k hid

end Queues

variable {P}

/-- Frames that are no burst yet have not left their ring. -/
theorem WaitsForBurst.left_eq_nil {s : State σ} {tr : Trace} (h : P.WaitsForBurst s tr) {k : ℕ}
    (hfew : (tr.rx k).entered.length < P.burst) : (tr.rx k).left = [] := by
  have hle := (h.rxFollows k).left_sublist.length_le
  exact List.length_eq_zero_iff.mp (Nat.eq_zero_of_dvd_of_lt (h.wholeBursts k) (by omega))

/-- Every run is observed so. -/
theorem waitsForBurst_of_run (P : Pipeline σ) (rxCap txCap : ℕ → ℕ) (contents : ℕ → Window)
    (app : σ) (run : List Label) :
    let st := P.observedRun (State.init rxCap txCap contents app, .start) run
    P.WaitsForBurst st.1 st.2 := by
  refine P.observedRun_invariant (I := fun st => P.WaitsForBurst st.1 st.2) ?_ ?_ run
  · refine ⟨fun k => Passage.follows_start _, fun k => Passage.follows_start _,
      fun k => dvd_zero _, fun w id hid => ?_, fun k id hid => ?_⟩
    · exact absurd hid List.not_mem_nil
    · exact absurd hid List.not_mem_nil
  · exact fun st l h => waitsForBurst_step h l

/-! ## One worker -/

/-- The buffers of slot `j` the worker can still put on a tx ring, in order. -/
def upcoming (s : State σ) (j : ℕ) : List ℕ :=
  (if (s.workers 0).lpid = j then (s.workers 0).rxMbufs else []) ++ (s.rxRings j).entries

/-- The buffers of slot `j` among those put on tx ring `k`, in order. -/
def queuedFrom (tr : Trace) (j k : ℕ) : List ℕ :=
  (tr.tx k).entered.filter fun id => tr.origin id = j

/-- Whatever was put on a tx ring came in before what can still be put on one, slot by slot. -/
structure InOrder (s : State σ) (tr : Trace) : Prop where
  fresh : ∀ j, ∀ id ∈ upcoming s j, id < s.received ∧ tr.origin id = j
  queuedFresh : ∀ k, ∀ id ∈ (tr.tx k).entered, id < s.received
  ordered : ∀ j k, (queuedFrom tr j k ++ upcoming s j).Pairwise (· ≤ ·)

section Order

variable {s s' : State σ} {l : Label} {tr tr' : Trace}

/-- The observer does not change its mind about where a buffer came in. -/
theorem origin_observe {id : ℕ} (h : id < s.received) :
    (P.observe s l tr).origin id = tr.origin id := by
  cases l with
  | rx p frames => exact if_neg (by omega)
  | tx | dequeue | handle => rfl

theorem queuedFrom_congr (h : InOrder s tr) {k : ℕ}
    (hentered : (tr'.tx k).entered = (tr.tx k).entered)
    (horigin : ∀ id < s.received, tr'.origin id = tr.origin id) (j : ℕ) :
    queuedFrom tr' j k = queuedFrom tr j k := by
  unfold queuedFrom
  rw [hentered]
  refine List.filter_congr fun id hid => ?_
  rw [horigin id (h.queuedFresh k id hid)]

/-- A move that puts nothing on a tx ring and takes the upcoming buffers as they come. -/
theorem InOrder.of_sublist (h : InOrder s tr) (hreceived : s.received ≤ s'.received)
    (hupcoming : ∀ j, (upcoming s' j).Sublist (upcoming s j))
    (hentered : ∀ k, (tr'.tx k).entered = (tr.tx k).entered)
    (horigin : ∀ id < s.received, tr'.origin id = tr.origin id) : InOrder s' tr' where
  fresh j id hid := by
    obtain ⟨hlt, hj⟩ := h.fresh j id ((hupcoming j).subset hid)
    exact ⟨hlt.trans_le hreceived, (horigin id hlt).trans hj⟩
  queuedFresh k id hid := by
    rw [hentered k] at hid
    exact (h.queuedFresh k id hid).trans_le hreceived
  ordered j k := by
    rw [queuedFrom_congr h (hentered k) horigin]
    exact (h.ordered j k).sublist ((List.Sublist.refl _).append (hupcoming j))

/-- A burst comes in behind everything else. -/
theorem inOrder_receives (h : InOrder s tr) {p n : ℕ} {frames : List Window} {r : FifoRing ℕ}
    (hrx : s'.rxRings = Function.update s.rxRings (P.slot p) r)
    (hput : r.entries = (s.rxRings (P.slot p)).entries ++ List.range' s.received n)
    (hworkers : s'.workers = s.workers) (hreceived : s'.received = s.received + n)
    (hentered : ∀ k, (tr'.tx k).entered = (tr.tx k).entered)
    (horigin : tr'.origin = (P.observe s (.rx p frames) tr).origin) : InOrder s' tr' := by
  have hold : ∀ id < s.received, tr'.origin id = tr.origin id := by
    intro id hid
    rw [horigin]
    exact origin_observe hid
  have hnew : ∀ id, s.received ≤ id → tr'.origin id = P.slot p := by
    intro id hid
    rw [horigin]
    exact if_pos hid
  have hupcoming : ∀ j, upcoming s' j =
      upcoming s j ++ if j = P.slot p then List.range' s.received n else [] := by
    intro j
    unfold upcoming
    rw [hworkers, hrx]
    by_cases hj : j = P.slot p
    · subst hj
      rw [Function.update_self, hput, if_pos rfl, List.append_assoc]
    · rw [Function.update_of_ne hj, if_neg hj, List.append_nil]
  constructor
  · intro j id hid
    rw [hupcoming] at hid
    rcases List.mem_append.mp hid with hid | hid
    · obtain ⟨hlt, hj⟩ := h.fresh j id hid
      exact ⟨by omega, (hold id hlt).trans hj⟩
    · split at hid
      · rename_i hj
        obtain ⟨hle, hlt⟩ := List.mem_range'_1.mp hid
        exact ⟨by omega, (hnew id hle).trans hj.symm⟩
      · exact absurd hid List.not_mem_nil
  · intro k id hid
    rw [hentered k] at hid
    have hlt := h.queuedFresh k id hid
    omega
  · intro j k
    rw [queuedFrom_congr h (hentered k) hold, hupcoming, ← List.append_assoc, List.pairwise_append]
    refine ⟨h.ordered j k, ?_, fun a ha b hb => ?_⟩
    · split
      · exact List.pairwise_le_range'
      · exact .nil
    · have halt : a < s.received := by
        rcases List.mem_append.mp ha with ha | ha
        · exact h.queuedFresh k a (List.mem_of_mem_filter ha)
        · exact (h.fresh j a ha).1
      split at hb
      · exact halt.le.trans (List.mem_range'_1.mp hb).1
      · exact absurd hb List.not_mem_nil

/-- The front of an order goes in front of it once more. -/
theorem pairwise_le_front {front rest : List ℕ} {a : ℕ}
    (h : (front ++ a :: rest).Pairwise (· ≤ ·)) :
    (front ++ [a] ++ a :: rest).Pairwise (· ≤ ·) := by
  rw [List.append_assoc, List.singleton_append]
  rw [List.pairwise_append, List.pairwise_cons] at h ⊢
  obtain ⟨hfront, ⟨ha, hrest⟩, hcross⟩ := h
  refine ⟨hfront, ⟨?_, List.pairwise_cons.mpr ⟨ha, hrest⟩⟩, ?_⟩
  · intro b hb
    rcases List.mem_cons.mp hb with rfl | hb
    · exact le_rfl
    · exact ha b hb
  · intro c hc b hb
    rcases List.mem_cons.mp hb with rfl | hb
    · exact hcross c hc _ List.mem_cons_self
    · exact hcross c hc b hb

/-- The worker puts the front of its array on a tx ring. -/
theorem inOrder_handles (h : InOrder s tr) (hi : (s.workers 0).i < (s.workers 0).rxMbufs.length)
    (hupcoming : ∀ j, upcoming s' j = upcoming s j) (hreceived : s'.received = s.received)
    {i : ℕ} (hentered : (tr'.tx i).entered = (tr.tx i).entered ++ [(s.workers 0).buffer 0])
    (hothers : ∀ k, k ≠ i → (tr'.tx k).entered = (tr.tx k).entered)
    (horigin : ∀ id < s.received, tr'.origin id = tr.origin id) : InOrder s' tr' := by
  set front := (s.workers 0).buffer 0 with hfront
  have hmem : front ∈ upcoming s (s.workers 0).lpid := by
    unfold upcoming
    rw [if_pos rfl]
    exact List.mem_append_left _ (buffer_zero_mem hi)
  obtain ⟨hlt, hslot⟩ := h.fresh _ front hmem
  constructor
  · intro j id hid
    rw [hupcoming] at hid
    obtain ⟨hidlt, hj⟩ := h.fresh j id hid
    exact ⟨hreceived ▸ hidlt, (horigin id hidlt).trans hj⟩
  · intro k id hid
    rw [hreceived]
    by_cases hk : k = i
    · subst hk
      rw [hentered] at hid
      rcases List.mem_append.mp hid with hid | hid
      · exact h.queuedFresh k id hid
      · exact List.mem_singleton.mp hid ▸ hlt
    · rw [hothers k hk] at hid
      exact h.queuedFresh k id hid
  · intro j k
    rw [hupcoming]
    by_cases hk : k = i
    · subst hk
      have hfilter : queuedFrom tr' j k =
          queuedFrom tr j k ++ [front].filter (tr'.origin · = j) := by
        unfold queuedFrom
        rw [hentered, List.filter_append]
        congr 1
        refine List.filter_congr fun id hid => ?_
        rw [horigin id (h.queuedFresh k id hid)]
      rw [hfilter]
      by_cases hj : (s.workers 0).lpid = j
      · -- the front of the array is the front of the upcoming buffers of its slot
        have hhead : upcoming s j =
            front :: ((s.workers 0).rxMbufs.tail ++ (s.rxRings j).entries) := by
          unfold upcoming
          rw [if_pos hj, ← List.cons_append]
          congr 1
          cases harray : (s.workers 0).rxMbufs with
          | nil => simp [harray] at hi
          | cons a rest => simp [hfront, Worker.buffer, harray]
        have hbefore := h.ordered j k
        rw [List.filter_cons_of_pos (by simp [horigin front hlt, hslot, hj]), List.filter_nil,
          hhead]
        rw [hhead] at hbefore
        exact pairwise_le_front hbefore
      · rw [List.filter_cons_of_neg (by simp [horigin front hlt, hslot, hj]), List.filter_nil,
          List.append_nil]
        exact h.ordered j k
    · rw [queuedFrom_congr h (hothers k hk) horigin]
      exact h.ordered j k

theorem inOrder_step (hone : P.nWorkers ≤ 1) (h : InOrder s tr) (l : Label) :
    InOrder (P.step s l) (P.observe s l tr) := by
  have horigin : ∀ id < s.received, (P.observe s l tr).origin id = tr.origin id :=
    fun _ => origin_observe
  have hframe : ∀ k, (P.step s l).txRings k = s.txRings k →
      ((P.observe s l tr).tx k).entered = (tr.tx k).entered := by
    intro k hk
    simp only [observe, hk, Passage.observe_self]
  have hshifts := P.shifts_step s l
  generalize hs' : P.step s l = s' at hshifts hframe ⊢
  cases hshifts with
  | stays hrx htx hworkers _ hreceived =>
      refine h.of_sublist hreceived (fun j => ?_) (fun k => hframe k (by rw [htx])) horigin
      unfold upcoming
      rw [hrx, hworkers]
  | @receives p frames n r hrx hput htx hworkers _ hreceived =>
      rcases hput with hput | rfl
      · exact inOrder_receives h hrx hput hworkers hreceived (fun k => hframe k (by rw [htx])) rfl
      · rw [Function.update_eq_self] at hrx
        refine h.of_sublist (hreceived ▸ Nat.le_add_right _ _) (fun j => ?_)
          (fun k => hframe k (by rw [htx])) horigin
        unfold upcoming
        rw [hrx, hworkers]
  | @transmits p takes r dq htx htake _ hrx hworkers hreceived =>
      refine h.of_sublist hreceived.ge (fun j => ?_) (fun k => ?_) horigin
      · unfold upcoming
        rw [hrx, hworkers]
      · by_cases hk : k = P.slot p
        · subst hk
          simp only [observe, hs', htx, Function.update_self, Passage.observe_of_take htake]
        · exact hframe k (by rw [htx, Function.update_of_ne hk])
  | @dequeues w i r dq next hw hrx htake _ hworkers htx _ hreceived =>
      obtain rfl : w = 0 := by omega
      refine h.of_sublist hreceived.ge (fun j => ?_) (fun k => hframe k (by rw [htx])) horigin
      unfold upcoming
      rw [hrx, hworkers, Function.update_self]
      dsimp only
      by_cases hj : i = j
      · subst hj
        rw [if_pos rfl, Function.update_self, ← htake]
        exact List.sublist_append_right _ _
      · rw [if_neg hj, Function.update_of_ne (Ne.symm hj)]
        exact List.sublist_append_right _ _
  | @handles w hw hi hworkers htx hrx _ hreceived =>
      obtain rfl : w = 0 := by omega
      have hupcoming : ∀ j, upcoming s' j = upcoming s j := by
        intro j
        unfold upcoming
        rw [hrx, hworkers, Function.update_self]
        rfl
      rcases htx with htx | ⟨i, r, htx, hput⟩
      · exact h.of_sublist hreceived.ge (fun j => (hupcoming j ▸ List.Sublist.refl _))
          (fun k => hframe k (by rw [htx])) horigin
      · refine inOrder_handles h hi hupcoming hreceived (i := i) ?_ (fun k hk => ?_) horigin
        · simp only [observe, hs', htx, Function.update_self, Passage.observe_of_put hput]
        · exact hframe k (by rw [htx, Function.update_of_ne hk])

theorem inOrder_init (rxCap txCap : ℕ → ℕ) (contents : ℕ → Window) (app : σ) :
    InOrder (State.init rxCap txCap contents app) .start := by
  have hupcoming : ∀ j, upcoming (State.init rxCap txCap contents app) j = [] := by
    intro j
    unfold upcoming
    split <;> rfl
  constructor
  · intro j id hid
    rw [hupcoming] at hid
    exact absurd hid List.not_mem_nil
  · intro k id hid
    exact absurd hid List.not_mem_nil
  · intro j k
    rw [hupcoming]
    exact .nil

/-- With one worker, what leaves from a slot leaves in the order it came in on another. -/
theorem sentInOrder_of_run (hone : P.nWorkers ≤ 1)
    (htransmit : ∀ takes burst, (P.transmit takes burst).1.Sublist burst) (rxCap txCap : ℕ → ℕ)
    (contents : ℕ → Window) (app : σ) (run : List Label) (j k : ℕ) :
    let tr := (P.observedRun (State.init rxCap txCap contents app, .start) run).2
    ((tr.sent k).filter fun id => tr.origin id = j).Pairwise (· ≤ ·) := by
  intro tr
  have horder : InOrder (P.observedRun (State.init rxCap txCap contents app, .start) run).1 tr :=
    P.observedRun_invariant (I := fun st => InOrder st.1 st.2) (inOrder_init ..)
      (fun st l h => inOrder_step hone h l) run
  have hsent : (tr.sent k).Sublist (tr.tx k).left :=
    P.observedRun_invariant (I := fun st => (st.2.sent k).Sublist (st.2.tx k).left)
      (List.Sublist.refl _) (fun st l h => sent_observe (P.shifts_step st.1 l) htransmit h) run
  have hfollows := (P.waitsForBurst_of_run rxCap txCap contents app run).txFollows k
  have hqueued := (List.pairwise_append.mp (horder.ordered j k)).1
  exact hqueued.sublist ((hsent.trans hfollows.left_sublist).filter _)

end Order

end Pipeline

/-- **Frames wait for a full burst.**  In every run of either backend, with any number of workers:
the rings are queues; what has left an rx ring has left it in whole bursts, so that frames that are
no burst yet stay where they are; and nothing is put on a tx ring that has not left an rx ring. -/
theorem frames_wait_for_burst (env : WorkerEnv σ) (fwd : Dpdk.Streams) (nWorkers burst : ℕ)
    (rxCap txCap : ℕ → ℕ) (contents : ℕ → Window) (app : σ) (run : List Label) :
    let start := (State.init rxCap txCap contents app, Trace.start)
    let cndp := (Cndp.pipeline env nWorkers burst).observedRun start run
    let dpdk := (Dpdk.pipeline env fwd nWorkers burst).observedRun start run
    ((Cndp.pipeline env nWorkers burst).WaitsForBurst cndp.1 cndp.2 ∧
        ∀ k, (cndp.2.rx k).entered.length < burst → (cndp.2.rx k).left = []) ∧
      (Dpdk.pipeline env fwd nWorkers burst).WaitsForBurst dpdk.1 dpdk.2 ∧
        ∀ k, (dpdk.2.rx k).entered.length < burst → (dpdk.2.rx k).left = [] := by
  have hcndp := (Cndp.pipeline env nWorkers burst).waitsForBurst_of_run rxCap txCap contents app run
  have hdpdk :=
    (Dpdk.pipeline env fwd nWorkers burst).waitsForBurst_of_run rxCap txCap contents app run
  exact ⟨⟨hcndp, fun k => hcndp.left_eq_nil⟩, hdpdk, fun k => hdpdk.left_eq_nil⟩

/-- **One worker keeps the order.**  In every run of either backend with one worker, the frames that
came in on slot `j` and were sent from slot `k` were sent in the order they came in. -/
theorem oneWorker_keeps_order (env : WorkerEnv σ) (fwd : Dpdk.Streams) (burst : ℕ)
    (rxCap txCap : ℕ → ℕ) (contents : ℕ → Window) (app : σ) (run : List Label) (j k : ℕ) :
    let start := (State.init rxCap txCap contents app, Trace.start)
    let cndp := ((Cndp.pipeline env 1 burst).observedRun start run).2
    let dpdk := ((Dpdk.pipeline env fwd 1 burst).observedRun start run).2
    ((cndp.sent k).filter fun id => cndp.origin id = j).Pairwise (· ≤ ·) ∧
      ((dpdk.sent k).filter fun id => dpdk.origin id = j).Pairwise (· ≤ ·) := by
  constructor
  · exact Pipeline.sentInOrder_of_run (P := Cndp.pipeline env 1 burst) le_rfl
      (fun _ _ => List.take_sublist _ _) rxCap txCap contents app run j k
  · exact Pipeline.sentInOrder_of_run (P := Dpdk.pipeline env fwd 1 burst) le_rfl
      (fun _ _ => List.take_sublist _ _) rxCap txCap contents app run j k

/-- Two workers take a frame each from the same ring, and the second one is done first. -/
def overtakingRun : List Label :=
  [.rx 0 [udpFrame 2152], .tx 0 fun _ => 1, .rx 0 [udpFrame 2152], .dequeue 0, .dequeue 1,
    .handle 1, .handle 0, .tx 0 fun _ => 1, .tx 0 fun _ => 1]

/-- With two workers the frames leave in the other order. -/
theorem twoWorkers_overtake :
    ((Cndp.pipeline forwardEnv 2 1).observedRun (emptyState, .start) overtakingRun).2.sent 0 =
      [1, 0] := by
  decide

end UdxFastpath
