import UdxFastpath.Core.Worker
import UdxFastpath.Foundation.Conservation

/-!
# The master-worker pipeline

The system the receiving threads and the workers form together:

* a **receiving thread** per logical port (CNDP) or stream (DPDK) takes a burst from
  the device, puts it on the rx ring of its slot, then moves bursts from the tx ring
  of its slot to the device until that ring was seen empty;
* a **worker** goes round the rx rings, takes a full burst or nothing, and disposes of
  its packets one by one, onto a tx ring or back to the pool.

Buffers are tokens: the `n`-th buffer ever received is `n`.  A state records which
tokens are where, and what each buffer holds.  A label names the thread that moves
and everything the outside decides: the frames that arrived, how much the device
took.  `step` is total; a label whose thread is elsewhere in its loop changes
nothing, so the runs are all interleavings.

`Conserved` is the ownership invariant, stated by counting, and `Keeps` the condition
under which one step preserves it (`conserved_step`).
-/

namespace UdxFastpath

open ByteWindow Conservation

/-! ## The pipeline -/

/-- A master-worker configuration.  The last four fields are where the backends
differ: which ring belongs to a receiving thread, whether a thread that received
nothing goes on to transmit, where an ARP answer goes, and what becomes of a burst
offered to the device — the part that is transmitted and the part that is freed. -/
structure Pipeline (σ : Type*) where
  env : WorkerEnv σ
  nWorkers : ℕ
  burst : ℕ
  nPorts : ℕ
  slot : ℕ → ℕ
  drainsWhenIdle : Bool
  arpRing : ℕ → ℕ → ℕ
  transmit : (ℕ → ℕ) → List ℕ → List ℕ × List ℕ

/-- A worker: its array, its position in it, the ring the array came from and the
ring it turns to next. -/
structure Worker where
  rxMbufs : List ℕ
  i : ℕ
  lpid : ℕ
  next : ℕ

/-- The buffers a worker still has to deal with. -/
def Worker.held (w : Worker) : List ℕ := w.rxMbufs.drop w.i

/-- The buffer with position `j` in the array. -/
def Worker.buffer (w : Worker) (j : ℕ) : ℕ := w.rxMbufs.getD j 0

/-- The worker after one more iteration. -/
def Worker.advance (w : Worker) : Worker := { w with i := w.i + 1 }

/-- A state of the pipeline. -/
structure State (σ : Type*) where
  rxRings : ℕ → FifoRing ℕ
  txRings : ℕ → FifoRing ℕ
  workers : ℕ → Worker
  draining : ℕ → Bool
  device : List ℕ
  freed : List ℕ
  received : ℕ
  contents : ℕ → Window
  fault : Bool
  app : σ

/-- A move of one thread, with what the outside contributes to it. -/
inductive Label
  | rx (p : ℕ) (frames : List Window)
  | tx (p : ℕ) (takes : ℕ → ℕ)
  | dequeue (w : ℕ)
  | handle (w : ℕ)

variable {σ : Type*}

/-- Nothing received yet, every ring empty. -/
def State.init (rxCap txCap : ℕ → ℕ) (contents : ℕ → Window) (app : σ) : State σ where
  rxRings k := FifoRing.create (rxCap k)
  txRings k := FifoRing.create (txCap k)
  workers _ := ⟨[], 0, 0, 0⟩
  draining _ := false
  device := []
  freed := []
  received := 0
  contents := contents
  fault := false
  app := app

namespace Pipeline

variable (P : Pipeline σ)

/-! ## Steps -/

/-- The thread of the label is where it can make this move. -/
def Enabled (s : State σ) : Label → Prop
  | .rx p _ => p < P.nPorts ∧ s.draining p = false
  | .tx p _ => p < P.nPorts ∧ s.draining p = true
  | .dequeue w => w < P.nWorkers ∧ (s.workers w).rxMbufs.length ≤ (s.workers w).i
  | .handle w => w < P.nWorkers ∧ (s.workers w).i < (s.workers w).rxMbufs.length

instance (s : State σ) : (l : Label) → Decidable (P.Enabled s l)
  | .rx _ _ => inferInstanceAs (Decidable (_ ∧ _))
  | .tx _ _ => inferInstanceAs (Decidable (_ ∧ _))
  | .dequeue _ => inferInstanceAs (Decidable (_ ∧ _))
  | .handle _ => inferInstanceAs (Decidable (_ ∧ _))

/-- The receive half of `master_worker`: the burst becomes the next tokens and goes to
the rx ring of the slot, all of it or none. -/
def receive (s : State σ) (p : ℕ) (frames : List Window) : State σ :=
  let burst := frames.take P.burst
  if burst = [] ∧ P.drainsWhenIdle = false then s
  else
    let tokens := List.range' s.received burst.length
    let s := { s with
      received := s.received + burst.length
      contents := fun id => ((if s.received ≤ id then burst[id - s.received]? else none).getD
        (s.contents id)) }
    -- the result of the enqueue is not looked at
    if P.slot p < P.env.nRings then
      { s with
        rxRings := Function.update s.rxRings (P.slot p)
          ((s.rxRings (P.slot p)).enqueueBulk tokens).1
        draining := Function.update s.draining p true }
    else { s with fault := true }

/-- One turn of the transmit loop of `master_worker`. -/
def transmitTurn (s : State σ) (p : ℕ) (takes : ℕ → ℕ) : State σ :=
  if P.slot p < P.env.nRings then
    let dq := (s.txRings (P.slot p)).dequeueBurst P.burst
    let sent := P.transmit takes dq.2
    -- the thread stays in its loop while `available` is not zero
    { s with
      txRings := Function.update s.txRings (P.slot p) dq.1
      device := s.device ++ sent.1
      freed := s.freed ++ sent.2
      draining := Function.update s.draining p (!dq.1.entries.isEmpty) }
  else { s with fault := true }

/-- The worker turns to its next ring and takes a full burst or nothing. -/
def dequeueBurst (s : State σ) (w : ℕ) : State σ :=
  let wk := s.workers w
  if wk.next < P.env.nRings then
    let dq := (s.rxRings wk.next).dequeueBulk P.burst
    { s with
      rxRings := Function.update s.rxRings wk.next dq.1
      workers := Function.update s.workers w ⟨dq.2, 0, wk.next, (wk.next + 1) % P.env.nRings⟩ }
  else s

end Pipeline

/-- What an event of an iteration does to the places. -/
def State.apply (wk : Worker) (s : State σ) : Event → State σ
  | .free j => { s with freed := s.freed ++ [wk.buffer j] }
  | .transmit j k _ =>
      { s with txRings := Function.update s.txRings k ((s.txRings k).enqueueBulk [wk.buffer j]).1 }
  | .wild _ _ => { s with fault := true }
  | _ => s

namespace Pipeline

variable (P : Pipeline σ)

/-- One iteration of the worker loop. -/
def handlePacket (s : State σ) (w : ℕ) : State σ :=
  let wk := s.workers w
  let r := workerPacket P.env P.arpRing wk.lpid (fun j => s.contents (wk.buffer j)) wk.i s.app
  let s := { s with
    workers := Function.update s.workers w wk.advance
    contents := Function.update s.contents (wk.buffer wk.i) r.2.1
    app := r.2.2 }
  r.1.foldl (State.apply wk) s

/-- The pipeline, one move at a time. -/
def step (s : State σ) (l : Label) : State σ :=
  if P.Enabled s l then
    match l with
    | .rx p frames => P.receive s p frames
    | .tx p takes => P.transmitTurn s p takes
    | .dequeue w => P.dequeueBurst s w
    | .handle w => P.handlePacket s w
  else s

/-! ## Conservation -/

/-- In how many places a buffer is. -/
def places (s : State σ) (id : ℕ) : ℕ :=
  tally P.env.nRings (fun k => (s.rxRings k).entries) id +
    tally P.nWorkers (fun w => (s.workers w).held) id +
    tally P.env.nRings (fun k => (s.txRings k).entries) id + s.device.count id + s.freed.count id

/-- **Every received buffer is in exactly one place**, and nothing wild has
happened. -/
def Conserved (s : State σ) : Prop :=
  s.fault = false ∧ ∀ id, P.places s id = if id < s.received then 1 else 0

/-- The iteration of worker `wk` **keeps** its packet: it frees it, or it is at the
front of the array and the ring it queues it on exists and has room. -/
def KeepsPacket (s : State σ) (wk : Worker) : Prop :=
  let b := s.contents (wk.buffer wk.i)
  let queues := fun k => wk.i = 0 ∧ k < P.env.nRings ∧ (s.txRings k).HasRoom 1
  if getEtherType b = .l2EtherArp then
    let verdict := (P.env.dm.arpHandler b wk.lpid).1
    verdict ≠ DROP ∧ queues (P.arpRing wk.lpid verdict)
  else
    let verdict := (P.env.packetProcessor s.app b wk.lpid).1
    P.env.dm.filterPacket (getPacketPortNumber b) = false ∧
      (verdict = KERNEL ∨ verdict = DROP ∨ queues verdict)

/-- The receive call returned nothing and the thread goes straight back to it. -/
def Idles (frames : List Window) : Prop := frames.take P.burst = [] ∧ P.drainsWhenIdle = false

instance (frames : List Window) : Decidable (P.Idles frames) :=
  inferInstanceAs (Decidable (_ ∧ _))

/-- The moves that lose nothing: a burst that fits the rx ring, an offer the device
and the pool take between them, an iteration that keeps its packet. -/
def Keeps (s : State σ) : Label → Prop
  | .rx p frames =>
      P.Idles frames ∨
        P.slot p < P.env.nRings ∧ (s.rxRings (P.slot p)).HasRoom (frames.take P.burst).length
  | .tx p takes =>
      P.slot p < P.env.nRings ∧
        let dq := ((s.txRings (P.slot p)).dequeueBurst P.burst).2
        (P.transmit takes dq).1 ++ (P.transmit takes dq).2 = dq
  | .dequeue _ => True
  | .handle w => P.KeepsPacket s (s.workers w)

/-! ## One step -/

section Step

variable {P} {s : State σ}

theorem conserved_receive (h : P.Conserved s) {p : ℕ} {frames : List Window}
    (hkeeps : P.Keeps s (.rx p frames)) : P.Conserved (P.receive s p frames) := by
  by_cases hidle : frames.take P.burst = [] ∧ P.drainsWhenIdle = false
  · rw [receive, if_pos hidle]
    exact h
  · obtain ⟨hslot, hroom⟩ := hkeeps.resolve_left hidle
    obtain ⟨hfault, hplaces⟩ := h
    simp only [receive, hidle, if_false, hslot, if_true]
    refine ⟨hfault, fun id => ?_⟩
    have hring := tally_map_update hslot FifoRing.entries s.rxRings
      ((s.rxRings (P.slot p)).enqueueBulk
        (List.range' s.received (frames.take P.burst).length)).1 id
    -- the burst adds one to the count of exactly the new tokens
    rw [FifoRing.entries_enqueueBulk _ (by rwa [List.length_range']), List.count_append,
      count_range'] at hring
    have hbefore := hplaces id
    simp only [places] at hbefore ⊢
    split_ifs at hbefore hring ⊢ <;> omega

theorem conserved_transmitTurn (h : P.Conserved s) {p : ℕ} {takes : ℕ → ℕ}
    (hkeeps : P.Keeps s (.tx p takes)) : P.Conserved (P.transmitTurn s p takes) := by
  obtain ⟨hslot, hall⟩ := hkeeps
  obtain ⟨hfault, hplaces⟩ := h
  rw [transmitTurn, if_pos hslot]
  refine ⟨hfault, fun id => ?_⟩
  have hring := tally_map_update hslot FifoRing.entries s.txRings
    ((s.txRings (P.slot p)).dequeueBurst P.burst).1 id
  have hsplit := congrArg (List.count id) ((s.txRings (P.slot p)).dequeueBurst_append P.burst)
  have hsent := congrArg (List.count id) hall
  rw [List.count_append] at hsplit hsent
  have hbefore := hplaces id
  simp only [places, List.count_append] at hbefore ⊢
  rw [← hbefore]
  omega

theorem conserved_dequeueBurst (h : P.Conserved s) {w : ℕ} (hw : w < P.nWorkers)
    (hdone : (s.workers w).rxMbufs.length ≤ (s.workers w).i) :
    P.Conserved (P.dequeueBurst s w) := by
  obtain ⟨hfault, hplaces⟩ := h
  rw [dequeueBurst]
  dsimp only
  split
  · rename_i hnext
    refine ⟨hfault, fun id => ?_⟩
    have hring := tally_map_update hnext FifoRing.entries s.rxRings
      ((s.rxRings (s.workers w).next).dequeueBulk P.burst).1 id
    have hworker := tally_map_update hw Worker.held s.workers
      ⟨((s.rxRings (s.workers w).next).dequeueBulk P.burst).2, 0, (s.workers w).next,
        ((s.workers w).next + 1) % P.env.nRings⟩ id
    have hsplit := congrArg (List.count id)
      ((s.rxRings (s.workers w).next).dequeueBulk_append P.burst)
    -- the array that is overwritten has been dealt with
    have hempty : (s.workers w).held = [] := List.drop_eq_nil_of_le hdone
    rw [List.count_append] at hsplit
    rw [hempty, List.count_nil] at hworker
    have hbefore := hplaces id
    simp only [places, Worker.held, List.drop_zero] at hbefore hworker ⊢
    rw [← hbefore]
    omega
  · exact ⟨hfault, hplaces⟩

/-- An iteration takes the buffer at its position out of the worker's hands. -/
theorem held_eq_cons {wk : Worker} (hi : wk.i < wk.rxMbufs.length) :
    wk.held = wk.buffer wk.i :: wk.advance.held := by
  rw [Worker.held, Worker.buffer, List.drop_eq_getElem_cons hi, List.getD_eq_getElem _ _ hi]
  rfl

/-- …and the pool takes it over. -/
theorem conserved_of_freed (h : P.Conserved s) {w : ℕ} (hw : w < P.nWorkers)
    (hi : (s.workers w).i < (s.workers w).rxMbufs.length) (contents : ℕ → Window) (app : σ) :
    P.Conserved { s with
      workers := Function.update s.workers w (s.workers w).advance
      contents := contents
      app := app
      freed := s.freed ++ [(s.workers w).buffer (s.workers w).i] } := by
  obtain ⟨hfault, hplaces⟩ := h
  refine ⟨hfault, fun id => ?_⟩
  have hworker := tally_map_update hw Worker.held s.workers (s.workers w).advance id
  rw [held_eq_cons hi, List.count_cons] at hworker
  have hbefore := hplaces id
  simp only [places, List.count_append, List.count_singleton] at hbefore ⊢
  rw [← hbefore]
  omega

/-- …or a tx ring does, if it is the first buffer and there is room. -/
theorem conserved_of_queued (h : P.Conserved s) {w k : ℕ} (hw : w < P.nWorkers)
    (hi : (s.workers w).i < (s.workers w).rxMbufs.length) (hzero : (s.workers w).i = 0)
    (hk : k < P.env.nRings) (hroom : (s.txRings k).HasRoom 1) (contents : ℕ → Window) (app : σ) :
    P.Conserved { s with
      workers := Function.update s.workers w (s.workers w).advance
      contents := contents
      app := app
      txRings := Function.update s.txRings k
        ((s.txRings k).enqueueBulk [(s.workers w).buffer 0]).1 } := by
  obtain ⟨hfault, hplaces⟩ := h
  refine ⟨hfault, fun id => ?_⟩
  have hworker := tally_map_update hw Worker.held s.workers (s.workers w).advance id
  rw [held_eq_cons hi, List.count_cons, hzero] at hworker
  have hring := tally_map_update hk FifoRing.entries s.txRings
    ((s.txRings k).enqueueBulk [(s.workers w).buffer 0]).1 id
  rw [FifoRing.entries_enqueueBulk _ hroom, List.count_append, List.count_singleton] at hring
  have hbefore := hplaces id
  simp only [places] at hbefore ⊢
  rw [← hbefore]
  omega

theorem conserved_handlePacket (h : P.Conserved s) {w : ℕ} (hw : w < P.nWorkers)
    (hi : (s.workers w).i < (s.workers w).rxMbufs.length)
    (hkeeps : P.Keeps s (.handle w)) : P.Conserved (P.handlePacket s w) := by
  simp only [Keeps, KeepsPacket] at hkeeps
  set bufs : ℕ → Window := fun j => s.contents ((s.workers w).buffer j) with hbufs
  have hpacket : s.contents ((s.workers w).buffer (s.workers w).i) = bufs (s.workers w).i := rfl
  rw [hpacket] at hkeeps
  simp only [handlePacket]
  rw [← hbufs]
  split at hkeeps
  · rename_i harp
    obtain ⟨hverdict, hzero, hk, hroom⟩ := hkeeps
    rw [workerPacket_of_arp_sent _ _ _ _ _ _ harp hverdict, enqueueFirst_of_lt hk]
    exact conserved_of_queued h hw hi hzero hk hroom _ _
  · rename_i harp
    obtain ⟨hfilter, hverdict⟩ := hkeeps
    by_cases hkernel :
        (P.env.packetProcessor s.app (bufs (s.workers w).i) (s.workers w).lpid).1 = KERNEL
    · rw [workerPacket_of_kernel _ _ _ _ _ _ harp hfilter hkernel]
      exact conserved_of_freed h hw hi _ _
    by_cases hdrop :
        (P.env.packetProcessor s.app (bufs (s.workers w).i) (s.workers w).lpid).1 = DROP
    · rw [workerPacket_of_drop _ _ _ _ _ _ harp hfilter hdrop]
      exact conserved_of_freed h hw hi _ _
    · obtain ⟨hzero, hk, hroom⟩ := (hverdict.resolve_left hkernel).resolve_left hdrop
      rw [workerPacket_of_port _ _ _ _ _ _ harp hfilter hkernel hdrop, enqueueFirst_of_lt hk]
      exact conserved_of_queued h hw hi hzero hk hroom _ _

/-- **A step that keeps what it moves preserves conservation.** -/
theorem conserved_step (h : P.Conserved s) {l : Label} (hkeeps : P.Enabled s l → P.Keeps s l) :
    P.Conserved (P.step s l) := by
  by_cases henabled : P.Enabled s l
  · rw [step.eq_def, if_pos henabled]
    cases l with
    | rx p frames => exact conserved_receive h (hkeeps henabled)
    | tx p takes => exact conserved_transmitTurn h (hkeeps henabled)
    | dequeue w => exact conserved_dequeueBurst h henabled.1 henabled.2
    | handle w => exact conserved_handlePacket h henabled.1 henabled.2 (hkeeps henabled)
  · rw [step.eq_def, if_neg henabled]
    exact h

end Step

/-- Nothing received, nothing to lose. -/
theorem conserved_init (rxCap txCap : ℕ → ℕ) (contents : ℕ → Window) (app : σ) :
    P.Conserved (State.init rxCap txCap contents app) := by
  refine ⟨rfl, fun id => ?_⟩
  simp [places, State.init, Worker.held]

/-! ## Control positions -/

/-- What the loops guarantee about their own indices: a worker holds buffers of a ring
that exists, and a thread transmits from a slot that exists. -/
structure WellFormed (s : State σ) : Prop where
  lpid_lt : ∀ w, (s.workers w).i < (s.workers w).rxMbufs.length → (s.workers w).lpid < P.env.nRings
  slot_lt : ∀ p, s.draining p = true → P.slot p < P.env.nRings

section Control

variable {P} {s : State σ}

/-- The events of an iteration touch rings, pool and fault flag only. -/
theorem control_foldl_apply (wk : Worker) (evs : List Event) (s : State σ) :
    (evs.foldl (State.apply wk) s).workers = s.workers ∧
      (evs.foldl (State.apply wk) s).draining = s.draining := by
  induction evs generalizing s with
  | nil => exact ⟨rfl, rfl⟩
  | cons e rest ih =>
      rw [List.foldl_cons, (ih _).1, (ih _).2]
      cases e <;> exact ⟨rfl, rfl⟩

/-- Marking a thread whose slot exists, whichever way, keeps the guarantee for the
others. -/
theorem WellFormed.slot_lt_of_update (h : P.WellFormed s) {p : ℕ}
    (hslot : P.slot p < P.env.nRings) (v : Bool) (q : ℕ)
    (hq : Function.update s.draining p v q = true) : P.slot q < P.env.nRings := by
  by_cases hqp : q = p
  · rwa [hqp]
  · rw [Function.update_of_ne hqp] at hq
    exact h.slot_lt q hq

theorem wellFormed_receive (h : P.WellFormed s) (p : ℕ) (frames : List Window) :
    P.WellFormed (P.receive s p frames) := by
  by_cases hidle : frames.take P.burst = [] ∧ P.drainsWhenIdle = false
  · rw [receive, if_pos hidle]
    exact h
  by_cases hslot : P.slot p < P.env.nRings
  · simp only [receive, hidle, if_false, hslot, if_true]
    exact ⟨h.lpid_lt, h.slot_lt_of_update hslot _⟩
  · simp only [receive, hidle, if_false, hslot]
    exact ⟨h.lpid_lt, h.slot_lt⟩

theorem wellFormed_transmitTurn (h : P.WellFormed s) (p : ℕ) (takes : ℕ → ℕ) :
    P.WellFormed (P.transmitTurn s p takes) := by
  by_cases hslot : P.slot p < P.env.nRings
  · rw [transmitTurn, if_pos hslot]
    exact ⟨h.lpid_lt, h.slot_lt_of_update hslot _⟩
  · rw [transmitTurn, if_neg hslot]
    exact ⟨h.lpid_lt, h.slot_lt⟩

theorem wellFormed_dequeueBurst (h : P.WellFormed s) (w : ℕ) :
    P.WellFormed (P.dequeueBurst s w) := by
  by_cases hnext : (s.workers w).next < P.env.nRings
  · simp only [dequeueBurst, hnext, if_true]
    refine ⟨fun v hv => ?_, h.slot_lt⟩
    by_cases hvw : v = w
    · simpa [hvw] using hnext
    · simp only [Function.update_of_ne hvw] at hv ⊢
      exact h.lpid_lt v hv
  · simp only [dequeueBurst, hnext, if_false]
    exact h

theorem wellFormed_handlePacket (h : P.WellFormed s) (w : ℕ) :
    P.WellFormed (P.handlePacket s w) := by
  simp only [handlePacket]
  constructor
  · intro v
    rw [(control_foldl_apply _ _ _).1]
    by_cases hvw : v = w
    · subst hvw
      simp only [Function.update_self, Worker.advance]
      intro hv
      exact h.lpid_lt v (by omega)
    · simp only [Function.update_of_ne hvw]
      exact h.lpid_lt v
  · intro p
    rw [(control_foldl_apply _ _ _).2]
    exact h.slot_lt p

theorem wellFormed_step (h : P.WellFormed s) (l : Label) : P.WellFormed (P.step s l) := by
  by_cases henabled : P.Enabled s l
  · rw [step.eq_def, if_pos henabled]
    cases l with
    | rx p frames => exact wellFormed_receive h p frames
    | tx p takes => exact wellFormed_transmitTurn h p takes
    | dequeue w => exact wellFormed_dequeueBurst h w
    | handle w => exact wellFormed_handlePacket h w
  · rw [step.eq_def, if_neg henabled]
    exact h

theorem wellFormed_init (rxCap txCap : ℕ → ℕ) (contents : ℕ → Window) (app : σ) :
    P.WellFormed (State.init rxCap txCap contents app) :=
  ⟨fun w hw => absurd hw (Nat.not_lt_zero _), fun p hp => by cases hp⟩

end Control

/-! ## Whole runs -/

/-- **Conservation over runs.**  Under any condition on enabled moves that makes them
keep what they move, every state of every run conserves the buffers. -/
theorem conserved_of_reaches {guard : State σ → Label → Prop}
    (hguard : ∀ s l, P.WellFormed s → P.Enabled s l → guard s l → P.Keeps s l)
    {rxCap txCap : ℕ → ℕ} {contents : ℕ → Window} {app : σ} {s : State σ}
    (hreach : Reaches P.step (fun s l => P.Enabled s l → guard s l)
      (State.init rxCap txCap contents app) s) : P.Conserved s := by
  refine (hreach.invariant (I := fun t => P.Conserved t ∧ P.WellFormed t) ?_ ?_).1
  · exact ⟨P.conserved_init .., wellFormed_init ..⟩
  · intro t l ht hl
    exact ⟨conserved_step ht.1 fun henabled => hguard t l ht.2 henabled (hl henabled),
      wellFormed_step ht.2 l⟩

end Pipeline

/-! ## The condition on ordinary packets

Both backends treat a packet that is no ARP frame alike, so the condition under which
a worker keeps it is one condition. -/

/-- The packet a worker has reached is for a fast-path port; and unless it is freed, it
is at the front of the array and the tx ring of its verdict has room. -/
def WorkerEnv.KeepsOrdinary (env : WorkerEnv σ) (s : State σ) (wk : Worker) : Prop :=
  let b := s.contents (wk.buffer wk.i)
  let verdict := (env.packetProcessor s.app b wk.lpid).1
  (getPacketPortNumber b : ℤ) ∈ env.dm.fastpathPorts ∧
    (verdict = KERNEL ∨ verdict = DROP ∨ wk.i = 0 ∧ (s.txRings verdict).HasRoom 1)

namespace Pipeline

theorem keepsPacket_of_ordinary {P : Pipeline σ} {s : State σ} {wk : Worker}
    (hvalid : ReturnsValid P.env.packetProcessor P.env.nRings)
    (harp : ethProto (s.contents (wk.buffer wk.i)) 0 ≠ htons PID_ETH_ARP)
    (h : P.env.KeepsOrdinary s wk) : P.KeepsPacket s wk := by
  obtain ⟨hport, hverdict⟩ := h
  rw [KeepsPacket]
  dsimp only
  rw [if_neg (mt (getEtherType_eq_arp_iff _).mp harp)]
  refine ⟨(P.env.dm.filterPacket_eq_false_iff _).mpr hport, ?_⟩
  rcases hverdict with hverdict | hverdict | ⟨hzero, hroom⟩
  · exact .inl hverdict
  · exact .inr (.inl hverdict)
  · rcases hvalid s.app (s.contents (wk.buffer wk.i)) wk.lpid with hv | hv | hv
    · exact .inl hv
    · exact .inr (.inl hv)
    · exact .inr (.inr ⟨hzero, hv, hroom⟩)

/-- An ARP frame at the front of the array, with a verdict to send it to a ring that
has room. -/
theorem keepsPacket_of_arp {P : Pipeline σ} {s : State σ} {wk : Worker} {verdict : ℕ}
    (harp : ethProto (s.contents (wk.buffer wk.i)) 0 = htons PID_ETH_ARP)
    (hverdict : (P.env.dm.arpHandler (s.contents (wk.buffer wk.i)) wk.lpid).1 = verdict)
    (hdrop : verdict ≠ DROP) (hzero : wk.i = 0) (hk : P.arpRing wk.lpid verdict < P.env.nRings)
    (hroom : (s.txRings (P.arpRing wk.lpid verdict)).HasRoom 1) : P.KeepsPacket s wk := by
  rw [KeepsPacket]
  dsimp only
  rw [if_pos ((getEtherType_eq_arp_iff _).mpr harp), hverdict]
  exact ⟨hdrop, hzero, hk, hroom⟩

end Pipeline

end UdxFastpath
