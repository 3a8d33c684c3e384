import UdxFastpath.Dpdk.FwdConfig
import UdxFastpath.Dpdk.MasterWorker
import Mathlib.Tactic.Linarith

/-!
# The ring slots of the streams

In the master-worker model a stream hands its packets over through a pair of rings,
and finds it at the index `rx_port * nb_cfg_ports + rx_queue`.  A worker walks through
the rings and takes the **index of the ring** for the port the packet came from.

The index counts as if there were `nb_cfg_ports` queues a port and `nb_fwd_streams`
ports; there are `Q` and `P`.  With `P` ports and `Q` queues

* it stays below the number of rings when there are at least as many queues as ports,
* it tells streams apart when there are at most as many queues as ports,
* it is the port number for the first stream only,

a single port being always fine for the first two.  `ownRings_iff` puts the three
together.
-/

namespace UdxFastpath.Dpdk

/-- The index of a stream's ring pair. -/
def ringSlot (nbCfgPorts : ℕ) (fs : StreamConfig) : ℕ := fs.rxPort * nbCfgPorts + fs.rxQueue

/-- It is the slot of the pipeline's stream of the same port and queue. -/
theorem slot_eq_ringSlot (fwd : Streams) (f : ℕ) (fs : StreamConfig)
    (hport : (fwd.stream f).rxPort = fs.rxPort) (hqueue : (fwd.stream f).rxQueue = fs.rxQueue) :
    fwd.slot f = ringSlot fwd.nbCfgPorts fs := by
  rw [Streams.slot, ringSlot, hport, hqueue]

section Slots

variable (g : FwdGlobals) (nbCfgPorts : ℕ)

/-- Stream `n` of the forwarding configuration is `fs`. -/
def IsStream (n : ℕ) (fs : StreamConfig) : Prop :=
  n < (fwdConfigSetup g).nbFwdStreams ∧ (fwdConfigSetup g).streams[n]? = some fs

instance (n : ℕ) (fs : StreamConfig) : Decidable (IsStream g n fs) :=
  inferInstanceAs (Decidable (_ ∧ _))

/-- Every stream finds a ring that was created. -/
def SlotsInRange : Prop :=
  ∀ n fs rings, IsStream g n fs → initFwdStreams g = some rings → ringSlot nbCfgPorts fs < rings

/-- No two streams find the same ring. -/
def SlotsDistinct : Prop :=
  ∀ n n' fs fs', IsStream g n fs → IsStream g n' fs' →
    ringSlot nbCfgPorts fs = ringSlot nbCfgPorts fs' → n = n'

/-- The index of the ring, under which a worker dequeues a packet and which it passes on, is
the port the packet was received on. -/
def SlotIsPort : Prop :=
  ∀ n fs, IsStream g n fs → ringSlot nbCfgPorts fs = fs.rxPort

/-- **Every stream has its own ring pair**, and the ring names the port. -/
structure OwnRings : Prop where
  inRange : SlotsInRange g nbCfgPorts
  distinct : SlotsDistinct g nbCfgPorts
  isPort : SlotIsPort g nbCfgPorts

end Slots

/-! ## Ports 0 to `P - 1` -/

section Uniform

variable {P Q : ℕ} (L : ℕ) (topology : PortTopology)

/-- `P` ports with the ids `0` to `P - 1` and `Q` queues in either direction. -/
def portsAndQueues (P Q L : ℕ) (topology : PortTopology) : FwdGlobals :=
  uniform (List.range P) Q L topology

/-- The number of streams, and of rings. -/
theorem nbFwdStreams_eq (hQ : 0 < Q) :
    (fwdConfigSetup (portsAndQueues P Q L topology)).nbFwdStreams = P * Q % 65536 := by
  rw [portsAndQueues, nbFwdStreams_uniform topology hQ, List.length_range]

/-- Stream `n` receives from port `n % P` and queue `n / P`. -/
theorem isStream_iff (hP : 0 < P) (hQ : 0 < Q) (n : ℕ) (fs : StreamConfig) :
    IsStream (portsAndQueues P Q L topology) n fs ↔
      n < P * Q % 65536 ∧ fs = streamAt (portsAndQueues P Q L topology) (n % P) (n / P) := by
  rw [IsStream, nbFwdStreams_eq L topology hQ]
  refine and_congr_right fun hn => ?_
  have hdiv : n / P < Q := Nat.div_lt_of_lt_mul (Nat.lt_of_lt_of_le hn (Nat.mod_le _ _))
  have hports : 0 < (List.range P).length := by simpa using hP
  have hcount : n < (fwdConfigSetup (uniform (List.range P) Q L topology)).nbFwdStreams := by
    rw [nbFwdStreams_uniform topology hQ, List.length_range]
    exact hn
  have hstream := streams_eq topology hports hQ hcount
  rw [List.length_range, Nat.mod_eq_of_lt hdiv] at hstream
  rw [portsAndQueues, hstream, Option.some.injEq, eq_comm]

theorem rxPort_streamAt (rxq : ℕ) {rxp : ℕ} (h : rxp < P) :
    (streamAt (portsAndQueues P Q L topology) rxp rxq).rxPort = rxp := by
  simp [streamAt, portsAndQueues, uniform, h]

/-- The slot of stream `n`. -/
theorem ringSlot_streamAt (hP : 0 < P) (n : ℕ) :
    ringSlot P (streamAt (portsAndQueues P Q L topology) (n % P) (n / P)) = n % P * P + n / P := by
  rw [ringSlot, rxPort_streamAt L topology _ (Nat.mod_lt n hP)]
  rfl

theorem slotsInRange_iff_forall (hP : 0 < P) (hQ : 0 < Q) :
    SlotsInRange (portsAndQueues P Q L topology) P ↔
      ∀ n < P * Q % 65536, n % P * P + n / P < P * Q % 65536 := by
  have hrings : initFwdStreams (portsAndQueues P Q L topology) = some (P * Q % 65536) := by
    rw [portsAndQueues, initFwdStreams_uniform topology hQ, nbFwdStreams_uniform topology hQ,
      List.length_range]
  simp only [SlotsInRange, isStream_iff L topology hP hQ, hrings, Option.some.injEq]
  constructor
  · intro h n hn
    rw [← ringSlot_streamAt (Q := Q) L topology hP n]
    exact h n _ _ ⟨hn, rfl⟩ rfl
  · rintro h n fs rings ⟨hn, rfl⟩ rfl
    rw [ringSlot_streamAt L topology hP n]
    exact h n hn

theorem slotsDistinct_iff_forall (hP : 0 < P) (hQ : 0 < Q) :
    SlotsDistinct (portsAndQueues P Q L topology) P ↔
      ∀ n < P * Q % 65536, ∀ n' < P * Q % 65536,
        n % P * P + n / P = n' % P * P + n' / P → n = n' := by
  simp only [SlotsDistinct, isStream_iff L topology hP hQ]
  constructor
  · intro h n hn n' hn' heq
    rw [← ringSlot_streamAt (Q := Q) L topology hP n,
      ← ringSlot_streamAt (Q := Q) L topology hP n'] at heq
    exact h n n' _ _ ⟨hn, rfl⟩ ⟨hn', rfl⟩ heq
  · rintro h n n' fs fs' ⟨hn, rfl⟩ ⟨hn', rfl⟩ heq
    rw [ringSlot_streamAt L topology hP n, ringSlot_streamAt L topology hP n'] at heq
    exact h n hn n' hn' heq

theorem slotIsPort_iff_forall (hP : 0 < P) (hQ : 0 < Q) :
    SlotIsPort (portsAndQueues P Q L topology) P ↔
      ∀ n < P * Q % 65536, n % P * P + n / P = n % P := by
  simp only [SlotIsPort, isStream_iff L topology hP hQ]
  constructor
  · intro h n hn
    have hport := h n _ ⟨hn, rfl⟩
    rwa [ringSlot_streamAt L topology hP n, rxPort_streamAt L topology _ (Nat.mod_lt n hP)] at hport
  · rintro h n fs ⟨hn, rfl⟩
    rw [ringSlot_streamAt L topology hP n, rxPort_streamAt L topology _ (Nat.mod_lt n hP)]
    exact h n hn

end Uniform

/-! ## The arithmetic of the slot -/

section Arithmetic

variable {P Q : ℕ}

/-- Two streams that are always there when there are two: the first and the second. -/
theorem second_slot (hP : 0 < P) : 1 % P * P + 1 / P = if P = 1 then 1 else P := by
  by_cases hone : P = 1
  · subst hone
    rfl
  · rw [Nat.mod_eq_of_lt (by omega), Nat.div_eq_of_lt (by omega), if_neg hone]
    omega

/-- The last stream has the largest slot. -/
theorem forall_slot_lt_iff (hP : 0 < P) (hQ : 0 < Q) :
    (∀ n < P * Q, n % P * P + n / P < P * Q) ↔ P = 1 ∨ P ≤ Q := by
  constructor
  · intro h
    by_contra hcon
    obtain ⟨p, rfl⟩ : ∃ p, P = p + 1 := ⟨P - 1, by omega⟩
    obtain ⟨q, rfl⟩ : ∃ q, Q = q + 1 := ⟨Q - 1, by omega⟩
    have hlast := h ((p + 1) * q + p) (by nlinarith)
    rw [Nat.mul_add_mod, Nat.mod_eq_of_lt (show p < p + 1 by omega), Nat.mul_add_div hP,
      Nat.div_eq_of_lt (show p < p + 1 by omega)] at hlast
    have hlt : q + 1 ≤ p := by omega
    nlinarith
  · intro h n hn
    have hmod := Nat.mod_lt n hP
    have hdiv : n / P < Q := Nat.div_lt_of_lt_mul hn
    rcases h with rfl | hle
    · simpa [Nat.mod_one] using hn
    · have hport : n % P * P ≤ (P - 1) * Q := Nat.mul_le_mul (by omega) hle
      have htotal : P * Q = (P - 1) * Q + Q := by
        rw [← Nat.succ_mul, Nat.succ_eq_add_one, Nat.sub_add_cancel hP]
      omega

/-- Port and queue are the two digits of a slot, if the queue is small enough to be a
digit. -/
theorem forall_slot_injective_iff (hP : 0 < P) :
    (∀ n < P * Q, ∀ n' < P * Q, n % P * P + n / P = n' % P * P + n' / P → n = n') ↔
      P = 1 ∨ Q ≤ P := by
  constructor
  · intro h
    by_contra hcon
    -- queue `P` of port 0 and queue 0 of port 1
    have hone : 1 % P = 1 ∧ 1 / P = 0 :=
      ⟨Nat.mod_eq_of_lt (by omega), Nat.div_eq_of_lt (by omega)⟩
    have hlt : P * P < P * Q := Nat.mul_lt_mul_of_pos_left (by omega) hP
    have hpos : 0 < P * P := Nat.mul_pos hP hP
    have hcollide := h (P * P) hlt 1 (by omega) (by
      rw [hone.1, hone.2, Nat.mul_mod_right, Nat.mul_div_cancel _ hP]
      omega)
    have := Nat.eq_one_of_mul_eq_one_left hcollide
    omega
  · intro h n hn n' hn' hslot
    rcases h with rfl | hle
    · simpa [Nat.mod_one] using hslot
    · have hdiv : n / P < P := Nat.lt_of_lt_of_le (Nat.div_lt_of_lt_mul hn) hle
      have hdiv' : n' / P < P := Nat.lt_of_lt_of_le (Nat.div_lt_of_lt_mul hn') hle
      have hqueue : n / P = n' / P := by
        have hmod := congrArg (· % P) hslot
        simpa [Nat.add_mod, Nat.mod_eq_of_lt hdiv, Nat.mod_eq_of_lt hdiv'] using hmod
      have hport : n % P = n' % P := by
        rw [hqueue] at hslot
        exact Nat.eq_of_mul_eq_mul_right hP (Nat.add_right_cancel hslot)
      rw [← Nat.div_add_mod n P, ← Nat.div_add_mod n' P, hqueue, hport]

/-- Only the first stream has its port's number for a slot. -/
theorem forall_slot_eq_port_iff (hP : 0 < P) (N : ℕ) :
    (∀ n < N, n % P * P + n / P = n % P) ↔ N ≤ 1 := by
  constructor
  · intro h
    by_contra hcon
    have hsecond := h 1 (by omega)
    rw [second_slot hP] at hsecond
    split at hsecond
    · rename_i hone
      subst hone
      simp at hsecond
    · rw [Nat.mod_eq_of_lt (by omega)] at hsecond
      contradiction
  · intro h n hn
    obtain rfl : n = 0 := by omega
    simp

end Arithmetic

/-! ## When the rings are the streams' own -/

section Main

variable {P Q : ℕ} (L : ℕ) (topology : PortTopology)

/-- **Each stream has its own ring pair, named by its port, exactly when there is at most one
stream.**  One by one, and as long as the streams can be counted in 16 bits: the slots are in
range for one port or at least as many queues as ports, distinct for one port or at most as
many queues as ports, and port numbers for one port with one queue. -/
theorem ownRings_iff (hP : 0 < P) (hQ : 0 < Q) :
    (OwnRings (portsAndQueues P Q L topology) P ↔ P * Q % 65536 ≤ 1) ∧
      (P * Q < 65536 →
        (SlotsInRange (portsAndQueues P Q L topology) P ↔ P = 1 ∨ P ≤ Q) ∧
        (SlotsDistinct (portsAndQueues P Q L topology) P ↔ P = 1 ∨ Q ≤ P) ∧
        (SlotIsPort (portsAndQueues P Q L topology) P ↔ P = 1 ∧ Q = 1)) := by
  have hport : SlotIsPort (portsAndQueues P Q L topology) P ↔ P * Q % 65536 ≤ 1 := by
    rw [slotIsPort_iff_forall L topology hP hQ, forall_slot_eq_port_iff hP]
  refine ⟨⟨fun h => hport.mp h.isPort, fun hle => ⟨?_, ?_, hport.mpr hle⟩⟩, fun hlt => ?_⟩
  · rw [slotsInRange_iff_forall L topology hP hQ]
    intro n hn
    obtain rfl : n = 0 := by omega
    simpa using hn
  · rw [slotsDistinct_iff_forall L topology hP hQ]
    intro n hn n' hn' _
    omega
  · rw [slotsInRange_iff_forall L topology hP hQ, slotsDistinct_iff_forall L topology hP hQ, hport,
      Nat.mod_eq_of_lt hlt]
    refine ⟨forall_slot_lt_iff hP hQ, forall_slot_injective_iff hP, ?_⟩
    constructor
    · intro hle
      have hone : P * Q = 1 := Nat.le_antisymm hle (Nat.mul_pos hP hQ)
      exact ⟨Nat.eq_one_of_mul_eq_one_right hone, Nat.eq_one_of_mul_eq_one_left hone⟩
    · rintro ⟨rfl, rfl⟩
      exact le_rfl

end Main

/-- The iff at one port with one queue. -/
theorem ownRings_single : OwnRings (portsAndQueues 1 1 1 .loop) 1 :=
  (ownRings_iff (P := 1) (Q := 1) 1 .loop Nat.one_pos Nat.one_pos).1.mpr (by decide)

/-- **Two ports with one queue each**: two rings, and the second stream looks for its own at
index 2. -/
theorem twoPorts_out_of_range :
    initFwdStreams (portsAndQueues 2 1 1 .loop) = some 2 ∧
      (∃ fs, IsStream (portsAndQueues 2 1 1 .loop) 1 fs ∧ ringSlot 2 fs = 2) ∧
      ¬ OwnRings (portsAndQueues 2 1 1 .loop) 2 := by
  have hstream : IsStream (portsAndQueues 2 1 1 .loop) 1
      (streamAt (portsAndQueues 2 1 1 .loop) 1 0) := by decide
  refine ⟨by decide, ⟨_, hstream, by decide⟩, fun h => ?_⟩
  exact absurd (h.inRange 1 _ 2 hstream (by decide)) (by decide)

end UdxFastpath.Dpdk
