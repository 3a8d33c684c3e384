import UdxFastpath.Core.Events

/-!
# The worker loop

In the master-worker model the receiving thread only moves buffers between the
device and two families of rings; the packets are looked at by worker threads,
`worker_thread` of `lib/core/cndp/cndp.cpp` and `fnworker_dpdk` of
`lib/core/dpdk/dpdk.cpp`.

The two loops are one loop but for a single index: the ring an ARP answer is put
on is the receiving ring in CNDP and the ring named by the verdict in DPDK.
`workerPacket` is an iteration with that index as a parameter.

An iteration works on the **array** `rx_mbufs` and on a position in it.  The calls
that queue a packet pass the array itself with a count of one, so what is queued is
the first buffer of the burst, whichever position the iteration has reached.  An
ARP frame that is dropped and a packet the filter rejects are passed over without
a free.
-/

namespace UdxFastpath

open ByteWindow

/-- The size of the ring arrays; `RTE_MAX_ETHPORTS` in DPDK. -/
def MAX_LPORTS : ℕ := 32

/-- There is room for one pair of rings. -/
theorem one_le_maxLports : 1 ≤ MAX_LPORTS := by decide

/-- What a worker loop reads: the manager, the number of rings created, and the
registered handler. -/
structure WorkerEnv (σ : Type*) where
  dm : DataPlaneManager
  nRings : ℕ
  nRings_le : nRings ≤ MAX_LPORTS
  packetProcessor : PacketProcessor σ

variable {σ : Type*}

/-- `cne_ring_enqueue_bulk(worker_tx_rings[k], rx_mbufs, 1, NULL)`, when the first
buffer of the array holds `first`. -/
def enqueueFirst (nRings k : ℕ) (first : Window) : List Event :=
  if k < nRings then [.transmit 0 k first.bytes] else [.wild 0 k]

/-- One iteration: its events, the packet as it leaves it, and the handler's next
state.  Events name buffers by their position in the array. -/
def workerPacket (env : WorkerEnv σ) (arpRing : ℕ → ℕ → ℕ) (lpid : ℕ) (bufs : ℕ → Window) (i : ℕ)
    (s : σ) : List Event × Window × σ :=
  let b := bufs i
  if getEtherType b = .l2EtherArp then
    let r := env.dm.arpHandler b lpid
    if r.1 ≠ DROP then
      (.arpHandler i r.1 ::
        enqueueFirst env.nRings (arpRing lpid r.1) (Function.update bufs i r.2 0), r.2, s)
    else ([.arpHandler i r.1], r.2, s)
  -- whether filtering is enabled is not asked, and the packet is not freed
  else if env.dm.filterPacket (getPacketPortNumber b) then ([], b, s)
  else
    let r := env.packetProcessor s b lpid
    if r.1 = KERNEL then
      let c := r.2.1.store 0 env.dm.tapMacAddr.toList
      ([.packetProcessor i r.1, .tapWrite i c.bytes, .free i], c, r.2.2)
    else if r.1 = DROP then ([.packetProcessor i r.1, .free i], r.2.1, r.2.2)
    else
      (.packetProcessor i r.1 ::
        enqueueFirst env.nRings r.1 (Function.update bufs i r.2.1 0), r.2.1, r.2.2)

/-- CNDP puts an ARP answer on the ring the request came from. -/
def Cndp.arpRing (lpid _verdict : ℕ) : ℕ := lpid

/-- An iteration of CNDP's `worker_thread`. -/
def Cndp.workerThread (env : WorkerEnv σ) : ℕ → (ℕ → Window) → ℕ → σ → List Event × Window × σ :=
  workerPacket env Cndp.arpRing

/-- DPDK puts an ARP answer on the ring its verdict names. -/
def Dpdk.arpRing (_lpid verdict : ℕ) : ℕ := verdict

/-- An iteration of DPDK's `fnworker_dpdk`. -/
def Dpdk.fnworkerDpdk (env : WorkerEnv σ) : ℕ → (ℕ → Window) → ℕ → σ → List Event × Window × σ :=
  workerPacket env Dpdk.arpRing

/-- A ring number is neither of the two special verdicts. -/
theorem WorkerEnv.ne_special (env : WorkerEnv σ) {k : ℕ} (h : k < env.nRings) :
    k ≠ KERNEL ∧ k ≠ DROP := by
  have hle := env.nRings_le
  simp only [MAX_LPORTS, KERNEL, DROP] at *
  omega

/-! ## The branches -/

section Branches

variable (env : WorkerEnv σ) (arpRing : ℕ → ℕ → ℕ) (lpid : ℕ) (bufs : ℕ → Window) (i : ℕ) (s : σ)

theorem enqueueFirst_of_lt {nRings k : ℕ} (h : k < nRings) (first : Window) :
    enqueueFirst nRings k first = [.transmit 0 k first.bytes] :=
  if_pos h

/-- An ARP frame with a verdict to send it somewhere. -/
theorem workerPacket_of_arp_sent (harp : getEtherType (bufs i) = .l2EtherArp)
    (hverdict : (env.dm.arpHandler (bufs i) lpid).1 ≠ DROP) :
    (workerPacket env arpRing lpid bufs i s).1 =
      .arpHandler i (env.dm.arpHandler (bufs i) lpid).1 ::
        enqueueFirst env.nRings (arpRing lpid (env.dm.arpHandler (bufs i) lpid).1)
          (Function.update bufs i (env.dm.arpHandler (bufs i) lpid).2 0) := by
  simp only [workerPacket, harp, if_true, hverdict, ne_eq, not_false_eq_true]

/-- An ARP frame to be dropped: nothing is done to it. -/
theorem workerPacket_of_arp_dropped (harp : getEtherType (bufs i) = .l2EtherArp)
    (hverdict : (env.dm.arpHandler (bufs i) lpid).1 = DROP) :
    (workerPacket env arpRing lpid bufs i s).1 = [.arpHandler i DROP] := by
  simp only [workerPacket, harp, if_true, hverdict, ne_eq, not_true_eq_false, if_false]

/-- A packet the filter rejects: nothing is done to it. -/
theorem workerPacket_of_filtered (harp : getEtherType (bufs i) ≠ .l2EtherArp)
    (hfilter : env.dm.filterPacket (getPacketPortNumber (bufs i)) = true) :
    (workerPacket env arpRing lpid bufs i s).1 = [] := by
  simp only [workerPacket, harp, if_false, hfilter, if_true]

variable (harp : getEtherType (bufs i) ≠ .l2EtherArp)
  (hfilter : env.dm.filterPacket (getPacketPortNumber (bufs i)) = false)

include harp hfilter

theorem workerPacket_of_kernel (hverdict : (env.packetProcessor s (bufs i) lpid).1 = KERNEL) :
    (workerPacket env arpRing lpid bufs i s).1 =
      [.packetProcessor i KERNEL,
        .tapWrite i ((env.packetProcessor s (bufs i) lpid).2.1.store 0
          env.dm.tapMacAddr.toList).bytes,
        .free i] := by
  simp only [workerPacket, harp, if_false, hfilter, Bool.false_eq_true, hverdict, if_true]

theorem workerPacket_of_drop (hverdict : (env.packetProcessor s (bufs i) lpid).1 = DROP) :
    (workerPacket env arpRing lpid bufs i s).1 = [.packetProcessor i DROP, .free i] := by
  simp only [workerPacket, harp, if_false, hfilter, Bool.false_eq_true, hverdict, if_true,
    show DROP ≠ KERNEL by decide]

theorem workerPacket_of_port (hkernel : (env.packetProcessor s (bufs i) lpid).1 ≠ KERNEL)
    (hdrop : (env.packetProcessor s (bufs i) lpid).1 ≠ DROP) :
    (workerPacket env arpRing lpid bufs i s).1 =
      .packetProcessor i (env.packetProcessor s (bufs i) lpid).1 ::
        enqueueFirst env.nRings (env.packetProcessor s (bufs i) lpid).1
          (Function.update bufs i (env.packetProcessor s (bufs i) lpid).2.1 0) := by
  simp only [workerPacket, harp, if_false, hfilter, Bool.false_eq_true, hkernel, hdrop]

end Branches

end UdxFastpath
