import UdxFastpath.Core.MasterWorker

/-!
# CNDP master-worker

`master_worker` and `worker_thread` of `lib/core/cndp/cndp.cpp` as a pipeline.  A
receiving thread serves one lport and its rings have the number of that lport; it
goes on to transmit whether or not it received anything; and what `__tx_burst` does
not take of a burst is forgotten.
-/

namespace UdxFastpath.Cndp

open ByteWindow Conservation

variable {σ : Type*}

/-- One call of `__tx_burst`: the device takes a prefix, and its result is not looked
at. -/
def txBurst (takes : ℕ → ℕ) (pkts : List ℕ) : List ℕ × List ℕ := (pkts.take (takes 0), [])

/-- The pipeline of `master_worker` and `worker_thread`, one ring pair per lport. -/
def pipeline (env : WorkerEnv σ) (nWorkers burst : ℕ) : Pipeline σ where
  env := env
  nWorkers := nWorkers
  burst := burst
  nPorts := env.nRings
  slot lpid := lpid
  drainsWhenIdle := true
  arpRing := arpRing
  transmit := txBurst

/-- **The moves CNDP gets right.**

* A received burst fits the rx ring.
* The device takes everything offered to it.
* A worker meets an ARP frame only at the front of its array, and the tx ring has
  room for it; the frame is a request for the TAP address or a reply.
* Any other packet is kept. -/
def Lossless (env : WorkerEnv σ) (burst : ℕ) (s : State σ) : Label → Prop
  | .rx lpid frames => (s.rxRings lpid).HasRoom (frames.take burst).length
  | .tx lpid takes => min burst (s.txRings lpid).entries.length ≤ takes 0
  | .dequeue _ => True
  | .handle w =>
      let wk := s.workers w
      let b := s.contents (wk.buffer wk.i)
      if ethProto b 0 = htons PID_ETH_ARP then
        (env.dm.AsksForTap b ∨ DataPlaneManager.IsArpReply b) ∧ wk.i = 0 ∧
          (s.txRings wk.lpid).HasRoom 1
      else env.KeepsOrdinary s wk

/-- Such moves keep every buffer. -/
theorem keeps_of_lossless {env : WorkerEnv σ} (hvalid : ReturnsValid env.packetProcessor env.nRings)
    (nWorkers burst : ℕ) {s : State σ} {l : Label}
    (hwell : (pipeline env nWorkers burst).WellFormed s)
    (henabled : (pipeline env nWorkers burst).Enabled s l) (h : Lossless env burst s l) :
    (pipeline env nWorkers burst).Keeps s l := by
  cases l with
  | rx lpid frames => exact .inr ⟨henabled.1, h⟩
  | tx lpid takes =>
      refine ⟨henabled.1, ?_⟩
      have hlen : ((s.txRings lpid).dequeueBurst burst).2.length ≤ takes 0 := by
        rw [FifoRing.dequeueBurst, List.length_take]
        exact h
      exact (List.append_nil _).trans (List.take_of_length_le hlen)
  | dequeue w => trivial
  | handle w =>
      have hlpid : (s.workers w).lpid < env.nRings := hwell.lpid_lt w henabled.2
      simp only [Lossless] at h
      split at h
      · rename_i harp
        obtain ⟨hask | hreply, hzero, hroom⟩ := h
        · exact Pipeline.keepsPacket_of_arp harp
            (DataPlaneManager.arpHandler_of_asksForTap hask _) (env.ne_special hlpid).2 hzero hlpid
            hroom
        · exact Pipeline.keepsPacket_of_arp harp
            (DataPlaneManager.arpHandler_of_isArpReply hreply _) (by decide) hzero hlpid hroom
      · rename_i harp
        exact Pipeline.keepsPacket_of_ordinary hvalid harp h

end UdxFastpath.Cndp
