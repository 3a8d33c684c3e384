import UdxFastpath.Core.MasterWorker
import UdxFastpath.Dpdk.RunToCompletion

/-!
# DPDK master-worker

`master_worker` and `fnworker_dpdk` of `lib/core/dpdk/dpdk.cpp` as a pipeline, with
the transmit function `common_fwd_stream_transmit` of `testpmd.h`.  A receiving
thread serves one stream; its slot in the ring arrays is computed from the port and
the queue of the stream and can lie beyond the rings that were created; and a burst
the device does not take in full is freed from the point where it stopped.
-/

namespace UdxFastpath.Dpdk

open ByteWindow Conservation

variable {σ : Type*}

/-! ## Transmission -/

/-- How transmission is retried. -/
structure TxRetry where
  enabled : Bool
  num : ℕ

/-- The retry loop, with the retries left, the number of the next call to the device
and the packets transmitted so far. -/
def transmitRetry (takes : ℕ → ℕ) (nbPkts : ℕ) : ℕ → ℕ → ℕ → ℕ
  | 0, _, nbTx => nbTx
  | retries + 1, call, nbTx =>
      if nbTx < nbPkts then
        transmitRetry takes nbPkts retries (call + 1) (nbTx + min (takes call) (nbPkts - nbTx))
      else nbTx

/-- How many of `nbPkts` packets `common_fwd_stream_transmit` gets rid of. -/
def nbTransmitted (retry : TxRetry) (takes : ℕ → ℕ) (nbPkts : ℕ) : ℕ :=
  let nbTx := min (takes 0) nbPkts
  if nbTx < nbPkts ∧ retry.enabled then transmitRetry takes nbPkts retry.num 1 nbTx else nbTx

/-- `common_fwd_stream_transmit`: a prefix goes to the device, the rest to the pool. -/
def commonFwdStreamTransmit (retry : TxRetry) (takes : ℕ → ℕ) (burst : List ℕ) :
    List ℕ × List ℕ :=
  let nbTx := nbTransmitted retry takes burst.length
  (burst.take nbTx, burst.drop nbTx)

/-! ## The pipeline -/

/-- The streams of the forwarding configuration and what `master_worker` reads with
them. -/
structure Streams where
  stream : ℕ → FwdStream
  nbCfgPorts : ℕ
  retry : TxRetry

/-- The index of a stream's rings: `fs->rx_port * nb_cfg_ports + fs->rx_queue`. -/
def Streams.slot (fwd : Streams) (f : ℕ) : ℕ :=
  (fwd.stream f).rxPort * fwd.nbCfgPorts + (fwd.stream f).rxQueue

/-- The pipeline of `master_worker` and `fnworker_dpdk`: `nb_fwd_streams` streams and
as many ring pairs. -/
def pipeline (env : WorkerEnv σ) (fwd : Streams) (nWorkers burst : ℕ) : Pipeline σ where
  env := env
  nWorkers := nWorkers
  burst := burst
  nPorts := env.nRings
  slot := fwd.slot
  drainsWhenIdle := false
  arpRing := arpRing
  transmit := commonFwdStreamTransmit fwd.retry

/-- **The moves DPDK gets right.**

* The slot of the receiving stream exists and a received burst fits its rx ring.
* Transmitting never loses anything.
* A worker meets an ARP frame only at the front of its array, and the tx ring has
  room for it; the frame is a request for the TAP address.
* Any other packet is kept. -/
def Lossless (env : WorkerEnv σ) (fwd : Streams) (burst : ℕ) (s : State σ) : Label → Prop
  | .rx f frames =>
      frames.take burst = [] ∨ fwd.slot f < env.nRings ∧
        (s.rxRings (fwd.slot f)).HasRoom (frames.take burst).length
  | .tx _ _ => True
  | .dequeue _ => True
  | .handle w =>
      let wk := s.workers w
      let b := s.contents (wk.buffer wk.i)
      if ethProto b 0 = htons PID_ETH_ARP then
        env.dm.AsksForTap b ∧ wk.i = 0 ∧ (s.txRings wk.lpid).HasRoom 1
      else env.KeepsOrdinary s wk

/-- Such moves keep every buffer. -/
theorem keeps_of_lossless {env : WorkerEnv σ} (hvalid : ReturnsValid env.packetProcessor env.nRings)
    (fwd : Streams) (nWorkers burst : ℕ) {s : State σ} {l : Label}
    (hwell : (pipeline env fwd nWorkers burst).WellFormed s)
    (henabled : (pipeline env fwd nWorkers burst).Enabled s l)
    (h : Lossless env fwd burst s l) : (pipeline env fwd nWorkers burst).Keeps s l := by
  cases l with
  | rx f frames =>
      rcases h with hidle | hroom
      · exact .inl ⟨hidle, rfl⟩
      · exact .inr hroom
  | tx f takes => exact ⟨hwell.slot_lt f henabled.2, List.take_append_drop _ _⟩
  | dequeue w => trivial
  | handle w =>
      have hlpid : (s.workers w).lpid < env.nRings := hwell.lpid_lt w henabled.2
      simp only [Lossless] at h
      split at h
      · rename_i harp
        obtain ⟨hask, hzero, hroom⟩ := h
        exact Pipeline.keepsPacket_of_arp harp
          (DataPlaneManager.arpHandler_of_asksForTap hask _) (env.ne_special hlpid).2 hzero hlpid
          hroom
      · rename_i harp
        exact Pipeline.keepsPacket_of_ordinary hvalid harp h

end UdxFastpath.Dpdk
