import UdxFastpath.Cndp.MasterWorker
import UdxFastpath.Dpdk.MasterWorker

/-!
# Packet conservation in the master-worker model

Every received buffer is in exactly one place, in every state of every run of either
backend whose moves are all lossless.

Outside that condition buffers go astray.  The simplest case needs no full ring, no
short transmission and no ARP: a burst of **two** packets for the same port.  The
worker queues the first buffer twice and never looks at the second again.
-/

namespace UdxFastpath

open ByteWindow Conservation

variable {σ : Type*}

/-- **Conservation over every interleaving.**  Whatever the frames that arrive, the
capacities of the rings, the registered handler and the order in which receiving
threads and workers move, every received buffer is in exactly one place as long as
the moves made so far were lossless ones. -/
theorem packets_conserved (env : WorkerEnv σ)
    (hvalid : ReturnsValid env.packetProcessor env.nRings) (fwd : Dpdk.Streams)
    (nWorkers burst : ℕ) (rxCap txCap : ℕ → ℕ) (contents : ℕ → Window) (app : σ) :
    (∀ s, Reaches (Cndp.pipeline env nWorkers burst).step
        (fun s l => (Cndp.pipeline env nWorkers burst).Enabled s l → Cndp.Lossless env burst s l)
        (State.init rxCap txCap contents app) s →
      (Cndp.pipeline env nWorkers burst).Conserved s) ∧
    (∀ s, Reaches (Dpdk.pipeline env fwd nWorkers burst).step
        (fun s l => (Dpdk.pipeline env fwd nWorkers burst).Enabled s l →
          Dpdk.Lossless env fwd burst s l)
        (State.init rxCap txCap contents app) s →
      (Dpdk.pipeline env fwd nWorkers burst).Conserved s) := by
  refine ⟨fun s hreach => ?_, fun s hreach => ?_⟩
  · exact Pipeline.conserved_of_reaches _
      (fun t l hwell henabled hl => Cndp.keeps_of_lossless hvalid nWorkers burst hwell henabled hl)
      hreach
  · exact Pipeline.conserved_of_reaches _
      (fun t l hwell henabled hl =>
        Dpdk.keeps_of_lossless hvalid fwd nWorkers burst hwell henabled hl)
      hreach

/-! ## Runs to try it on -/

/-- One ring pair, fast-path port 2152, and a handler that forwards everything to
ring `0`. -/
def forwardEnv : WorkerEnv Unit where
  dm := ⟨false, {2152}, 1, default, [default]⟩
  nRings := 1
  nRings_le := one_le_maxLports
  packetProcessor := fun s b _ => (0, b, s)

theorem forwardEnv_returnsValid : ReturnsValid forwardEnv.packetProcessor forwardEnv.nRings :=
  fun _ _ _ => Or.inr (Or.inr Nat.zero_lt_one)

/-- The one stream of a single port, without retries. -/
def oneStream : Dpdk.Streams := ⟨fun _ => Dpdk.stream₀, 1, ⟨false, 0⟩⟩

/-- Rings of eight entries, nothing received. -/
def emptyState : State Unit := State.init (fun _ => 8) (fun _ => 8) (fun _ => udpFrame 0) ()

/-- A receiving thread takes a burst of two, and a worker deals with it. -/
def twoPacketRun : List Label :=
  [.rx 0 [udpFrame 2152, udpFrame 2152], .dequeue 0, .handle 0, .handle 0]

/-- **A burst of two loses a buffer.**  In both backends the first buffer ends up on the
tx ring twice and the second one nowhere. -/
theorem two_packet_burst_not_conserved :
    ReturnsValid forwardEnv.packetProcessor forwardEnv.nRings ∧
      ¬ (Cndp.pipeline forwardEnv 1 2).Conserved
        (twoPacketRun.foldl (Cndp.pipeline forwardEnv 1 2).step emptyState) ∧
      ¬ (Dpdk.pipeline forwardEnv oneStream 1 2).Conserved
        (twoPacketRun.foldl (Dpdk.pipeline forwardEnv oneStream 1 2).step emptyState) := by
  refine ⟨forwardEnv_returnsValid, fun h => ?_, fun h => ?_⟩
  · exact absurd (h.2 1) (by decide)
  · exact absurd (h.2 1) (by decide)

/-- The same with one packet, all the way to the device. -/
def onePacketRun : List Label :=
  [.rx 0 [udpFrame 2152], .dequeue 0, .handle 0, .tx 0 fun _ => 1]

/-- The run with one packet, every move lossless, in both backends. -/
theorem one_packet_burst_conserved :
    (Cndp.pipeline forwardEnv 1 1).Conserved
        (onePacketRun.foldl (Cndp.pipeline forwardEnv 1 1).step emptyState) ∧
      (Dpdk.pipeline forwardEnv oneStream 1 1).Conserved
        (onePacketRun.foldl (Dpdk.pipeline forwardEnv oneStream 1 1).step emptyState) := by
  have hconserved := packets_conserved forwardEnv forwardEnv_returnsValid oneStream 1 1
    (fun _ => 8) (fun _ => 8) (fun _ => udpFrame 0) ()
  refine ⟨hconserved.1 _ ?_, hconserved.2 _ ?_⟩
  · simp only [onePacketRun, List.foldl_cons, List.foldl_nil]
    refine .next _ (.next _ (.next _ (.next _ .start ?_) ?_) ?_) ?_
    · exact fun _ => (by decide : FifoRing.HasRoom _ _)
    · exact fun _ => trivial
    · intro _
      rw [Cndp.Lossless.eq_def]
      dsimp only
      rw [if_neg (by decide)]
      exact ⟨by decide, .inr (.inr ⟨by decide, by decide⟩)⟩
    · exact fun _ => (by decide : min _ _ ≤ _)
  · simp only [onePacketRun, List.foldl_cons, List.foldl_nil]
    refine .next _ (.next _ (.next _ (.next _ .start ?_) ?_) ?_) ?_
    · exact fun _ => .inr ⟨by decide, by decide⟩
    · exact fun _ => trivial
    · intro _
      rw [Dpdk.Lossless.eq_def]
      dsimp only
      rw [if_neg (by decide)]
      exact ⟨by decide, .inr (.inr ⟨by decide, by decide⟩)⟩
    · exact fun _ => trivial

end UdxFastpath
