import UdxFastpath.Cndp.RunToCompletion
import UdxFastpath.Dpdk.RunToCompletion

/-!
# The fast-path filtering contract

The configuration promises that with filtering enabled the packets for a
fast-path port go to the application and all others to the kernel.
`FilterContract` states the promise for one buffer of a burst, on the trace of a
loop and the destination port that loop computed.

The two backends miss it differently:

* CNDP tests `!filter_packet(port)` where `filter_packet` is true of the ports
  **outside** the set, so with filtering enabled it diverts exactly the packets
  it should keep, and keeps the others;
* DPDK sends every packet to the kernel and still hands every packet to the
  application, so it meets the contract on the fast-path ports only.

With filtering disabled both hand every packet they get to over, and DPDK does
not get to the packets behind an answered ARP request.
-/

namespace UdxFastpath

open ByteWindow Disposal

/-- The promise made for buffer `i`, whose destination port is `port`. -/
def FilterContract (dm : DataPlaneManager) (port : ℕ) (tr : List Event) (i : ℕ) : Prop :=
  if dm.fastPathFiltering then
    (Handed tr i ↔ (port : ℤ) ∈ dm.fastpathPorts) ∧
      ((port : ℤ) ∉ dm.fastpathPorts → Tapped tr i ∧ ¬ Handed tr i)
  else Handed tr i

/-- A buffer is handed over by a long trace exactly as it is by its own part. -/
theorem handed_iff_of_eventsOf {tr evs : List Event} {i : ℕ} (h : eventsOf tr i = evs) :
    Handed tr i ↔ ∃ e ∈ evs, e.hands = true := by
  rw [Handed, h]

/-! ## CNDP -/

section Cndp

variable {σ S : Type*} (env : Cndp.Env σ) (sink : BufferedSink ℕ S)

/-- A packet that is no ARP frame is handed over exactly when it is not diverted. -/
theorem cndp_handed_iff (burst : List Window) (txbuff : ℕ → S) (s : σ) {i : ℕ} {b : Window}
    (hget : burst[i]? = some b) (harp : ethProto b 0 ≠ htons PID_ETH_ARP) :
    Handed (Cndp.runToCompletion env sink (some burst) txbuff s).trace i ↔
      ¬ Cndp.Diverted env.dm b := by
  obtain ⟨s', hevents⟩ := Cndp.exists_eventsOf_burstLoop env sink burst (txbuff, s) hget
  rw [Cndp.runToCompletion_trace, handed_iff_of_eventsOf hevents, Cndp.rtcPacket,
    if_neg (mt (getEtherType_eq_arp_iff b).mp harp)]
  by_cases hdiverted : Cndp.Diverted env.dm b
  · simp [hdiverted, Cndp.filteredStage, Event.hands]
  · simp only [hdiverted, if_false, not_false_eq_true, iff_true]
    exact ⟨_, List.mem_cons_self, rfl⟩

/-- **CNDP meets the contract exactly when filtering is disabled.** -/
theorem cndp_filterContract_iff (burst : List Window) (txbuff : ℕ → S) (s : σ) {i : ℕ} {b : Window}
    (hget : burst[i]? = some b) (harp : ethProto b 0 ≠ htons PID_ETH_ARP) :
    FilterContract env.dm (getPacketPortNumber b)
        (Cndp.runToCompletion env sink (some burst) txbuff s).trace i ↔
      env.dm.fastPathFiltering = false := by
  have hhanded := cndp_handed_iff env sink burst txbuff s hget harp
  cases hfilter : env.dm.fastPathFiltering with
  | false => simp [FilterContract, hfilter, hhanded, Cndp.Diverted]
  | true =>
      -- handed over exactly when the port is not in the set: the contract upside down
      rw [FilterContract, hfilter, if_pos rfl, hhanded, Cndp.Diverted, hfilter,
        env.dm.filterPacket_eq_false_iff]
      simp

end Cndp

/-! ## DPDK -/

section Dpdk

variable {σ : Type*} (env : Dpdk.Env σ) (fs : Dpdk.FwdStream)

/-- A packet that is no ARP frame is handed over exactly when the loop gets to it. -/
theorem dpdk_handed_iff (burst : List Window) (s : σ) {i : ℕ} {b : Window}
    (hget : burst[i]? = some b) (harp : ethProto b 0 ≠ htons PID_ETH_ARP) :
    Handed (Dpdk.runToCompletion env fs burst s).2.1 i ↔
      Reached (Dpdk.Answered env.dm) burst i := by
  rw [Dpdk.runToCompletion_trace]
  constructor
  · intro hhanded
    by_contra hbroken
    rw [handed_iff_of_eventsOf (Dpdk.eventsOf_rtcLoop_of_not_reached env fs burst s hbroken)]
      at hhanded
    simp at hhanded
  · intro hreach
    obtain ⟨s', hevents⟩ := Dpdk.eventsOf_rtcLoop_of_reached env fs burst s hget hreach
    have harpStage := Dpdk.arpStage_of_not_arp env.dm fs i b harp
    rw [handed_iff_of_eventsOf hevents,
      Dpdk.rtcPacket_of_continue env fs i b s' (by rw [harpStage])]
    exact ⟨_, List.mem_append_right _ List.mem_cons_self, rfl⟩

/-- **DPDK meets the contract** on the packets it gets to, as long as filtering is
disabled or the port is a fast-path port. -/
theorem dpdk_filterContract_iff (burst : List Window) (s : σ) {i : ℕ} {b : Window}
    (hget : burst[i]? = some b) (harp : ethProto b 0 ≠ htons PID_ETH_ARP) :
    FilterContract env.dm (Dpdk.filterPort b) (Dpdk.runToCompletion env fs burst s).2.1 i ↔
      Reached (Dpdk.Answered env.dm) burst i ∧
        (env.dm.fastPathFiltering = false ∨ (Dpdk.filterPort b : ℤ) ∈ env.dm.fastpathPorts) := by
  have hhanded := dpdk_handed_iff env fs burst s hget harp
  cases hfilter : env.dm.fastPathFiltering with
  | false => simp [FilterContract, hfilter, hhanded]
  | true =>
      rw [FilterContract, hfilter, if_pos rfl, hhanded]
      by_cases hport : (Dpdk.filterPort b : ℤ) ∈ env.dm.fastpathPorts
      · simp [hport]
      · constructor
        · rintro ⟨-, hkernel⟩
          obtain ⟨htapped, hbroken⟩ := hkernel hport
          rw [Dpdk.runToCompletion_trace, Tapped,
            Dpdk.eventsOf_rtcLoop_of_not_reached env fs burst s hbroken] at htapped
          simp at htapped
        · rintro ⟨-, hor⟩
          simp [hport] at hor

end Dpdk

/-! ## Both backends -/

/-- An IPv4/UDP frame whose IP header has no options. -/
def IsPlainUdp (b : Window) : Prop := IsUdpIpv4 b ∧ ipIhl b ETH_HLEN = 5

/-- **The contract of both loops.**  For every frame that is no ARP frame, at every
place of every burst, both loops meet the contract and agree on plain UDP frames
if and only if filtering is disabled and no frame in front of it in the burst is
an ARP request for the TAP address. -/
theorem filterContract_both_iff {σ S : Type*} (dm : DataPlaneManager) (cenv : Cndp.Env σ)
    (denv : Dpdk.Env σ) (sink : BufferedSink ℕ S) (fs : Dpdk.FwdStream) (burst : List Window)
    (txbuff : ℕ → S) (s : σ) (i : ℕ) (b : Window) (hget : burst[i]? = some b)
    (harp : ethProto b 0 ≠ htons PID_ETH_ARP) :
    (FilterContract dm (getPacketPortNumber b)
          (Cndp.runToCompletion { cenv with dm := dm } sink (some burst) txbuff s).trace i ∧
        FilterContract dm (Dpdk.filterPort b)
          (Dpdk.runToCompletion { denv with dm := dm } fs burst s).2.1 i ∧
        (IsPlainUdp b →
          (Handed (Cndp.runToCompletion { cenv with dm := dm } sink (some burst) txbuff s).trace i ↔
            Handed (Dpdk.runToCompletion { denv with dm := dm } fs burst s).2.1 i))) ↔
      dm.fastPathFiltering = false ∧ Reached (Dpdk.Answered dm) burst i := by
  have hcndp := cndp_filterContract_iff { cenv with dm := dm } sink burst txbuff s hget harp
  have hdpdk := dpdk_filterContract_iff { denv with dm := dm } fs burst s hget harp
  have hcHanded := cndp_handed_iff { cenv with dm := dm } sink burst txbuff s hget harp
  have hdHanded := dpdk_handed_iff { denv with dm := dm } fs burst s hget harp
  rw [hcndp, hdpdk, hcHanded, hdHanded]
  constructor
  · rintro ⟨hoff, ⟨hreach, -⟩, -⟩
    exact ⟨hoff, hreach⟩
  · rintro ⟨hoff, hreach⟩
    refine ⟨hoff, ⟨hreach, Or.inl hoff⟩, fun _ => ?_⟩
    simp only [Cndp.Diverted, hoff, Bool.false_eq_true, false_and, not_false_eq_true, hreach]

/-- Filtering with fast-path port 2152, as in the shipped configuration. -/
def gtpOnly : DataPlaneManager := ⟨true, {2152}, 1, default, [default]⟩

/-- **CNDP diverts the fast path.**  A packet for the one fast-path port is kept
from the application. -/
theorem cndp_diverts_fastpath :
    ¬ FilterContract gtpOnly (getPacketPortNumber (udpFrame 2152))
      (Cndp.runToCompletion { Cndp.forwardAll with dm := gtpOnly } Cndp.directSink
        (some [udpFrame 2152]) (fun _ => ([], [])) ()).trace 0 := by
  intro h
  have hhanded := ((if_pos (show gtpOnly.fastPathFiltering = true from rfl)).mp h).1.mpr
    (by decide)
  exact absurd hhanded (by decide)

/-- The contract at a packet with filtering disabled. -/
theorem filterContract_both_udp :
    FilterContract Cndp.forwardAll.dm (getPacketPortNumber (udpFrame 53))
      (Cndp.runToCompletion { Cndp.forwardAll with dm := Cndp.forwardAll.dm } Cndp.directSink
        (some [udpFrame 53]) (fun _ => ([], [])) ()).trace 0 :=
  ((filterContract_both_iff Cndp.forwardAll.dm Cndp.forwardAll Dpdk.forwardAll Cndp.directSink
    Dpdk.stream₀ [udpFrame 53] (fun _ => ([], [])) () 0 (udpFrame 53) rfl (by decide)).mpr
    ⟨rfl, fun _ h => absurd h (Nat.not_lt_zero _)⟩).1

end UdxFastpath
