import UdxFastpath.Core.UdpPort
import UdxFastpath.Core.Verdicts
import UdxFastpath.Dpdk.PortMap
import UdxFastpath.Upf.Outcomes
import Mathlib.Data.Nat.Bitwise

/-!
# The user-plane function on the packet loops

`main` registers `packet_processor` as the handler of the data plane.  What the
verdicts it returns then lead to is settled by the loops; two questions about the
path as a whole are answered here.

* **PFCP.**  The switch has a case that sends PFCP to the control plane and no
  `break` behind it.  It falls through into the default, which overwrites the
  verdict, so no PFCP frame ever reaches the TAP device (`pfcp_never_delivered`).
* **The output port.**  A frame that leaves goes to `recv_lport ^ 1`, whatever the
  number of ports.  That is a configured port unless the frame came in on the last
  port of an odd number (`outputExists_iff`); with a single port every frame that
  leaves goes to a port that is not there.
-/

namespace UdxFastpath.Upf

open ByteWindow Disposal

/-- The registered handler is the user-plane function with the application data `app`.  Its state
are the rule tables.  What it does when the processor faults is left open. -/
def RunsUpf (pp : PacketProcessor RuleTables) (app : Option ApplicationInfo) : Prop :=
  ∀ tables b recvLport r, processPacket app tables b recvLport = .ok r → pp tables b recvLport = r

theorem RunsUpf.apply {pp : PacketProcessor RuleTables} {app : Option ApplicationInfo}
    (h : RunsUpf pp app) {tables : RuleTables} {b c : Window} {recvLport verdict : ℕ}
    (hrun : packetProcessor app tables b recvLport = .ok (verdict, c)) :
    pp tables b recvLport = (verdict, c, tables) :=
  h _ _ _ _ (processPacket_eq_ok_iff.mpr ⟨hrun, rfl⟩)

/-- Such a handler. -/
def upfHandler (app : Option ApplicationInfo) : PacketProcessor RuleTables := fun tables b recv =>
  match processPacket app tables b recv with
  | .ok r => r
  | .error _ => (DROP, b, tables)

theorem runsUpf_upfHandler (app : Option ApplicationInfo) : RunsUpf (upfHandler app) app := by
  intro tables b recv r hrun
  simp only [upfHandler, hrun]

/-! ## PFCP -/

/-- A PFCP frame: UDP over IPv4, with or without IP options, for port 8805. -/
structure IsPfcp (b : Window) : Prop where
  udp : IsUdpIpv4 b
  version : ipVersionIhl b ETH_HLEN / 16 = 4
  ihl : 5 ≤ ipIhl b ETH_HLEN
  port : classifierWord b = PFCP_PORT

section Pfcp

variable {b : Window} {app : Option ApplicationInfo}

/-- The classifier recognises it. -/
theorem IsPfcp.getPacketType (h : IsPfcp b) (init : HdrLens) :
    (UdxFastpath.getPacketType b init).1 = .pfcp := by
  have hport := h.port
  rcases getPacketType_cases_of_udp init h.udp with ⟨-, hgtp⟩ | ⟨htype, -⟩ | ⟨-, hother⟩
  · rw [hport] at hgtp
    exact absurd hgtp (by decide)
  · exact htype
  · exact absurd (.inr hport) hother

/-- **The case falls through**: the frame is dropped as it is. -/
theorem IsPfcp.packetProcessor (h : IsPfcp b) (app : Option ApplicationInfo) (tables : RuleTables)
    (recvLport : ℕ) : Upf.packetProcessor app tables b recvLport = .ok (DROP, b) := by
  refine packetProcessor_of_unmatched tables recvLport app ?_
  simp only [matchedRule, h.getPacketType]

theorem IsPfcp.ethProto_ne_arp (h : IsPfcp b) : ethProto b 0 ≠ htons PID_ETH_ARP := by
  rw [h.udp.1]
  decide

/-- What one iteration of the CNDP loop does with it. -/
theorem IsPfcp.cndp_events (h : IsPfcp b) (env : Cndp.Env RuleTables)
    (hupf : RunsUpf env.packetProcessor app) (hfilter : env.dm.fastPathFiltering = false)
    (i : ℕ) (tables : RuleTables) :
    (Cndp.rtcPacket env i b tables).1 = [.packetProcessor i DROP, .free i] := by
  have harp : getEtherType b ≠ .l2EtherArp := mt (getEtherType_eq_arp_iff b).mp h.ethProto_ne_arp
  have hdiverted : ¬ Cndp.Diverted env.dm b := by
    rintro ⟨hon, -⟩
    rw [hfilter] at hon
    cases hon
  have hverdict := hupf.apply (h.packetProcessor app tables env.lport.lpid)
  rw [Cndp.rtcPacket, if_neg harp, if_neg hdiverted]
  exact Cndp.dispatch_of_drop env i (by rw [hverdict])

/-- What one iteration of the DPDK loop does with it. -/
theorem IsPfcp.dpdk_events (h : IsPfcp b) (env : Dpdk.Env RuleTables) (fs : Dpdk.FwdStream)
    (hupf : RunsUpf env.packetProcessor app) (hfilter : env.dm.fastPathFiltering = false)
    (i : ℕ) (tables : RuleTables) :
    (Dpdk.rtcPacket env fs i b tables).1 = [.packetProcessor i DROP, .free i] := by
  have hverdict := hupf.apply (h.packetProcessor app tables fs.rxPort)
  rw [Dpdk.rtcPacket_of_plain env fs i b tables h.ethProto_ne_arp hfilter]
  exact Dpdk.dispatch_of_drop env fs i (by rw [hverdict])

/-- A buffer that is handed over and freed is not written to the TAP device. -/
theorem dropped_of_eventsOf {tr : List Event} {i : ℕ}
    (h : eventsOf tr i = [.packetProcessor i DROP, .free i]) :
    ¬ Tapped tr i ∧ Event.free i ∈ tr := by
  constructor
  · rintro ⟨e, he, htaps⟩
    rw [h] at he
    simp only [List.mem_cons, List.not_mem_nil, or_false] at he
    rcases he with rfl | rfl <;> simp [Event.taps] at htaps
  · have hfree : Event.free i ∈ eventsOf tr i := by
      rw [h]
      exact List.mem_cons_of_mem _ List.mem_cons_self
    exact ((mem_onItem Event.item).mp hfree).1

end Pfcp

/-- **No PFCP frame is delivered.**  Whatever the tables and the port, the processor does not
return `KERNEL` for it; and with the filter off no call of either loop writes it to the TAP
device.  The CNDP loop frees it, and so does the DPDK loop if it gets to it. -/
theorem pfcp_never_delivered (app : Option ApplicationInfo) (b : Window) (h : IsPfcp b) :
    (∀ tables recvLport, packetProcessor app tables b recvLport = .ok (DROP, b) ∧
      packetProcessor app tables b recvLport ≠ .ok (KERNEL, b)) ∧
    (∀ {S : Type} (env : Cndp.Env RuleTables) (sink : BufferedSink ℕ S) (burst : List Window)
      (txbuff : ℕ → S) (tables : RuleTables) (i : ℕ), RunsUpf env.packetProcessor app →
      env.dm.fastPathFiltering = false → burst[i]? = some b →
        ¬ Tapped (Cndp.runToCompletion env sink (some burst) txbuff tables).trace i ∧
          Event.free i ∈ (Cndp.runToCompletion env sink (some burst) txbuff tables).trace) ∧
    (∀ (env : Dpdk.Env RuleTables) (fs : Dpdk.FwdStream) (burst : List Window)
      (tables : RuleTables) (i : ℕ), RunsUpf env.packetProcessor app →
      env.dm.fastPathFiltering = false → burst[i]? = some b →
        ¬ Tapped (Dpdk.runToCompletion env fs burst tables).2.1 i) := by
  refine ⟨fun tables recvLport => ?_, ?_, ?_⟩
  · have hdrop := h.packetProcessor app tables recvLport
    refine ⟨hdrop, fun hkernel => ?_⟩
    rw [hdrop] at hkernel
    have hverdict : DROP = KERNEL := congrArg Prod.fst (Except.ok.inj hkernel)
    exact absurd hverdict (by decide)
  · intro S env sink burst txbuff tables i hupf hfilter hget
    rw [Cndp.runToCompletion_trace]
    obtain ⟨tables', hevents⟩ :=
      Cndp.exists_eventsOf_burstLoop env sink burst (txbuff, tables) hget
    rw [h.cndp_events env hupf hfilter] at hevents
    exact dropped_of_eventsOf hevents
  · intro env fs burst tables i hupf hfilter hget
    rw [Dpdk.runToCompletion_trace]
    by_cases hreach : Reached (Dpdk.Answered env.dm) burst i
    · obtain ⟨tables', hevents⟩ :=
        Dpdk.eventsOf_rtcLoop_of_reached env fs burst tables hget hreach
      rw [h.dpdk_events env fs hupf hfilter] at hevents
      exact (dropped_of_eventsOf hevents).1
    · -- behind an answered request nothing happens at all
      rintro ⟨e, he, -⟩
      rw [Dpdk.eventsOf_rtcLoop_of_not_reached env fs burst tables hreach] at he
      cases he

theorem isPfcp_udpFrame : IsPfcp (udpFrame 8805) := ⟨by decide, by decide, by decide, by decide⟩

theorem pfcp_never_delivered_udpFrame :
    IsPfcp (udpFrame 8805) ∧ ∀ tables recvLport,
      packetProcessor (some default) tables (udpFrame 8805) recvLport ≠
        .ok (KERNEL, udpFrame 8805) :=
  ⟨isPfcp_udpFrame, fun tables recvLport =>
    ((pfcp_never_delivered (some default) _ isPfcp_udpFrame).1 tables recvLport).2⟩

/-- The user-plane function on the CNDP loop, with one lport and the filter off. -/
def cndpUpf : Cndp.Env RuleTables :=
  { Cndp.forwardAll with packetProcessor := upfHandler (some default) }

/-- …and on the DPDK loop. -/
def dpdkUpf : Dpdk.Env RuleTables :=
  { Dpdk.forwardAll with packetProcessor := upfHandler (some default) }

/-- **A PFCP frame without options**, in empty tables: dropped by the processor, and freed by both
loops without having been written to the TAP device. -/
theorem pfcp_udpFrame_dropped :
    IsPfcp (udpFrame 8805) ∧
      packetProcessor (some default) ⟨fun _ => none, fun _ => none⟩ (udpFrame 8805) 0 ≠
        .ok (KERNEL, udpFrame 8805) ∧
      cndpUpf.dm.fastPathFiltering = false ∧ dpdkUpf.dm.fastPathFiltering = false ∧
      ¬ Tapped (Cndp.runToCompletion cndpUpf Cndp.directSink (some [udpFrame 8805])
        (fun _ => ([], [])) ⟨fun _ => none, fun _ => none⟩).trace 0 ∧
      ¬ Tapped (Dpdk.runToCompletion dpdkUpf Dpdk.stream₀ [udpFrame 8805]
        ⟨fun _ => none, fun _ => none⟩).2.1 0 := by
  refine ⟨isPfcp_udpFrame, fun hkernel => ?_, rfl, rfl, by decide, by decide⟩
  rw [isPfcp_udpFrame.packetProcessor] at hkernel
  have hverdict : DROP = KERNEL := congrArg Prod.fst (Except.ok.inj hkernel)
  exact absurd hverdict (by decide)

/-! ## The output port -/

/-- A frame that **leaves**: it matches a rule, and what the rule asks for can be done. -/
def Leaves (tables : RuleTables) (b : Window) : Prop :=
  ∃ rule, matchedRule tables b = some rule ∧ (Encapsulates tables b rule → 58 ≤ b.off) ∧
    (Decapsulates tables b rule → outerLength b ≤ b.len)

/-- **The output port exists**, with `n` ports configured: the verdict is `KERNEL`, `DROP` or a
port below `n`, and what the two loops then do stays inside the arrays of `n` ports. -/
structure OutputExists (app : Option ApplicationInfo) (tables : RuleTables) (b : Window)
    (recvLport n : ℕ) : Prop where
  verdict : ∀ verdict c, packetProcessor app tables b recvLport = .ok (verdict, c) →
    verdict = KERNEL ∨ verdict = DROP ∨ verdict < n
  cndp : ∀ (env : Cndp.Env RuleTables) (i : ℕ), RunsUpf env.packetProcessor app →
    env.jinfo.lportList.length = n → env.lport.lpid = recvLport →
      ∀ r, packetProcessor app tables b recvLport = .ok r →
        ∀ e ∈ (Cndp.verdictStage env i b tables).1, Dpdk.InRange n e
  dpdk : ∀ (env : Dpdk.Env RuleTables) (fs : Dpdk.FwdStream) (i : ℕ),
    RunsUpf env.packetProcessor app → env.lports.length = n → fs.rxPort = recvLport →
      ∀ r, packetProcessor app tables b recvLport = .ok r →
        ∀ e ∈ (Dpdk.verdictStage env fs i b tables).1, Dpdk.InRange n e

section Output

variable {app : Option ApplicationInfo} {tables : RuleTables} {b c : Window}
  {recvLport n verdict : ℕ}

/-- The opposite port exists unless the port is the last one of an odd number. -/
theorem xor_one_lt_iff (h : recvLport < n) :
    recvLport ^^^ 1 < n ↔ n % 2 = 0 ∨ recvLport + 1 ≠ n := by
  rcases Nat.even_or_odd recvLport with heven | hodd
  · rw [Nat.xor_one_of_even heven]
    have := Nat.even_iff.mp heven
    omega
  · rw [Nat.xor_one_of_odd hodd]
    have := Nat.odd_iff.mp hodd
    omega

/-- The verdict of a frame that leaves is the opposite port, and every other is dropped. -/
theorem verdict_eq (hrun : packetProcessor app tables b recvLport = .ok (verdict, c)) :
    app ≠ none ∧ Leaves tables b ∧ verdict = recvLport ^^^ 1 ∨
      ¬ (app ≠ none ∧ Leaves tables b) ∧ verdict = DROP := by
  have hcases := packetProcessor_processed tables b recvLport app
  rw [hrun] at hcases
  cases hcases with
  | ignored h =>
      refine .inr ⟨?_, rfl⟩
      rintro ⟨happ, rule, hmatched, -⟩
      rcases h with hnone | hnone
      · exact happ hnone
      · rw [hmatched] at hnone
        cases hnone
  | encapsulated happ h hpushed =>
      refine .inl ⟨happ ▸ Option.some_ne_none _, ⟨_, h.matched, fun _ => ?_, fun h' => ?_⟩, rfl⟩
      · have hoff := hpushed.off_eq
        rw [(encapsulate_pushes _ _).length_eq] at hoff
        omega
      · exact absurd h' h.not_decapsulates
  | truncated _ h hlen =>
      refine .inr ⟨?_, rfl⟩
      rintro ⟨-, rule, hmatched, -, hfits⟩
      obtain rfl := Option.some.inj (h.matched.symm.trans hmatched)
      have := hfits h
      omega
  | decapsulated happ h hadjust =>
      refine .inl ⟨happ ▸ Option.some_ne_none _, ⟨_, h.matched, fun h' => ?_, fun _ => ?_⟩, rfl⟩
      · exact absurd h h'.not_decapsulates
      · by_contra hshort
        rw [(b.adjust_eq_none_iff _).mpr (by omega)] at hadjust
        cases hadjust
  | kept happ h hencap hdecap =>
      exact .inl ⟨happ, ⟨_, h, fun h' => absurd h' hencap, fun h' => absurd h' hdecap⟩, rfl⟩

/-- A frame that leaves does so: the processor returns. -/
theorem exists_ok_of_leaves (recvLport : ℕ) (happ : app ≠ none) (h : Leaves tables b) :
    ∃ c, packetProcessor app tables b recvLport = .ok (recvLport ^^^ 1, c) := by
  have hroom : ∀ rule, Encapsulates tables b rule → 58 ≤ b.off := by
    intro rule hencap
    obtain ⟨matched, hmatched, hroom, -⟩ := h
    obtain rfl := Option.some.inj (hencap.matched.symm.trans hmatched)
    exact hroom hencap
  obtain ⟨⟨verdict, c⟩, hrun⟩ := exists_ok_of_headroom app tables recvLport hroom
  rcases verdict_eq hrun with ⟨-, -, rfl⟩ | ⟨hnot, -⟩
  · exact ⟨c, hrun⟩
  · exact absurd ⟨happ, h⟩ hnot

/-- A valid verdict stays inside the CNDP lport list. -/
theorem inRange_cndp_of_valid (env : Cndp.Env RuleTables) {i : ℕ}
    (hvalid : (env.packetProcessor tables b env.lport.lpid).1 = KERNEL ∨
      (env.packetProcessor tables b env.lport.lpid).1 = DROP ∨
        (env.packetProcessor tables b env.lport.lpid).1 < env.jinfo.lportList.length) :
    ∀ e ∈ (Cndp.verdictStage env i b tables).1, Dpdk.InRange env.jinfo.lportList.length e := by
  rcases hvalid with hkernel | hdrop | hlt
  · rw [Cndp.dispatch_of_kernel env i hkernel]
    simp [Dpdk.InRange]
  · rw [Cndp.dispatch_of_drop env i hdrop]
    simp [Dpdk.InRange]
  · by_cases hkernel : (env.packetProcessor tables b env.lport.lpid).1 = KERNEL
    · rw [Cndp.dispatch_of_kernel env i hkernel]
      simp [Dpdk.InRange]
    · by_cases hdrop : (env.packetProcessor tables b env.lport.lpid).1 = DROP
      · rw [Cndp.dispatch_of_drop env i hdrop]
        simp [Dpdk.InRange]
      · rw [Cndp.dispatch_of_lt env i rfl hkernel hdrop hlt]
        simp [Dpdk.InRange, hlt]

/-- Valid verdicts are all that is needed. -/
theorem outputExists_of_verdict
    (h : ∀ verdict c, packetProcessor app tables b recvLport = .ok (verdict, c) →
      verdict = KERNEL ∨ verdict = DROP ∨ verdict < n) :
    OutputExists app tables b recvLport n := by
  refine ⟨h, ?_, ?_⟩
  · rintro env i hupf rfl rfl r hrun
    refine inRange_cndp_of_valid env ?_
    rw [hupf.apply hrun]
    exact h r.1 r.2 hrun
  · rintro env fs i hupf rfl rfl r hrun
    refine Dpdk.inRange_verdictStage_of_valid env fs ?_
    rw [hupf.apply hrun]
    exact h r.1 r.2 hrun

end Output

/-- **When the output port exists**: the frame does not leave, or the number of ports is even, or
the frame came in on another port than the last. -/
theorem outputExists_iff (app : Option ApplicationInfo) (tables : RuleTables) (b : Window)
    (recvLport n : ℕ) (hn : recvLport < n) :
    OutputExists app tables b recvLport n ↔
      ¬ (app ≠ none ∧ Leaves tables b) ∨ n % 2 = 0 ∨ recvLport + 1 ≠ n := by
  constructor
  · intro h
    by_contra hcon
    push Not at hcon
    obtain ⟨hleaves, hodd, hlast⟩ := hcon
    obtain ⟨c, hrun⟩ := exists_ok_of_leaves recvLport hleaves.1 hleaves.2
    -- the last port of an odd number is even, and so is neither special verdict its opposite
    have hopposite : recvLport ^^^ 1 = n := by
      rw [Nat.xor_one_of_even (Nat.even_iff.mpr (by omega)), hlast]
    rcases h.verdict _ c hrun with hkernel | hdrop | hlt
    · rw [hopposite] at hkernel
      exact hodd (by rw [hkernel]; decide)
    · rw [hopposite] at hdrop
      exact hodd (by rw [hdrop]; decide)
    · omega
  · intro h
    refine outputExists_of_verdict fun verdict c hrun => ?_
    rcases verdict_eq hrun with ⟨happ, hleaves, rfl⟩ | ⟨-, rfl⟩
    · right; right
      exact (xor_one_lt_iff hn).mpr (h.resolve_left fun hnot => hnot ⟨happ, hleaves⟩)
    · exact .inr (.inl rfl)

theorem outputExists_two_ports :
    OutputExists (some default) (uniformTables (tunnelRule PFCP_APPLY_ACTION_DROP_MASK 7))
      (udpFrame 80) 0 2 :=
  (outputExists_iff _ _ _ 0 2 (by decide)).mpr (.inr (.inl rfl))

/-- **One port**, as in the DPDK configuration that is shipped: a frame that leaves goes to port
1, past the end of both arrays. -/
theorem single_port_output_missing :
    packetProcessor (some default) (uniformTables (tunnelRule PFCP_APPLY_ACTION_DROP_MASK 7))
        (udpFrame 80) 0 = .ok (1, udpFrame 80) ∧
      ¬ OutputExists (some default) (uniformTables (tunnelRule PFCP_APPLY_ACTION_DROP_MASK 7))
        (udpFrame 80) 0 1 := by
  refine ⟨rfl, fun h => ?_⟩
  exact absurd (h.verdict 1 _ rfl) (by decide)

end UdxFastpath.Upf
