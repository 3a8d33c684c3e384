import UdxFastpath.Cndp.RunToCompletion
import UdxFastpath.Core.UdpPort
import UdxFastpath.Core.Worker
import UdxFastpath.Upf.Accesses
import UdxFastpath.Upf.Decapsulation

/-!
# Does parsing stay inside the frame?

None of the five packet functions looks at the length of the frame: the two that are
given it ignore it.  They follow the headers wherever these lead, and stay inside
exactly when the frame is as long as the headers it announces.

* `TransportFits` — UDP and TCP: the length of the IP header is what the frame says,
  up to sixty bytes, and the port or the data offset lies behind it;
* `TunnelFits` — GTP-U: the optional block, an announced container, and behind these
  as much of the inner IP header as holds the source address.

Everything else the functions look at lies in the first sixty bytes.

`PacketLoop.handleLogged` is the part of an iteration of a packet loop in which the
five functions are called; DPDK `run_to_completion` tests for ARP and filters without
them.
-/

namespace UdxFastpath.Upf

open ByteWindow AccessLog

/-! ## The loops -/

/-- A packet loop, and the port it serves.  The worker loops of the two backends are alike
here. -/
inductive PacketLoop
  | cndp (lpid : ℕ)
  | dpdk (fs : Dpdk.FwdStream)
  | worker (lpid : ℕ)

/-- The frame the DPDK loop hands over: the filter may have aimed it at the TAP device. -/
def dpdkFrame (dm : DataPlaneManager) (fs : Dpdk.FwdStream) (b : Window) : Window :=
  (Dpdk.filterStage dm 0 (Dpdk.arpStage dm fs 0 b).2.1).2

namespace PacketLoop

/-- What the loops access of a frame, through the five functions. -/
def handleLogged (dm : DataPlaneManager) (app : Option ApplicationInfo) (tables : RuleTables)
    (b : Window) : PacketLoop → Logged Unit
  | cndp lpid => do
      let etherType ← getEtherTypeLogged b
      if etherType = .l2EtherArp then return ()
      else if dm.fastPathFiltering then
        let portNumber ← getPacketPortNumberLogged b
        if dm.filterPacket portNumber = false then return ()
        else
          let _verdict ← packetProcessorLogged app tables b lpid
          return ()
      else
        let _verdict ← packetProcessorLogged app tables b lpid
        return ()
  | dpdk fs =>
      if (Dpdk.arpStage dm fs 0 b).2.2 then return ()
      else do
        let _verdict ← packetProcessorLogged app tables (dpdkFrame dm fs b) fs.rxPort
        return ()
  | worker lpid => do
      let etherType ← getEtherTypeLogged b
      if etherType = .l2EtherArp then return ()
      else
        let portNumber ← getPacketPortNumberLogged b
        if dm.filterPacket portNumber then return ()
        else
          let _verdict ← packetProcessorLogged app tables b lpid
          return ()

/-- The loop calls `get_ether_type`. -/
def Classifies : PacketLoop → Prop
  | cndp _ => True
  | dpdk _ => False
  | worker _ => True

/-- The loop hands the frame to the packet processor. -/
def HandsOver (dm : DataPlaneManager) (b : Window) : PacketLoop → Prop
  | cndp _ => getEtherType b ≠ .l2EtherArp ∧ ¬ Cndp.Diverted dm b
  | dpdk _ => ¬ Dpdk.Answered dm b
  | worker _ => getEtherType b ≠ .l2EtherArp ∧ dm.filterPacket (getPacketPortNumber b) = false

end PacketLoop

/-- **Parsing stays inside the frame.** -/
def StaysInside (loop : PacketLoop) (dm : DataPlaneManager) (app : Option ApplicationInfo)
    (tables : RuleTables) (b : Window) : Prop :=
  (loop.handleLogged dm app tables b).Below b.len

/-! ## The condition -/

/-- A tunnelled frame. -/
def IsGtp (b : Window) : Prop := IsUdpIpv4 b ∧ classifierWord b = GTP_PORT

/-- The announced transport header is there: the ports of a UDP header, the data offset of a TCP
header. -/
structure TransportFits (b : Window) : Prop where
  udp : IsUdpIpv4 b → l4Start b + 4 ≤ b.len
  tcp : IsTcpIpv4 b → l4Start b + 13 ≤ b.len

/-- Where the tunnel header starts. -/
def tunnelStart (b : Window) : ℕ := l4Start b + UDP_HDR_LENGTH

/-- The type of the first extension header. -/
def tunnelType (b : Window) : UInt8 := b.byte (tunnelStart b + 11)

/-- The type of the PDU session container. -/
def containerType (b : Window) : ℕ := (b.byte (tunnelStart b + 13)).toNat / 16

/-- The announced tunnel header is there, and behind it the source address of the inner packet:
twelve bytes, or twenty with a downlink and sixteen with an uplink container. -/
structure TunnelFits (b : Window) : Prop where
  optional : tunnelStart b + 12 ≤ b.len
  plain : tunnelType b = E_GTP_EXT_HDR_NO_MORE_EXTENSION_HEADERS →
    tunnelStart b + 12 + 16 ≤ b.len
  container : tunnelType b = E_GTP_EXT_HDR_PDU_SESSION_CONTAINER → tunnelStart b + 14 ≤ b.len
  downlink : tunnelType b = E_GTP_EXT_HDR_PDU_SESSION_CONTAINER → containerType b = 0 →
    tunnelStart b + 20 + 16 ≤ b.len
  uplink : tunnelType b = E_GTP_EXT_HDR_PDU_SESSION_CONTAINER → containerType b = 1 →
    tunnelStart b + 16 + 16 ≤ b.len

/-- The frame is as long as the headers the processor finds announced in it. -/
structure HeadersFit (b : Window) : Prop where
  transport : TransportFits b
  tunnel : IsGtp b → TunnelFits b

/-! ## The classifiers -/

section Classifiers

variable {b : Window}

/-- The fields in the first sixty bytes are there. -/
theorem below_ipFields (hlen : 60 ≤ b.len) :
    (ethProtoLogged b 0).Below b.len ∧ (ipIhlLogged b ETH_HLEN).Below b.len ∧
      (ipv4HdrLenLogged b ETH_HLEN).Below b.len ∧ (ipProtocolLogged b ETH_HLEN).Below b.len ∧
      (ipDaddrLogged b ETH_HLEN).Below b.len := by
  simp only [ethProtoLogged, ipIhlLogged, ipv4HdrLenLogged, ipProtocolLogged, ipDaddrLogged,
    Logged.below_bind, Logged.below_pure, below_readByte, below_readLE16, below_readLE32, and_true,
    ETH_HLEN]
  omega

theorem below_udpPtypeLogged (p : ℕ) :
    (udpPtypeLogged b p).Below b.len ↔ p + 4 ≤ b.len := by
  simp only [udpPtypeLogged, l4DestLogged, Logged.below_bind, Logged.below_ite, Logged.below_pure,
    below_readLE16, and_true, implies_true]
  omega

theorem below_tcpDoffLogged (p : ℕ) :
    (tcpDoffLogged b p).Below b.len ↔ p + 13 ≤ b.len := by
  simp only [tcpDoffLogged, Logged.below_bind, Logged.below_pure, below_readByte, and_true]
  omega

/-- Only IPv4 announces anything. -/
theorem transportFits_of_ne (h : ethProto b 0 ≠ htons PID_ETH_IP) : TransportFits b :=
  ⟨fun hudp => absurd hudp.1 h, fun htcp => absurd htcp.1 h⟩

/-- …and there it is decided by the protocol number. -/
theorem transportFits_iff_of_eq (h : ethProto b 0 = htons PID_ETH_IP) :
    TransportFits b ↔
      match ptypeL4 (ipProtocol b ETH_HLEN) with
      | .l4Udp => l4Start b + 4 ≤ b.len
      | .l4Tcp => l4Start b + 13 ≤ b.len
      | _ => True := by
  have hne : ¬ IPPROTO_UDP = IPPROTO_TCP := by decide
  rcases ptypeL4_cases (ipProtocol b ETH_HLEN) with
    ⟨htype, hproto⟩ | ⟨htype, hproto⟩ | ⟨htype, hudp, htcp⟩
  · rw [htype]
    refine ⟨fun hfits => hfits.udp ⟨h, hproto⟩, fun hle => ⟨fun _ => hle, fun htcp => ?_⟩⟩
    exact absurd (hproto.symm.trans htcp.2) hne
  · rw [htype]
    refine ⟨fun hfits => hfits.tcp ⟨h, hproto⟩, fun hle => ⟨fun hudp => ?_, fun _ => hle⟩⟩
    exact absurd (hudp.2.symm.trans hproto) hne
  · rw [htype]
    exact iff_of_true ⟨fun hcon => absurd hcon.2 hudp, fun hcon => absurd hcon.2 htcp⟩ trivial

theorem below_getEtherTypeLogged (hlen : 60 ≤ b.len) :
    (getEtherTypeLogged b).Below b.len ↔ TransportFits b := by
  obtain ⟨heth, hihl, hl3, hproto, -⟩ := below_ipFields hlen
  simp only [getEtherTypeLogged, Logged.below_bind, Logged.below_ite, Logged.below_pure, heth, hihl,
    hl3, hproto, true_and, implies_true, and_true]
  simp only [value_ethProtoLogged, value_ipv4HdrLenLogged, value_ipProtocolLogged]
  by_cases hip : ethProto b 0 = htons PID_ETH_IP
  · have hne : ¬ htons PID_ETH_IP = htons PID_ETH_ARP := by decide
    rw [transportFits_iff_of_eq hip, hip]
    simp only [hne, not_false_eq_true, forall_const]
    cases ptypeL4 (ipProtocol b ETH_HLEN) with
    | l4Udp => exact below_udpPtypeLogged _
    | l4Tcp =>
        simp only [Logged.below_bind, Logged.below_pure, and_true, below_tcpDoffLogged]
        rfl
    | _ => exact iff_of_true (Logged.below_pure _ _) trivial
  · exact iff_of_true (fun _ hcon => absurd hcon hip) (transportFits_of_ne hip)

theorem below_getPacketTypeLogged (hlen : 60 ≤ b.len) (init : HdrLens) :
    (getPacketTypeLogged b init).Below b.len ↔ TransportFits b := by
  rw [← Logged.below_congr (log_getEtherTypeLogged b init)]
  exact below_getEtherTypeLogged hlen

/-- The filter looks twenty bytes behind the start of the IP header, whatever that says. -/
theorem below_getPacketPortNumberLogged (hlen : 60 ≤ b.len) :
    (getPacketPortNumberLogged b).Below b.len := by
  obtain ⟨heth, -, -, hproto, -⟩ := below_ipFields hlen
  have hdest : (l4DestLogged b (ETH_HLEN + DEFAULT_IPV4_HDR_LENGTH)).Below b.len := by
    simp only [l4DestLogged, below_readLE16, ETH_HLEN, DEFAULT_IPV4_HDR_LENGTH]
    omega
  simp only [getPacketPortNumberLogged, Logged.below_bind, Logged.below_ite, Logged.below_pure,
    heth, hproto, hdest, and_true, implies_true]

end Classifiers

/-! ## The tunnel -/

section Tunnel

variable {b : Window}

/-- What the parser reads is decided by the two type fields. -/
theorem below_parseGtphdrLogged (p : ℕ) :
    (parseGtphdrLogged b p).Below b.len ↔
      p + 12 ≤ b.len ∧ (b.byte (p + 11) = E_GTP_EXT_HDR_PDU_SESSION_CONTAINER →
        p + 14 ≤ b.len ∧
          ((b.byte (p + 13)).toNat / 16 = 0 ∨ (b.byte (p + 13)).toNat / 16 = 1 →
            p + 16 ≤ b.len)) := by
  have hne : ¬ E_GTP_EXT_HDR_PDU_SESSION_CONTAINER = E_GTP_EXT_HDR_NO_MORE_EXTENSION_HEADERS := by
    decide
  simp only [parseGtphdrLogged, parseExtensionsLogged, Logged.below_bind, Logged.below_ite,
    Logged.below_pure, below_readByte, implies_true, true_and, and_true]
  simp only [value_readByte]
  by_cases htype : b.byte (p + 11) = E_GTP_EXT_HDR_PDU_SESSION_CONTAINER
  · simp only [htype, hne, not_false_eq_true, forall_const]
    have hread : (readByte 0 b (p + 12 + 3)).Below b.len ↔ p + 16 ≤ b.len := by
      rw [below_readByte]
      omega
    have hpos : p + 12 + 1 = p + 13 := rfl
    rw [hpos]
    cases hpdu : (b.byte (p + 13)).toNat / 16 with
    | zero =>
        simp only [Logged.below_bind, Logged.below_pure, hread, and_true, true_or, forall_const]
        omega
    | succ k =>
        cases k with
        | zero =>
            simp only [Logged.below_bind, Logged.below_pure, hread, and_true, Nat.zero_add, or_true,
              forall_const]
            omega
        | succ k =>
            simp only [Logged.below_pure, and_true]
            omega
  · simp only [htype, false_imp_iff, implies_true, and_true]
    omega

/-- The key is read from three headers. -/
theorem below_uplinkKeyLogged (gtphdr payload : ℕ) (pdu : PduExtensionHeader) :
    (uplinkKeyLogged b gtphdr payload pdu).Below b.len ↔
      payload + 16 ≤ b.len ∧ gtphdr + 8 ≤ b.len ∧ ∀ p, pdu.header = some p → p + 3 ≤ b.len := by
  simp only [uplinkKeyLogged, ipSaddrLogged, Logged.below_bind, below_readLE32]
  cases pdu.header with
  | none =>
      simp only [Logged.below_pure, and_true, reduceCtorEq, false_imp_iff, implies_true]
      omega
  | some p =>
      simp only [Logged.below_bind, Logged.below_pure, below_readByte, and_true, Option.some.injEq,
        forall_eq']
      omega

theorem below_writeEthHeaderLogged {base bound : ℤ} (h : base + 14 ≤ bound)
    (source dest : EtherAddr) (c : Window) :
    (writeEthHeaderLogged base source dest c).Below bound := by
  have hmac : ∀ mac : EtherAddr, mac.toList ≠ [] := fun _ hnil => by cases hnil
  simp only [writeEthHeaderLogged, Logged.below_bind, below_write _ _ _ (hmac _), below_writeLE16,
    EtherAddr.length_toList, ETH_ALEN]
  omega

/-- Behind a header that parsed, the branch reads the key, and nothing further on than the source
address in it. -/
theorem below_processUplinkLogged_of_parsed {p n : ℕ} {lens : HdrLens} (hp : gtpStart lens = p)
    (hl2 : lens.l2Len = ETH_HLEN) (hgtphdr : (parseGtphdr b p).gtphdr = some p)
    (hn : (parseGtphdr b p).len = n) (app : ApplicationInfo) (tables : RuleTables)
    (recvLport : ℕ) :
    (processUplinkLogged app tables b lens recvLport).Below b.len ↔ p + n + 16 ≤ b.len := by
  have hheader : ∀ q, (parseGtphdr b p).pdu.header = some q → q = p + 12 := by
    intro q hq
    rw [parseGtphdr_pdu (hgtphdr ▸ Option.some_ne_none _)] at hq
    split at hq
    · exact (Option.some.inj hq).symm
    · cases hq
  simp only [processUplinkLogged, Logged.below_bind, value_parseGtphdrLogged, hp, hgtphdr, hn,
    Int.toNat_natCast, below_uplinkKeyLogged]
  constructor
  · rintro ⟨-, hkey, -⟩
    exact hkey.1
  · intro hle
    refine ⟨(below_parseGtphdrLogged p).mpr ⟨by omega, fun _ => ⟨by omega, fun _ => by omega⟩⟩,
      ⟨hle, by omega, fun q hq => ?_⟩, ?_⟩
    · have := hheader q hq
      omega
    · cases tables.uplink _ with
      | none => exact Logged.below_pure _ _
      | some rule =>
          simp only [Logged.below_ite, Logged.below_pure, implies_true, and_true]
          intro _ _
          cases b.adjust (lens.l3Len + lens.l4Len + n) with
          | none => exact Logged.below_pure _ _
          | some c =>
              simp only [Logged.below_bind, Logged.below_pure, and_true]
              refine below_writeEthHeaderLogged ?_ _ _ _
              simp only [gtpStart, hl2, ETH_HLEN] at hp
              omega

/-- A header that does not parse is looked at no further. -/
theorem below_processUplinkLogged_of_unparsed {p : ℕ} {lens : HdrLens} (hlen : 60 ≤ b.len)
    (hp : gtpStart lens = p) (hl2 : lens.l2Len = ETH_HLEN)
    (hgtphdr : (parseGtphdr b p).gtphdr = none) (app : ApplicationInfo) (tables : RuleTables)
    (recvLport : ℕ) :
    (processUplinkLogged app tables b lens recvLport).Below b.len ↔
      (parseGtphdrLogged b p).Below b.len := by
  obtain ⟨-, -, -, -, hdaddr⟩ := below_ipFields hlen
  simp only [processUplinkLogged, Logged.below_bind, value_parseGtphdrLogged, hp, hgtphdr, hl2,
    hdaddr, Logged.below_pure, and_true]

/-- What has to fit when no extension header is announced. -/
theorem tunnelFits_iff_of_plain (htype : tunnelType b = E_GTP_EXT_HDR_NO_MORE_EXTENSION_HEADERS) :
    TunnelFits b ↔ tunnelStart b + 12 + 16 ≤ b.len := by
  have hne : tunnelType b ≠ E_GTP_EXT_HDR_PDU_SESSION_CONTAINER := by
    rw [htype]
    decide
  constructor
  · intro h
    exact h.plain htype
  · intro hle
    exact ⟨by omega, fun _ => hle, fun hcon => absurd hcon hne, fun hcon => absurd hcon hne,
      fun hcon => absurd hcon hne⟩

section Container

variable (htype : tunnelType b = E_GTP_EXT_HDR_PDU_SESSION_CONTAINER)

include htype

theorem tunnelType_ne_of_container : tunnelType b ≠ E_GTP_EXT_HDR_NO_MORE_EXTENSION_HEADERS := by
  rw [htype]
  decide

/-- …when a downlink container is. -/
theorem tunnelFits_iff_of_downlink (hpdu : containerType b = 0) :
    TunnelFits b ↔ tunnelStart b + 20 + 16 ≤ b.len := by
  constructor
  · intro h
    exact h.downlink htype hpdu
  · intro hle
    refine ⟨by omega, fun hcon => absurd hcon (tunnelType_ne_of_container htype), fun _ => by omega,
      fun _ _ => hle, fun _ hup => ?_⟩
    exact absurd (hpdu.symm.trans hup) Nat.zero_ne_one

/-- …when an uplink container is. -/
theorem tunnelFits_iff_of_uplink (hpdu : containerType b = 1) :
    TunnelFits b ↔ tunnelStart b + 16 + 16 ≤ b.len := by
  constructor
  · intro h
    exact h.uplink htype hpdu
  · intro hle
    refine ⟨by omega, fun hcon => absurd hcon (tunnelType_ne_of_container htype), fun _ => by omega,
      fun _ hdown => ?_, fun _ _ => hle⟩
    exact absurd (hdown.symm.trans hpdu) Nat.zero_ne_one

end Container

/-- …and when the header does not parse: the type fields themselves. -/
theorem tunnelFits_iff_of_unparsed (htype : tunnelType b ≠ E_GTP_EXT_HDR_NO_MORE_EXTENSION_HEADERS)
    (hpdu : tunnelType b = E_GTP_EXT_HDR_PDU_SESSION_CONTAINER →
      containerType b ≠ 0 ∧ containerType b ≠ 1) :
    TunnelFits b ↔ tunnelStart b + 12 ≤ b.len ∧
      (tunnelType b = E_GTP_EXT_HDR_PDU_SESSION_CONTAINER → tunnelStart b + 14 ≤ b.len) := by
  constructor
  · intro h
    exact ⟨h.optional, h.container⟩
  · rintro ⟨hoptional, hcontainer⟩
    exact ⟨hoptional, fun hcon => absurd hcon htype, hcontainer,
      fun hcon hdown => absurd hdown (hpdu hcon).1, fun hcon hup => absurd hup (hpdu hcon).2⟩

/-- **The uplink branch** stays inside exactly when the announced headers fit. -/
theorem below_processUplinkLogged (hlen : 60 ≤ b.len) {lens : HdrLens}
    (hp : gtpStart lens = tunnelStart b) (hl2 : lens.l2Len = ETH_HLEN) (app : ApplicationInfo)
    (tables : RuleTables) (recvLport : ℕ) :
    (processUplinkLogged app tables b lens recvLport).Below b.len ↔ TunnelFits b := by
  rcases parseGtphdr_cases b (tunnelStart b) with
    ⟨htype, hgtphdr, hn⟩ | ⟨htype, hpdu, hgtphdr, hn⟩ | ⟨htype, hpdu, hgtphdr, hn⟩ |
      ⟨htype, hpdu, hgtphdr⟩
  · rw [tunnelFits_iff_of_plain htype]
    exact below_processUplinkLogged_of_parsed hp hl2 hgtphdr hn app tables recvLport
  · rw [tunnelFits_iff_of_downlink htype hpdu]
    exact below_processUplinkLogged_of_parsed hp hl2 hgtphdr hn app tables recvLport
  · rw [tunnelFits_iff_of_uplink htype hpdu]
    exact below_processUplinkLogged_of_parsed hp hl2 hgtphdr hn app tables recvLport
  · rw [tunnelFits_iff_of_unparsed htype hpdu,
      below_processUplinkLogged_of_unparsed hlen hp hl2 hgtphdr, below_parseGtphdrLogged]
    refine and_congr_right fun _ => forall_congr' fun hcon => ⟨fun h => h.1, fun h => ⟨h, ?_⟩⟩
    rintro (hdown | hup)
    · exact absurd hdown (hpdu hcon).1
    · exact absurd hup (hpdu hcon).2

end Tunnel

/-! ## The processor -/

section Processor

variable {b : Window}

/-- A header is written into the bytes just put in front of the packet. -/
theorem below_pushHeaderLogged {base : ℤ} {n : ℕ} {writeLogged : ℤ → Window → Logged Window}
    (h : ∀ c, (writeLogged (base - n) c).Below base) (c : Window) :
    (pushHeaderLogged base n writeLogged c).run.Below base := by
  simp only [pushHeaderLogged, ExceptT.run_mk]
  cases c.prepend n with
  | none => exact Logged.below_pure _ _
  | some d =>
      simp only [Logged.below_bind, Logged.below_pure, and_true]
      exact h d

section Writers

variable (base : ℤ) (c : Window)

theorem below_writePduHeaderLogged : (writePduHeaderLogged (base - (4 : ℕ)) c).Below base := by
  simp only [writePduHeaderLogged, Logged.below_bind, below_readByte, below_writeByte]
  omega

theorem below_writeGtpHeaderLogged (teid : UInt32) :
    (writeGtpHeaderLogged (base - (12 : ℕ)) teid c).Below base := by
  simp only [writeGtpHeaderLogged, Logged.below_bind, below_writeByte, below_writeLE16,
    below_writeLE32]
  omega

theorem below_writeUdpHeaderLogged :
    (writeUdpHeaderLogged (base - UDP_HDR_LENGTH) c).Below base := by
  simp only [writeUdpHeaderLogged, Logged.below_bind, below_writeLE16, UDP_HDR_LENGTH]
  omega

theorem below_writeIpHeaderLogged :
    (writeIpHeaderLogged (base - DEFAULT_IPV4_HDR_LENGTH) c).Below base := by
  simp only [writeIpHeaderLogged, Logged.below_bind, below_readByte, below_writeByte,
    below_writeLE16, below_writeLE32, DEFAULT_IPV4_HDR_LENGTH]
  omega

end Writers

/-- …so the encapsulation touches nothing of what was received. -/
theorem below_encapsulateLogged (app : ApplicationInfo) (teid : UInt32) (c : Window) :
    (encapsulateLogged app teid c).run.Below 0 := by
  have heth : ∀ (base : ℤ) (d : Window),
      (writeEthHeaderLogged (base - ETH_HLEN) app.upfRanMac app.ranMac d).Below base := by
    intro base d
    refine below_writeEthHeaderLogged ?_ _ _ d
    simp only [ETH_HLEN]
    omega
  refine Logged.below_run_bind ?_ fun c => Logged.below_run_bind ?_ fun c =>
    Logged.below_run_bind ?_ fun c => Logged.below_run_bind ?_ fun c => ?_
  · exact below_pushHeaderLogged (below_writePduHeaderLogged 0) c
  · exact (below_pushHeaderLogged (below_writeGtpHeaderLogged (-4) · teid) c).mono (by decide)
  · exact (below_pushHeaderLogged (below_writeUdpHeaderLogged (-16)) c).mono (by decide)
  · exact (below_pushHeaderLogged (below_writeIpHeaderLogged (-24)) c).mono (by decide)
  · exact (below_pushHeaderLogged (heth (-44)) c).mono (by decide)

/-- The downlink branch looks at the destination address. -/
theorem below_processDownlinkLogged (hlen : 60 ≤ b.len) {lens : HdrLens}
    (hl2 : lens.l2Len = ETH_HLEN) (app : ApplicationInfo) (tables : RuleTables) (recvLport : ℕ) :
    (processDownlinkLogged app tables b lens recvLport).Below b.len := by
  obtain ⟨-, -, -, -, hdaddr⟩ := below_ipFields hlen
  simp only [processDownlinkLogged, downlinkKeyLogged, Logged.below_bind, hl2, hdaddr,
    Logged.below_pure, true_and]
  cases tables.downlink _ with
  | none => exact Logged.below_pure _ _
  | some rule =>
      have hcreate := below_encapsulateLogged app rule.ohc.teid b
      simp only [Logged.below_ite, Logged.below_bind, Logged.below_pure, implies_true, and_true]
      intro _ _
      exact hcreate.mono (Int.natCast_nonneg _)

/-- **The processor** stays inside exactly when the announced headers fit. -/
theorem below_packetProcessorLogged (hlen : 60 ≤ b.len) (app : ApplicationInfo)
    (tables : RuleTables) (recvLport : ℕ) :
    (packetProcessorLogged (some app) tables b recvLport).Below b.len ↔ HeadersFit b := by
  have hsplit : HeadersFit b ↔ TransportFits b ∧ (IsGtp b → TunnelFits b) :=
    ⟨fun h => ⟨h.transport, h.tunnel⟩, fun h => ⟨h.1, h.2⟩⟩
  rw [hsplit]
  simp only [packetProcessorLogged, Logged.below_bind, value_getPacketTypeLogged,
    below_getPacketTypeLogged hlen]
  refine and_congr_right fun _ => ?_
  by_cases hudp : IsUdpIpv4 b
  · have hlens : (getPacketType b ⟨0, 0, 0⟩).2 =
        ⟨ETH_HLEN, ipv4HdrLen b ETH_HLEN, UDP_HDR_LENGTH⟩ := by
      rw [getPacketType_of_udp b _ hudp]
    rcases getPacketType_cases_of_udp ⟨0, 0, 0⟩ hudp with
      ⟨htype, hword⟩ | ⟨htype, hword⟩ | ⟨htype, hword⟩
    · rw [htype, hlens]
      simp only [Logged.below_bind, Logged.below_pure, and_true]
      rw [below_processUplinkLogged hlen rfl rfl]
      exact ⟨fun h _ => h, fun h => h ⟨hudp, hword⟩⟩
    · rw [htype]
      refine iff_of_true (Logged.below_pure _ _) fun hgtp => ?_
      exact absurd (hword.symm.trans hgtp.2) (by decide)
    · rw [htype, hlens]
      refine iff_of_true (below_processDownlinkLogged hlen rfl app tables recvLport) fun hgtp => ?_
      exact absurd (.inl hgtp.2) hword
  · refine iff_of_true ?_ fun hgtp => absurd hgtp.1 hudp
    obtain ⟨hdown, hup, -⟩ := getPacketType_of_not_udp b ⟨0, 0, 0⟩ hudp
    cases htype : (getPacketType b ⟨0, 0, 0⟩).1 with
    | l4Udp => exact absurd htype hdown
    | gtp => exact absurd htype hup
    | _ => exact Logged.below_pure _ _

end Processor

/-! ## What the DPDK loop changes in front of the processor -/

section Aimed

variable {b c : Window}

/-- `c` is `b` but for its first twelve bytes: the two addresses of the Ethernet header. -/
structure AlikeBehind (b c : Window) : Prop where
  len : c.len = b.len
  byte : ∀ j, 12 ≤ j → c.byte j = b.byte j

theorem AlikeBehind.refl (b : Window) : AlikeBehind b b := ⟨rfl, fun _ _ => rfl⟩

theorem AlikeBehind.trans {d : Window} (h : AlikeBehind b c) (h' : AlikeBehind c d) :
    AlikeBehind b d :=
  ⟨h'.len.trans h.len, fun j hj => (h'.byte j hj).trans (h.byte j hj)⟩

theorem alikeBehind_sendToKernel (dm : DataPlaneManager) (i : ℕ) (b : Window) :
    AlikeBehind b (Dpdk.sendToKernel dm i b).2 := by
  refine ⟨rfl, fun j hj => ?_⟩
  rw [Dpdk.sendToKernel, Window.byte_store, if_pos (Nat.zero_le j), List.getElem?_eq_none,
    Option.getD_none]
  rw [EtherAddr.length_toList]
  omega

/-- The filter aims the frame at the TAP device, and that is all. -/
theorem alikeBehind_filterStage (dm : DataPlaneManager) (i : ℕ) (b : Window) :
    AlikeBehind b (Dpdk.filterStage dm i b).2 := by
  have hsend : ∀ (p : Prop) [Decidable p] (c : Window),
      AlikeBehind c (if p then Dpdk.sendToKernel dm i c else ([], c)).2 := by
    intro p _ c
    split
    · exact alikeBehind_sendToKernel dm i c
    · exact .refl c
  unfold Dpdk.filterStage
  split
  · exact ((hsend _ _).trans (hsend _ _)).trans (hsend _ _)
  · exact .refl b

namespace AlikeBehind

theorem ethProto_eq (h : AlikeBehind b c) : ethProto c 0 = ethProto b 0 := by
  simp only [ethProto, Window.loadLE16, h.byte 12 (by omega), h.byte 13 (by omega), Nat.zero_add]

theorem ipProtocol_eq (h : AlikeBehind b c) : ipProtocol c ETH_HLEN = ipProtocol b ETH_HLEN := by
  simp only [ipProtocol, ETH_HLEN, h.byte _ (show 12 ≤ 14 + 9 by omega)]

theorem l4Start_eq (h : AlikeBehind b c) : l4Start c = l4Start b := by
  simp only [l4Start, ipv4HdrLen, ipIhl, ipVersionIhl, ETH_HLEN, h.byte 14 (by omega)]

theorem classifierWord_eq (h : AlikeBehind b c) : classifierWord c = classifierWord b := by
  have hfar : 12 ≤ l4Start b + 2 := by
    simp only [l4Start, ETH_HLEN]
    omega
  have hword : ∀ d : Window, classifierWord d = d.loadBE16 (l4Start d + 2) := fun _ => rfl
  rw [hword, hword, h.l4Start_eq, Window.loadBE16, Window.loadBE16, h.byte _ hfar,
    h.byte _ (by omega)]

theorem tunnelStart_eq (h : AlikeBehind b c) : tunnelStart c = tunnelStart b := by
  rw [tunnelStart, tunnelStart, h.l4Start_eq]

theorem tunnelType_eq (h : AlikeBehind b c) : tunnelType c = tunnelType b := by
  have hfar : 12 ≤ tunnelStart b + 11 := by
    simp only [tunnelStart, UDP_HDR_LENGTH]
    omega
  rw [tunnelType, tunnelType, h.tunnelStart_eq, h.byte _ hfar]

theorem containerType_eq (h : AlikeBehind b c) : containerType c = containerType b := by
  rw [containerType, containerType, h.tunnelStart_eq, h.byte _ (by omega)]

/-- Such a frame announces the same headers. -/
theorem headersFit (h : AlikeBehind b c) (hfit : HeadersFit b) : HeadersFit c := by
  obtain ⟨⟨hudp, htcp⟩, htunnel⟩ := hfit
  refine ⟨⟨fun hc => ?_, fun hc => ?_⟩, fun hc => ?_⟩
  · rw [IsUdpIpv4, h.ethProto_eq, h.ipProtocol_eq] at hc
    rw [h.l4Start_eq, h.len]
    exact hudp hc
  · rw [IsTcpIpv4, h.ethProto_eq, h.ipProtocol_eq] at hc
    rw [h.l4Start_eq, h.len]
    exact htcp hc
  · rw [IsGtp, IsUdpIpv4, h.ethProto_eq, h.ipProtocol_eq, h.classifierWord_eq] at hc
    obtain ⟨hoptional, hplain, hcontainer, hdownlink, huplink⟩ := htunnel hc
    rw [← h.tunnelStart_eq, ← h.len] at hoptional hplain hcontainer hdownlink huplink
    rw [← h.tunnelType_eq] at hplain hcontainer hdownlink huplink
    rw [← h.containerType_eq] at hdownlink huplink
    exact ⟨hoptional, hplain, hcontainer, hdownlink, huplink⟩

theorem symm (h : AlikeBehind b c) : AlikeBehind c b :=
  ⟨h.len.symm, fun j hj => (h.byte j hj).symm⟩

theorem headersFit_iff (h : AlikeBehind b c) : HeadersFit c ↔ HeadersFit b :=
  ⟨h.symm.headersFit, h.headersFit⟩

end AlikeBehind

/-- An ARP frame announces nothing. -/
theorem headersFit_of_arp (h : ethProto b 0 = htons PID_ETH_ARP) : HeadersFit b := by
  have hne : ethProto b 0 ≠ htons PID_ETH_IP := by
    rw [h]
    decide
  exact ⟨transportFits_of_ne hne, fun hgtp => absurd hgtp.1.1 hne⟩

/-- …and is none the longer for having gone through the responder. -/
theorem arpStage_of_arp (dm : DataPlaneManager) (fs : Dpdk.FwdStream) (i : ℕ)
    (harp : ethProto b 0 = htons PID_ETH_ARP) (hask : ¬ dm.AsksForTap b) :
    (Dpdk.arpStage dm fs i b).2.1.len = b.len ∧
      ethProto (Dpdk.arpStage dm fs i b).2.1 0 = htons PID_ETH_ARP := by
  have hframe : (Dpdk.arpStage dm fs i b).2.1 = (dm.arpHandler b fs.rxPort).2 := by
    rw [Dpdk.arpStage, if_pos harp]
    dsimp only
    split
    · rfl
    · split <;> rfl
  rw [hframe, ← harp]
  by_cases hreply : DataPlaneManager.IsArpReply b
  · rw [DataPlaneManager.arpHandler_of_isArpReply_eq hreply]
    refine ⟨rfl, ?_⟩
    simp [ethProto, Window.loadLE16, Window.byte_store, ETH_HLEN]
  · rw [DataPlaneManager.arpHandler_of_neither hask hreply]
    exact ⟨rfl, rfl⟩

/-- The frame the DPDK loop hands over is as long as the one it received, and announces headers
that fit exactly if those of that one do. -/
theorem dpdkFrame_spec (dm : DataPlaneManager) (fs : Dpdk.FwdStream)
    (hanswered : ¬ Dpdk.Answered dm b) :
    (dpdkFrame dm fs b).len = b.len ∧ (HeadersFit (dpdkFrame dm fs b) ↔ HeadersFit b) := by
  have halike := alikeBehind_filterStage dm 0 (Dpdk.arpStage dm fs 0 b).2.1
  by_cases harp : ethProto b 0 = htons PID_ETH_ARP
  · obtain ⟨hlen, hproto⟩ := arpStage_of_arp dm fs 0 harp fun hask => hanswered ⟨harp, hask⟩
    refine ⟨halike.len.trans hlen, iff_of_true ?_ (headersFit_of_arp harp)⟩
    exact headersFit_of_arp (halike.ethProto_eq.trans hproto)
  · rw [Dpdk.arpStage_of_not_arp dm fs 0 b harp] at halike
    rw [dpdkFrame, Dpdk.arpStage_of_not_arp dm fs 0 b harp]
    exact ⟨halike.len, halike.headersFit_iff⟩

end Aimed

/-! ## The loops -/

section Loops

variable {b : Window} {loop : PacketLoop} {dm : DataPlaneManager} {app : Option ApplicationInfo}
  {tables : RuleTables}

/-- The part of an iteration behind the ARP test and the filter. -/
theorem below_processing (hlen : 60 ≤ b.len) (app : Option ApplicationInfo) (tables : RuleTables)
    (recvLport : ℕ) :
    (packetProcessorLogged app tables b recvLport).Below b.len ↔ (app ≠ none → HeadersFit b) := by
  cases app with
  | none => exact iff_of_true (Logged.below_pure _ _) fun hcon => absurd rfl hcon
  | some info =>
      rw [below_packetProcessorLogged hlen]
      exact ⟨fun h _ => h, fun h => h (Option.some_ne_none info)⟩

/-- **Parsing stays inside the frame exactly when the frame is as long as the headers it
announces**: the transport header, if the loop classifies the frame, and that and the tunnel header
if it hands the frame over and the processor has its application data. -/
theorem staysInside_iff (loop : PacketLoop) (dm : DataPlaneManager) (app : Option ApplicationInfo)
    (tables : RuleTables) (b : Window) (hlen : 60 ≤ b.len) :
    StaysInside loop dm app tables b ↔
      (loop.Classifies → TransportFits b) ∧
        (loop.HandsOver dm b → app ≠ none → HeadersFit b) := by
  have hether := below_getEtherTypeLogged hlen
  have hport := below_getPacketPortNumberLogged hlen
  cases loop with
  | cndp lpid =>
      simp only [StaysInside, PacketLoop.handleLogged, PacketLoop.Classifies, PacketLoop.HandsOver,
        Logged.below_bind, Logged.below_ite, Logged.below_pure, hether, hport, true_and, and_true,
        implies_true, forall_const, below_processing hlen]
      simp only [value_getEtherTypeLogged, value_getPacketPortNumberLogged, Cndp.Diverted]
      refine and_congr_right fun _ => ?_
      tauto
  | dpdk fs =>
      simp only [StaysInside, PacketLoop.handleLogged, PacketLoop.Classifies, PacketLoop.HandsOver,
        false_imp_iff, true_and, Logged.below_ite, Logged.below_bind, Logged.below_pure,
        implies_true, and_true]
      by_cases hanswered : Dpdk.Answered dm b
      · have hleft : (Dpdk.arpStage dm fs 0 b).2.2 = true := by
          rw [Dpdk.arpStage_of_answered fs 0 hanswered]
        exact iff_of_true (fun hcon => absurd hleft hcon) fun hcon => absurd hanswered hcon
      · obtain ⟨hframe, hfit⟩ := dpdkFrame_spec dm fs hanswered
        have hbelow := below_processing (hframe ▸ hlen) app tables fs.rxPort
        rw [hframe, hfit] at hbelow
        simp only [hanswered, not_false_eq_true, forall_const, hbelow,
          Dpdk.arpStage_goes_on fs 0 hanswered, Bool.false_eq_true]
  | worker lpid =>
      simp only [StaysInside, PacketLoop.handleLogged, PacketLoop.Classifies, PacketLoop.HandsOver,
        Logged.below_bind, Logged.below_ite, Logged.below_pure, hether, hport, true_and, and_true,
        implies_true, forall_const, below_processing hlen]
      simp only [value_getEtherTypeLogged, value_getPacketPortNumberLogged, Bool.not_eq_true,
        ne_eq, and_imp]

end Loops

/-! ## The loops hand over what they say -/

section Handed

variable {σ : Type*}

theorem exists_hands_cons (i v : ℕ) (evs : List Event) :
    ∃ e ∈ Event.packetProcessor i v :: evs, e.hands = true :=
  ⟨_, List.mem_cons_self, rfl⟩

/-- In the CNDP loop. -/
theorem handsOver_cndp_iff (env : Cndp.Env σ) (i : ℕ) (b : Window) (s : σ) :
    (∃ e ∈ (Cndp.rtcPacket env i b s).1, e.hands = true) ↔
      (PacketLoop.cndp env.lport.lpid).HandsOver env.dm b := by
  rw [PacketLoop.HandsOver, Cndp.rtcPacket]
  split
  · rename_i harp
    refine iff_of_false ?_ fun hcon => hcon.1 harp
    simp only [Cndp.arpStage]
    split_ifs <;> simp [Event.hands]
  · rename_i harp
    split
    · rename_i hdiverted
      refine iff_of_false ?_ fun hcon => hcon.2 hdiverted
      simp [Cndp.filteredStage, Event.hands]
    · rename_i hdiverted
      exact iff_of_true (exists_hands_cons _ _ _) ⟨harp, hdiverted⟩

/-- In the DPDK loop. -/
theorem handsOver_dpdk_iff (env : Dpdk.Env σ) (fs : Dpdk.FwdStream) (i : ℕ) (b : Window) (s : σ) :
    (∃ e ∈ (Dpdk.rtcPacket env fs i b s).1, e.hands = true) ↔
      (PacketLoop.dpdk fs).HandsOver env.dm b := by
  rw [PacketLoop.HandsOver]
  by_cases hanswered : Dpdk.Answered env.dm b
  · refine iff_of_false ?_ fun hcon => hcon hanswered
    rw [Dpdk.rtcPacket, Dpdk.arpStage_of_answered fs i hanswered, if_pos rfl]
    simp [Event.hands]
  · refine iff_of_true ?_ hanswered
    rw [Dpdk.rtcPacket_of_continue env fs i b s (Dpdk.arpStage_goes_on fs i hanswered)]
    exact ⟨_, List.mem_append_right _ List.mem_cons_self, rfl⟩

/-- In the worker loops. -/
theorem handsOver_worker_iff (env : WorkerEnv σ) (arpRing : ℕ → ℕ → ℕ) (lpid : ℕ)
    (bufs : ℕ → Window) (i : ℕ) (s : σ) :
    (∃ e ∈ (workerPacket env arpRing lpid bufs i s).1, e.hands = true) ↔
      (PacketLoop.worker lpid).HandsOver env.dm (bufs i) := by
  rw [PacketLoop.HandsOver]
  by_cases harp : getEtherType (bufs i) = .l2EtherArp
  · refine iff_of_false ?_ fun hcon => hcon.1 harp
    simp only [workerPacket, harp, if_true, enqueueFirst]
    split_ifs <;> simp [Event.hands]
  · cases hfilter : env.dm.filterPacket (getPacketPortNumber (bufs i)) with
    | true =>
        rw [workerPacket_of_filtered env arpRing lpid bufs i s harp hfilter]
        simp
    | false =>
        refine iff_of_true ?_ ⟨harp, rfl⟩
        simp only [workerPacket, harp, if_false, hfilter, Bool.false_eq_true]
        split_ifs <;> exact exists_hands_cons _ _ _

end Handed

/-! ## Frames -/

/-- A manager with the filter off. -/
def plainManager : DataPlaneManager := ⟨false, ∅, 0, default, []⟩

/-- An ordinary frame fits. -/
theorem staysInside_udpFrame :
    StaysInside (.cndp 0) plainManager (some default) ⟨fun _ => none, fun _ => none⟩
      (udpFrame 80) := by
  have hudp : l4Start (udpFrame 80) + 4 ≤ (udpFrame 80).len := by decide
  have htcp : ¬ IsTcpIpv4 (udpFrame 80) := fun hcon => absurd hcon.2 (by decide)
  have hgtp : ¬ IsGtp (udpFrame 80) := fun hcon => absurd hcon.2 (by decide)
  have htransport : TransportFits (udpFrame 80) := ⟨fun _ => hudp, fun hcon => absurd hcon htcp⟩
  exact (staysInside_iff _ _ _ _ _ (by decide)).mpr
    ⟨fun _ => htransport, fun _ _ => ⟨htransport, fun hcon => absurd hcon hgtp⟩⟩

/-- A minimum-size UDP/IPv4 frame that announces an IP header of sixty bytes. -/
def longHeaderFrame : Window :=
  Window.ofBytes 128
    (List.flatten [zeros 12, [0x08, 0x00], [0x4F], zeros 8, [17], zeros 36]) (by simp [zeros])

/-- **A frame of sixty bytes is read at offset 77**, by `get_ether_type` already. -/
theorem longHeaderFrame_read_outside :
    longHeaderFrame.len = 60 ∧ (77 : ℤ) ∈ (getEtherTypeLogged longHeaderFrame).log ∧
      ¬ StaysInside (.cndp 0) plainManager (some default) ⟨fun _ => none, fun _ => none⟩
        longHeaderFrame := by
  have hread : (77 : ℤ) ∈ (getEtherTypeLogged longHeaderFrame).log := by decide
  refine ⟨rfl, hread, fun h => ?_⟩
  have hlow : (77 : ℤ) < 60 := h 77 (List.mem_append_left _ hread)
  exact absurd hlow (by decide)

end UdxFastpath.Upf
