import UdxFastpath.Core.UdpPort

/-!
# What the classifiers decide

`get_packet_type` of the network library and `get_ether_type` of the manager are the
same code written twice, and they return the same number (`getEtherType_eq`).

* On a well-formed IPv4 header the number is that of the protocol and, for UDP, of the
  port behind the whole header (`classification`).
* The check of the version/IHL byte has no effect.  `ptype_l3_ip` has entries for the
  bytes `0x45` to `0x4F`, it is asked for the nibble `ihl`, and what it answers is
  replaced by the answer of `ptype_l4`: any first byte will do
  (`rejectsMalformed_iff`).
* Of the lengths filled in for the headers, that of a TCP header is always zero: the mask
  and the shift are those for the whole byte at offset 12, and `doff` is its high nibble
  already (`delimitsPayload_iff`).
-/

namespace UdxFastpath

open ByteWindow

/-! ## Numbers -/

/-- The `PTYPE_*` numbers; `unknown` is the zero of both tables. -/
def PType.code : PType → ℕ
  | .unknown => 0
  | .l2Ether => 0x01
  | .l2EtherArp => 0x02
  | .l3Ipv4 => 0x05
  | .l3Ipv4Ext => 0x06
  | .l4Udp => 0x08
  | .l4Tcp => 0x09
  | .gtp => 0x10
  | .pfcp => 0x11

/-- No two packet types share a number. -/
theorem PType.code_injective : Function.Injective PType.code := by
  intro s t h
  cases s <;> cases t <;> first | rfl | exact absurd h (by decide)

@[simp] theorem PType.code_inj {s t : PType} : s.code = t.code ↔ s = t :=
  PType.code_injective.eq_iff

/-- A packet type of the transport layer. -/
def IsTransport (ptype : PType) : Prop := ptype ∈ [.l4Udp, .l4Tcp, .gtp, .pfcp]

instance (ptype : PType) : Decidable (IsTransport ptype) := inferInstanceAs (Decidable (_ ∈ _))

/-! ## The shape of a frame -/

/-- An IPv4 header that announces itself as such: version 4 and at least five words. -/
structure WellFormedIpv4 (b : Window) : Prop where
  etherType : b.loadBE16 12 = PID_ETH_IP
  version : ipVersionIhl b ETH_HLEN / 16 = 4
  ihl : 5 ≤ ipIhl b ETH_HLEN

/-- The number a classifier should return for an IPv4 frame. -/
structure TransportByProtocol (b : Window) (ptype : ℕ) : Prop where
  gtp : ptype = PType.gtp.code ↔
    ipProtocol b ETH_HLEN = IPPROTO_UDP ∧ b.loadBE16 (14 + 4 * ipIhl b ETH_HLEN + 2) = GTP_PORT
  pfcp : ptype = PType.pfcp.code ↔
    ipProtocol b ETH_HLEN = IPPROTO_UDP ∧ b.loadBE16 (14 + 4 * ipIhl b ETH_HLEN + 2) = PFCP_PORT
  udp : ptype = PType.l4Udp.code ↔ ipProtocol b ETH_HLEN = IPPROTO_UDP ∧
    b.loadBE16 (14 + 4 * ipIhl b ETH_HLEN + 2) ≠ GTP_PORT ∧
    b.loadBE16 (14 + 4 * ipIhl b ETH_HLEN + 2) ≠ PFCP_PORT
  tcp : ptype = PType.l4Tcp.code ↔ ipProtocol b ETH_HLEN = IPPROTO_TCP
  other : ipProtocol b ETH_HLEN ≠ IPPROTO_UDP → ipProtocol b ETH_HLEN ≠ IPPROTO_TCP →
    ∀ transport, IsTransport transport → ptype ≠ transport.code

section Branches

variable {b : Window} (init : HdrLens)

/-- The EtherType in wire order. -/
theorem ethProto_eq_ip_iff : ethProto b 0 = htons PID_ETH_IP ↔ b.loadBE16 12 = PID_ETH_IP :=
  ethProto_eq_iff b 0 (by decide)

theorem ethProto_eq_arp_iff : ethProto b 0 = htons PID_ETH_ARP ↔ b.loadBE16 12 = PID_ETH_ARP :=
  ethProto_eq_iff b 0 (by decide)

/-- The classifier's port is the one behind the whole IP header. -/
theorem classifierWord_eq_loadBE16 (b : Window) :
    classifierWord b = b.loadBE16 (14 + 4 * ipIhl b ETH_HLEN + 2) := by
  rw [classifierWord, ipv4HdrLen, Nat.mul_comm (ipIhl b ETH_HLEN) 4]
  rfl

/-- **The TCP branch, in closed form.** -/
theorem getPacketType_of_tcp (h : IsTcpIpv4 b) :
    getPacketType b init =
      (.l4Tcp, ⟨ETH_HLEN, ipv4HdrLen b ETH_HLEN, (tcpDoff b (l4Start b) &&& 0xf0) >>> 2⟩) := by
  obtain ⟨hip, htcp⟩ := h
  have hne : htons PID_ETH_IP ≠ htons PID_ETH_ARP := by decide
  have htype : ptypeL4 IPPROTO_TCP = .l4Tcp := by decide
  simp [getPacketType, hne, hip, htcp, htype, l4Start]

/-- **Any other protocol** has no type. -/
theorem getPacketType_of_other (hip : ethProto b 0 = htons PID_ETH_IP)
    (hudp : ipProtocol b ETH_HLEN ≠ IPPROTO_UDP) (htcp : ipProtocol b ETH_HLEN ≠ IPPROTO_TCP) :
    (getPacketType b init).1 = .unknown := by
  have hne : htons PID_ETH_IP ≠ htons PID_ETH_ARP := by decide
  have htype : ptypeL4 (ipProtocol b ETH_HLEN) = .unknown := by
    rw [ptypeL4, if_neg hudp, if_neg htcp]
  simp [getPacketType, hne, hip, htype]

/-- An IPv4 frame is of the transport layer when its protocol is UDP or TCP, **whatever its
first byte is**. -/
theorem isTransport_getPacketType_iff (hip : ethProto b 0 = htons PID_ETH_IP) :
    IsTransport (getPacketType b init).1 ↔
      ipProtocol b ETH_HLEN = IPPROTO_UDP ∨ ipProtocol b ETH_HLEN = IPPROTO_TCP := by
  by_cases hudp : ipProtocol b ETH_HLEN = IPPROTO_UDP
  · refine iff_of_true ?_ (.inl hudp)
    rcases getPacketType_cases_of_udp init ⟨hip, hudp⟩ with ⟨htype, -⟩ | ⟨htype, -⟩ | ⟨htype, -⟩
    all_goals
      rw [htype]
      decide
  · by_cases htcp : ipProtocol b ETH_HLEN = IPPROTO_TCP
    · refine iff_of_true ?_ (.inr htcp)
      rw [getPacketType_of_tcp init ⟨hip, htcp⟩]
      exact show IsTransport .l4Tcp by decide
    · refine iff_of_false ?_ (not_or.mpr ⟨hudp, htcp⟩)
      rw [getPacketType_of_other init hip hudp htcp]
      decide

/-- The number returned for an IPv4 frame, by protocol and port. -/
theorem transportByProtocol_getPacketType (hip : ethProto b 0 = htons PID_ETH_IP) :
    TransportByProtocol b (getPacketType b init).1.code := by
  have hother : ipProtocol b ETH_HLEN ≠ IPPROTO_UDP → ipProtocol b ETH_HLEN ≠ IPPROTO_TCP →
      ∀ transport, IsTransport transport → (getPacketType b init).1.code ≠ transport.code := by
    intro hudp htcp transport htransport hcode
    rw [PType.code_inj] at hcode
    rw [← hcode, isTransport_getPacketType_iff init hip] at htransport
    exact htransport.elim hudp htcp
  have hports : GTP_PORT ≠ PFCP_PORT := by decide
  have hprotocols : IPPROTO_UDP ≠ IPPROTO_TCP := by decide
  by_cases hudp : ipProtocol b ETH_HLEN = IPPROTO_UDP
  · have hcases := getPacketType_cases_of_udp init ⟨hip, hudp⟩
    simp only [classifierWord_eq_loadBE16, TunnelPort, not_or] at hcases
    rcases hcases with ⟨htype, hword⟩ | ⟨htype, hword⟩ | ⟨htype, hgtp, hpfcp⟩
    · rw [htype] at hother ⊢
      constructor <;> simp_all
    · rw [htype] at hother ⊢
      constructor <;> simp_all [hports.symm]
    · rw [htype] at hother ⊢
      constructor <;> simp_all
  · by_cases htcp : ipProtocol b ETH_HLEN = IPPROTO_TCP
    · rw [getPacketType_of_tcp init ⟨hip, htcp⟩] at hother ⊢
      constructor <;> simp_all
    · rw [getPacketType_of_other init hip hudp htcp] at hother ⊢
      constructor <;> simp_all

/-- **The two copies return one value.** -/
theorem getEtherType_eq (b : Window) : getEtherType b = (getPacketType b init).1 := by
  unfold getEtherType getPacketType
  dsimp only
  split
  · rfl
  · split
    · rcases ptypeL4_cases (ipProtocol b ETH_HLEN) with ⟨h, -⟩ | ⟨h, -⟩ | ⟨h, -⟩ <;> simp only [h]
    · rfl

end Branches

/-! ## Correct on well-formed frames -/

/-- **Classification is correct and its two copies agree.**  For every frame the two functions
return one number; on a well-formed IPv4 header it is the number of the protocol and the port;
and it is that of ARP exactly for the EtherType of ARP. -/
theorem classification (b : Window) (init : HdrLens) :
    (getEtherType b).code = (getPacketType b init).1.code ∧
      (WellFormedIpv4 b → TransportByProtocol b (getPacketType b init).1.code) ∧
      ((getPacketType b init).1.code = PType.l2EtherArp.code ↔ b.loadBE16 12 = 0x0806) := by
  have hagree := getEtherType_eq init b
  refine ⟨congrArg PType.code hagree, fun h => ?_, ?_⟩
  · exact transportByProtocol_getPacketType init (ethProto_eq_ip_iff.mpr h.etherType)
  · rw [PType.code_inj, ← hagree, getEtherType_eq_arp_iff, ethProto_eq_arp_iff]
    rfl

/-- The theorem at a frame for the tunnel port. -/
theorem classification_gtp :
    TransportByProtocol (udpFrame 2152) (getPacketType (udpFrame 2152) ⟨0, 0, 0⟩).1.code :=
  (classification (udpFrame 2152) ⟨0, 0, 0⟩).2.1 ⟨by decide, by decide, by decide⟩

/-! ## Malformed headers -/

/-- A classifier's answer that respects the table over the version/IHL byte. -/
structure RejectsMalformed (b : Window) (ptype : PType) : Prop where
  table : IsTransport ptype → ptypeL3Ip (ipVersionIhl b ETH_HLEN) ≠ .unknown
  malformed : ipIhl b ETH_HLEN < 5 ∨ ipVersionIhl b ETH_HLEN / 16 ≠ 4 → ¬ IsTransport ptype

/-- The bytes of the table. -/
theorem ptypeL3Ip_ne_unknown_iff (n : ℕ) : ptypeL3Ip n ≠ .unknown ↔ 0x45 ≤ n ∧ n ≤ 0x4F := by
  unfold ptypeL3Ip
  split_ifs with hplain hext
  · subst hplain
    decide
  · refine iff_of_true (by decide) ?_
    omega
  · refine iff_of_false (by decide) ?_
    omega

/-- **The table is never looked at.**  An IPv4 frame is rejected as it should be exactly when
its first byte is one of the table's, or its protocol is neither UDP nor TCP anyway. -/
theorem rejectsMalformed_iff (b : Window) (init : HdrLens) (hip : b.loadBE16 12 = PID_ETH_IP) :
    (RejectsMalformed b (getPacketType b init).1 ∧ RejectsMalformed b (getEtherType b)) ↔
      (0x45 ≤ ipVersionIhl b ETH_HLEN ∧ ipVersionIhl b ETH_HLEN ≤ 0x4F) ∨
        ipProtocol b ETH_HLEN ≠ IPPROTO_UDP ∧ ipProtocol b ETH_HLEN ≠ IPPROTO_TCP := by
  have htransport := isTransport_getPacketType_iff init (ethProto_eq_ip_iff.mpr hip)
  rw [getEtherType_eq init b, and_self_iff]
  constructor
  · intro h
    by_cases hproto : ipProtocol b ETH_HLEN = IPPROTO_UDP ∨ ipProtocol b ETH_HLEN = IPPROTO_TCP
    · exact .inl ((ptypeL3Ip_ne_unknown_iff _).mp (h.table (htransport.mpr hproto)))
    · exact .inr (not_or.mp hproto)
  · rintro (hbyte | hproto)
    · have hihl : ipIhl b ETH_HLEN = ipVersionIhl b ETH_HLEN % 16 := rfl
      exact ⟨fun _ => (ptypeL3Ip_ne_unknown_iff _).mpr hbyte, fun hbad => by omega⟩
    · have hnone := mt htransport.mp (not_or.mpr hproto)
      exact ⟨fun h => absurd h hnone, fun _ => hnone⟩

/-- An IPv4 frame with the given first byte and protocol; of the transport header, twenty
bytes are there and only the one at offset 12 is not zero. -/
def ipv4Frame (versionIhl protocol byte12 : UInt8) : Window :=
  Window.ofBytes 128
    (List.flatten [zeros 12, [0x08, 0x00], [versionIhl], zeros 8, [protocol], zeros 22, [byte12],
      zeros 13])
    (by simp [zeros])

/-- The iff at a plain UDP frame. -/
theorem rejectsMalformed_udp : RejectsMalformed (ipv4Frame 0x45 17 0) (getEtherType
    (ipv4Frame 0x45 17 0)) :=
  ((rejectsMalformed_iff (ipv4Frame 0x45 17 0) ⟨0, 0, 0⟩ (by decide)).mpr (.inl (by decide))).2

/-- **Version 6, four words, UDP**: a transport packet to both classifiers. -/
theorem malformed_accepted :
    (ipv4Frame 0x64 17 0).loadBE16 12 = 0x0800 ∧
      ipVersionIhl (ipv4Frame 0x64 17 0) ETH_HLEN = 0x64 ∧
      (getPacketType (ipv4Frame 0x64 17 0) ⟨0, 0, 0⟩).1 = .l4Udp ∧
      getEtherType (ipv4Frame 0x64 17 0) = .l4Udp ∧
      ¬ RejectsMalformed (ipv4Frame 0x64 17 0) (getPacketType (ipv4Frame 0x64 17 0) ⟨0, 0, 0⟩).1 :=
  ⟨by decide, by decide, by decide, by decide, fun h => h.malformed (by decide) (by decide)⟩

/-! ## Header lengths -/

/-- The length of the transport header. -/
def l4HdrLen (b : Window) : ℕ :=
  if ipProtocol b ETH_HLEN = IPPROTO_TCP then 4 * tcpDoff b (l4Start b) else UDP_HDR_LENGTH

/-- Lengths that add up to the offset of the first payload byte, header by header. -/
structure DelimitsPayload (b : Window) (lens : HdrLens) : Prop where
  l2 : lens.l2Len = 14
  l3 : lens.l3Len = 4 * ipIhl b ETH_HLEN
  l4 : lens.l4Len = l4HdrLen b
  payload : lens.l2Len + lens.l3Len + lens.l4Len = l4Start b + l4HdrLen b

/-- `doff` has four bits, and the mask is for the four above them. -/
theorem tcpDoff_masked (b : Window) (p : ℕ) : (tcpDoff b p &&& 0xf0) >>> 2 = 0 := by
  have hlt : tcpDoff b p < 16 := by
    have hbyte := (b.byte (p + 12)).toNat_lt
    rw [tcpDoff]
    omega
  have hall : ∀ d < 16, (d &&& 0xf0) >>> 2 = 0 := by decide
  exact hall _ hlt

/-- **The TCP length is lost.**  For a well-formed frame of the transport layer, with a TCP
header of at least five words if it is one, the lengths delimit the payload exactly when the
protocol is not TCP. -/
theorem delimitsPayload_iff (b : Window) (init : HdrLens) (h : WellFormedIpv4 b)
    (htransport : IsTransport (getPacketType b init).1)
    (hdoff : (getPacketType b init).1 = .l4Tcp → 5 ≤ tcpDoff b (l4Start b)) :
    DelimitsPayload b (getPacketType b init).2 ↔ ipProtocol b ETH_HLEN ≠ IPPROTO_TCP := by
  have hip := ethProto_eq_ip_iff.mpr h.etherType
  constructor
  · intro hlens htcp
    have hword := hdoff (by rw [getPacketType_of_tcp init ⟨hip, htcp⟩])
    have hl4 := hlens.l4
    rw [getPacketType_of_tcp init ⟨hip, htcp⟩, l4HdrLen, if_pos htcp] at hl4
    dsimp only at hl4
    rw [tcpDoff_masked] at hl4
    omega
  · intro htcp
    have hudp := ((isTransport_getPacketType_iff init hip).mp htransport).resolve_right htcp
    have hl3 : ipv4HdrLen b ETH_HLEN = 4 * ipIhl b ETH_HLEN := Nat.mul_comm _ _
    rw [getPacketType_of_udp b init ⟨hip, hudp⟩]
    refine ⟨rfl, hl3, ?_, ?_⟩
    · rw [l4HdrLen, if_neg htcp]
    · rw [l4HdrLen, if_neg htcp]
      rfl

/-- The iff at a UDP frame with two words of options. -/
theorem delimitsPayload_udp :
    DelimitsPayload (ipv4Frame 0x47 17 0) (getPacketType (ipv4Frame 0x47 17 0) ⟨0, 0, 0⟩).2 :=
  (delimitsPayload_iff (ipv4Frame 0x47 17 0) ⟨0, 0, 0⟩ ⟨by decide, by decide, by decide⟩
    (by decide) (by decide)).mpr (by decide)

/-- **A plain TCP header of five words** gets the length zero. -/
theorem not_delimitsPayload_tcp :
    WellFormedIpv4 (ipv4Frame 0x45 6 0x50) ∧
      (getPacketType (ipv4Frame 0x45 6 0x50) ⟨0, 0, 0⟩).1 = .l4Tcp ∧
      tcpDoff (ipv4Frame 0x45 6 0x50) (l4Start (ipv4Frame 0x45 6 0x50)) = 5 ∧
      (getPacketType (ipv4Frame 0x45 6 0x50) ⟨0, 0, 0⟩).2 = ⟨14, 20, 0⟩ ∧
      ¬ DelimitsPayload (ipv4Frame 0x45 6 0x50)
        (getPacketType (ipv4Frame 0x45 6 0x50) ⟨0, 0, 0⟩).2 :=
  ⟨⟨by decide, by decide, by decide⟩, by decide, by decide, by decide,
    fun h => absurd h.l4 (by decide)⟩

end UdxFastpath
