import UdxFastpath.Dpdk.RunToCompletion

/-!
# Where the UDP port is read

A UDP frame is parsed twice.  The classifier `get_packet_type` steps over the IP
header by its length field `ihl`; the fast-path filter, in
`get_packet_port_number` as in the DPDK loop, steps over **twenty bytes** and
does not look at `ihl`.  The filter decides which handler gets the packet, the
classifier how the handler processes it.

* `filterWord` and `classifierWord` are the two port fields in wire order.
* `SamePort` is the agreement expected of the two parsers, port by port.
* `samePort_iff` says when they agree: when the two fields hold one value, or
  neither of them holds a tunnel port.  Without IP options the two fields are
  one field, so only a frame with options can tell the parsers apart.
-/

namespace UdxFastpath

open ByteWindow

/-- The port field the filter reads, in wire order. -/
def filterWord (b : Window) : ℕ := b.loadBE16 (ETH_HLEN + DEFAULT_IPV4_HDR_LENGTH + 2)

/-- The port field the classifier reads, in wire order. -/
def classifierWord (b : Window) : ℕ := b.loadBE16 (ETH_HLEN + ipv4HdrLen b ETH_HLEN + 2)

/-- A port the classifier has a packet type for. -/
def TunnelPort (port : ℕ) : Prop := port = GTP_PORT ∨ port = PFCP_PORT

instance (port : ℕ) : Decidable (TunnelPort port) := inferInstanceAs (Decidable (_ ∨ _))

/-- A port and a packet type **agree** when each of the two tunnel ports comes
with its own type and with no other. -/
def SamePort (port : ℕ) (ptype : PType) : Prop :=
  (port = GTP_PORT ↔ ptype = .gtp) ∧ (port = PFCP_PORT ↔ ptype = .pfcp)

instance (port : ℕ) (ptype : PType) : Decidable (SamePort port ptype) :=
  inferInstanceAs (Decidable (_ ∧ _))

section Agreement

variable {b : Window} (init : HdrLens)

/-! ## What each parser reads -/

theorem getPacketPortNumber_of_udp (h : IsUdpIpv4 b) : getPacketPortNumber b = filterWord b := by
  rw [getPacketPortNumber, if_neg (not_not.mpr h.1), if_neg (not_not.mpr h.2), htons_l4Dest]
  rfl

theorem filterPort_of_udp (h : IsUdpIpv4 b) : Dpdk.filterPort b = filterWord b := by
  rw [Dpdk.filterPort, if_pos h.2, htons_l4Dest]
  rfl

/-- The types the classifier gives a UDP frame, by the field it reads. -/
theorem getPacketType_cases_of_udp (h : IsUdpIpv4 b) :
    (getPacketType b init).1 = .gtp ∧ classifierWord b = GTP_PORT ∨
    (getPacketType b init).1 = .pfcp ∧ classifierWord b = PFCP_PORT ∨
    (getPacketType b init).1 = .l4Udp ∧ ¬ TunnelPort (classifierWord b) := by
  rw [getPacketType_of_udp b init h]
  rcases udpPtype_cases b (ETH_HLEN + ipv4HdrLen b ETH_HLEN) with hgtp | hpfcp | ⟨htype, hne⟩
  · exact .inl hgtp
  · exact .inr (.inl hpfcp)
  · exact .inr (.inr ⟨htype, not_or.mpr hne⟩)

/-! ## When they agree -/

/-- Any port agrees with the classifier's type exactly when it is the port the
classifier saw, or neither port is a tunnel port. -/
theorem samePort_getPacketType_iff (h : IsUdpIpv4 b) (port : ℕ) :
    SamePort port (getPacketType b init).1 ↔
      port = classifierWord b ∨ ¬ TunnelPort port ∧ ¬ TunnelPort (classifierWord b) := by
  have hne : GTP_PORT ≠ PFCP_PORT := by decide
  rcases getPacketType_cases_of_udp init h with ⟨htype, hword⟩ | ⟨htype, hword⟩ | ⟨htype, hword⟩
  · have htunnel : TunnelPort GTP_PORT := .inl rfl
    simp only [SamePort, htype, hword, htunnel, reduceCtorEq, not_true_eq_false, and_false,
      or_false, iff_true, iff_false, and_iff_left_iff_imp]
    rintro rfl
    exact hne
  · have htunnel : TunnelPort PFCP_PORT := .inr rfl
    simp only [SamePort, htype, hword, htunnel, reduceCtorEq, not_true_eq_false, and_false,
      or_false, iff_true, iff_false, and_iff_right_iff_imp]
    rintro rfl
    exact hne.symm
  · have hport : SamePort port .l4Udp ↔ ¬ TunnelPort port := by simp [SamePort, TunnelPort]
    rw [htype, hport]
    constructor
    · exact fun hnot => .inr ⟨hnot, hword⟩
    · rintro (rfl | hnot)
      · exact hword
      · exact hnot.1

/-- Without options the two parsers read one field. -/
theorem filterWord_of_ihl_eq_five (h : ipIhl b ETH_HLEN = 5) : filterWord b = classifierWord b := by
  rw [filterWord, classifierWord, ipv4HdrLen, h]
  rfl

/-- **The filter and the classifier see the same UDP port exactly when** the field
20 bytes into the IP header and the field behind the whole IP header hold one
value, or neither holds a tunnel port.  The iff is about both copies of the
filter's parser. -/
theorem samePort_iff (h : IsUdpIpv4 b) :
    (SamePort (getPacketPortNumber b) (getPacketType b init).1 ∧
        SamePort (Dpdk.filterPort b) (getPacketType b init).1) ↔
      filterWord b = classifierWord b ∨
        ¬ TunnelPort (filterWord b) ∧ ¬ TunnelPort (classifierWord b) := by
  rw [getPacketPortNumber_of_udp h, filterPort_of_udp h, and_self_iff,
    samePort_getPacketType_iff init h]

end Agreement

/-! ## A GTP packet with options -/

/-- A UDP/IPv4 frame with one word of IP options; the options and the datagram's
source port are zero. -/
def udpFrameWithOptions (port : UInt16) : Window :=
  Window.ofBytes 128
    (List.flatten [zeros 12, [0x08, 0x00], [0x46], zeros 8, [17], zeros 14,
      [0, 0, (port >>> 8).toUInt8, port.toUInt8], zeros 18])
    (by simp [zeros])

/-- The iff at a frame without options. -/
theorem samePort_udpFrame :
    SamePort (getPacketPortNumber (udpFrame 2152)) (getPacketType (udpFrame 2152) ⟨0, 0, 0⟩).1 :=
  ((samePort_iff (b := udpFrame 2152) ⟨0, 0, 0⟩ (by decide)).mpr
    (.inl (filterWord_of_ihl_eq_five (by decide)))).1

/-- **One word of options separates the parsers**: version 4, `ihl` 6, destination
port 2152.  The classifier calls it GTP, the filter looks for port 0. -/
theorem not_samePort_udpFrameWithOptions :
    IsUdpIpv4 (udpFrameWithOptions 2152) ∧
      ipVersionIhl (udpFrameWithOptions 2152) ETH_HLEN = 0x46 ∧
      (getPacketType (udpFrameWithOptions 2152) ⟨0, 0, 0⟩).1 = .gtp ∧
      getPacketPortNumber (udpFrameWithOptions 2152) = 0 ∧
      ¬ SamePort (getPacketPortNumber (udpFrameWithOptions 2152))
        (getPacketType (udpFrameWithOptions 2152) ⟨0, 0, 0⟩).1 := by
  decide

end UdxFastpath
