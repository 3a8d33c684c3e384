import UdxFastpath.Foundation.ByteWindow

/-!
# Header layouts and packet classification

The header fields the datapath reads, as functions of a packet window and the
offset `p` at which the C code casts its pointer, and the classifier
`get_packet_type` of `lib/unet/common/common.cpp` with its tables from
`include/unet/unet.h`.

The host is little-endian throughout: a multi-byte field read through a struct
is a `loadLE16` or `loadLE32`, and `htons`, `be16toh`, `htonl` are `swap16` and
`swap32`.  Bit-fields are allocated from the least significant bit, so `ihl` is
the low nibble of its byte and `doff` the high nibble of its byte.

Constants keep the names of the C macros and enumerators they come from.
-/

namespace UdxFastpath

open ByteWindow

/-! ## Constants -/

def ETH_ALEN : ℕ := 6
def ETH_HLEN : ℕ := 14
def PID_ETH_IP : ℕ := 0x0800
def PID_ETH_ARP : ℕ := 0x0806
def IPPROTO_TCP : ℕ := 6
def IPPROTO_UDP : ℕ := 17
def GTP_PORT : ℕ := 2152
def PFCP_PORT : ℕ := 8805
def DEFAULT_IPV4_HDR_LENGTH : ℕ := 20
def UDP_HDR_LENGTH : ℕ := 8

/-- The byte swap `htons`, `be16toh` and `htobe16` perform on this host. -/
def htons (n : ℕ) : ℕ := swap16 n

/-- The byte swap `htonl` performs on this host. -/
def htonl (n : ℕ) : ℕ := swap32 n

/-! ## Field accessors -/

/-- `ethhdr->h_proto`. -/
def ethProto (b : Window) (p : ℕ) : ℕ := b.loadLE16 (p + 12)

/-- The `version`/`ihl` byte of an `iphdr`. -/
def ipVersionIhl (b : Window) (p : ℕ) : ℕ := (b.byte p).toNat

/-- `iphdr->ihl`: the low nibble of the first byte. -/
def ipIhl (b : Window) (p : ℕ) : ℕ := ipVersionIhl b p % 16

/-- `iphdr->protocol`. -/
def ipProtocol (b : Window) (p : ℕ) : ℕ := (b.byte (p + 9)).toNat

/-- `iphdr->saddr`, as the host loads it. -/
def ipSaddr (b : Window) (p : ℕ) : ℕ := b.loadLE32 (p + 12)

/-- `iphdr->daddr`, as the host loads it. -/
def ipDaddr (b : Window) (p : ℕ) : ℕ := b.loadLE32 (p + 16)

/-- The `dest` field of a `udphdr` or a `tcphdr`; both have it at offset 2. -/
def l4Dest (b : Window) (p : ℕ) : ℕ := b.loadLE16 (p + 2)

/-- `tcphdr->doff`: the high nibble of its byte. -/
def tcpDoff (b : Window) (p : ℕ) : ℕ := (b.byte (p + 12)).toNat / 16

/-! ## Packet types -/

/-- The `PTYPE_*` values.  `unknown` is the zero both lookup tables hold for an
entry nobody filled in. -/
inductive PType
  | unknown
  | l2Ether
  | l2EtherArp
  | l3Ipv4
  | l3Ipv4Ext
  | l4Udp
  | l4Tcp
  | gtp
  | pfcp
  deriving DecidableEq, Repr

/-- `ptype_l3_ip`: a table over the version/IHL byte. -/
def ptypeL3Ip (ipvIhl : ℕ) : PType :=
  if ipvIhl = 0x45 then .l3Ipv4
  else if 0x46 ≤ ipvIhl ∧ ipvIhl ≤ 0x4F then .l3Ipv4Ext
  else .unknown

/-- `ptype_l4`: a table over the IP protocol number. -/
def ptypeL4 (proto : ℕ) : PType :=
  if proto = IPPROTO_UDP then .l4Udp
  else if proto = IPPROTO_TCP then .l4Tcp
  else .unknown

/-- `ipv4_hdr_len`. -/
def ipv4HdrLen (b : Window) (p : ℕ) : ℕ := ipIhl b p * 4

/-- `struct hdr_lens`, the three lengths that are ever filled in. -/
structure HdrLens where
  l2Len : ℕ
  l3Len : ℕ
  l4Len : ℕ
  deriving DecidableEq, Repr

/-- The port test both classifiers make once a UDP header was found at `p`. -/
def udpPtype (b : Window) (p : ℕ) : PType :=
  if l4Dest b p = htons GTP_PORT then .gtp
  else if l4Dest b p = htons PFCP_PORT then .pfcp
  else .l4Udp

/-- `get_packet_type`.  The lengths it does not set keep the value they had in
the caller's `init`; the result of `ptype_l3_ip` is overwritten by that of
`ptype_l4`, as in the source. -/
def getPacketType (b : Window) (init : HdrLens) : PType × HdrLens :=
  let offset := ETH_HLEN
  let lens := { init with l2Len := offset }
  if ethProto b 0 = htons PID_ETH_ARP then (.l2EtherArp, lens)
  else if ethProto b 0 = htons PID_ETH_IP then
    let _packetType := ptypeL3Ip (ipIhl b offset)
    let lens := { lens with l3Len := ipv4HdrLen b offset }
    let l4 := offset + lens.l3Len
    match ptypeL4 (ipProtocol b offset) with
    | .l4Udp => (udpPtype b l4, { lens with l4Len := UDP_HDR_LENGTH })
    | .l4Tcp => (.l4Tcp, { lens with l4Len := (tcpDoff b l4 &&& 0xf0) >>> 2 })
    | other => (other, lens)
  else (.l2Ether, lens)

/-! ## What the classifier decides -/

section Classification

variable (b : Window) (init : HdrLens)

@[simp] theorem htons_l4Dest (p : ℕ) : htons (l4Dest b p) = b.loadBE16 (p + 2) :=
  b.swap16_loadLE16 _

@[simp] theorem htonl_ipDaddr (p : ℕ) : htonl (ipDaddr b p) = b.loadBE32 (p + 16) :=
  b.swap32_loadLE32 _

@[simp] theorem htonl_ipSaddr (p : ℕ) : htonl (ipSaddr b p) = b.loadBE32 (p + 12) :=
  b.swap32_loadLE32 _

/-- The EtherType test in wire order. -/
theorem ethProto_eq_iff (p : ℕ) {n : ℕ} (hn : n < 65536) :
    ethProto b p = htons n ↔ b.loadBE16 (p + 12) = n :=
  b.loadLE16_eq_swap16_iff _ hn

/-- The port test in wire order. -/
theorem l4Dest_eq_iff (p : ℕ) {n : ℕ} (hn : n < 65536) :
    l4Dest b p = htons n ↔ b.loadBE16 (p + 2) = n :=
  b.loadLE16_eq_swap16_iff _ hn

/-- An IPv4 frame carrying UDP, the one shape whose port is looked at. -/
def IsUdpIpv4 (b : Window) : Prop :=
  ethProto b 0 = htons PID_ETH_IP ∧ ipProtocol b ETH_HLEN = IPPROTO_UDP

instance (b : Window) : Decidable (IsUdpIpv4 b) := inferInstanceAs (Decidable (_ ∧ _))

/-- An IPv4 frame carrying TCP. -/
def IsTcpIpv4 (b : Window) : Prop :=
  ethProto b 0 = htons PID_ETH_IP ∧ ipProtocol b ETH_HLEN = IPPROTO_TCP

/-- Where the transport header starts. -/
def l4Start (b : Window) : ℕ := ETH_HLEN + ipv4HdrLen b ETH_HLEN

theorem ptypeL4_cases (n : ℕ) :
    ptypeL4 n = .l4Udp ∧ n = IPPROTO_UDP ∨ ptypeL4 n = .l4Tcp ∧ n = IPPROTO_TCP ∨
      ptypeL4 n = .unknown ∧ n ≠ IPPROTO_UDP ∧ n ≠ IPPROTO_TCP := by
  unfold ptypeL4
  split
  · rename_i hudp
    exact .inl ⟨rfl, hudp⟩
  · rename_i hudp
    split
    · rename_i htcp
      exact .inr (.inl ⟨rfl, htcp⟩)
    · rename_i htcp
      exact .inr (.inr ⟨rfl, hudp, htcp⟩)

/-- **The UDP branch, in closed form**: every UDP/IPv4 frame is classified by its
port alone, and all three lengths are filled in. -/
theorem getPacketType_of_udp (h : IsUdpIpv4 b) :
    getPacketType b init =
      (udpPtype b (ETH_HLEN + ipv4HdrLen b ETH_HLEN),
        ⟨ETH_HLEN, ipv4HdrLen b ETH_HLEN, UDP_HDR_LENGTH⟩) := by
  obtain ⟨hip, hudp⟩ := h
  have hne : htons PID_ETH_IP ≠ htons PID_ETH_ARP := by decide
  simp [getPacketType, hne, hip, hudp, ptypeL4]

/-- A frame that is not UDP/IPv4 is never given one of the three UDP types. -/
theorem getPacketType_of_not_udp (h : ¬ IsUdpIpv4 b) :
    (getPacketType b init).1 ≠ .l4Udp ∧ (getPacketType b init).1 ≠ .gtp ∧
      (getPacketType b init).1 ≠ .pfcp := by
  have hcases : ethProto b 0 = htons PID_ETH_IP → ptypeL4 (ipProtocol b ETH_HLEN) = .l4Tcp ∨
      ptypeL4 (ipProtocol b ETH_HLEN) = .unknown := by
    intro hip
    have hudp : ipProtocol b ETH_HLEN ≠ IPPROTO_UDP := fun hudp => h ⟨hip, hudp⟩
    simp only [ptypeL4, hudp, if_false]
    split <;> simp
  simp only [getPacketType]
  split
  · simp
  · split
    · rename_i hip
      rcases hcases hip with htype | htype <;> simp [htype]
    · simp

/-- The types a UDP header leads to. -/
theorem udpPtype_cases (p : ℕ) :
    udpPtype b p = .gtp ∧ b.loadBE16 (p + 2) = GTP_PORT ∨
    udpPtype b p = .pfcp ∧ b.loadBE16 (p + 2) = PFCP_PORT ∨
    udpPtype b p = .l4Udp ∧ b.loadBE16 (p + 2) ≠ GTP_PORT ∧ b.loadBE16 (p + 2) ≠ PFCP_PORT := by
  have hgtp := l4Dest_eq_iff b p (n := GTP_PORT) (by decide)
  have hpfcp := l4Dest_eq_iff b p (n := PFCP_PORT) (by decide)
  simp only [udpPtype, hgtp, hpfcp]
  split
  · simp_all
  · split <;> simp_all

end Classification

end UdxFastpath
