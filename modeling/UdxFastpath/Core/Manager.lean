import UdxFastpath.Net.PacketType
import Mathlib.Data.Finset.Basic

/-!
# The data plane manager

The part of `DataPlaneManager` (`include/core/core.h`, `lib/core/core.cpp`) that
the packet loops consult: the fast-path filter, the classifier
`get_ether_type`, the port extraction `get_packet_port_number` and the ARP
responder `arp_handler`.

A handler's verdict is an `int`; `KERNEL` and `DROP` are two of its values and a
small one names a logical port.  Nothing here keeps a port number from being
`1000` or `3000` — the callers do that by having few ports.
-/

namespace UdxFastpath

open ByteWindow

/-! ## Verdicts -/

/-- Send the packet to the kernel through the TAP device. -/
def KERNEL : ℕ := 1000

/-- Drop the packet and free its buffer. -/
def DROP : ℕ := 3000

/-- The length of the packet information prefix of a TAP frame. -/
def PI_LEN : ℕ := 4

/-! ## Addresses -/

/-- `struct ether_addr`. -/
structure EtherAddr where
  octet : Fin 6 → UInt8

namespace EtherAddr

/-- The six octets in memory order. -/
def toList (m : EtherAddr) : List UInt8 :=
  [m.octet 0, m.octet 1, m.octet 2, m.octet 3, m.octet 4, m.octet 5]

@[simp] theorem length_toList (m : EtherAddr) : m.toList.length = 6 := rfl

instance : Inhabited EtherAddr := ⟨⟨fun _ => 0⟩⟩

end EtherAddr

/-! ## ARP layout

`struct cne_arp_hdr` is packed: hardware and protocol type, the two lengths, the
opcode at offset 6, then sender and target addresses. -/

/-- `arp_opcode`, as the host loads it. -/
def arpOpcode (b : Window) (p : ℕ) : ℕ := b.loadLE16 (p + 6)

/-- `arp_data.arp_sip`, as the host loads it. -/
def arpSip (b : Window) (p : ℕ) : ℕ := b.loadLE32 (p + 14)

/-- `arp_data.arp_tip`, as the host loads it. -/
def arpTip (b : Window) (p : ℕ) : ℕ := b.loadLE32 (p + 24)

/-- `construct_arp_response`, applied to the ARP header at offset `p`. -/
def constructArpResponse (b : Window) (p : ℕ) (srcMac : List UInt8) (srcIp : ℕ)
    (dstMac : List UInt8) (dstIp : ℕ) : Window :=
  let b := b.store p (le16 (htons 1))
  let b := b.store (p + 2) (le16 (htons PID_ETH_IP))
  let b := b.store (p + 4) [6]
  let b := b.store (p + 5) [4]
  let b := b.store (p + 6) (le16 (htons 2))
  let b := b.store (p + 8) srcMac
  let b := b.store (p + 14) (le32 srcIp)
  let b := b.store (p + 18) dstMac
  b.store (p + 24) (le32 dstIp)

/-! ## The manager -/

/-- The fields of `DataPlaneManager` the packet loops read.  `tapIpAddr` is kept
as `inet_pton` stored it: network byte order, loaded by a little-endian host. -/
structure DataPlaneManager where
  fastPathFiltering : Bool
  fastpathPorts : Finset ℤ
  tapIpAddr : UInt32
  tapMacAddr : EtherAddr
  lportMac : List EtherAddr

/-- `get_packet_port_number`: the UDP destination port, read 20 bytes behind the
start of the IP header whatever its length says, and `0` for anything that is
not UDP over IPv4. -/
def getPacketPortNumber (b : Window) : ℕ :=
  if ethProto b 0 ≠ htons PID_ETH_IP then 0
  else if ipProtocol b ETH_HLEN ≠ IPPROTO_UDP then 0
  else htons (l4Dest b (ETH_HLEN + DEFAULT_IPV4_HDR_LENGTH))

/-- `get_ether_type`: the manager's own copy of the classifier.  Its `hdr_lens`
is a local that nobody reads. -/
def getEtherType (b : Window) : PType :=
  let offset := ETH_HLEN
  if ethProto b 0 = htons PID_ETH_ARP then .l2EtherArp
  else if ethProto b 0 = htons PID_ETH_IP then
    let _packetType := ptypeL3Ip (ipIhl b offset)
    match ptypeL4 (ipProtocol b offset) with
    | .l4Udp => udpPtype b (offset + ipv4HdrLen b offset)
    | other => other
  else .l2Ether

namespace DataPlaneManager

variable (dm : DataPlaneManager)

/-- `filter_packet`: true when the port is **not** one of the fast-path ports. -/
def filterPacket (portNumber : ℕ) : Bool := decide ((portNumber : ℤ) ∉ dm.fastpathPorts)

/-- `arp_handler`: the verdict and the frame as rewritten in place.  An index past
the end of `lport_mac` reads some address; the default stands for it. -/
def arpHandler (b : Window) (recvPort : ℕ) : ℕ × Window :=
  let arp := ETH_HLEN
  if htons (arpOpcode b arp) = 1 then
    let srcIp := dm.tapIpAddr.toNat
    let destIp := arpSip b arp
    let srcMac := (dm.lportMac.getD recvPort default).toList
    let destMac := b.slice (arp + 8) ETH_ALEN
    if arpTip b arp = dm.tapIpAddr.toNat then
      let b := constructArpResponse b arp srcMac srcIp destMac destIp
      let b := b.store 0 (b.slice ETH_ALEN ETH_ALEN)
      let b := b.store ETH_ALEN srcMac
      (recvPort, b)
    else (DROP, b)
  else if htons (arpOpcode b arp) = 2 then
    let b := b.store 0 dm.tapMacAddr.toList
    let b := b.store (arp + 18) dm.tapMacAddr.toList
    (KERNEL, b)
  else (DROP, b)

/-! ## What the ARP responder decides -/

/-- An ARP request for the address of the TAP device: the one the responder
answers itself. -/
def AsksForTap (b : Window) : Prop :=
  htons (arpOpcode b ETH_HLEN) = 1 ∧ arpTip b ETH_HLEN = dm.tapIpAddr.toNat

instance (b : Window) : Decidable (dm.AsksForTap b) := inferInstanceAs (Decidable (_ ∧ _))

/-- An ARP reply, which belongs to the kernel. -/
def IsArpReply (b : Window) : Prop := htons (arpOpcode b ETH_HLEN) = 2

instance (b : Window) : Decidable (IsArpReply b) := inferInstanceAs (Decidable (_ = _))

variable {dm}

theorem arpHandler_of_asksForTap {b : Window} (h : dm.AsksForTap b) (recvPort : ℕ) :
    (dm.arpHandler b recvPort).1 = recvPort := by
  simp [arpHandler, h.1, h.2]

/-- An ARP reply is aimed at the TAP device in both places that name its receiver. -/
theorem arpHandler_of_isArpReply_eq {b : Window} (h : IsArpReply b) (recvPort : ℕ) :
    dm.arpHandler b recvPort =
      (KERNEL, (b.store 0 dm.tapMacAddr.toList).store (ETH_HLEN + 18) dm.tapMacAddr.toList) := by
  have hop : htons (arpOpcode b ETH_HLEN) = 2 := h
  simp [arpHandler, hop]

theorem arpHandler_of_isArpReply {b : Window} (h : IsArpReply b) (recvPort : ℕ) :
    (dm.arpHandler b recvPort).1 = KERNEL := by
  rw [arpHandler_of_isArpReply_eq h]

/-- Every other ARP frame is dropped, and not a byte of it is changed. -/
theorem arpHandler_of_neither {b : Window} (hask : ¬ dm.AsksForTap b) (hreply : ¬ IsArpReply b)
    (recvPort : ℕ) : dm.arpHandler b recvPort = (DROP, b) := by
  simp only [arpHandler]
  split
  · rename_i hop
    rw [if_neg fun htip => hask ⟨hop, htip⟩]
  · rw [if_neg (show ¬ htons (arpOpcode b ETH_HLEN) = 2 from hreply)]

end DataPlaneManager

/-! ## What the classifier and the filter decide -/

/-- The loops test a frame for ARP through the classifier or directly; the two
tests are one. -/
theorem getEtherType_eq_arp_iff (b : Window) :
    getEtherType b = .l2EtherArp ↔ ethProto b 0 = htons PID_ETH_ARP := by
  constructor
  · intro h
    by_contra hne
    rw [getEtherType, if_neg hne] at h
    split at h
    · simp only [ptypeL4, udpPtype] at h
      split_ifs at h
    · simp at h
  · intro h
    rw [getEtherType, if_pos h]

/-! ## Frames to try things on -/

/-- `n` zero bytes. -/
def zeros (n : ℕ) : List UInt8 := List.replicate n 0

/-- A minimum-size UDP/IPv4 frame for the given destination port, in a buffer with
128 bytes of headroom. -/
def udpFrame (port : UInt16) : Window :=
  Window.ofBytes 128
    (List.flatten [zeros 12, [0x08, 0x00], [0x45], zeros 8, [17], zeros 10,
      [0, 0, (port >>> 8).toUInt8, port.toUInt8], zeros 22])
    (by simp [zeros])

/-- A minimum-size ARP frame with the given opcode and target address `tip.0.0.0`. -/
def arpFrame (opcode tip : UInt8) : Window :=
  Window.ofBytes 128
    (List.flatten [zeros 12, [0x08, 0x06], [0, 1, 8, 0, 6, 4, 0, opcode], zeros 16,
      [tip, 0, 0, 0], zeros 18])
    (by simp [zeros])

example : getEtherType (udpFrame 2152) = .gtp ∧ getPacketPortNumber (udpFrame 2152) = 2152 := by
  decide

theorem DataPlaneManager.filterPacket_eq_true_iff (dm : DataPlaneManager) (port : ℕ) :
    dm.filterPacket port = true ↔ (port : ℤ) ∉ dm.fastpathPorts := by
  simp [filterPacket]

theorem DataPlaneManager.filterPacket_eq_false_iff (dm : DataPlaneManager) (port : ℕ) :
    dm.filterPacket port = false ↔ (port : ℤ) ∈ dm.fastpathPorts := by
  simp [filterPacket]

end UdxFastpath
