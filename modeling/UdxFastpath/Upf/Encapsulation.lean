import UdxFastpath.Foundation.HeaderPush
import UdxFastpath.Upf.Processor

/-!
# Downlink encapsulation

What `encapsulate` puts in front of a frame, byte for byte.

Each of the five headers is written down as a list — a function of the packet's
length and of the headroom it overwrites — and each stage is shown to push it.
`Pushes.comp` then gives the whole outer header, and the properties below are read
off that list:

* the classifier of this very program takes the result for **plain UDP**;
* in network order both UDP ports are 26632;
* of the 58 bytes, seven are stale and two more are stale in part.
-/

namespace UdxFastpath.Upf

open ByteWindow

/-! ## The five headers

`st k` is the byte that was `k` places in front of the window before the header
was pushed. -/

/-- The PDU session container: the low nibble of its second byte and the top bit of
its third are left over. -/
def pduHeader (st : ℕ → UInt8) : List UInt8 :=
  [1, st 3 &&& 0x0F, ((st 2 &&& 0xC0) ||| 1) &&& 0xBF, 0]

/-- The GTP-U header: length and TEID in host order, sequence number and N-PDU
number left over. -/
def gtpHeader (teid : UInt32) (len : ℕ) (st : ℕ → UInt8) : List UInt8 :=
  [0x34, 0xFF] ++ le16 (len + 12) ++ le32 teid.toNat ++ [st 4, st 3, st 2, 0x85]

/-- The UDP header: ports and length in host order. -/
def udpHeader (len : ℕ) : List UInt8 := le16 2152 ++ le16 2152 ++ le16 (len + 8) ++ [0, 0]

/-- The IPv4 header: identification and fragment offset left over, no checksum. -/
def ipHeader (len : ℕ) (st : ℕ → UInt8) : List UInt8 :=
  [0x45, 0] ++ le16 (htons (len + 20)) ++
    [st 16, st 15, st 14, st 13, 64, 17, 0, 0, 0xc0, 0xa8, 0x02, 0x02, 0xc0, 0xa8, 0x02, 0x01]

/-- The Ethernet header. -/
def ethHeader (app : ApplicationInfo) : List UInt8 :=
  app.ranMac.toList ++ app.upfRanMac.toList ++ [0x08, 0x00]

/-! ## The stages push them -/

/-- A stage pushes `hdr` when its stores stay inside the header and leave it
there. -/
theorem pushHeader_pushes {n : ℕ} {write : Window → Window} {hdr : ℕ → (ℕ → UInt8) → List UInt8}
    (hlen : ∀ len st, (hdr len st).length = n)
    (hlocal : ∀ len st st', (∀ k, 1 ≤ k → k ≤ n → st k = st' k) → hdr len st = hdr len st')
    (hedit : ∀ c, Edited n c (write c))
    (hhead : ∀ b c : Window, c.mem = b.mem → c.off + n = b.off → c.len = b.len + n →
      ∀ i (hi : i < (hdr b.len b.before).length), (write c).byte i = (hdr b.len b.before)[i]) :
    Pushes Fault.nullWrite (pushHeader n write) n hdr where
  length_eq := hlen
  local_eq := hlocal
  ok := by
    intro b hroom
    obtain ⟨c, hc, hmem, hoff, hlen'⟩ := b.prepend_eq_some hroom
    refine ⟨write c, ?_, (hedit c).pushed hmem hoff hlen' (hlen _ _) (hhead b c hmem hoff hlen')⟩
    simp only [pushHeader, prependOrFault, hc]
    rfl
  fault := by
    intro b hroom
    simp only [pushHeader, prependOrFault, (b.prepend_eq_none_iff n).mpr hroom]
    rfl

/-- Writing `version` and `ihl` one after the other settles the whole byte. -/
theorem version_ihl_eq (x : UInt8) : ((x &&& 0x0F ||| 0x40) &&& 0xF0) ||| 0x05 = 0x45 := by
  apply UInt8.eq_of_toBitVec_eq
  ext i hi
  interval_cases i <;> simp

theorem pushPduHeader_pushes :
    Pushes Fault.nullWrite (pushHeader 4 writePduHeader) 4 (fun _ st => pduHeader st) := by
  refine pushHeader_pushes (fun _ _ => rfl) ?_ ?_ ?_
  · intro _ st st' hst
    simp only [pduHeader, hst 3 (by omega) (by omega), hst 2 (by omega) (by omega)]
  · intro c
    exact (((((Edited.refl 4 c).store (by simp)).store (by simp)).store (by simp)).store
      (by simp)).store (by simp)
  · intro b c hmem hoff hlen i hi
    have h1 := Window.byte_eq_before (i := 1) hmem hoff (by omega)
    have h2 := Window.byte_eq_before (i := 2) hmem hoff (by omega)
    replace hi : i < 4 := hi
    interval_cases i <;> simp [writePduHeader, pduHeader, Window.byte_store, h1, h2,
      E_GTP_EXT_HDR_NO_MORE_EXTENSION_HEADERS]

theorem pushGtpHeader_pushes (teid : UInt32) :
    Pushes Fault.nullWrite (pushHeader 12 (writeGtpHeader teid)) 12 (gtpHeader teid) := by
  refine pushHeader_pushes (fun _ _ => rfl) ?_ ?_ ?_
  · intro _ st st' hst
    simp only [gtpHeader, hst 4 (by omega) (by omega), hst 3 (by omega) (by omega),
      hst 2 (by omega) (by omega)]
  · intro c
    exact (((((Edited.refl 12 c).store (by simp)).store (by simp)).store (by simp)).store
      (by simp)).store (by simp)
  · intro b c hmem hoff hlen i hi
    have h8 := Window.byte_eq_before (i := 8) hmem hoff (by omega)
    have h9 := Window.byte_eq_before (i := 9) hmem hoff (by omega)
    have h10 := Window.byte_eq_before (i := 10) hmem hoff (by omega)
    have hflags : GTP_V1_MASK ||| PT_MASK ||| GTP_E_MASK = 0x34 := rfl
    replace hi : i < 12 := hi
    interval_cases i <;> simp [writeGtpHeader, gtpHeader, Window.byte_store, h8, h9, h10, le16,
      le32, hlen, hflags, G_PDU, E_GTP_EXT_HDR_PDU_SESSION_CONTAINER]

theorem pushUdpHeader_pushes :
    Pushes Fault.nullWrite (pushHeader UDP_HDR_LENGTH writeUdpHeader) UDP_HDR_LENGTH
      (fun len _ => udpHeader len) := by
  refine pushHeader_pushes (fun _ _ => rfl) (fun _ _ _ _ => rfl) ?_ ?_
  · intro c
    exact ((((Edited.refl 8 c).store (by simp)).store (by simp)).store (by simp)).store (by simp)
  · intro b c hmem hoff hlen i hi
    replace hi : i < 8 := hi
    interval_cases i <;> simp [writeUdpHeader, udpHeader, Window.byte_store, le16, hlen,
      UDP_HDR_LENGTH]

theorem pushIpHeader_pushes :
    Pushes Fault.nullWrite (pushHeader DEFAULT_IPV4_HDR_LENGTH writeIpHeader)
      DEFAULT_IPV4_HDR_LENGTH ipHeader := by
  refine pushHeader_pushes (fun _ _ => rfl) ?_ ?_ ?_
  · intro _ st st' hst
    simp only [DEFAULT_IPV4_HDR_LENGTH] at hst
    simp only [ipHeader, hst 16 (by omega) (by omega), hst 15 (by omega) (by omega),
      hst 14 (by omega) (by omega), hst 13 (by omega) (by omega)]
  · intro c
    exact (((((((((Edited.refl 20 c).store (by simp)).store (by simp)).store (by simp)).store
      (by simp)).store (by simp)).store (by simp)).store (by simp)).store (by simp)).store (by simp)
  · intro b c hmem hoff hlen i hi
    have h4 := Window.byte_eq_before (i := 4) hmem hoff (by decide)
    have h5 := Window.byte_eq_before (i := 5) hmem hoff (by decide)
    have h6 := Window.byte_eq_before (i := 6) hmem hoff (by decide)
    have h7 := Window.byte_eq_before (i := 7) hmem hoff (by decide)
    simp only [DEFAULT_IPV4_HDR_LENGTH] at h4 h5 h6 h7 hlen
    have hsaddr : le32 (htonl 0xc0a80202) = [0xc0, 0xa8, 0x02, 0x02] := by decide
    have hdaddr : le32 (htonl 0xc0a80201) = [0xc0, 0xa8, 0x02, 0x01] := by decide
    replace hi : i < 20 := hi
    interval_cases i <;> simp [writeIpHeader, ipHeader, Window.byte_store, h4, h5, h6, h7, hsaddr,
      hdaddr, le16, hlen, version_ihl_eq]

theorem pushEthHeader_pushes (app : ApplicationInfo) :
    Pushes Fault.nullWrite (pushHeader ETH_HLEN (writeEthHeader app.upfRanMac app.ranMac)) ETH_HLEN
      (fun _ _ => ethHeader app) := by
  refine pushHeader_pushes (fun _ _ => rfl) (fun _ _ _ _ => rfl) ?_ ?_
  · intro c
    exact (((Edited.refl 14 c).store (by simp [ETH_ALEN])).store (by simp)).store (by simp)
  · intro b c hmem hoff hlen i hi
    replace hi : i < 14 := hi
    interval_cases i <;> simp [writeEthHeader, ethHeader, Window.byte_store, EtherAddr.toList, le16,
      ETH_ALEN, htons, swap16, PID_ETH_IP]

/-! ## The outer header -/

/-- All 58 bytes, outermost header first. -/
def outerHeader (app : ApplicationInfo) (teid : UInt32) (len : ℕ) (st : ℕ → UInt8) : List UInt8 :=
  ethHeader app ++ ipHeader (len + 24) (fun k => st (k + 24)) ++ udpHeader (len + 16) ++
    gtpHeader teid (len + 4) (fun k => st (k + 4)) ++ pduHeader st

/-- **Encapsulation is one push** of the outer header; short of 58 bytes of
headroom it writes through a null pointer. -/
theorem encapsulate_pushes (app : ApplicationInfo) (teid : UInt32) :
    Pushes Fault.nullWrite (encapsulate app teid) 58 (outerHeader app teid) := by
  have hall := pushPduHeader_pushes.comp ((pushGtpHeader_pushes teid).comp
    (pushUdpHeader_pushes.comp (pushIpHeader_pushes.comp (pushEthHeader_pushes app))))
  -- what `comp` computes, with the lengths of the inner headers not yet added up
  have hhdr : (fun len st => outerHeader app teid len st) = fun len st =>
      (((ethHeader app ++ ipHeader (len + 4 + 12 + UDP_HDR_LENGTH)
        (fun k => st (k + UDP_HDR_LENGTH + 12 + 4))) ++ udpHeader (len + 4 + 12)) ++
        gtpHeader teid (len + 4) (fun k => st (k + 4))) ++ pduHeader st := by
    funext len st
    simp only [outerHeader, UDP_HDR_LENGTH, Nat.add_assoc]
  rw [show outerHeader app teid = _ from hhdr]
  exact hall

/-- A frame the processor **encapsulates**: downlink, with a rule that forwards and
creates an outer header. -/
structure Encapsulates (tables : RuleTables) (b : Window) (rule : PdrValue) : Prop where
  downlink : (getPacketType b ⟨0, 0, 0⟩).1 = .l4Udp
  matched : matchedRule tables b = some rule
  forwards : rule.Forwards
  creates : rule.createsOuter = true

section Encapsulated

variable {tables : RuleTables} {b : Window} {rule : PdrValue} (app : ApplicationInfo)
  (recvLport : ℕ)

/-- What the processor does with such a frame. -/
theorem packetProcessor_of_encapsulates (h : Encapsulates tables b rule) :
    packetProcessor (some app) tables b recvLport =
      (encapsulate app rule.ohc.teid b).map fun c => (recvLport ^^^ 1, c) := by
  have hrule := h.matched
  simp only [matchedRule, h.downlink] at hrule
  have hforw : rule.action = PFCP_APPLY_ACTION_FORW_MASK := h.forwards
  simp only [packetProcessor, h.downlink, processDownlink, hrule, hforw, h.creates, if_true]
  cases encapsulate app rule.ohc.teid b <;> rfl

/-- With enough headroom the frame leaves on the opposite port, outer header in
front. -/
theorem packetProcessor_pushes (h : Encapsulates tables b rule) (hroom : 58 ≤ b.off) :
    ∃ c, packetProcessor (some app) tables b recvLport = .ok (recvLport ^^^ 1, c) ∧
      Pushed b c (outerHeader app rule.ohc.teid b.len b.before) := by
  obtain ⟨c, hc, hp⟩ := (encapsulate_pushes app rule.ohc.teid).ok b hroom
  refine ⟨c, ?_, hp⟩
  rw [packetProcessor_of_encapsulates app recvLport h, hc]
  rfl

end Encapsulated

/-! ## Reading it back -/

section Reading

variable {b c : Window} {app : ApplicationInfo} {teid : UInt32}

/-- The bytes of the outer header, by position. -/
theorem byte_outerHeader (hp : Pushed b c (outerHeader app teid b.len b.before)) {i : ℕ}
    (hi : i < 58) : c.byte i = (outerHeader app teid b.len b.before).getD i 0 := by
  rw [List.getD_eq_getElem _ _ hi, hp.head i hi]

/-- Both ports as the host loads them. -/
theorem loadLE16_outer_ports (hp : Pushed b c (outerHeader app teid b.len b.before)) :
    c.loadLE16 34 = 2152 ∧ c.loadLE16 36 = 2152 := by
  constructor
  · exact Window.loadLE16_of_le16 (byte_outerHeader hp (by decide))
      (byte_outerHeader hp (by decide)) (by decide)
  · exact Window.loadLE16_of_le16 (byte_outerHeader hp (by decide))
      (byte_outerHeader hp (by decide)) (by decide)

/-- **The result is classified as plain UDP.**  The ports were stored in host order
and the classifier compares in network order. -/
theorem getPacketType_outer (hp : Pushed b c (outerHeader app teid b.len b.before))
    (init : HdrLens) : getPacketType c init = (.l4Udp, ⟨14, 20, 8⟩) := by
  have hip : ethProto c 0 = htons PID_ETH_IP := by
    simp only [ethProto, Window.loadLE16, byte_outerHeader hp (show 0 + 12 < 58 by decide),
      byte_outerHeader hp (show 0 + 12 + 1 < 58 by decide)]
    rfl
  have hudp : ipProtocol c ETH_HLEN = IPPROTO_UDP := by
    simp only [ipProtocol, byte_outerHeader hp (show ETH_HLEN + 9 < 58 by decide)]
    rfl
  have hihl : ipv4HdrLen c ETH_HLEN = 20 := by
    have hfirst : c.byte ETH_HLEN = 0x45 := byte_outerHeader hp (by decide)
    simp only [ipv4HdrLen, ipIhl, ipVersionIhl, hfirst]
    rfl
  have hport : l4Dest c (ETH_HLEN + 20) = 2152 := (loadLE16_outer_ports hp).2
  rw [getPacketType_of_udp c init ⟨hip, hudp⟩, hihl]
  simp only [udpPtype, hport]
  rfl

/-- Pointed at the tunnel header by hand, the parser accepts it, and skips eight
bytes for the four-byte container the encoder wrote. -/
theorem parseGtphdr_outer (hp : Pushed b c (outerHeader app teid b.len b.before)) :
    parseGtphdr c 42 = ⟨20, some 42, ⟨some 54, 0⟩⟩ := by
  have htype : c.byte 53 = E_GTP_EXT_HDR_PDU_SESSION_CONTAINER := byte_outerHeader hp (by decide)
  have hpdu : c.byte 55 = b.before 3 &&& 0x0F := byte_outerHeader hp (by decide)
  have hnibble : (b.before 3 &&& 0x0F).toNat / 16 = 0 := by
    have hle := Nat.and_le_right (n := (b.before 3).toNat) (m := 15)
    rw [UInt8.toNat_and]
    exact Nat.div_eq_of_lt (Nat.lt_succ_of_le hle)
  have hne : ¬ E_GTP_EXT_HDR_PDU_SESSION_CONTAINER = E_GTP_EXT_HDR_NO_MORE_EXTENSION_HEADERS := by
    decide
  simp only [parseGtphdr, parseExtensions, htype, hpdu, hnibble, hne, if_false, if_true]
  rfl

end Reading

/-! ## The decoder of this program -/

/-- What the uplink side should make of a frame the downlink side encapsulated: it
recognises the tunnel, finds the TEID and QoS flow, and the bytes behind the
parsed header are the IP packet that went in. -/
structure RoundTrip (b c : Window) (teid : UInt32) : Prop where
  classified : (getPacketType c ⟨0, 0, 0⟩).1 = .gtp
  parsed : (parseGtphdr c (gtpStart (getPacketType c ⟨0, 0, 0⟩).2)).gtphdr =
    some (gtpStart (getPacketType c ⟨0, 0, 0⟩).2)
  teid_eq : htonl (gtpTeid c (gtpStart (getPacketType c ⟨0, 0, 0⟩).2)) = teid.toNat
  qfi_eq : (parseGtphdr c (gtpStart (getPacketType c ⟨0, 0, 0⟩).2)).pdu.header.map (pduQfi c) =
    some 1
  inner_eq : c.bytes.drop (gtpStart (getPacketType c ⟨0, 0, 0⟩).2 +
    (parseGtphdr c (gtpStart (getPacketType c ⟨0, 0, 0⟩).2)).len.toNat) = b.bytes.drop ETH_HLEN

/-- The decoder does not recognise what the encoder wrote. -/
theorem not_roundTrip {b c : Window} {app : ApplicationInfo} {teid : UInt32}
    (hp : Pushed b c (outerHeader app teid b.len b.before)) : ¬ RoundTrip b c teid := by
  intro h
  have hgtp := h.classified
  rw [getPacketType_outer hp] at hgtp
  cases hgtp

/-- **No encapsulated frame is decoded.**  Whatever the frame, its rule and the
addresses, the result of the downlink branch is not an uplink frame to this
program. -/
theorem encapsulation_never_decodes (app : ApplicationInfo) (tables : RuleTables) (b : Window)
    (recvLport : ℕ) (rule : PdrValue) (h : Encapsulates tables b rule) (hroom : 58 ≤ b.off) :
    ∃ c, packetProcessor (some app) tables b recvLport = .ok (recvLport ^^^ 1, c) ∧
      ¬ RoundTrip b c rule.ohc.teid := by
  obtain ⟨c, hrun, hp⟩ := packetProcessor_pushes app recvLport h hroom
  exact ⟨c, hrun, not_roundTrip hp⟩

/-- A small downlink frame with a tunnel rule. -/
theorem encapsulates_udpFrame :
    Encapsulates (uniformTables (tunnelRule PFCP_APPLY_ACTION_FORW_MASK 7)) (udpFrame 80)
      (tunnelRule PFCP_APPLY_ACTION_FORW_MASK 7) :=
  ⟨by decide, rfl, by decide, by decide⟩

theorem encapsulation_never_decodes_udp :
    58 ≤ (udpFrame 80).off ∧
      ∃ c, packetProcessor (some default)
          (uniformTables (tunnelRule PFCP_APPLY_ACTION_FORW_MASK 7)) (udpFrame 80) 0 = .ok (1, c) ∧
        ¬ RoundTrip (udpFrame 80) c 7 :=
  ⟨by decide, encapsulation_never_decodes default _ _ 0 _ encapsulates_udpFrame (by decide)⟩

/-- The frame for port 80 comes back as plain UDP. -/
theorem encapsulated_udp_undecoded :
    ¬ ∀ c, packetProcessor (some default)
        (uniformTables (tunnelRule PFCP_APPLY_ACTION_FORW_MASK 7)) (udpFrame 80) 0 = .ok (1, c) →
      RoundTrip (udpFrame 80) c 7 := by
  intro h
  obtain ⟨c, hrun, hp⟩ := packetProcessor_pushes default 0 encapsulates_udpFrame (by decide)
  exact not_roundTrip hp (h c hrun)

/-! ## The receivers on the wire -/

/-- One's-complement addition: the carry goes back in at the bottom. -/
def onesAdd (a w : ℕ) : ℕ := if a + w < 65536 then a + w else a + w - 65535

/-- What a receiver checks of an encapsulated frame: outer IPv4 header at 14, UDP
header at 34, GTP-U header at 42, everything in network order. -/
structure WireValid (c : Window) : Prop where
  source : c.loadBE16 34 = GTP_PORT
  dest : c.loadBE16 36 = GTP_PORT
  totalLength : c.loadBE16 16 = c.len - 14
  udpLength : c.loadBE16 38 = c.len - 34
  gtpLength : c.loadBE16 44 = c.len - 50
  checksum : ((List.range 10).map fun k => c.loadBE16 (14 + 2 * k)).foldl onesAdd 0 = 0xFFFF

section Wire

variable {b c : Window} {app : ApplicationInfo} {teid : UInt32}

/-- **Three length fields, three outcomes**: the IPv4 length is right, the UDP length
is right but in host order, the GTP-U length is in host order and eight too
large. -/
theorem outer_lengths (hp : Pushed b c (outerHeader app teid b.len b.before)) :
    c.loadBE16 16 = c.len - 14 ∧ c.loadLE16 38 = c.len - 34 ∧ c.loadLE16 44 = c.len - 42 := by
  have hfits := b.fits
  have hoff : c.off + 58 = b.off := hp.off_eq
  have hlen : c.len = b.len + 58 := hp.len_eq
  have hip : c.loadLE16 16 = swap16 (b.len + 24 + 20) :=
    Window.loadLE16_of_le16 (byte_outerHeader hp (by decide)) (byte_outerHeader hp (by decide))
      (swap16_lt _)
  have hudp : c.loadLE16 38 = b.len + 16 + 8 :=
    Window.loadLE16_of_le16 (byte_outerHeader hp (by decide)) (byte_outerHeader hp (by decide))
      (by omega)
  have hgtp : c.loadLE16 44 = b.len + 4 + 12 :=
    Window.loadLE16_of_le16 (byte_outerHeader hp (by decide)) (byte_outerHeader hp (by decide))
      (by omega)
  refine ⟨?_, by omega, by omega⟩
  rw [← Window.swap16_loadLE16, hip, swap16_swap16 (by omega)]
  omega

/-- On the wire the source port is 26632. -/
theorem not_wireValid (hp : Pushed b c (outerHeader app teid b.len b.before)) :
    ¬ WireValid c := by
  intro h
  have hport := h.source
  rw [← Window.swap16_loadLE16, (loadLE16_outer_ports hp).1] at hport
  exact absurd hport (by decide)

end Wire

/-- **No encapsulated frame is valid on the wire.** -/
theorem encapsulation_never_wireValid (app : ApplicationInfo) (tables : RuleTables) (b : Window)
    (recvLport : ℕ) (rule : PdrValue) (h : Encapsulates tables b rule) (hroom : 58 ≤ b.off) :
    ∃ c, packetProcessor (some app) tables b recvLport = .ok (recvLport ^^^ 1, c) ∧
      ¬ WireValid c := by
  obtain ⟨c, hrun, hp⟩ := packetProcessor_pushes app recvLport h hroom
  exact ⟨c, hrun, not_wireValid hp⟩

theorem encapsulation_never_wireValid_udp :
    58 ≤ (udpFrame 80).off ∧
      ∃ c, packetProcessor (some default)
          (uniformTables (tunnelRule PFCP_APPLY_ACTION_FORW_MASK 7)) (udpFrame 80) 0 = .ok (1, c) ∧
        ¬ WireValid c :=
  ⟨by decide, encapsulation_never_wireValid default _ _ 0 _ encapsulates_udpFrame (by decide)⟩

/-- The frame for port 80 leaves with ports no GTP-U receiver listens on. -/
theorem encapsulated_udp_invalid :
    ¬ ∀ c, packetProcessor (some default)
        (uniformTables (tunnelRule PFCP_APPLY_ACTION_FORW_MASK 7)) (udpFrame 80) 0 = .ok (1, c) →
      WireValid c := by
  intro h
  obtain ⟨c, hrun, hp⟩ := packetProcessor_pushes default 0 encapsulates_udpFrame (by decide)
  exact not_wireValid hp (h c hrun)

end UdxFastpath.Upf
