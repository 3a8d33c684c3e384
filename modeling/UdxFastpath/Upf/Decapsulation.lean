import UdxFastpath.Foundation.ByteFields
import UdxFastpath.Upf.GtpHeader

/-!
# Uplink decapsulation

What the uplink branch of `packet_processor` leaves of a tunnelled frame, byte for
byte.

The branch gives up the outer IP, UDP and GTP-U headers but **not** the outer
Ethernet header: that is fourteen bytes less than all of them, and the new
Ethernet header is written over the last fourteen bytes of what was to be removed.
So the lengths cancel whatever they are, and the result is the new header followed
by the inner packet (`decapsulation_exact`).

The rule is looked up by fields of three headers: the inner source address, the
tunnel identifier, and the QoS flow of the PDU session container if there is one.
`wireKey` has them in wire order.
-/

namespace UdxFastpath.Upf

open ByteWindow

/-! ## The lookup key -/

/-- The lookup key of a tunnel header at `p` and an inner packet at `payload`, read in wire
order. -/
def wireKey (b : Window) (p payload : ℕ) : PdiInfoUplink where
  srcIface := 0
  ueIpAddr := UInt32.ofNat (b.loadBE32 (payload + 12))
  teid := UInt32.ofNat (b.loadBE32 (p + 4))
  qfi := if b.byte (p + 11) = E_GTP_EXT_HDR_PDU_SESSION_CONTAINER then b.byte (p + 14) &&& 0x3F
    else 0

/-- The parser points at the container exactly when one is announced. -/
theorem parseGtphdr_pdu {b : Window} {p : ℕ} (h : (parseGtphdr b p).gtphdr ≠ none) :
    (parseGtphdr b p).pdu.header =
      if b.byte (p + 11) = E_GTP_EXT_HDR_PDU_SESSION_CONTAINER then some (p + 12) else none := by
  have hne : ¬ E_GTP_EXT_HDR_NO_MORE_EXTENSION_HEADERS = E_GTP_EXT_HDR_PDU_SESSION_CONTAINER := by
    decide
  simp only [parseGtphdr, parseExtensions] at h ⊢
  by_cases hzero : b.byte (p + 11) = E_GTP_EXT_HDR_NO_MORE_EXTENSION_HEADERS
  · rw [if_pos hzero, hzero, if_neg hne]
  · rw [if_neg hzero] at h ⊢
    by_cases htype : b.byte (p + 11) = E_GTP_EXT_HDR_PDU_SESSION_CONTAINER
    · rw [if_pos htype] at h ⊢
      rw [if_pos htype]
      split at h
      · rfl
      · rfl
      · exact absurd rfl h
    · rw [if_neg htype] at h
      exact absurd rfl h

/-- A header that parses is the one the parser was given. -/
theorem gtphdr_eq_some {b : Window} {p : ℕ} (h : (parseGtphdr b p).gtphdr ≠ none) :
    (parseGtphdr b p).gtphdr = some p := by
  rcases parseGtphdr_cases b p with
    ⟨-, hsome, -⟩ | ⟨-, -, hsome, -⟩ | ⟨-, -, hsome, -⟩ | ⟨-, -, hnone⟩
  · exact hsome
  · exact hsome
  · exact hsome
  · exact absurd hnone h

/-- The processor's key is the one in wire order. -/
theorem uplinkKey_eq_wireKey {b : Window} {p : ℕ} (payload : ℕ)
    (h : (parseGtphdr b p).gtphdr ≠ none) :
    uplinkKey b p payload (parseGtphdr b p).pdu = wireKey b p payload := by
  have hteid : htonl (gtpTeid b p) = b.loadBE32 (p + 4) := b.swap32_loadLE32 _
  have hqfi : ((parseGtphdr b p).pdu.header.map (pduQfi b)).getD 0 = (wireKey b p payload).qfi := by
    rw [parseGtphdr_pdu h, wireKey]
    split
    · rfl
    · rfl
  rw [uplinkKey, hteid, hqfi, htonl_ipSaddr]
  rfl

/-! ## The new front -/

/-- Source, destination and type: three stretches of one concatenation. -/
theorem overwrite_ethHeader {d s t : List UInt8} (rest : List UInt8) (hd : d.length = 6)
    (hs : s.length = 6) (ht : t.length = 2) (source dest : EtherAddr) :
    overwrite (overwrite (overwrite (d ++ s ++ t ++ rest) 6 source.toList) 0 dest.toList) 12
      [0x08, 0x00] = dest.toList ++ source.toList ++ [0x08, 0x00] ++ rest := by
  have hfirst := overwrite_middle d (t ++ rest) (show source.toList.length = s.length by simp [hs])
  have hsecond := overwrite_middle [] (source.toList ++ t ++ rest)
    (show dest.toList.length = d.length by simp [hd])
  have hthird := overwrite_middle (dest.toList ++ source.toList) rest
    (show [0x08, 0x00].length = t.length by simp [ht])
  simp only [List.append_assoc, List.nil_append, List.length_nil, hd, List.length_append,
    EtherAddr.length_toList] at hfirst hsecond hthird ⊢
  rw [hfirst, hsecond, hthird]

/-- An Ethernet header written over the first fourteen bytes. -/
theorem bytes_writeEthHeader (source dest : EtherAddr) {c : Window} (h : 14 ≤ c.len) :
    (writeEthHeader source dest c).bytes =
      dest.toList ++ source.toList ++ [0x08, 0x00] ++ c.bytes.drop 14 := by
  have hlength := c.length_bytes
  have hdest : (c.bytes.take 6).length = 6 := List.length_take_of_le (by omega)
  have hsource : (field c.bytes 6 6).length = 6 := length_field (by omega)
  have hproto : (field c.bytes 12 2).length = 2 := length_field (by omega)
  have hfront : c.bytes.take 6 ++ field c.bytes 6 6 ++ field c.bytes 12 2 ++ c.bytes.drop 14 =
      c.bytes := by
    have hlast := List.take_append_drop 2 (c.bytes.drop 12)
    have hmiddle := List.take_append_drop 6 (c.bytes.drop 6)
    rw [List.drop_drop] at hlast hmiddle
    rw [field, field, List.append_assoc, List.append_assoc, hlast, hmiddle, List.take_append_drop]
  have hvalue : le16 (htons PID_ETH_IP) = [0x08, 0x00] := by decide
  have hall := overwrite_ethHeader (c.bytes.drop 14) hdest hsource hproto source dest
  rw [hfront] at hall
  rw [writeEthHeader, bytes_store, bytes_store, bytes_store, hvalue]
  exact hall

/-! ## The branch -/

/-- The bytes the branch gives up: the outer headers without the Ethernet header. -/
def outerLength (b : Window) : ℕ :=
  let lens := (getPacketType b ⟨0, 0, 0⟩).2
  lens.l3Len + lens.l4Len + (parseGtphdr b (gtpStart lens)).len.toNat

/-- A frame the processor **decapsulates**: uplink, with a rule that forwards and removes the
outer header. -/
structure Decapsulates (tables : RuleTables) (b : Window) (rule : PdrValue) : Prop where
  uplink : (getPacketType b ⟨0, 0, 0⟩).1 = .gtp
  matched : matchedRule tables b = some rule
  forwards : rule.Forwards
  removes : rule.removesOuter = true

section Decapsulated

variable {tables : RuleTables} {b : Window} {rule : PdrValue} (app : ApplicationInfo)
  (recvLport : ℕ)

/-- What the processor does with such a frame. -/
theorem packetProcessor_of_decapsulates (h : Decapsulates tables b rule) :
    packetProcessor (some app) tables b recvLport =
      match b.adjust (outerLength b) with
      | none => .ok (DROP, b)
      | some c => .ok (recvLport ^^^ 1, writeEthHeader app.upfDnnMac app.dnnMac c) := by
  have hrule := h.matched
  simp only [matchedRule, h.uplink] at hrule
  obtain ⟨gtphdr, hsome, hlookup⟩ := Option.bind_eq_some_iff.mp hrule
  have hforw : rule.action = PFCP_APPLY_ACTION_FORW_MASK := h.forwards
  simp only [packetProcessor, h.uplink, processUplink, hsome, hlookup, hforw, h.removes, if_true,
    outerLength]
  cases b.adjust _ <;> rfl

/-- With all outer headers there, the result is a new Ethernet header and the inner packet. -/
theorem packetProcessor_decapsulates (h : Decapsulates tables b rule)
    (hlen : 14 + outerLength b ≤ b.len) :
    ∃ c, packetProcessor (some app) tables b recvLport = .ok (recvLport ^^^ 1, c) ∧
      c.bytes = app.dnnMac.toList ++ app.upfDnnMac.toList ++ [0x08, 0x00] ++
        b.bytes.drop (14 + outerLength b) := by
  obtain ⟨c, hc, -, -, hlen'⟩ := b.adjust_eq_some (show outerLength b ≤ b.len by omega)
  refine ⟨writeEthHeader app.upfDnnMac app.dnnMac c, ?_, ?_⟩
  · rw [packetProcessor_of_decapsulates app recvLport h, hc]
  · rw [bytes_writeEthHeader _ _ (by omega), Window.bytes_adjust hc, List.drop_drop,
      Nat.add_comm (outerLength b)]

end Decapsulated

/-- The lengths of a frame classified as GTP. -/
theorem hdrLens_of_gtp {b : Window} (h : (getPacketType b ⟨0, 0, 0⟩).1 = .gtp) :
    (getPacketType b ⟨0, 0, 0⟩).2 = ⟨ETH_HLEN, ipv4HdrLen b ETH_HLEN, UDP_HDR_LENGTH⟩ := by
  have hudp : IsUdpIpv4 b := by
    by_contra hnot
    exact (getPacketType_of_not_udp b _ hnot).2.1 h
  rw [getPacketType_of_udp b _ hudp]

/-- **Uplink decapsulation is exact.**  For every frame classified as GTP whose header parses
with length `g` and that holds an inner IP header: with a rule at the key in wire order that
forwards and removes the outer header, the frame leaves on the opposite port as a new Ethernet
header and the input from the inner packet on; without an entry it is dropped. -/
theorem decapsulation_exact (app : ApplicationInfo) (tables : RuleTables) (b : Window)
    (recvLport g : ℕ) (htype : (getPacketType b ⟨0, 0, 0⟩).1 = .gtp)
    (hparsed : (parseGtphdr b (14 + ipIhl b 14 * 4 + 8)).gtphdr ≠ none)
    (hg : (parseGtphdr b (14 + ipIhl b 14 * 4 + 8)).len = g)
    (hlen : 14 + ipIhl b 14 * 4 + 8 + g + 20 ≤ b.len) :
    (∀ rule, tables.uplink (wireKey b (14 + ipIhl b 14 * 4 + 8) (14 + ipIhl b 14 * 4 + 8 + g)) =
        some rule → rule.Forwards → rule.removesOuter = true →
      ∃ c, packetProcessor (some app) tables b recvLport = .ok (recvLport ^^^ 1, c) ∧
        c.bytes = app.dnnMac.toList ++ app.upfDnnMac.toList ++ [0x08, 0x00] ++
          b.bytes.drop (14 + ipIhl b 14 * 4 + 8 + g)) ∧
    (tables.uplink (wireKey b (14 + ipIhl b 14 * 4 + 8) (14 + ipIhl b 14 * 4 + 8 + g)) = none →
      packetProcessor (some app) tables b recvLport = .ok (DROP, b)) := by
  have hstart : gtpStart (getPacketType b ⟨0, 0, 0⟩).2 = 14 + ipIhl b 14 * 4 + 8 := by
    rw [hdrLens_of_gtp htype]
    rfl
  have houter : outerLength b = ipIhl b 14 * 4 + 8 + g := by
    have hlens := hdrLens_of_gtp htype
    rw [hlens] at hstart
    simp only [outerLength, hlens, hstart, hg, Int.toNat_natCast]
    rfl
  have hgtphdr := gtphdr_eq_some hparsed
  have hmatched : matchedRule tables b =
      tables.uplink (wireKey b (14 + ipIhl b 14 * 4 + 8) (14 + ipIhl b 14 * 4 + 8 + g)) := by
    simp only [matchedRule, htype, hstart, hgtphdr, Option.bind_some, hg, Int.toNat_natCast,
      uplinkKey_eq_wireKey _ hparsed]
  refine ⟨fun rule hrule hforw hremoves => ?_, fun hnone => ?_⟩
  · obtain ⟨c, hrun, hbytes⟩ := packetProcessor_decapsulates app recvLport
      ⟨htype, hmatched.trans hrule, hforw, hremoves⟩ (by omega)
    refine ⟨c, hrun, ?_⟩
    rw [hbytes, houter]
    congr 2
    omega
  · exact packetProcessor_of_unmatched tables recvLport _ (hmatched.trans hnone)

/-- A tunnelled frame: one word of outer IP options, TEID 7, an uplink container for QoS flow 9,
and an inner IP header with source address `10.0.0.1`. -/
def uplinkFrame : Window :=
  Window.ofBytes 128
    (List.flatten [zeros 12, [0x08, 0x00], [0x46], zeros 8, [17], zeros 14,
      [0, 0, 0x08, 0x68], zeros 4, [0x34, 255, 0, 0, 0, 0, 0, 7, 0, 0, 0, 0x85], [1, 0x10, 9, 0],
      [0x45], zeros 11, [10, 0, 0, 1], zeros 4])
    (by simp [zeros])

/-- One forwarding rule, for that user, tunnel and flow. -/
def uplinkTables : RuleTables where
  uplink key :=
    if key = ⟨0, 0x0A000001, 7, 9⟩ then some (tunnelRule PFCP_APPLY_ACTION_FORW_MASK 0) else none
  downlink _ := none

theorem decapsulation_exact_uplinkFrame :
    ∃ c, packetProcessor (some default) uplinkTables uplinkFrame 0 = .ok (1, c) ∧
      c.bytes = zeros 12 ++ [0x08, 0x00] ++ uplinkFrame.bytes.drop 62 :=
  (decapsulation_exact default uplinkTables uplinkFrame 0 16 (by decide) (by decide) (by decide)
    (by decide)).1 (tunnelRule PFCP_APPLY_ACTION_FORW_MASK 0) rfl (by decide) (by decide)

end UdxFastpath.Upf
