import UdxFastpath.Upf.Encapsulation

/-!
# What the headroom gives away

A two-run property: the processor is run on two buffers that hold the same packet
and differ in what lies in front of it.  The packet that comes out should be the
same.

* Everything the processor **reads** to reach its decision it reads from the packet,
  so classification, parsing, lookup and verdict agree (`matchedRule_congr`), and
  so does every outcome short of encapsulation (`observe_eq_of_not_encapsulates`).
* Encapsulation **writes** into the headroom and leaves gaps.  The outer header is
  the same exactly when the bytes in the gaps are (`outerHeader_eq_iff`): the IPv4
  identification and fragment offset, the GTP-U sequence and N-PDU numbers, the
  spare nibble and the spare bit of the PDU session container.
-/

namespace UdxFastpath.Upf

open ByteWindow

/-! ## Decisions depend on the packet only -/

section Decisions

variable {b b' : Window}

theorem getPacketType_congr (h : ReadsAlike b b') (init : HdrLens) :
    getPacketType b init = getPacketType b' init := by
  have hbyte : b.byte = b'.byte := funext h.byte_eq
  have hproto : ethProto b = ethProto b' := by
    unfold ethProto Window.loadLE16
    rw [hbyte]
  have hihl : ipIhl b = ipIhl b' := by
    unfold ipIhl ipVersionIhl
    rw [hbyte]
  have hlen : ipv4HdrLen b = ipv4HdrLen b' := by
    unfold ipv4HdrLen
    rw [hihl]
  have hl4 : ipProtocol b = ipProtocol b' := by
    unfold ipProtocol
    rw [hbyte]
  have hudp : udpPtype b = udpPtype b' := by
    unfold udpPtype l4Dest Window.loadLE16
    rw [hbyte]
  have hdoff : tcpDoff b = tcpDoff b' := by
    unfold tcpDoff
    rw [hbyte]
  unfold getPacketType
  rw [hproto, hihl, hlen, hl4, hudp, hdoff]

theorem parseExtensions_congr (h : ReadsAlike b b') (gtphdr budget : ℕ) (type : UInt8)
    (data len : ℕ) (pdu : PduExtensionHeader) :
    parseExtensions b gtphdr budget type data len pdu =
      parseExtensions b' gtphdr budget type data len pdu := by
  induction budget generalizing type data len pdu with
  | zero => rfl
  | succ budget ih => simp only [parseExtensions, h.byte_eq, ih]

theorem parseGtphdr_congr (h : ReadsAlike b b') (p : ℕ) : parseGtphdr b p = parseGtphdr b' p := by
  simp only [parseGtphdr, h.byte_eq, parseExtensions_congr h]

theorem downlinkKey_congr (h : ReadsAlike b b') (lens : HdrLens) :
    downlinkKey b lens = downlinkKey b' lens := by
  simp only [downlinkKey, ipDaddr, Window.loadLE32, Window.loadLE16, h.byte_eq]

theorem uplinkKey_congr (h : ReadsAlike b b') (gtphdr payload : ℕ) (pdu : PduExtensionHeader) :
    uplinkKey b gtphdr payload pdu = uplinkKey b' gtphdr payload pdu := by
  have hqfi : pduQfi b = pduQfi b' := by
    funext p
    simp only [pduQfi, h.byte_eq]
  simp only [uplinkKey, ipSaddr, gtpTeid, hqfi, Window.loadLE32, Window.loadLE16, h.byte_eq]

/-- The same packet matches the same rule. -/
theorem matchedRule_congr (h : ReadsAlike b b') (tables : RuleTables) :
    matchedRule tables b = matchedRule tables b' := by
  simp only [matchedRule, getPacketType_congr h, parseGtphdr_congr h, downlinkKey_congr h,
    uplinkKey_congr h]

theorem encapsulates_congr (h : ReadsAlike b b') {tables : RuleTables} {rule : PdrValue}
    (henc : Encapsulates tables b rule) : Encapsulates tables b' rule where
  downlink := by rw [← getPacketType_congr h, henc.downlink]
  matched := by rw [← matchedRule_congr h, henc.matched]
  forwards := henc.forwards
  creates := henc.creates

theorem writeEthHeader_congr (h : ReadsAlike b b') (source dest : EtherAddr) :
    ReadsAlike (writeEthHeader source dest b) (writeEthHeader source dest b') :=
  ((h.store _ _).store _ _).store _ _

end Decisions

/-! ## Outcomes -/

/-- What a run shows to the outside: the verdict and the packet's bytes, or the
fault. -/
def observe (run : Except Fault (ℕ × Window)) : Except Fault (ℕ × List UInt8) :=
  run.map fun out => (out.1, out.2.bytes)

section Outcomes

variable {b b' : Window} (app : ApplicationInfo) (tables : RuleTables) (recvLport : ℕ)

theorem processUplink_congr (h : ReadsAlike b b') (lens : HdrLens) :
    (processUplink app tables b lens recvLport).1 = (processUplink app tables b' lens recvLport).1 ∧
      (processUplink app tables b lens recvLport).2.bytes =
        (processUplink app tables b' lens recvLport).2.bytes := by
  simp only [processUplink, parseGtphdr_congr h, uplinkKey_congr h]
  cases (parseGtphdr b' (gtpStart lens)).gtphdr with
  | none => exact ⟨rfl, h.bytes_eq⟩
  | some gtphdr =>
      dsimp only
      split
      · exact ⟨rfl, h.bytes_eq⟩
      · split_ifs
        · obtain ⟨hnone, hnone'⟩ | ⟨c, c', hc, hc', hcc⟩ := h.adjust
            (lens.l3Len + lens.l4Len + (parseGtphdr b' (gtpStart lens)).len.toNat)
          · rw [hnone, hnone']
            exact ⟨rfl, h.bytes_eq⟩
          · rw [hc, hc']
            exact ⟨rfl, (writeEthHeader_congr hcc _ _).bytes_eq⟩
        · exact ⟨rfl, h.bytes_eq⟩
        · exact ⟨rfl, h.bytes_eq⟩

/-- Short of encapsulation the headroom shows in nothing. -/
theorem observe_eq_of_not_encapsulates (h : ReadsAlike b b')
    (hno : ∀ rule, ¬ Encapsulates tables b rule) :
    observe (packetProcessor (some app) tables b recvLport) =
      observe (packetProcessor (some app) tables b' recvLport) := by
  simp only [packetProcessor, ← getPacketType_congr h]
  split
  · rename_i htype
    simp only [processDownlink, ← downlinkKey_congr h]
    split
    · simp only [observe, Except.map, h.bytes_eq]
    · rename_i rule hrule
      have hmatched : matchedRule tables b = some rule := by
        simp only [matchedRule, htype]
        exact hrule
      split_ifs with hact hcreates
      · exact absurd ⟨htype, hmatched, hact, hcreates⟩ (hno rule)
      · simp only [observe, Except.map, h.bytes_eq]
      · simp only [observe, Except.map, h.bytes_eq]
  · obtain ⟨hverdict, hbytes⟩ := processUplink_congr app tables recvLport h
      (getPacketType b ⟨0, 0, 0⟩).2
    simp only [observe, Except.map, hverdict, hbytes]
  · simp only [observe, Except.map, h.bytes_eq]

end Outcomes

/-! ## The gaps in the outer header -/

/-- The two headrooms agree **where it shows**: in the identification and fragment
offset (40 to 37 places in front of the packet), the sequence and N-PDU numbers (8
to 6), the low nibble 3 places in front and the top bit 2 places in front. -/
def StaleAgree (b b' : Window) : Prop :=
  (∀ k ∈ [40, 39, 38, 37, 8, 7, 6], b.before k = b'.before k) ∧
    b.before 3 &&& 0x0F = b'.before 3 &&& 0x0F ∧ b.before 2 &&& 0x80 = b'.before 2 &&& 0x80

/-- The byte that carries `qfi` and `rqi` keeps one old bit. -/
theorem qfi_byte_eq_iff (x y : UInt8) :
    ((x &&& 0xC0) ||| 1) &&& 0xBF = ((y &&& 0xC0) ||| 1) &&& 0xBF ↔ x &&& 0x80 = y &&& 0x80 := by
  have hkeep : ∀ z : UInt8, ((z &&& 0xC0) ||| 1) &&& 0xBF = (z &&& 0x80) ||| 1 := by
    intro z
    apply UInt8.eq_of_toBitVec_eq
    ext i hi
    interval_cases i <;> simp
  have hback : ∀ z : UInt8, ((z &&& 0x80) ||| 1) &&& 0x80 = z &&& 0x80 := by
    intro z
    apply UInt8.eq_of_toBitVec_eq
    ext i hi
    interval_cases i <;> simp
  rw [hkeep, hkeep]
  constructor
  · intro h
    rw [← hback x, ← hback y, h]
  · intro h
    rw [h]

/-- The outer header is the same exactly when the gaps are. -/
theorem outerHeader_eq_iff (app : ApplicationInfo) (teid : UInt32) (len : ℕ) (b b' : Window) :
    outerHeader app teid len b.before = outerHeader app teid len b'.before ↔ StaleAgree b b' := by
  simp [outerHeader, ipHeader, gtpHeader, pduHeader, StaleAgree, qfi_byte_eq_iff, and_assoc]

/-! ## Two runs -/

/-- Two runs that encapsulate look alike when both fault for lack of headroom, or
neither does and the headrooms agree in the gaps. -/
theorem observe_eq_iff_of_encapsulates {tables : RuleTables} {b b' : Window} {rule : PdrValue}
    (app : ApplicationInfo) (recvLport : ℕ) (h : ReadsAlike b b')
    (henc : Encapsulates tables b rule) :
    observe (packetProcessor (some app) tables b recvLport) =
        observe (packetProcessor (some app) tables b' recvLport) ↔
      (b.off < 58 ∧ b'.off < 58) ∨ (58 ≤ b.off ∧ 58 ≤ b'.off ∧ StaleAgree b b') := by
  have hpush := encapsulate_pushes app rule.ohc.teid
  rw [packetProcessor_of_encapsulates app recvLport henc,
    packetProcessor_of_encapsulates app recvLport (encapsulates_congr h henc)]
  rcases Nat.lt_or_ge b.off 58 with hroom | hroom <;>
    rcases Nat.lt_or_ge b'.off 58 with hroom' | hroom'
  · rw [hpush.fault b hroom, hpush.fault b' hroom']
    exact ⟨fun _ => .inl ⟨hroom, hroom'⟩, fun _ => rfl⟩
  · obtain ⟨c', hc', -⟩ := hpush.ok b' hroom'
    rw [hpush.fault b hroom, hc']
    refine ⟨fun hcon => ?_, fun hcon => by omega⟩
    cases hcon
  · obtain ⟨c, hc, -⟩ := hpush.ok b hroom
    rw [hc, hpush.fault b' hroom']
    refine ⟨fun hcon => ?_, fun hcon => by omega⟩
    cases hcon
  · -- both have room: the packets differ exactly where the outer headers do
    obtain ⟨c, hc, hp⟩ := hpush.ok b hroom
    obtain ⟨c', hc', hp'⟩ := hpush.ok b' hroom'
    have hbytes : c.bytes = c'.bytes ↔ StaleAgree b b' := by
      rw [hp.bytes_eq, hp'.bytes_eq, h.bytes_eq, List.append_left_inj, h.len_eq,
        outerHeader_eq_iff]
    rw [hc, hc']
    simp [observe, Except.map, hbytes, hroom, hroom']

/-- The buffer with `x` in every byte of its headroom. -/
def fillHeadroom (b : Window) (x : UInt8) : Window :=
  { b with mem := fun a => if a < b.off then x else b.mem a }

theorem readsAlike_fillHeadroom (b : Window) (x : UInt8) : ReadsAlike b (fillHeadroom b x) where
  len_eq := rfl
  byte_eq := by
    intro i
    simp [Window.byte, fillHeadroom]

end UdxFastpath.Upf
