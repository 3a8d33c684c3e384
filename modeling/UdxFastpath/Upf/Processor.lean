import UdxFastpath.Core.Manager

/-!
# The user-plane function

The packet processor this program registers, `packet_processor` of
`app/upf_gtp.cpp`, with the GTP-U parser `parse_gtphdr`, the rule records of
`include/utility/shm/shm.h` and the header structures of
`app/include/gtp_header.h`.

The processor looks a frame up in one of two rule tables and rewrites it:

* a UDP frame for another port is **downlink**; it is looked up by destination
  address and, when its rule says so, wrapped in five headers;
* a UDP frame for port 2152 is **uplink**; it is looked up by tunnel, inner
  source address and QoS flow and, when its rule says so, unwrapped.

A structure written through a pointer is a sequence of `store`s, one for each
assignment of the source and in its order.  A bit-field assignment reads the byte
it lives in and writes it back with the other bits kept.  `PrependData` returns
`NULL` when the headroom is short and the encapsulation writes through the result
without a test: that is the `Fault`.

The rule tables are lookup functions: a `map` searched with a total order on its
keys is one.
-/

namespace UdxFastpath.Upf

open ByteWindow

/-! ## Constants -/

def GTP_V1_MASK : UInt8 := 0x20
def PT_MASK : UInt8 := 0x10
def GTP_E_MASK : UInt8 := 0x04
def GTP_S_MASK : UInt8 := 0x02
def GTP_PN_MASK : UInt8 := 0x01
def G_PDU : UInt8 := 255

def PFCP_APPLY_ACTION_DROP_MASK : UInt8 := 0x01
def PFCP_APPLY_ACTION_FORW_MASK : UInt8 := 0x02
def PFCP_APPLY_ACTION_BUFF_MASK : UInt8 := 0x04

def UPF_PDR_MASK_OHR : UInt32 := (1 : UInt32) <<< 0
def UPF_FAR_MASK_OHC : UInt32 := (1 : UInt32) <<< 0

def E_GTP_EXT_HDR_NO_MORE_EXTENSION_HEADERS : UInt8 := 0b00000000
def E_GTP_EXT_HDR_PDU_SESSION_CONTAINER : UInt8 := 0b10000101

/-! ## Rules -/

/-- `ApplicationInfo`: the four link-layer addresses. -/
structure ApplicationInfo where
  ranMac : EtherAddr
  dnnMac : EtherAddr
  upfRanMac : EtherAddr
  upfDnnMac : EtherAddr

instance : Inhabited ApplicationInfo := ⟨⟨default, default, default, default⟩⟩

/-- `struct pdi_info_uplink`, the key of the uplink table. -/
structure PdiInfoUplink where
  srcIface : UInt8
  ueIpAddr : UInt32
  teid : UInt32
  qfi : UInt8
  deriving DecidableEq, Repr

/-- `struct pdi_info_downlink`, the key of the downlink table. -/
structure PdiInfoDownlink where
  srcIface : UInt8
  ueDestIpAddr : UInt32
  deriving DecidableEq, Repr

/-- The outer header a rule asks for. -/
@[ext] structure OutHdrCreatn where
  teid : UInt32
  ipv4Addr : Fin 4 → UInt8

/-- `struct pdr_value`, the fields the processor looks at. -/
structure PdrValue where
  pdrMask : UInt32
  farMask : UInt32
  ohc : OutHdrCreatn
  applyAction : UInt8

/-- The two rule tables in shared memory. -/
structure RuleTables where
  uplink : PdiInfoUplink → Option PdrValue
  downlink : PdiInfoDownlink → Option PdrValue

/-- `apply_action`: the three action bits the processor switches on. -/
def PdrValue.action (rule : PdrValue) : UInt8 :=
  rule.applyAction &&& (PFCP_APPLY_ACTION_FORW_MASK ||| PFCP_APPLY_ACTION_BUFF_MASK |||
    PFCP_APPLY_ACTION_DROP_MASK)

/-- The rule forwards and nothing else. -/
def PdrValue.Forwards (rule : PdrValue) : Prop := rule.action = PFCP_APPLY_ACTION_FORW_MASK

instance (rule : PdrValue) : Decidable rule.Forwards := inferInstanceAs (Decidable (_ = _))

/-- `farMask & UPF_FAR_MASK_OHC`. -/
def PdrValue.createsOuter (rule : PdrValue) : Bool := rule.farMask &&& UPF_FAR_MASK_OHC != 0

/-- `pdrMask & UPF_PDR_MASK_OHR`. -/
def PdrValue.removesOuter (rule : PdrValue) : Bool := rule.pdrMask &&& UPF_PDR_MASK_OHR != 0

/-! ## The GTP-U parser -/

/-- `struct pdu_extension_header`: a union of two pointers, so one pointer, and the
type of the container it points to. -/
structure PduExtensionHeader where
  header : Option ℕ
  pduType : ℕ
  deriving DecidableEq, Repr

/-- What `parse_gtphdr` leaves behind: its result, `*gtphdr_global` and
`*pdu_extension_header`. -/
structure GtpParse where
  len : ℤ
  gtphdr : Option ℕ
  pdu : PduExtensionHeader
  deriving DecidableEq, Repr

/-- The loop of `parse_gtphdr`, with the number of iterations it still allows
itself.  A downlink container advances by eight bytes, an uplink one by four; the
next type is read from the container's fourth byte in either case. -/
def parseExtensions (b : Window) (gtphdr : ℕ) :
    ℕ → UInt8 → ℕ → ℕ → PduExtensionHeader → GtpParse
  | 0, _, _, len, pdu => ⟨len, some gtphdr, pdu⟩
  | budget + 1, extensionHeaderType, data, len, pdu =>
      if extensionHeaderType = E_GTP_EXT_HDR_NO_MORE_EXTENSION_HEADERS then
        ⟨len, some gtphdr, pdu⟩
      else if extensionHeaderType = E_GTP_EXT_HDR_PDU_SESSION_CONTAINER then
        match (b.byte (data + 1)).toNat / 16 with
        | 0 =>
            parseExtensions b gtphdr budget (b.byte (data + 3)) (data + 8) (len + 8) ⟨some data, 0⟩
        | 1 =>
            parseExtensions b gtphdr budget (b.byte (data + 3)) (data + 4) (len + 4) ⟨some data, 1⟩
        | _ => ⟨-1, none, pdu⟩
      else ⟨-1, none, pdu⟩

/-- `parse_gtphdr`, on the header at offset `p`.  The flags are not consulted: the
twelve-byte header is assumed and its last byte starts the chain.  The loop runs
at most once. -/
def parseGtphdr (b : Window) (p : ℕ) : GtpParse :=
  parseExtensions b p 1 (b.byte (p + 11)) (p + 12) 12 ⟨none, 0⟩

/-- `gtphdr->teid`, as the host loads it. -/
def gtpTeid (b : Window) (p : ℕ) : ℕ := b.loadLE32 (p + 4)

/-- The `qfi` bit-field of an extension header. -/
def pduQfi (b : Window) (p : ℕ) : UInt8 := b.byte (p + 2) &&& 0x3F

/-! ## Encapsulation -/

/-- Ways a run can end in undefined behaviour. -/
inductive Fault
  | nullWrite
  deriving DecidableEq, Repr

/-- `PrependData` by a caller that goes on to write through the result. -/
def prependOrFault (b : Window) (n : ℕ) : Except Fault Window :=
  match b.prepend n with
  | some c => .ok c
  | none => .error .nullWrite

/-- The PDU session container.  `pduType`, `qfi` and `rqi` are bit-fields; the low
nibble of byte 1 and the top bit of byte 2 are unnamed padding. -/
def writePduHeader (b : Window) : Window :=
  let b := b.store 0 [1]
  let b := b.store 1 [b.byte 1 &&& 0x0F]
  let b := b.store 2 [(b.byte 2 &&& 0xC0) ||| 1]
  let b := b.store 2 [b.byte 2 &&& 0xBF]
  b.store 3 [E_GTP_EXT_HDR_NO_MORE_EXTENSION_HEADERS]

/-- The GTP-U header: every field but `seqNo` and `npduNum`. -/
def writeGtpHeader (teid : UInt32) (b : Window) : Window :=
  let b := b.store 0 [GTP_V1_MASK ||| PT_MASK ||| GTP_E_MASK]
  let b := b.store 1 [G_PDU]
  let b := b.store 2 (le16 b.len)
  let b := b.store 4 (le32 teid.toNat)
  b.store 11 [E_GTP_EXT_HDR_PDU_SESSION_CONTAINER]

/-- The UDP header. -/
def writeUdpHeader (b : Window) : Window :=
  let b := b.store 0 (le16 2152)
  let b := b.store 2 (le16 2152)
  let b := b.store 4 (le16 b.len)
  b.store 6 (le16 0)

/-- The IPv4 header: every field but `id` and `frag_off`.  `version` and `ihl`
share byte 0. -/
def writeIpHeader (b : Window) : Window :=
  let b := b.store 0 [(b.byte 0 &&& 0x0F) ||| 0x40]
  let b := b.store 0 [(b.byte 0 &&& 0xF0) ||| 0x05]
  let b := b.store 9 [17]
  let b := b.store 8 [64]
  let b := b.store 12 (le32 (htonl 0xc0a80202))
  let b := b.store 16 (le32 (htonl 0xc0a80201))
  let b := b.store 2 (le16 (htons b.len))
  let b := b.store 10 (le16 0)
  b.store 1 [0]

/-- An Ethernet header; the uplink path writes the same fields. -/
def writeEthHeader (source dest : EtherAddr) (b : Window) : Window :=
  let b := b.store ETH_ALEN source.toList
  let b := b.store 0 dest.toList
  b.store 12 (le16 (htons PID_ETH_IP))

/-- Prepend `n` bytes and fill them in. -/
def pushHeader (n : ℕ) (write : Window → Window) (b : Window) : Except Fault Window := do
  let b ← prependOrFault b n
  return write b

/-- The outer header creation of the downlink branch: five prepends, innermost
first. -/
def encapsulate (app : ApplicationInfo) (teid : UInt32) (b : Window) : Except Fault Window := do
  let b ← pushHeader 4 writePduHeader b
  let b ← pushHeader 12 (writeGtpHeader teid) b
  let b ← pushHeader UDP_HDR_LENGTH writeUdpHeader b
  let b ← pushHeader DEFAULT_IPV4_HDR_LENGTH writeIpHeader b
  pushHeader ETH_HLEN (writeEthHeader app.upfRanMac app.ranMac) b

/-! ## The processor -/

/-- The downlink lookup key. -/
def downlinkKey (b : Window) (lens : HdrLens) : PdiInfoDownlink where
  srcIface := 1
  ueDestIpAddr := UInt32.ofNat (htonl (ipDaddr b lens.l2Len))

/-- The uplink lookup key, for a header at `gtphdr` and an inner packet at
`payload`. -/
def uplinkKey (b : Window) (gtphdr payload : ℕ) (pdu : PduExtensionHeader) : PdiInfoUplink where
  srcIface := 0
  ueIpAddr := UInt32.ofNat (htonl (ipSaddr b payload))
  teid := UInt32.ofNat (htonl (gtpTeid b gtphdr))
  qfi := (pdu.header.map (pduQfi b)).getD 0

/-- Where the GTP-U header of an uplink frame starts. -/
def gtpStart (lens : HdrLens) : ℕ := lens.l2Len + lens.l3Len + lens.l4Len

/-- The downlink branch.  The verdict is set before the action is looked at, and
only the lookup can still change it. -/
def processDownlink (app : ApplicationInfo) (tables : RuleTables) (b : Window) (lens : HdrLens)
    (recvLport : ℕ) : Except Fault (ℕ × Window) :=
  let verdict := recvLport ^^^ 1
  match tables.downlink (downlinkKey b lens) with
  | none => .ok (DROP, b)
  | some rule =>
      if rule.action = PFCP_APPLY_ACTION_FORW_MASK then
        if rule.createsOuter then do
          let b ← encapsulate app rule.ohc.teid b
          return (verdict, b)
        else .ok (verdict, b)
      -- `BUFF`, `DROP` and the combinations leave the verdict as it is
      else .ok (verdict, b)

/-- The uplink branch. -/
def processUplink (app : ApplicationInfo) (tables : RuleTables) (b : Window) (lens : HdrLens)
    (recvLport : ℕ) : ℕ × Window :=
  let verdict := recvLport ^^^ 1
  let parsed := parseGtphdr b (gtpStart lens)
  match parsed.gtphdr with
  | none => (DROP, b)
  | some gtphdr =>
      let gtpHeaderLen := parsed.len.toNat
      let payloadStart := gtpStart lens + gtpHeaderLen
      match tables.uplink (uplinkKey b gtphdr payloadStart parsed.pdu) with
      | none => (DROP, b)
      | some rule =>
          if rule.action = PFCP_APPLY_ACTION_FORW_MASK then
            if rule.removesOuter then
              match b.adjust (lens.l3Len + lens.l4Len + gtpHeaderLen) with
              | none => (DROP, b)
              | some b => (verdict, writeEthHeader app.upfDnnMac app.dnnMac b)
            else (verdict, b)
          else (verdict, b)

/-- `packet_processor`.  The case for PFCP sets `KERNEL` and falls through into the
default, which drops.  `hdr_lens` is not initialised, but the two types that read
it are those for which `get_packet_type` fills it in. -/
def packetProcessor (app : Option ApplicationInfo) (tables : RuleTables) (b : Window)
    (recvLport : ℕ) : Except Fault (ℕ × Window) :=
  match app with
  | none => .ok (DROP, b)
  | some app =>
      let classified := getPacketType b ⟨0, 0, 0⟩
      match classified.1 with
      | .l4Udp => processDownlink app tables b classified.2 recvLport
      | .gtp => .ok (processUplink app tables b classified.2 recvLport)
      | _ => .ok (DROP, b)

/-! ## Rules and verdicts -/

/-- The rule a frame **matches**: what the table of its direction holds for it.  An
uplink frame whose header does not parse matches nothing. -/
def matchedRule (tables : RuleTables) (b : Window) : Option PdrValue :=
  let classified := getPacketType b ⟨0, 0, 0⟩
  match classified.1 with
  | .l4Udp => tables.downlink (downlinkKey b classified.2)
  | .gtp =>
      let parsed := parseGtphdr b (gtpStart classified.2)
      parsed.gtphdr.bind fun gtphdr =>
        tables.uplink
          (uplinkKey b gtphdr (gtpStart classified.2 + parsed.len.toNat) parsed.pdu)
  | _ => none

section Verdicts

variable (tables : RuleTables) {b : Window} (recvLport : ℕ)

/-- A frame that matches no rule is dropped as it is. -/
theorem packetProcessor_of_unmatched (app : Option ApplicationInfo)
    (h : matchedRule tables b = none) :
    packetProcessor app tables b recvLport = .ok (DROP, b) := by
  cases app with
  | none => rfl
  | some app =>
      simp only [packetProcessor]
      split
      · rename_i htype
        simp only [matchedRule, htype] at h
        simp only [processDownlink, h]
      · rename_i htype
        simp only [matchedRule, htype] at h
        simp only [processUplink]
        split
        · rfl
        · rename_i gtphdr hsome
          simp only [hsome, Option.bind_some] at h
          simp only [h]
      · rfl

/-- **The switch never touches the verdict**: a frame that matches a rule which does
not forward leaves on the opposite port all the same, not a byte changed. -/
theorem packetProcessor_of_not_forwards (app : ApplicationInfo) {rule : PdrValue}
    (h : matchedRule tables b = some rule) (hact : ¬ rule.Forwards) :
    packetProcessor (some app) tables b recvLport = .ok (recvLport ^^^ 1, b) := by
  have hne : ¬ rule.action = PFCP_APPLY_ACTION_FORW_MASK := hact
  simp only [packetProcessor]
  split
  · rename_i htype
    simp only [matchedRule, htype] at h
    simp only [processDownlink, h, hne, if_false]
  · rename_i htype
    simp only [matchedRule, htype] at h
    obtain ⟨gtphdr, hsome, hrule⟩ := Option.bind_eq_some_iff.mp h
    simp only [processUplink, hsome, hrule, hne, if_false]
  · simp only [matchedRule] at h
    cases h

/-- A verdict other than `DROP` takes application data and a rule; and unless the rule
forwards, the verdict is the opposite port. -/
theorem matched_of_verdict {app : Option ApplicationInfo} {verdict : ℕ} {c : Window}
    (hrun : packetProcessor app tables b recvLport = .ok (verdict, c)) (hdrop : verdict ≠ DROP) :
    app ≠ none ∧ ∃ rule, matchedRule tables b = some rule ∧
      (¬ rule.Forwards → verdict = recvLport ^^^ 1) := by
  cases app with
  | none => exact absurd (congrArg Prod.fst (Except.ok.inj hrun)).symm hdrop
  | some info =>
      cases hmatched : matchedRule tables b with
      | none =>
          rw [packetProcessor_of_unmatched tables recvLport _ hmatched] at hrun
          exact absurd (congrArg Prod.fst (Except.ok.inj hrun)).symm hdrop
      | some rule =>
          refine ⟨Option.some_ne_none _, rule, rfl, fun hact => ?_⟩
          rw [packetProcessor_of_not_forwards tables recvLport info hmatched hact] at hrun
          exact (congrArg Prod.fst (Except.ok.inj hrun)).symm

end Verdicts

/-- **Action enforcement**: a forwarding verdict only for a frame whose rule
forwards. -/
def ActionEnforced (app : Option ApplicationInfo) (tables : RuleTables) (b : Window)
    (recvLport : ℕ) : Prop :=
  ∀ verdict c, packetProcessor app tables b recvLport = .ok (verdict, c) →
    verdict ≠ DROP → verdict ≠ KERNEL →
      ∃ rule, matchedRule tables b = some rule ∧ rule.Forwards

/-- Only one receiving port is sent to a given even number. -/
theorem xor_one_eq_iff {n : ℕ} (hn : n ^^^ 1 = n + 1) (recvLport : ℕ) :
    recvLport ^^^ 1 = n ↔ recvLport = n + 1 := by
  constructor
  · intro h
    rw [← hn, ← h, Nat.xor_assoc, Nat.xor_self, Nat.xor_zero]
  · intro h
    rw [h, ← hn, Nat.xor_assoc, Nat.xor_self, Nat.xor_zero]

/-- **When the apply action is enforced.**  Without application data nothing is
forwarded at all.  With it, exactly the frames that match a rule which is not a
plain `FORW` escape — unless the opposite port happens to be numbered like one of
the two special verdicts. -/
theorem actionEnforced_iff (app : Option ApplicationInfo) (tables : RuleTables) (b : Window)
    (recvLport : ℕ) :
    ActionEnforced app tables b recvLport ↔
      app = none ∨ (∀ rule, matchedRule tables b = some rule → rule.Forwards) ∨
        recvLport = DROP + 1 ∨ recvLport = KERNEL + 1 := by
  rw [← xor_one_eq_iff (n := DROP) (by decide), ← xor_one_eq_iff (n := KERNEL) (by decide)]
  constructor
  · intro h
    by_contra hcon
    push Not at hcon
    obtain ⟨happ, ⟨rule, hrule, hact⟩, hdrop, hkernel⟩ := hcon
    obtain ⟨info, rfl⟩ := Option.ne_none_iff_exists'.mp happ
    obtain ⟨rule', hrule', hact'⟩ :=
      h _ _ (packetProcessor_of_not_forwards tables recvLport info hrule hact) hdrop hkernel
    -- but the frame matches one rule only, and that one does not forward
    obtain rfl : rule' = rule := Option.some.inj (hrule'.symm.trans hrule)
    exact hact hact'
  · intro h verdict c hrun hdrop hkernel
    obtain ⟨happ, rule, hrule, hopposite⟩ := matched_of_verdict tables recvLport hrun hdrop
    refine ⟨rule, hrule, ?_⟩
    by_contra hact
    -- the frame escaped to the opposite port, which is numbered like no verdict
    have hverdict := hopposite hact
    rcases h with hnone | hforw | hport | hport
    · exact happ hnone
    · exact hact (hforw rule hrule)
    · exact hdrop (hverdict.trans hport)
    · exact hkernel (hverdict.trans hport)

/-- Tables that hold one and the same rule for everything. -/
def uniformTables (rule : PdrValue) : RuleTables := ⟨fun _ => some rule, fun _ => some rule⟩

/-- A rule with the given action that creates and removes outer headers. -/
def tunnelRule (applyAction : UInt8) (teid : UInt32) : PdrValue :=
  ⟨UPF_PDR_MASK_OHR, UPF_FAR_MASK_OHC, ⟨teid, fun _ => 0⟩, applyAction⟩

/-- A frame whose rule says `DROP` leaves on port 1. -/
theorem drop_rule_forwarded :
    ¬ ActionEnforced (some default) (uniformTables (tunnelRule PFCP_APPLY_ACTION_DROP_MASK 7))
      (udpFrame 80) 0 := by
  intro h
  obtain ⟨rule, hrule, hact⟩ := h 1 (udpFrame 80) rfl (by decide) (by decide)
  have hmatched : matchedRule (uniformTables (tunnelRule PFCP_APPLY_ACTION_DROP_MASK 7))
      (udpFrame 80) = some (tunnelRule PFCP_APPLY_ACTION_DROP_MASK 7) := rfl
  obtain rfl := Option.some.inj (hmatched.symm.trans hrule)
  exact absurd hact (by decide)

end UdxFastpath.Upf
