import UdxFastpath.Foundation.AccessLog
import UdxFastpath.Upf.Processor

/-!
# What the packet functions access

`get_ether_type`, `get_packet_port_number`, `get_packet_type`, `parse_gtphdr` and
`packet_processor` a second time, with a log of every byte of the frame they read or
write.  A field that the source reads and never uses is logged like any other.

Each logged function computes what its model computes (`value_…`), so the log is
indeed the log of that computation.
-/

namespace UdxFastpath

open ByteWindow AccessLog

/-! ## Fields -/

section Fields

variable (b : Window) (p : ℕ)

def ethProtoLogged : Logged ℕ := readLE16 0 b (p + 12)

def ipIhlLogged : Logged ℕ := do return (← readByte 0 b p).toNat % 16

def ipProtocolLogged : Logged ℕ := do return (← readByte 0 b (p + 9)).toNat

def ipSaddrLogged : Logged ℕ := readLE32 0 b (p + 12)

def ipDaddrLogged : Logged ℕ := readLE32 0 b (p + 16)

def l4DestLogged : Logged ℕ := readLE16 0 b (p + 2)

def tcpDoffLogged : Logged ℕ := do return (← readByte 0 b (p + 12)).toNat / 16

/-- `ipv4_hdr_len`. -/
def ipv4HdrLenLogged : Logged ℕ := do return (← ipIhlLogged b p) * 4

/-- The port test on a UDP header. -/
def udpPtypeLogged : Logged PType := do
  let dest ← l4DestLogged b p
  if dest = htons GTP_PORT then return .gtp
  else if dest = htons PFCP_PORT then return .pfcp
  else return .l4Udp

@[simp] theorem value_ethProtoLogged : (ethProtoLogged b p).value = ethProto b p := rfl

@[simp] theorem value_ipProtocolLogged : (ipProtocolLogged b p).value = ipProtocol b p := rfl

@[simp] theorem value_ipv4HdrLenLogged : (ipv4HdrLenLogged b p).value = ipv4HdrLen b p := rfl

@[simp] theorem value_udpPtypeLogged : (udpPtypeLogged b p).value = udpPtype b p := by
  simp only [udpPtypeLogged, Logged.value_bind, Logged.value_ite, Logged.value_pure]
  rfl

end Fields

/-! ## The classifiers -/

/-- `get_ether_type`. -/
def getEtherTypeLogged (b : Window) : Logged PType := do
  let offset := ETH_HLEN
  let protocol ← ethProtoLogged b 0
  if protocol = htons PID_ETH_ARP then return .l2EtherArp
  else if protocol = htons PID_ETH_IP then
    let ihl ← ipIhlLogged b offset
    let _packetType := ptypeL3Ip ihl
    let l3Len ← ipv4HdrLenLogged b offset
    let protocol ← ipProtocolLogged b offset
    match ptypeL4 protocol with
    | .l4Udp => udpPtypeLogged b (offset + l3Len)
    | .l4Tcp =>
        -- the header length goes into a local nobody reads
        let _doff ← tcpDoffLogged b (offset + l3Len)
        return .l4Tcp
    | other => return other
  else return .l2Ether

/-- `get_packet_type`. -/
def getPacketTypeLogged (b : Window) (init : HdrLens) : Logged (PType × HdrLens) := do
  let offset := ETH_HLEN
  let lens := { init with l2Len := offset }
  let protocol ← ethProtoLogged b 0
  if protocol = htons PID_ETH_ARP then return (.l2EtherArp, lens)
  else if protocol = htons PID_ETH_IP then
    let ihl ← ipIhlLogged b offset
    let _packetType := ptypeL3Ip ihl
    let l3Len ← ipv4HdrLenLogged b offset
    let lens := { lens with l3Len }
    let l4 := offset + l3Len
    let protocol ← ipProtocolLogged b offset
    match ptypeL4 protocol with
    | .l4Udp =>
        let ptype ← udpPtypeLogged b l4
        return (ptype, { lens with l4Len := UDP_HDR_LENGTH })
    | .l4Tcp =>
        let doff ← tcpDoffLogged b l4
        return (.l4Tcp, { lens with l4Len := (doff &&& 0xf0) >>> 2 })
    | other => return (other, lens)
  else return (.l2Ether, lens)

/-- `get_packet_port_number`. -/
def getPacketPortNumberLogged (b : Window) : Logged ℕ := do
  let etherType ← ethProtoLogged b 0
  if etherType ≠ htons PID_ETH_IP then return 0
  else
    let protocol ← ipProtocolLogged b ETH_HLEN
    if protocol ≠ IPPROTO_UDP then return 0
    else
      let dest ← l4DestLogged b (ETH_HLEN + DEFAULT_IPV4_HDR_LENGTH)
      return htons dest

theorem value_getEtherTypeLogged (b : Window) : (getEtherTypeLogged b).value = getEtherType b := by
  simp only [getEtherTypeLogged, getEtherType, Logged.value_bind, Logged.value_ite,
    Logged.value_pure]
  simp only [value_ethProtoLogged, value_ipv4HdrLenLogged, value_ipProtocolLogged]
  cases ptypeL4 (ipProtocol b ETH_HLEN) with
  | l4Udp => simp only [value_udpPtypeLogged]
  | _ => rfl

theorem value_getPacketTypeLogged (b : Window) (init : HdrLens) :
    (getPacketTypeLogged b init).value = getPacketType b init := by
  simp only [getPacketTypeLogged, getPacketType, Logged.value_bind, Logged.value_ite,
    Logged.value_pure]
  simp only [value_ethProtoLogged, value_ipv4HdrLenLogged, value_ipProtocolLogged]
  cases ptypeL4 (ipProtocol b ETH_HLEN) with
  | l4Udp => simp only [Logged.value_bind, Logged.value_pure, value_udpPtypeLogged]
  | _ => rfl

theorem value_getPacketPortNumberLogged (b : Window) :
    (getPacketPortNumberLogged b).value = getPacketPortNumber b := by
  simp only [getPacketPortNumberLogged, Logged.value_bind, Logged.value_ite, Logged.value_pure]
  rfl

/-- The manager's copy of the classifier accesses the same bytes. -/
theorem log_getEtherTypeLogged (b : Window) (init : HdrLens) :
    (getEtherTypeLogged b).log = (getPacketTypeLogged b init).log := by
  simp only [getEtherTypeLogged, getPacketTypeLogged, Logged.log_bind, Logged.log_ite,
    Logged.log_pure]
  simp only [value_ethProtoLogged, value_ipv4HdrLenLogged, value_ipProtocolLogged]
  cases ptypeL4 (ipProtocol b ETH_HLEN) with
  | l4Udp =>
      simp only [Logged.log_bind, Logged.log_pure, List.append_nil]
      rfl
  | _ => rfl

namespace Upf

/-! ## The GTP-U parser -/

/-- The loop of `parse_gtphdr`. -/
def parseExtensionsLogged (b : Window) (gtphdr : ℕ) :
    ℕ → UInt8 → ℕ → ℕ → PduExtensionHeader → Logged GtpParse
  | 0, _, _, len, pdu => return ⟨len, some gtphdr, pdu⟩
  | budget + 1, extensionHeaderType, data, len, pdu =>
      if extensionHeaderType = E_GTP_EXT_HDR_NO_MORE_EXTENSION_HEADERS then
        return ⟨len, some gtphdr, pdu⟩
      else if extensionHeaderType = E_GTP_EXT_HDR_PDU_SESSION_CONTAINER then do
        let pduType ← readByte 0 b (data + 1)
        match pduType.toNat / 16 with
        | 0 =>
            let next ← readByte 0 b (data + 3)
            parseExtensionsLogged b gtphdr budget next (data + 8) (len + 8) ⟨some data, 0⟩
        | 1 =>
            let next ← readByte 0 b (data + 3)
            parseExtensionsLogged b gtphdr budget next (data + 4) (len + 4) ⟨some data, 1⟩
        | _ => return ⟨-1, none, pdu⟩
      else return ⟨-1, none, pdu⟩

/-- `parse_gtphdr`. -/
def parseGtphdrLogged (b : Window) (p : ℕ) : Logged GtpParse := do
  let extensionHeaderType ← readByte 0 b (p + 11)
  parseExtensionsLogged b p 1 extensionHeaderType (p + 12) 12 ⟨none, 0⟩

theorem value_parseExtensionsLogged (b : Window) (gtphdr budget : ℕ) :
    ∀ (type : UInt8) (data len : ℕ) (pdu : PduExtensionHeader),
      (parseExtensionsLogged b gtphdr budget type data len pdu).value =
        parseExtensions b gtphdr budget type data len pdu := by
  induction budget with
  | zero =>
      intro type data len pdu
      rfl
  | succ budget ih =>
      intro type data len pdu
      simp only [parseExtensionsLogged, parseExtensions, Logged.value_ite, Logged.value_pure,
        Logged.value_bind, value_readByte]
      cases (b.byte (data + 1)).toNat / 16 with
      | zero => simp only [Logged.value_bind, value_readByte, ih]
      | succ k =>
          cases k with
          | zero => simp only [Logged.value_bind, value_readByte, ih]
          | succ _ => rfl

theorem value_parseGtphdrLogged (b : Window) (p : ℕ) :
    (parseGtphdrLogged b p).value = parseGtphdr b p :=
  value_parseExtensionsLogged b p 1 (b.byte (p + 11)) (p + 12) 12 ⟨none, 0⟩

/-! ## Header creation

The front of the window is at `base`. -/

section Create

variable (base : ℤ)

/-- A bit-field assignment reads the byte it lives in. -/
def writePduHeaderLogged (b : Window) : Logged Window := do
  let b ← write base b 0 [1]
  let pduType ← readByte base b 1
  let b ← write base b 1 [pduType &&& 0x0F]
  let qfi ← readByte base b 2
  let b ← write base b 2 [(qfi &&& 0xC0) ||| 1]
  let rqi ← readByte base b 2
  let b ← write base b 2 [rqi &&& 0xBF]
  write base b 3 [E_GTP_EXT_HDR_NO_MORE_EXTENSION_HEADERS]

def writeGtpHeaderLogged (teid : UInt32) (b : Window) : Logged Window := do
  let b ← write base b 0 [GTP_V1_MASK ||| PT_MASK ||| GTP_E_MASK]
  let b ← write base b 1 [G_PDU]
  let b ← write base b 2 (le16 b.len)
  let b ← write base b 4 (le32 teid.toNat)
  write base b 11 [E_GTP_EXT_HDR_PDU_SESSION_CONTAINER]

def writeUdpHeaderLogged (b : Window) : Logged Window := do
  let b ← write base b 0 (le16 2152)
  let b ← write base b 2 (le16 2152)
  let b ← write base b 4 (le16 b.len)
  write base b 6 (le16 0)

def writeIpHeaderLogged (b : Window) : Logged Window := do
  let version ← readByte base b 0
  let b ← write base b 0 [(version &&& 0x0F) ||| 0x40]
  let ihl ← readByte base b 0
  let b ← write base b 0 [(ihl &&& 0xF0) ||| 0x05]
  let b ← write base b 9 [17]
  let b ← write base b 8 [64]
  let b ← write base b 12 (le32 (htonl 0xc0a80202))
  let b ← write base b 16 (le32 (htonl 0xc0a80201))
  let b ← write base b 2 (le16 (htons b.len))
  let b ← write base b 10 (le16 0)
  write base b 1 [0]

def writeEthHeaderLogged (source dest : EtherAddr) (b : Window) : Logged Window := do
  let b ← write base b ETH_ALEN source.toList
  let b ← write base b 0 dest.toList
  write base b 12 (le16 (htons PID_ETH_IP))

/-- Prepend `n` bytes and fill them in; a write through `NULL` is no access to the packet. -/
def pushHeaderLogged (n : ℕ) (writeLogged : ℤ → Window → Logged Window) (b : Window) :
    ExceptT Fault Logged Window :=
  ExceptT.mk <|
    match b.prepend n with
    | some c => do return .ok (← writeLogged (base - n) c)
    | none => return .error .nullWrite

end Create

/-- The outer header creation. -/
def encapsulateLogged (app : ApplicationInfo) (teid : UInt32) (b : Window) :
    ExceptT Fault Logged Window := do
  let b ← pushHeaderLogged 0 4 writePduHeaderLogged b
  let b ← pushHeaderLogged (-4) 12 (fun base => writeGtpHeaderLogged base teid) b
  let b ← pushHeaderLogged (-16) UDP_HDR_LENGTH writeUdpHeaderLogged b
  let b ← pushHeaderLogged (-24) DEFAULT_IPV4_HDR_LENGTH writeIpHeaderLogged b
  pushHeaderLogged (-44) ETH_HLEN
    (fun base => writeEthHeaderLogged base app.upfRanMac app.ranMac) b

theorem value_pushHeaderLogged (write : Window → Window)
    (writeLogged : ℤ → Window → Logged Window)
    (h : ∀ base c, (writeLogged base c).value = write c) (base : ℤ) (n : ℕ) (b : Window) :
    (pushHeaderLogged base n writeLogged b).run.value = pushHeader n write b := by
  simp only [pushHeaderLogged, ExceptT.run_mk, pushHeader, prependOrFault]
  cases b.prepend n with
  | none => rfl
  | some c => exact congrArg Except.ok (h (base - n) c)

theorem value_encapsulateLogged (app : ApplicationInfo) (teid : UInt32) (b : Window) :
    (encapsulateLogged app teid b).run.value = encapsulate app teid b := by
  -- each header writer computes its header
  have hpdu := value_pushHeaderLogged writePduHeader writePduHeaderLogged fun _ _ => rfl
  have hgtp := value_pushHeaderLogged (writeGtpHeader teid)
    (fun base => writeGtpHeaderLogged base teid) fun _ _ => rfl
  have hudp := value_pushHeaderLogged writeUdpHeader writeUdpHeaderLogged fun _ _ => rfl
  have hip := value_pushHeaderLogged writeIpHeader writeIpHeaderLogged fun _ _ => rfl
  have heth := value_pushHeaderLogged (writeEthHeader app.upfRanMac app.ranMac)
    (fun base => writeEthHeaderLogged base app.upfRanMac app.ranMac) fun _ _ => rfl
  simp only [encapsulateLogged, encapsulate, Logged.value_run_bind, hpdu, hgtp, hudp, hip, heth]

/-! ## The processor -/

/-- The downlink lookup key. -/
def downlinkKeyLogged (b : Window) (lens : HdrLens) : Logged PdiInfoDownlink := do
  let daddr ← ipDaddrLogged b lens.l2Len
  return { srcIface := 1, ueDestIpAddr := UInt32.ofNat (htonl daddr) }

/-- The uplink lookup key. -/
def uplinkKeyLogged (b : Window) (gtphdr payload : ℕ) (pdu : PduExtensionHeader) :
    Logged PdiInfoUplink := do
  let saddr ← ipSaddrLogged b payload
  let teid ← readLE32 0 b (gtphdr + 4)
  match pdu.header with
  | some p =>
      let qfi ← readByte 0 b (p + 2)
      return ⟨0, UInt32.ofNat (htonl saddr), UInt32.ofNat (htonl teid), qfi &&& 0x3F⟩
  | none => return ⟨0, UInt32.ofNat (htonl saddr), UInt32.ofNat (htonl teid), 0⟩

/-- The downlink branch. -/
def processDownlinkLogged (app : ApplicationInfo) (tables : RuleTables) (b : Window)
    (lens : HdrLens) (recvLport : ℕ) : Logged (Except Fault (ℕ × Window)) := do
  let verdict := recvLport ^^^ 1
  let key ← downlinkKeyLogged b lens
  match tables.downlink key with
  | none => return .ok (DROP, b)
  | some rule =>
      if rule.action = PFCP_APPLY_ACTION_FORW_MASK then
        if rule.createsOuter then
          let encapsulated ← (encapsulateLogged app rule.ohc.teid b).run
          return do
            let b ← encapsulated
            return (verdict, b)
        else return .ok (verdict, b)
      else return .ok (verdict, b)

/-- The uplink branch.  A header that does not parse costs another look at the destination
address, which is not used. -/
def processUplinkLogged (app : ApplicationInfo) (tables : RuleTables) (b : Window)
    (lens : HdrLens) (recvLport : ℕ) : Logged (ℕ × Window) := do
  let verdict := recvLport ^^^ 1
  let parsed ← parseGtphdrLogged b (gtpStart lens)
  match parsed.gtphdr with
  | none =>
      let _destIp ← ipDaddrLogged b lens.l2Len
      return (DROP, b)
  | some gtphdr =>
      let gtpHeaderLen := parsed.len.toNat
      let payloadStart := gtpStart lens + gtpHeaderLen
      let key ← uplinkKeyLogged b gtphdr payloadStart parsed.pdu
      match tables.uplink key with
      | none => return (DROP, b)
      | some rule =>
          if rule.action = PFCP_APPLY_ACTION_FORW_MASK then
            if rule.removesOuter then
              let removed := lens.l3Len + lens.l4Len + gtpHeaderLen
              match b.adjust removed with
              | none => return (DROP, b)
              | some b =>
                  let b ← writeEthHeaderLogged removed app.upfDnnMac app.dnnMac b
                  return (verdict, b)
            else return (verdict, b)
          else return (verdict, b)

/-- `packet_processor`. -/
def packetProcessorLogged (app : Option ApplicationInfo) (tables : RuleTables) (b : Window)
    (recvLport : ℕ) : Logged (Except Fault (ℕ × Window)) :=
  match app with
  | none => return .ok (DROP, b)
  | some app => do
      let classified ← getPacketTypeLogged b ⟨0, 0, 0⟩
      match classified.1 with
      | .l4Udp => processDownlinkLogged app tables b classified.2 recvLport
      | .gtp => do return .ok (← processUplinkLogged app tables b classified.2 recvLport)
      | _ => return .ok (DROP, b)

theorem value_processDownlinkLogged (app : ApplicationInfo) (tables : RuleTables) (b : Window)
    (lens : HdrLens) (recvLport : ℕ) :
    (processDownlinkLogged app tables b lens recvLport).value =
      processDownlink app tables b lens recvLport := by
  have hkey : (downlinkKeyLogged b lens).value = downlinkKey b lens := rfl
  rw [processDownlinkLogged, processDownlink, Logged.value_bind, hkey]
  cases tables.downlink (downlinkKey b lens) with
  | none => rfl
  | some rule =>
      simp only [Logged.value_ite, Logged.value_bind, Logged.value_pure, value_encapsulateLogged]

theorem value_uplinkKeyLogged (b : Window) (gtphdr payload : ℕ) (pdu : PduExtensionHeader) :
    (uplinkKeyLogged b gtphdr payload pdu).value = uplinkKey b gtphdr payload pdu := by
  rw [uplinkKeyLogged, uplinkKey, Logged.value_bind, Logged.value_bind]
  cases pdu.header with
  | none => rfl
  | some p => rfl

theorem value_processUplinkLogged (app : ApplicationInfo) (tables : RuleTables) (b : Window)
    (lens : HdrLens) (recvLport : ℕ) :
    (processUplinkLogged app tables b lens recvLport).value =
      processUplink app tables b lens recvLport := by
  rw [processUplinkLogged, processUplink, Logged.value_bind, value_parseGtphdrLogged]
  cases (parseGtphdr b (gtpStart lens)).gtphdr with
  | none => rfl
  | some gtphdr =>
      simp only [Logged.value_bind, value_uplinkKeyLogged]
      cases tables.uplink (uplinkKey b gtphdr _ _) with
      | none => rfl
      | some rule =>
          simp only [Logged.value_ite, Logged.value_pure]
          cases b.adjust _ with
          | none => rfl
          | some c => rfl

/-- **The log is a log of `packet_processor`.** -/
theorem value_packetProcessorLogged (app : Option ApplicationInfo) (tables : RuleTables)
    (b : Window) (recvLport : ℕ) :
    (packetProcessorLogged app tables b recvLport).value =
      packetProcessor app tables b recvLport := by
  cases app with
  | none => rfl
  | some app =>
      simp only [packetProcessorLogged, packetProcessor, Logged.value_bind,
        value_getPacketTypeLogged]
      cases (getPacketType b ⟨0, 0, 0⟩).1 with
      | l4Udp => exact value_processDownlinkLogged app tables b _ recvLport
      | gtp =>
          exact congrArg Except.ok (value_processUplinkLogged app tables b _ recvLport)
      | _ => rfl

end Upf

end UdxFastpath
