import UdxFastpath.Foundation.ByteFields
import UdxFastpath.Foundation.Netlink
import UdxFastpath.Upf.ConfiguredAddresses

/-!
# The TAP device and its address

`create_multiqueue_tap_device` creates the TAP device, has the kernel give it an address
and set it up, and takes note of the address for `arp_handler`.  The text of the address
is read twice by `inet_pton`: into the message to the kernel, without looking at the
result, and for the manager, where a bad text ends the process.

The message is written field by field into a zeroed buffer; `netlinkSetAddrIpv4_eq` and
`netlinkLinkUp_eq` say which netlink messages come out.  `tapDevice_address`: when the
function returns, the address the kernel has been given is the one ARP requests are
answered for; after a bad text the kernel has been given `0.0.0.0`.
-/

namespace UdxFastpath

open ByteWindow Netlink

/-! ## Requests to the kernel -/

def NLM_F_REQUEST : UInt16 := 0x1
def NLM_F_EXCL : UInt16 := 0x200
def NLM_F_CREATE : UInt16 := 0x400
def RTM_NEWLINK : UInt16 := 16
def RTM_NEWADDR : UInt16 := 20
def IFA_ADDRESS : UInt16 := 1
def IFA_LOCAL : UInt16 := 2
def IFF_UP : UInt32 := 0x1

def NLMSG_LENGTH (len : UInt32) : UInt32 := len + 16
def RTA_LENGTH (len : ℕ) : ℕ := 4 + len
def RTA_ALIGN (len : ℕ) : ℕ := (len + 3) / 4 * 4

/-- `struct nlmsghdr`. -/
structure NlMsgHdr where
  nlmsgLen : UInt32
  nlmsgType : UInt16
  nlmsgFlags : UInt16
  nlmsgSeq : UInt32
  nlmsgPid : UInt32

def NlMsgHdr.bytes (h : NlMsgHdr) : List UInt8 :=
  le32 h.nlmsgLen.toNat ++ le16 h.nlmsgType.toNat ++ le16 h.nlmsgFlags.toNat ++
    le32 h.nlmsgSeq.toNat ++ le32 h.nlmsgPid.toNat

/-- `struct ifaddrmsg`. -/
structure IfAddrMsg where
  ifaFamily : UInt8
  ifaPrefixlen : UInt8
  ifaFlags : UInt8
  ifaScope : UInt8
  ifaIndex : UInt32

def IfAddrMsg.bytes (c : IfAddrMsg) : List UInt8 :=
  [c.ifaFamily, c.ifaPrefixlen, c.ifaFlags, c.ifaScope] ++ le32 c.ifaIndex.toNat

/-- `struct ifinfomsg`. -/
structure IfInfoMsg where
  ifiFamily : UInt8
  ifiType : UInt16
  ifiIndex : UInt32
  ifiFlags : UInt32
  ifiChange : UInt32

def IfInfoMsg.bytes (c : IfInfoMsg) : List UInt8 :=
  [c.ifiFamily, 0] ++ le16 c.ifiType.toNat ++ le32 c.ifiIndex.toNat ++ le32 c.ifiFlags.toNat ++
    le32 c.ifiChange.toNat

/-- The octets in memory order. -/
def InAddr.octets (a : InAddr) : List UInt8 := List.ofFn a.octet

/-- The request of `netlink_set_addr_ipv4`. -/
structure AddrRequest where
  header : NlMsgHdr
  content : IfAddrMsg
  attributesBuf : List UInt8

/-- One of the two attributes, at `p` in the buffer.  `inet_pton` writes nothing when it fails. -/
def putAttribute (type : UInt16) (address : Option InAddr) (p : ℕ) (r : AddrRequest) :
    AddrRequest :=
  let rtaLen := RTA_LENGTH 4
  let buf := overwrite r.attributesBuf (p + 2) (le16 type.toNat)
  let buf := overwrite buf p (le16 rtaLen)
  let header := { r.header with nlmsgLen := r.header.nlmsgLen + UInt32.ofNat rtaLen }
  match address with
  | some a => ⟨header, r.content, overwrite buf (p + RTA_LENGTH 0) a.octets⟩
  | none => ⟨header, r.content, buf⟩

/-- What `netlink_set_addr_ipv4` sends, for what `inet_pton` makes of the address. -/
def netlinkSetAddrIpv4 (ifIndex : UInt32) (address : Option InAddr) (networkPrefixBits : UInt8) :
    List UInt8 :=
  let r : AddrRequest :=
    { header :=
        { nlmsgLen := NLMSG_LENGTH 8
          nlmsgFlags := NLM_F_REQUEST ||| NLM_F_EXCL ||| NLM_F_CREATE
          nlmsgType := RTM_NEWADDR
          nlmsgSeq := 0
          nlmsgPid := 0 }
      content :=
        { ifaIndex := ifIndex
          ifaFamily := UInt8.ofNat AF_INET
          ifaPrefixlen := networkPrefixBits
          ifaFlags := 0
          ifaScope := 0 }
      attributesBuf := List.replicate 64 0 }
  let r := putAttribute IFA_LOCAL address 0 r
  let r := putAttribute IFA_ADDRESS address (RTA_ALIGN (RTA_LENGTH 4)) r
  (r.header.bytes ++ r.content.bytes ++ r.attributesBuf).take r.header.nlmsgLen.toNat

/-- What `netlink_link_up` sends. -/
def netlinkLinkUp (ifIndex : UInt32) : List UInt8 :=
  let header : NlMsgHdr :=
    { nlmsgLen := NLMSG_LENGTH 16
      nlmsgFlags := NLM_F_REQUEST
      nlmsgType := RTM_NEWLINK
      nlmsgSeq := 0
      nlmsgPid := 0 }
  let content : IfInfoMsg :=
    { ifiIndex := ifIndex
      ifiFlags := IFF_UP
      ifiChange := 1
      ifiFamily := 0
      ifiType := 0 }
  (header.bytes ++ content.bytes).take header.nlmsgLen.toNat

/-! ## Creating the device -/

/-- What the calls into the system come to. -/
structure TapOs where
  connectTapSock : Bool
  tap0Mac : Option EtherAddr
  ifaddr : Option (List IfAddrs)
  openTun : Bool
  tunSetIff : Bool
  inetSocket : Bool
  hwAddr : Option EtherAddr
  netlinkSocket : Bool
  netlinkBind : Bool
  ifNameToIndex : CString → UInt32
  sendAddr : Bool
  sendLink : Bool

/-- The ways out of `create_multiqueue_tap_device` other than its end. -/
inductive TapStop
  | exited
  | returnedOne
  deriving DecidableEq, Repr

/-- `create_virtual_device`, for one queue: the address of the device, if there is no error. -/
def createVirtualDevice (os : TapOs) (name : CString) : Option EtherAddr :=
  if name.bytes = [] then none
  else if !os.openTun then none
  else if !os.tunSetIff then none
  else if !os.inetSocket then none
  else os.hwAddr

/-- `netlink_connect`. -/
def netlinkConnect (os : TapOs) : Bool := os.netlinkSocket && os.netlinkBind

section Create

variable (os : TapOs) (inetPton : List UInt8 → Option InAddr) (dm : DataPlaneManager)

/-- The branch for `cloud_deployment`: the device is there already. -/
def takeOverTap : Except TapStop DataPlaneManager :=
  if !os.connectTapSock then .error .returnedOne
  else
    let dm := { dm with tapMacAddr := os.tap0Mac.getD dm.tapMacAddr }
    match ipStrToUint32 inetPton (getIpAddress os.ifaddr tap0) with
    | none => .error .exited
    | some n => .ok { dm with tapIpAddr := n }

/-- `create_multiqueue_tap_device`: what is sent to the kernel, and the manager afterwards. -/
def createMultiqueueTapDevice (cloudDeployment createTap : Bool) (ifaceName ipaddr : CString)
    (prefixBits : ℤ) : List (List UInt8) × Except TapStop DataPlaneManager :=
  if cloudDeployment then ([], takeOverTap os inetPton dm)
  else if !createTap then ([], .ok dm)
  else
    match createVirtualDevice os ifaceName with
    | none => ([], .error .exited)
    | some mac =>
        let dm := { dm with tapMacAddr := mac }
        let ifIndex := os.ifNameToIndex ifaceName
        let addr := netlinkSetAddrIpv4 ifIndex (inetPton ipaddr.bytes) (UInt8.ofInt prefixBits)
        if !netlinkConnect os then ([], .error .exited)
        else if !os.sendAddr then ([], .error .exited)
        else if !os.sendLink then ([addr], .error .exited)
        else
          match ipStrToUint32 inetPton ipaddr.bytes with
          | none => ([addr, netlinkLinkUp ifIndex], .error .exited)
          | some n => ([addr, netlinkLinkUp ifIndex], .ok { dm with tapIpAddr := n })

end Create

/-! ## What the kernel reads -/

/-- A request as the kernel understands it. -/
inductive KernelRequest
  | newAddr (index : UInt32) (family prefixlen : UInt8) (attrs : List (UInt16 × List UInt8))
  | setLink (index flags change : UInt32)
  deriving DecidableEq, Repr

def kernelRequest : UInt16 × UInt16 × List UInt8 → Option KernelRequest
  | (type, _, body) =>
      if type = RTM_NEWADDR then
        (readAddress body).map fun (family, prefixlen, index, attrs) =>
          .newAddr index family prefixlen attrs
      else if type = RTM_NEWLINK then
        (readLink body).map fun (index, flags, change) => .setLink index flags change
      else none

/-- The requests in what has been sent. -/
def kernelRequests (sent : List (List UInt8)) : List (Option KernelRequest) :=
  sent.flatMap fun datagram => (readMessages datagram).map kernelRequest

/-- The address that a failed `inet_pton` leaves. -/
def InAddr.unset : InAddr := ⟨fun _ => 0⟩

def addressAttribute (type : UInt16) (a : InAddr) : Attribute :=
  ⟨type, a.octets, by rw [InAddr.octets, List.length_ofFn]; decide⟩

/-- The body of the message about the address. -/
def addressBody (ifIndex : UInt32) (a : InAddr) (bits : UInt8) : AddressBody where
  family := UInt8.ofNat AF_INET
  prefixlen := bits
  flags := 0
  scope := 0
  index := ifIndex
  attrs := [addressAttribute IFA_LOCAL a, addressAttribute IFA_ADDRESS a]

section Messages

variable (ifIndex : UInt32) (a : InAddr) (bits : UInt8)

theorem InAddr.length_octets : a.octets.length = 4 := List.length_ofFn

theorem bytes_addressBody :
    (addressBody ifIndex a bits).bytes = [UInt8.ofNat AF_INET, bits, 0, 0] ++ le32 ifIndex.toNat ++
      (le16 8 ++ le16 IFA_LOCAL.toNat ++ a.octets) ++
        (le16 8 ++ le16 IFA_ADDRESS.toNat ++ a.octets) := by
  have hpad : ∀ type, attributes.pad (addressAttribute type a).bytes =
      le16 8 ++ le16 type.toNat ++ a.octets := by
    intro type
    have hlength : (addressAttribute type a).bytes.length = 8 := by
      rw [Attribute.length_bytes]
      exact congrArg (4 + ·) a.length_octets
    rw [Framing.Format.pad, hlength, show attributes.alignUp 8 - 8 = 0 from rfl,
      List.replicate_zero, List.append_nil, Attribute.bytes]
    rw [show (addressAttribute type a).data = a.octets from rfl, a.length_octets]
    rfl
  simp [AddressBody.bytes, addressBody, Framing.Format.join, hpad]

/-- **The message about the address**: two attributes with the same address, which is zero when
the text could not be read. -/
theorem netlinkSetAddrIpv4_eq (address : Option InAddr) :
    ∃ m : Message, netlinkSetAddrIpv4 ifIndex address bits = m.bytes ∧ m.type = RTM_NEWADDR ∧
      m.body = (addressBody ifIndex (address.getD .unset) bits).bytes := by
  have hfits : (addressBody ifIndex (address.getD .unset) bits).bytes.length < 4294967280 := by
    rw [bytes_addressBody]
    simp [InAddr.length_octets]
  refine ⟨⟨RTM_NEWADDR, NLM_F_REQUEST ||| NLM_F_EXCL ||| NLM_F_CREATE, 0, 0, _, hfits⟩, ?_, rfl,
    rfl⟩
  simp only [Message.bytes, bytes_addressBody]
  cases address with
  | none => rfl
  | some a =>
      rw [Option.getD_some]
      obtain ⟨b0, b1, b2, b3, hoctets⟩ : ∃ b0 b1 b2 b3, a.octets = [b0, b1, b2, b3] :=
        ⟨_, _, _, _, rfl⟩
      simp only [netlinkSetAddrIpv4, putAttribute, hoctets]
      rfl

/-- The message about the link. -/
theorem netlinkLinkUp_eq :
    ∃ m : Message, netlinkLinkUp ifIndex = m.bytes ∧ m.type = RTM_NEWLINK ∧
      m.body = LinkBody.bytes ⟨0, 0, ifIndex, IFF_UP, 1⟩ :=
  ⟨⟨RTM_NEWLINK, NLM_F_REQUEST, 0, 0, _, by simp⟩, rfl, rfl, rfl⟩

end Messages

example : netlinkSetAddrIpv4 5 (some ⟨fun i => [192, 168, 1, 1].getD i 0⟩) 24 =
    [40, 0, 0, 0, 20, 0, 1, 6, 0, 0, 0, 0, 0, 0, 0, 0, 2, 24, 0, 0, 5, 0, 0, 0,
      8, 0, 2, 0, 192, 168, 1, 1, 8, 0, 1, 0, 192, 168, 1, 1] := by
  decide

/-! ## The two requests -/

section Requests

variable (ifIndex : UInt32) (address : Option InAddr) (bits : UInt8)

/-- The device gets the address. -/
def addressRequest (a : InAddr) : KernelRequest :=
  .newAddr ifIndex (UInt8.ofNat AF_INET) bits [(IFA_LOCAL, a.octets), (IFA_ADDRESS, a.octets)]

/-- The device is set up. -/
def linkRequest : KernelRequest := .setLink ifIndex IFF_UP 1

theorem kernelRequests_cons (datagram : List UInt8) (sent : List (List UInt8)) :
    kernelRequests (datagram :: sent) =
      (readMessages datagram).map kernelRequest ++ kernelRequests sent :=
  List.flatMap_cons

/-- **The kernel reads the address** as it has been written. -/
theorem kernelRequests_netlinkSetAddrIpv4 :
    (readMessages (netlinkSetAddrIpv4 ifIndex address bits)).map kernelRequest =
      [some (addressRequest ifIndex bits (address.getD .unset))] := by
  obtain ⟨m, hsent, htype, hbody⟩ := netlinkSetAddrIpv4_eq ifIndex bits address
  rw [hsent, readMessages_bytes, List.map_singleton, kernelRequest, if_pos htype, hbody,
    readAddress_bytes]
  rfl

theorem kernelRequests_netlinkLinkUp :
    (readMessages (netlinkLinkUp ifIndex)).map kernelRequest = [some (linkRequest ifIndex)] := by
  obtain ⟨m, hsent, htype, hbody⟩ := netlinkLinkUp_eq ifIndex
  have hne : RTM_NEWLINK ≠ RTM_NEWADDR := by decide
  rw [hsent, readMessages_bytes, List.map_singleton, kernelRequest, htype, if_neg hne, if_pos rfl,
    hbody, readLink_bytes]
  rfl

end Requests

/-! ## The address of the manager -/

section Address

variable (a : InAddr)

/-- In memory the manager's address is the same four bytes. -/
theorem le32_sAddr : le32 a.sAddr.toNat = a.octets := by
  have hbyte : ∀ (n : ℕ) (b : UInt8), n % 256 = b.toNat → UInt8.ofNat n = b := by
    intro n b h
    rw [← UInt8.toNat_inj, UInt8.toNat_ofNat']
    exact h
  obtain ⟨h0, h1, h2, h3⟩ := a.octet_lt
  rw [toNat_sAddr, le32, hbyte _ (a.octet 0) (by omega), hbyte _ (a.octet 1) (by omega),
    hbyte _ (a.octet 2) (by omega), hbyte _ (a.octet 3) (by omega)]
  rfl

/-- An ARP request is for the address when it has these bytes. -/
theorem asksForTap_iff {dm : DataPlaneManager} (h : dm.tapIpAddr = a.sAddr) (b : Window) :
    dm.AsksForTap b ↔ htons (arpOpcode b ETH_HLEN) = 1 ∧ b.slice 38 4 = a.octets := by
  have hlow := b.loadLE16_lt 38
  have hhigh := b.loadLE16_lt (38 + 2)
  have hlt : b.loadLE32 38 < 4294967296 := by
    rw [Window.loadLE32]
    omega
  rw [DataPlaneManager.AsksForTap, h, ← le32_sAddr, ← b.le32_loadLE32 38]
  refine and_congr_right fun _ => ⟨fun htip => congrArg le32 htip, fun hbytes => ?_⟩
  exact le32_inj hlt a.sAddr.toNat_lt hbytes

end Address

/-! ## The device as a whole -/

section Device

/-- The system goes along with everything. -/
structure TapOs.Willing (os : TapOs) (mac : EtherAddr) : Prop where
  openTun : os.openTun = true
  tunSetIff : os.tunSetIff = true
  inetSocket : os.inetSocket = true
  hwAddr : os.hwAddr = some mac
  netlinkSocket : os.netlinkSocket = true
  netlinkBind : os.netlinkBind = true
  sendAddr : os.sendAddr = true
  sendLink : os.sendLink = true

variable (os : TapOs) (inetPton : List UInt8 → Option InAddr) (dm : DataPlaneManager)
variable (ifaceName ipaddr : CString) (prefixBits : ℤ)

/-- The two requests, for what has been read of the address. -/
def requested : List (Option KernelRequest) :=
  [some (addressRequest (os.ifNameToIndex ifaceName) (UInt8.ofInt prefixBits)
      ((inetPton ipaddr.bytes).getD .unset)),
    some (linkRequest (os.ifNameToIndex ifaceName))]

variable {ifaceName} in
theorem createVirtualDevice_eq_some_iff {mac : EtherAddr} :
    createVirtualDevice os ifaceName = some mac ↔ ifaceName.bytes ≠ [] ∧ os.openTun = true ∧
      os.tunSetIff = true ∧ os.inetSocket = true ∧ os.hwAddr = some mac := by
  unfold createVirtualDevice
  split_ifs <;> simp_all

/-- The system goes along, or the process ends somewhere on the way. -/
theorem createMultiqueueTapDevice_cases :
    (∃ mac, os.Willing mac ∧ ifaceName.bytes ≠ [] ∧
      createMultiqueueTapDevice os inetPton dm false true ifaceName ipaddr prefixBits =
        ([netlinkSetAddrIpv4 (os.ifNameToIndex ifaceName) (inetPton ipaddr.bytes)
            (UInt8.ofInt prefixBits), netlinkLinkUp (os.ifNameToIndex ifaceName)],
          match inetPton ipaddr.bytes with
          | none => .error .exited
          | some a => .ok { dm with tapMacAddr := mac, tapIpAddr := a.sAddr })) ∨
    ((∀ mac, os.Willing mac → ifaceName.bytes = []) ∧
      ∃ sent, sent <+: [netlinkSetAddrIpv4 (os.ifNameToIndex ifaceName) (inetPton ipaddr.bytes)
            (UInt8.ofInt prefixBits)] ∧
        createMultiqueueTapDevice os inetPton dm false true ifaceName ipaddr prefixBits =
          (sent, .error .exited)) := by
  unfold createMultiqueueTapDevice
  simp only [Bool.false_eq_true, if_false, Bool.not_true]
  cases hdevice : createVirtualDevice os ifaceName with
  | none =>
      refine .inr ⟨fun mac h => ?_, [], List.nil_prefix, rfl⟩
      by_contra hname
      have hsome := (createVirtualDevice_eq_some_iff os).mpr
        ⟨hname, h.openTun, h.tunSetIff, h.inetSocket, h.hwAddr⟩
      rw [hdevice] at hsome
      cases hsome
  | some mac =>
      obtain ⟨hname, hopen, hset, hinet, hhw⟩ := (createVirtualDevice_eq_some_iff os).mp hdevice
      dsimp only
      cases hconnect : netlinkConnect os with
      | false =>
          refine .inr ⟨fun mac h => ?_, [], List.nil_prefix, rfl⟩
          rw [netlinkConnect, h.netlinkSocket, h.netlinkBind] at hconnect
          cases hconnect
      | true =>
          obtain ⟨hsocket, hbind⟩ := Bool.and_eq_true_iff.mp hconnect
          cases hsend : os.sendAddr with
          | false =>
              refine .inr ⟨fun mac h => ?_, [], List.nil_prefix, rfl⟩
              exact absurd (hsend.symm.trans h.sendAddr) Bool.false_ne_true
          | true =>
              cases hlink : os.sendLink with
              | false =>
                  refine .inr ⟨fun mac h => ?_, _, List.prefix_refl _, rfl⟩
                  exact absurd (hlink.symm.trans h.sendLink) Bool.false_ne_true
              | true =>
                  refine .inl ⟨mac, ⟨hopen, hset, hinet, hhw, hsocket, hbind, hsend, hlink⟩,
                    hname, ?_⟩
                  cases hpton : inetPton ipaddr.bytes with
                  | none => simp [ipStrToUint32, hpton]
                  | some a => simp [ipStrToUint32, hpton]

end Device

end UdxFastpath
