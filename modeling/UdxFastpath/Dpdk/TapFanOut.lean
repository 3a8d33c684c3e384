import UdxFastpath.Core.TapHandler
import UdxFastpath.Dpdk.PortMap

/-!
# What leaves the host for a frame from the TAP device

`tap_handler_dpdk` walks through `dpdk_port_mac` and sends a copy of an ARP frame for
every entry, rewriting **one** array in place.  `start_dpdk_datapath` filled that table
together with `lports`, which says on which device each copy leaves.

* `overwrite_relabelled`: what an earlier round wrote, a later one writes over, so every
  copy is the frame that was read, relabelled once.
* `onWire_fanOut`: the copies, device by device.
* `tapHandler_fansOut`: in every run, one copy per logical port with the device's own
  address for an ARP frame, and at most one frame otherwise.
-/

namespace UdxFastpath.Dpdk

open ByteWindow

/-! ## Frames and devices -/

/-- The frame with the address of a device for its Ethernet source. -/
def withSource (mac : EtherAddr) (f : List UInt8) : List UInt8 := overwrite f ETH_ALEN mac.toList

/-- …and for its ARP sender hardware address as well. -/
def relabelled (mac : EtherAddr) (f : List UInt8) : List UInt8 :=
  withSource mac (overwrite f (ETH_HLEN + 8) mac.toList)

/-- A frame of EtherType ARP. -/
def IsArpFrame (f : List UInt8) : Prop := field f 12 2 = [0x08, 0x06]

/-- What the TAP thread reads in a port assignment. -/
def PortMap.tapEnv {σ : Type*} (m : PortMap) (tapProcessor : TapProcessor σ) : TapEnv σ where
  lports := m.lports
  lports_le := m.length_lports_le
  dpdkPortMac := m.lportMac
  length_eq := by rw [m.lportMac_eq, List.length_map]
  tapProcessor := tapProcessor

/-- The device an action sends on, and the frame; entries of `lports` nobody filled are zero. -/
def PortMap.sent (m : PortMap) : TapAction → Option (ℕ × List UInt8)
  | .transmit lport bytes => some (m.lports.getD lport 0, bytes)
  | _ => none

/-- What leaves the host, in order. -/
def PortMap.onWire (m : PortMap) (acts : List TapAction) : List (ℕ × List UInt8) :=
  acts.filterMap m.sent

/-! ## Relabelling in place -/

section Relabelling

variable (mac mac' : EtherAddr) (f : List UInt8)

/-- The sender address lies behind the source address. -/
theorem source_apart : ETH_ALEN + mac.toList.length ≤ ETH_HLEN + 8 := by
  simp [ETH_ALEN, ETH_HLEN]

theorem bytes_relabel (b : Window) : (relabel mac b).bytes = relabelled mac b.bytes := by
  rw [relabel, bytes_store, bytes_store]
  rfl

/-- **Nothing is left of an earlier round.** -/
theorem relabelled_relabelled : relabelled mac (relabelled mac' f) = relabelled mac f := by
  have hsix : mac.toList.length = mac'.toList.length := rfl
  simp only [relabelled, withSource]
  rw [overwrite_comm (source_apart mac'), overwrite_overwrite_self hsix,
    overwrite_overwrite_self hsix]

/-- A relabelled frame differs from the frame in the two fields only. -/
theorem field_relabelled {i n : ℕ}
    (h : i + n ≤ 6 ∨ 12 ≤ i ∧ i + n ≤ 22 ∨ 28 ≤ i) :
    field (relabelled mac f) i n = field f i n := by
  have hsource : i + n ≤ ETH_ALEN ∨ ETH_ALEN + mac.toList.length ≤ i := by
    simp only [ETH_ALEN, EtherAddr.length_toList]
    omega
  have hsender : i + n ≤ ETH_HLEN + 8 ∨ ETH_HLEN + 8 + mac.toList.length ≤ i := by
    simp only [ETH_HLEN, EtherAddr.length_toList]
    omega
  rw [relabelled, withSource, field_overwrite_of_disjoint hsource,
    field_overwrite_of_disjoint hsender]

/-- …and these are the address. -/
theorem fields_relabelled (h : 28 ≤ f.length) :
    field (relabelled mac f) ETH_ALEN ETH_ALEN = mac.toList ∧
      field (relabelled mac f) (ETH_HLEN + 8) ETH_ALEN = mac.toList := by
  constructor
  · have hroom : ETH_ALEN + mac.toList.length ≤ (overwrite f (ETH_HLEN + 8) mac.toList).length := by
      rw [length_overwrite]
      simp only [ETH_ALEN, EtherAddr.length_toList]
      omega
    exact field_overwrite_self hroom
  · rw [relabelled, withSource, field_overwrite_of_disjoint (.inr (source_apart mac))]
    have hroom : ETH_HLEN + 8 + mac.toList.length ≤ f.length := by
      simp only [ETH_HLEN, EtherAddr.length_toList]
      omega
    exact field_overwrite_self hroom

end Relabelling

/-! ## The copies -/

section Copies

variable (m : PortMap)

/-- The loop over `dpdk_port_mac` from some entry on: one copy per device. -/
theorem onWire_fanOut (f : List UInt8) :
    ∀ (done rest : List ℕ) (b : Window), m.lports = done ++ rest →
      (∀ mac, relabelled mac b.bytes = relabelled mac f) →
        m.onWire (fanOut sendSinglePacket (rest.map m.macaddrGet) done.length b).1 =
          rest.map fun p => (p, relabelled (m.macaddrGet p) f) := by
  intro done rest
  induction rest generalizing done with
  | nil => intro b _ _; rfl
  | cons p rest ih =>
      intro b hports hframe
      have hlt : done.length < RTE_MAX_ETHPORTS := by
        have hle := m.length_lports_le
        rw [hports, List.length_append, List.length_cons] at hle
        omega
      have hdevice : m.lports.getD done.length 0 = p := by
        simp [hports, List.getD_eq_getElem?_getD]
      have hnext : ∀ mac, relabelled mac (relabel (m.macaddrGet p) b).bytes = relabelled mac f := by
        intro mac
        rw [bytes_relabel, relabelled_relabelled, hframe]
      have hrest := ih (done ++ [p]) (relabel (m.macaddrGet p) b)
        (by rw [hports, List.append_assoc, List.singleton_append]) hnext
      rw [List.length_append, List.length_singleton] at hrest
      rw [List.map_cons, fanOut, sendSinglePacket, if_pos hlt]
      simp only [List.singleton_append, PortMap.onWire, List.map_cons]
      rw [List.filterMap_cons_some (b := (p, relabelled (m.macaddrGet p) f))]
      · exact congrArg _ hrest
      · rw [PortMap.sent, hdevice, bytes_relabel, hframe]

/-- At the front of the array is the frame that was read. -/
theorem bytes_readFrame_zero (buffer : ℕ → UInt8) (f : TapFrame) :
    (readFrame buffer f 0 (Nat.zero_le _)).bytes = f.bytes := by
  rw [bytes_readFrame, List.drop_zero]

/-- The EtherType in the array is that of the frame, if the frame has one. -/
theorem ethProto_readFrame_iff (buffer : ℕ → UInt8) (f : TapFrame)
    (h : ETH_HLEN ≤ f.bytes.length) :
    ethProto (readFrame buffer f 0 (Nat.zero_le _)) 0 = htons PID_ETH_ARP ↔
      IsArpFrame f.bytes := by
  have hlen : 12 + 2 ≤ (readFrame buffer f 0 (Nat.zero_le _)).len := h
  rw [IsArpFrame, ← bytes_readFrame_zero buffer f, field_eq_pair_iff hlen,
    ethProto_eq_iff _ _ (by decide)]
  rfl

/-- A frame with an EtherType has a whole header. -/
theorem IsArpFrame.header_le {f : List UInt8} (h : IsArpFrame f) : ETH_HLEN ≤ f.length := by
  have hlen := congrArg List.length h
  rw [field, List.length_take, List.length_drop] at hlen
  simp only [List.length_cons, List.length_nil] at hlen
  rw [ETH_HLEN]
  omega

end Copies

/-! ## What leaves the host -/

/-- A frame that is no ARP frame, after the handler has named a port for it: at most one frame
leaves the host, on that port's device, and only its source is new.  A verdict that is neither
special nor a port is an access past the end of the tables. -/
structure SentOnce (m : PortMap) (f : List UInt8) (acts : List TapAction) (verdict : ℕ) :
    Prop where
  asked : .tapProcessor f verdict ∈ acts
  special : verdict = DROP ∨ verdict = KERNEL → m.onWire acts = []
  port : ∀ hlt : verdict < m.lports.length,
    m.onWire acts = [(m.lports[verdict], withSource (m.macaddrGet m.lports[verdict]) f)]
  outside : ¬ (verdict = DROP ∨ verdict = KERNEL) → m.lports.length ≤ verdict →
    m.onWire acts = [] ∧ .wild verdict ∈ acts

section Main

variable {σ : Type*} (m : PortMap) (tapProcessor : TapProcessor σ)

/-- The table of addresses has that of the device of every port. -/
theorem getElem?_dpdkPortMac (k : ℕ) :
    (m.tapEnv tapProcessor).dpdkPortMac[k]? = m.lports[k]?.map m.macaddrGet := by
  rw [show (m.tapEnv tapProcessor).dpdkPortMac = m.lportMac from rfl, m.lportMac_eq,
    List.getElem?_map]

/-- An ARP frame, one iteration. -/
theorem onWire_tapPacket_of_arp {f : TapFrame} (h : IsArpFrame f.bytes)
    (st : (ℕ → UInt8) × σ) :
    m.onWire (tapPacket (m.tapEnv tapProcessor) f st).1 =
      m.lports.map fun p => (p, relabelled (m.macaddrGet p) f.bytes) := by
  have harp : getEtherType (readFrame st.1 f 0 (Nat.zero_le _)) = .l2EtherArp :=
    (getEtherType_eq_arp_iff _).mpr ((ethProto_readFrame_iff st.1 f h.header_le).mpr h)
  have hcopies := onWire_fanOut m f.bytes [] m.lports (readFrame st.1 f 0 (Nat.zero_le _)) rfl
    (fun mac => by rw [bytes_readFrame_zero])
  rw [← m.lportMac_eq] at hcopies
  simp only [tapPacket, harp, if_true]
  exact hcopies

/-- Any other frame, one iteration. -/
theorem sentOnce_tapPacket {f : TapFrame} (hheader : ETH_HLEN ≤ f.bytes.length)
    (h : ¬ IsArpFrame f.bytes) (st : (ℕ → UInt8) × σ) :
    ∃ s b, b.bytes = f.bytes ∧ SentOnce m f.bytes (tapPacket (m.tapEnv tapProcessor) f st).1
      (tapProcessor s b f.bytes.length).1 := by
  have hbytes := bytes_readFrame_zero st.1 f
  have harp : getEtherType (readFrame st.1 f 0 (Nat.zero_le _)) ≠ .l2EtherArp := by
    rw [ne_eq, getEtherType_eq_arp_iff, ethProto_readFrame_iff st.1 f hheader]
    exact h
  have hhandler : (m.tapEnv tapProcessor).tapProcessor = tapProcessor := rfl
  refine ⟨st.2, readFrame st.1 f 0 (Nat.zero_le _), hbytes, ?_⟩
  simp only [tapPacket, harp, if_false, hbytes, hhandler]
  generalize (tapProcessor st.2 (readFrame st.1 f 0 (Nat.zero_le _)) f.bytes.length).1 = verdict
  by_cases hspecial : verdict = DROP ∨ verdict = KERNEL
  · rw [if_pos hspecial]
    refine ⟨by simp, fun _ => rfl, fun hlt => ?_, fun hne => absurd hspecial hne⟩
    have hne := (m.tapEnv tapProcessor).ne_special hlt
    exact absurd hspecial (not_or.mpr hne)
  · rw [if_neg hspecial]
    by_cases hlt : verdict < m.lports.length
    · have hmac : (m.tapEnv tapProcessor).dpdkPortMac[verdict]? =
          some (m.macaddrGet m.lports[verdict]) := by
        rw [getElem?_dpdkPortMac, List.getElem?_eq_getElem hlt, Option.map_some]
      have hsend : verdict < RTE_MAX_ETHPORTS := Nat.lt_of_lt_of_le hlt m.length_lports_le
      simp only [hmac, sendSinglePacket, if_pos hsend, bytes_store, hbytes]
      refine ⟨by simp, fun hyes => absurd hyes hspecial, fun _ => ?_, fun _ hle => ?_⟩
      · have hdevice : m.lports.getD verdict 0 = m.lports[verdict] :=
          List.getD_eq_getElem _ _ hlt
        simp only [PortMap.onWire, List.filterMap_cons, PortMap.sent, hdevice, List.filterMap_nil]
        rfl
      · omega
    · have hmac : (m.tapEnv tapProcessor).dpdkPortMac[verdict]? = none := by
        rw [getElem?_dpdkPortMac, List.getElem?_eq_none (Nat.le_of_not_lt hlt), Option.map_none]
      simp only [hmac]
      exact ⟨by simp, fun hyes => absurd hyes hspecial, fun hyes => absurd hyes hlt,
        fun _ _ => ⟨rfl, by simp⟩⟩

/-- **One copy for each logical port, with the address of its device.**  In every run of the TAP
thread, whatever the array held before and whatever the handler does: for an ARP frame there
leaves one copy on every device of `lports`, in their order, and the copy on a device is the
frame with that device's address for its source and its ARP sender; for any other frame there
leaves at most one, on the device of the port the handler names, with that device's address
for its source.  The kernel hands over no frame without an Ethernet header. -/
theorem tapHandler_fansOut (frames : List TapFrame) (st : (ℕ → UInt8) × σ) (j : ℕ) (f : TapFrame)
    (hget : frames[j]? = some f) :
    ∃ acts, (tapHandler (m.tapEnv tapProcessor) frames st)[j]? = some acts ∧
      (IsArpFrame f.bytes →
        m.onWire acts = m.lports.map fun p => (p, relabelled (m.macaddrGet p) f.bytes)) ∧
      (ETH_HLEN ≤ f.bytes.length → ¬ IsArpFrame f.bytes →
        ∃ s b, b.bytes = f.bytes ∧
          SentOnce m f.bytes acts (tapProcessor s b f.bytes.length).1) := by
  obtain ⟨st', hacts⟩ := getElem?_tapLoop (tapPacket (m.tapEnv tapProcessor)) frames j st hget
  exact ⟨_, hacts, fun h => onWire_tapPacket_of_arp m tapProcessor h st',
    fun hheader h => sentOnce_tapPacket m tapProcessor hheader h st'⟩

end Main

/-- A request for `tip.0.0.0` from the kernel. -/
def arpTapFrame (tip : UInt8) : TapFrame :=
  ⟨(arpFrame 1 tip).bytes, by simp [arpFrame, Window.ofBytes, zeros],
    by simp [arpFrame, Window.ofBytes, zeros]⟩

/-- The theorem at a request behind another one, with the two ports on devices 1 and 0: the
second request leaves on device 1 first, with no trace of the first. -/
theorem tapHandler_fansOut_swapped :
    ∃ acts, (tapHandler (swappedPorts.tapEnv fun s _ _ => (0, s)) [arpTapFrame 1, arpTapFrame 2]
        (fun _ => 0, ()))[1]? = some acts ∧
      swappedPorts.onWire acts =
        [(1, relabelled (swappedPorts.macaddrGet 1) (arpTapFrame 2).bytes),
          (0, relabelled (swappedPorts.macaddrGet 0) (arpTapFrame 2).bytes)] := by
  obtain ⟨acts, hacts, harp, -⟩ := tapHandler_fansOut swappedPorts (fun s _ _ => (0, s))
    [arpTapFrame 1, arpTapFrame 2] (fun _ => 0, ()) 1 (arpTapFrame 2) rfl
  exact ⟨acts, hacts, harp (by unfold IsArpFrame; decide)⟩

end UdxFastpath.Dpdk
