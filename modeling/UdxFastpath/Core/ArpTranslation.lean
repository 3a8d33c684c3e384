import UdxFastpath.Core.TapHandler

/-!
# ARP through the translated ports

The kernel resolves addresses behind the TAP device, and its requests carry the
TAP device's MAC address.  Two rewriting steps, written in two places, hide the
physical ports from it:

* on the way out, `tap_handler_dpdk` replaces the address by that of the port the
  copy leaves on;
* on the way in, `arp_handler` replaces the port's address in a reply by that of
  the TAP device.

In between stands a responder nobody here has written.  `rfc826Reply` is what the
standard has it send: hardware and protocol addresses exchanged, its own address
filled in, the opcode set to reply, behind it any padding.

`arpTranslation_transparent` says that the two steps cancel: the kernel gets, byte
for byte, the reply to the request **it** sent.
-/

namespace UdxFastpath

open ByteWindow

/-! ## Requests and replies -/

/-- An ARP request from the kernel: a whole frame, with the TAP device's address as Ethernet
source and as ARP sender. -/
structure RequestFromTap (tapMac : EtherAddr) (q : List UInt8) : Prop where
  whole : 42 ≤ q.length
  ethertype : field q 12 2 = [0x08, 0x06]
  opcode : field q 20 2 = [0, 1]
  source : field q ETH_ALEN ETH_ALEN = tapMac.toList
  sender : field q (ETH_HLEN + 8) ETH_ALEN = tapMac.toList

/-- An ARP reply from `responder` to a host with hardware address `tha`, protocol address `tpa`
and the given address formats. -/
def arpReply (responder : EtherAddr) (tha formats spa tpa pad : List UInt8) : List UInt8 :=
  tha ++ responder.toList ++ [0x08, 0x06] ++ formats ++ [0, 2] ++ responder.toList ++ spa ++ tha ++
    tpa ++ pad

/-- The RFC 826 reply of `responder` to the request `q`: what was the sender becomes the target,
the address asked for becomes the sender's. -/
def rfc826Reply (responder : EtherAddr) (pad q : List UInt8) : List UInt8 :=
  arpReply responder (field q (ETH_HLEN + 8) ETH_ALEN) (field q ETH_HLEN 6) (field q 38 4)
    (field q 28 4) pad

/-- The request as it leaves on the port with address `mac`. -/
def translated (mac : EtherAddr) (q : List UInt8) : List UInt8 :=
  overwrite (overwrite q (ETH_HLEN + 8) mac.toList) ETH_ALEN mac.toList

/-! ## The way out -/

section WayOut

variable {σ : Type*}

theorem bytes_relabel (mac : EtherAddr) (b : Window) :
    (relabel mac b).bytes = translated mac b.bytes := by
  rw [relabel, bytes_store, bytes_store, translated]

/-- Relabelling forgets what an earlier relabelling wrote. -/
theorem translated_translated (mac mac' : EtherAddr) (q : List UInt8) :
    translated mac (translated mac' q) = translated mac q := by
  simp only [translated]
  -- bring the two sender addresses together, then the two sources
  rw [← overwrite_comm (by simp [ETH_HLEN, ETH_ALEN]), overwrite_overwrite_self (by simp),
    overwrite_comm (by simp [ETH_HLEN, ETH_ALEN]), overwrite_overwrite_self (by simp)]

/-- **One copy for each port**, each with that port's address and nothing left of the ones
before. -/
theorem fanOut_sendSinglePacket (macs : List EtherAddr) :
    ∀ (lport : ℕ) (b : Window), lport + macs.length ≤ Dpdk.RTE_MAX_ETHPORTS →
      (fanOut Dpdk.sendSinglePacket macs lport b).1 =
        (macs.zipIdx lport).map fun p => .transmit p.2 (translated p.1 b.bytes) := by
  induction macs with
  | nil => intro lport b _; rfl
  | cons mac macs ih =>
      intro lport b hle
      rw [List.length_cons] at hle
      simp only [fanOut]
      rw [ih (lport + 1) _ (by omega), Dpdk.sendSinglePacket, if_pos (by omega), bytes_relabel]
      simp only [translated_translated, List.zipIdx_cons, List.map_cons, List.singleton_append]

/-- What the thread does with a request: one translated copy for each logical port. -/
theorem tapPacket_of_request (env : Dpdk.TapEnv σ) {tapMac : EtherAddr} {q : TapFrame}
    (hq : RequestFromTap tapMac q.bytes) (st : (ℕ → UInt8) × σ) :
    (Dpdk.tapPacket env q st).1 = .getEtherType q.bytes .l2EtherArp ::
      env.dpdkPortMac.zipIdx.map fun p => .transmit p.2 (translated p.1 q.bytes) := by
  have hbytes : (readFrame st.1 q 0 (Nat.zero_le _)).bytes = q.bytes := by
    rw [bytes_readFrame, List.drop_zero]
  have htype : getEtherType (readFrame st.1 q 0 (Nat.zero_le _)) = .l2EtherArp := by
    rw [getEtherType_eq_arp_iff, ethProto_eq_iff _ _ (by decide)]
    exact loadBE16_of_field (hbytes ▸ hq.ethertype)
  have hle : 0 + env.dpdkPortMac.length ≤ Dpdk.RTE_MAX_ETHPORTS := by
    rw [Nat.zero_add, env.length_eq]
    exact env.lports_le
  simp only [Dpdk.tapPacket, htype, if_true, fanOut_sendSinglePacket _ _ _ hle, hbytes]

end WayOut

/-! ## The way in -/

section WayIn

variable (responder : EtherAddr) {tha tha' formats spa tpa pad : List UInt8}

/-- The opcode of a reply says so. -/
theorem isArpReply_of_arpReply (htha : tha.length = 6) (hformats : formats.length = 6) {r : Window}
    (hr : r.bytes = arpReply responder tha formats spa tpa pad) :
    DataPlaneManager.IsArpReply r := by
  have hfield : field r.bytes 20 2 = [0, 2] := by
    have hmiddle := field_middle (tha ++ responder.toList ++ [0x08, 0x06] ++ formats) [0, 2]
      (responder.toList ++ spa ++ tha ++ tpa ++ pad)
    simp only [List.length_append, htha, hformats, EtherAddr.length_toList, List.length_cons,
      List.length_nil] at hmiddle
    rw [hr, arpReply]
    simpa only [List.append_assoc] using hmiddle
  have hload := loadBE16_of_field hfield
  rw [← Window.swap16_loadLE16] at hload
  exact hload

/-- Writing a hardware address over both places that name the receiver readdresses the
reply. -/
theorem overwrite_arpReply (htha : tha.length = 6) (htha' : tha'.length = 6)
    (hformats : formats.length = 6) (hspa : spa.length = 4) :
    overwrite (overwrite (arpReply responder tha formats spa tpa pad) 0 tha') (ETH_HLEN + 18) tha' =
      arpReply responder tha' formats spa tpa pad := by
  -- first the Ethernet destination, then, 32 bytes on, the ARP target
  have hdest := overwrite_middle []
    (responder.toList ++ [0x08, 0x06] ++ formats ++ [0, 2] ++ responder.toList ++ spa ++ tha ++
      tpa ++ pad) (htha'.trans htha.symm)
  have htarget := overwrite_middle
    (tha' ++ responder.toList ++ [0x08, 0x06] ++ formats ++ [0, 2] ++ responder.toList ++ spa)
    (tpa ++ pad) (htha'.trans htha.symm)
  simp only [List.length_append, List.length_nil, htha', hformats, hspa, EtherAddr.length_toList,
    List.length_cons, List.nil_append, List.append_assoc] at hdest htarget
  simp only [arpReply, List.append_assoc, ETH_HLEN]
  rw [hdest, htarget]

end WayIn

/-! ## There and back -/

section Transparent

variable {σ : Type*}

/-- The reply to a translated request differs in the hardware address it is sent to. -/
theorem rfc826Reply_translated (responder mac : EtherAddr) (pad : List UInt8) {q : List UInt8}
    (hq : 42 ≤ q.length) :
    rfc826Reply responder pad (translated mac q) =
      arpReply responder mac.toList (field q ETH_HLEN 6) (field q 38 4) (field q 28 4) pad := by
  have hsender : field (translated mac q) (ETH_HLEN + 8) ETH_ALEN = mac.toList := by
    rw [translated, field_overwrite_of_disjoint (.inr (by simp [ETH_HLEN, ETH_ALEN]))]
    exact field_overwrite_self (by simp [ETH_HLEN]; omega)
  have hother : ∀ {i n : ℕ}, 12 ≤ i → i + n ≤ 22 ∨ 28 ≤ i →
      field (translated mac q) i n = field q i n := by
    intro i n hlow hapart
    rw [translated, field_overwrite_of_disjoint (.inr (by simp [ETH_ALEN]; omega)),
      field_overwrite_of_disjoint (by simp [ETH_HLEN]; omega)]
  rw [rfc826Reply, hsender, hother (by decide) (by decide), hother (by decide) (by decide),
    hother (by decide) (by decide)]

/-- **The translation is transparent to the kernel.**  In every run of the TAP thread, for every
request of the kernel and every logical port `k`: the request leaves on `k` as `translated`, with
that port's address; and whoever answers it, `arp_handler` passes the answer to the kernel as the
RFC 826 reply to the request the kernel sent. -/
theorem arpTranslation_transparent (dm : DataPlaneManager) (env : Dpdk.TapEnv σ)
    (frames : List TapFrame) (st : (ℕ → UInt8) × σ) (j : ℕ) (q : TapFrame)
    (hget : frames[j]? = some q) (hq : RequestFromTap dm.tapMacAddr q.bytes)
    (k : ℕ) (hk : k < env.lports.length) :
    ∃ acts mac, (Dpdk.tapHandler env frames st)[j]? = some acts ∧
      env.dpdkPortMac[k]? = some mac ∧ acts[k + 1]? = some (.transmit k (translated mac q.bytes)) ∧
      ∀ (responder : EtherAddr) (pad : List UInt8) (r : Window) (recvPort : ℕ),
        r.bytes = rfc826Reply responder pad (translated mac q.bytes) →
          (dm.arpHandler r recvPort).1 = KERNEL ∧
            (dm.arpHandler r recvPort).2.bytes = rfc826Reply responder pad q.bytes := by
  obtain ⟨st', hacts⟩ := getElem?_tapLoop (Dpdk.tapPacket env) frames j st hget
  obtain ⟨mac, hmac⟩ : ∃ mac, env.dpdkPortMac[k]? = some mac :=
    ⟨_, List.getElem?_eq_getElem (by rw [env.length_eq]; exact hk)⟩
  refine ⟨_, mac, hacts, hmac, ?_, fun responder pad r recvPort hr => ?_⟩
  · rw [tapPacket_of_request env hq, List.getElem?_cons_succ, List.getElem?_map,
      List.getElem?_zipIdx, hmac]
    simp
  · have hwhole := hq.whole
    have hformats : (field q.bytes ETH_HLEN 6).length = 6 :=
      length_field (by simp [ETH_HLEN]; omega)
    have hspa : (field q.bytes 38 4).length = 4 := length_field (by omega)
    rw [rfc826Reply_translated responder _ pad hwhole] at hr
    have hreply := isArpReply_of_arpReply responder (EtherAddr.length_toList _) hformats hr
    rw [DataPlaneManager.arpHandler_of_isArpReply_eq hreply]
    refine ⟨rfl, ?_⟩
    rw [bytes_store, bytes_store, hr, overwrite_arpReply responder (EtherAddr.length_toList _)
      (EtherAddr.length_toList _) hformats hspa, rfc826Reply, hq.sender]

end Transparent

/-! ## A request through one port -/

/-- A 42-byte request from the TAP device with address `02:00:00:00:00:01`. -/
def tapRequest : TapFrame where
  bytes := List.flatten [zeros 6, [0x02, 0, 0, 0, 0, 0x01], [0x08, 0x06], [0, 1, 8, 0, 6, 4, 0, 1],
    [0x02, 0, 0, 0, 0, 0x01], zeros 14]
  pos := by decide
  le := by decide

/-- A manager whose TAP device has that address. -/
def tapManager : DataPlaneManager :=
  ⟨false, ∅, 1, ⟨fun i => [0x02, 0, 0, 0, 0, 0x01].getD i 0⟩, [default]⟩

/-- The theorem at that request, through the one port there is. -/
theorem arpTranslation_tapRequest :
    ∃ acts mac, (Dpdk.tapHandler Dpdk.tapToZero [tapRequest] (fun _ => 0, ()))[0]? = some acts ∧
      acts[1]? = some (.transmit 0 (translated mac tapRequest.bytes)) ∧
      ∀ (responder : EtherAddr) (r : Window),
        r.bytes = rfc826Reply responder [] (translated mac tapRequest.bytes) →
          (tapManager.arpHandler r 0).2.bytes = rfc826Reply responder [] tapRequest.bytes := by
  obtain ⟨acts, mac, hacts, -, hsent, hback⟩ := arpTranslation_transparent tapManager Dpdk.tapToZero
    [tapRequest] (fun _ => 0, ()) 0 tapRequest rfl
    ⟨by decide, by decide, by decide, by decide, by decide⟩ 0 Nat.one_pos
  exact ⟨acts, mac, hacts, hsent, fun responder r hr => (hback responder [] r 0 hr).2⟩

end UdxFastpath
