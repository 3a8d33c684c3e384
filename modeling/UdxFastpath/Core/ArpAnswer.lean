import UdxFastpath.Core.Manager

/-!
# The answer to an ARP request

`arp_handler` answers a request for the address of the TAP device by rewriting it
in place: eleven stores, some of them copies of bytes that other stores overwrite.
The hardware address of the sender is saved before the new one is written over it,
and the Ethernet source is copied to the destination before it is replaced.

`ArpAnswer` is the answer field by field, as RFC 826 lays it out, with the fields of
the request it takes its addresses from; `arpHandler_answers` says that this is what
becomes of the request, whatever the addresses are and whichever of them are equal.
-/

namespace UdxFastpath

open ByteWindow

/-- `c` is the answer to the request `b`: from `mac`, for the address `tapIp`.  All 42 bytes of the
frame are accounted for, and everything around them is as it was. -/
structure ArpAnswer (mac : EtherAddr) (tapIp : UInt32) (b c : Window) : Prop where
  off_eq : c.off = b.off
  len_eq : c.len = b.len
  dest : c.slice 0 6 = b.slice 6 6
  source : c.slice 6 6 = mac.toList
  ethertype : c.slice 12 2 = b.slice 12 2
  hardware : c.slice 14 2 = [0, 1]
  protocol : c.slice 16 2 = [8, 0]
  hlen : c.slice 18 1 = [6]
  plen : c.slice 19 1 = [4]
  opcode : c.slice 20 2 = [0, 2]
  senderHardware : c.slice 22 6 = mac.toList
  senderProtocol : c.slice 28 4 = le32 tapIp.toNat
  targetHardware : c.slice 32 6 = b.slice 22 6
  targetProtocol : c.slice 38 4 = b.slice 28 4
  outside : ∀ a, a < b.off ∨ b.off + 42 ≤ a → c.mem a = b.mem a

section Answer

variable (b : Window) (mac : EtherAddr) (tapIp : ℕ)

/-- The request after `construct_arp_response` was given the addresses `arp_handler` saved. -/
def answered : Window :=
  constructArpResponse b ETH_HLEN mac.toList tapIp (b.slice 22 6) (arpSip b ETH_HLEN)

/-- The fields of the ARP header, each read behind the store that wrote it. -/
theorem slice_answered :
    (answered b mac tapIp).slice 14 2 = [0, 1] ∧ (answered b mac tapIp).slice 16 2 = [8, 0] ∧
      (answered b mac tapIp).slice 18 1 = [6] ∧ (answered b mac tapIp).slice 19 1 = [4] ∧
      (answered b mac tapIp).slice 20 2 = [0, 2] ∧
      (answered b mac tapIp).slice 22 6 = mac.toList ∧
      (answered b mac tapIp).slice 28 4 = le32 tapIp ∧
      (answered b mac tapIp).slice 32 6 = b.slice 22 6 ∧
      (answered b mac tapIp).slice 38 4 = b.slice 28 4 := by
  have hsip : le32 (arpSip b 14) = b.slice 28 4 := b.le32_loadLE32 28
  have hhardware : le16 (htons 1) = [0, 1] := by decide
  have hprotocol : le16 (htons PID_ETH_IP) = [8, 0] := by decide
  have hopcode : le16 (htons 2) = [0, 2] := by decide
  simp only [answered, constructArpResponse, ETH_HLEN, hsip, hhardware, hprotocol, hopcode]
  -- read over the later stores, then at the store itself
  refine ⟨?_, ?_, ?_, ?_, ?_, ?_, ?_, ?_, Window.slice_store_self _ _ _⟩ <;>
    simp (disch := simp) only [Window.slice_store_of_disjoint] <;>
    exact Window.slice_store_self _ _ _

/-- The Ethernet header is not touched, nor is anything behind the ARP header. -/
theorem mem_answered {a : ℕ} (h : a < b.off + 14 ∨ b.off + 42 ≤ a) :
    (answered b mac tapIp).mem a = b.mem a := by
  have hmac := mac.length_toList
  have hslice := b.length_slice 22 6
  simp only [answered, constructArpResponse, ETH_HLEN]
  repeat rw [Window.mem_store_of_notMem _ _ _ (by simp; omega)]

theorem slice_answered_of_le {i n : ℕ} (h : i + n ≤ 14) :
    (answered b mac tapIp).slice i n = b.slice i n := by
  refine List.map_congr_left fun k hk => ?_
  have hkn := List.mem_range.mp hk
  exact mem_answered b mac tapIp (.inl (show b.off + (i + k) < b.off + 14 by omega))

end Answer

section Handler

variable {dm : DataPlaneManager} {b : Window} {recvPort : ℕ} {mac : EtherAddr}

/-- The answer, store by store. -/
theorem arpHandler_eq_answered (h : dm.AsksForTap b) (hmac : dm.lportMac[recvPort]? = some mac) :
    dm.arpHandler b recvPort =
      (recvPort, ((answered b mac dm.tapIpAddr.toNat).store 0 (b.slice 6 6)).store 6
        mac.toList) := by
  have hget : dm.lportMac.getD recvPort default = mac := by
    rw [List.getD_eq_getElem?_getD, hmac, Option.getD_some]
  have hsource := slice_answered_of_le b mac dm.tapIpAddr.toNat (show 6 + 6 ≤ 14 by decide)
  simp only [DataPlaneManager.arpHandler, if_pos h.1, if_pos h.2, hget]
  rw [← hsource]
  rfl

/-- Every field is there. -/
theorem arpAnswer_of_asksForTap (h : dm.AsksForTap b) (hmac : dm.lportMac[recvPort]? = some mac) :
    ArpAnswer mac dm.tapIpAddr b (dm.arpHandler b recvPort).2 := by
  rw [arpHandler_eq_answered h hmac]
  obtain ⟨hhardware, hprotocol, hhlen, hplen, hopcode, hsha, hsip, htha, htip⟩ :=
    slice_answered b mac dm.tapIpAddr.toNat
  -- what lies behind the two Ethernet addresses
  have hbehind : ∀ {i n : ℕ}, 12 ≤ i →
      (((answered b mac dm.tapIpAddr.toNat).store 0 (b.slice 6 6)).store 6 mac.toList).slice i n =
        (answered b mac dm.tapIpAddr.toNat).slice i n := by
    intro i n hi
    rw [Window.slice_store_of_disjoint _ (.inr (by simp; omega)),
      Window.slice_store_of_disjoint _ (.inr (by simp; omega))]
  refine ⟨rfl, rfl, ?_, Window.slice_store_self _ _ _, ?_, ?_, ?_, ?_, ?_, ?_, ?_, ?_, ?_, ?_, ?_⟩
  · rw [Window.slice_store_of_disjoint _ (.inl (by decide))]
    exact Window.slice_store_self _ _ _
  · rw [hbehind (by decide)]
    exact slice_answered_of_le b mac _ (by decide)
  · rw [hbehind (by decide), hhardware]
  · rw [hbehind (by decide), hprotocol]
  · rw [hbehind (by decide), hhlen]
  · rw [hbehind (by decide), hplen]
  · rw [hbehind (by decide), hopcode]
  · rw [hbehind (by decide), hsha]
  · rw [hbehind (by decide), hsip]
  · rw [hbehind (by decide), htha]
  · rw [hbehind (by decide), htip]
  · intro a ha
    have hoff : (answered b mac dm.tapIpAddr.toNat).off = b.off := rfl
    rw [Window.mem_store_of_notMem _ _ _ (by simp [hoff]; omega),
      Window.mem_store_of_notMem _ _ _ (by simp [hoff]; omega),
      mem_answered b mac _ (by omega)]

end Handler

/-- **ARP requests for the TAP address are answered**, on the port they came from and with the
address of that port; every other request, and every frame that is neither a request nor a reply,
is dropped as it is. -/
theorem arpHandler_answers (dm : DataPlaneManager) (b : Window) (recvPort : ℕ) :
    (∀ mac, htons (arpOpcode b ETH_HLEN) = 1 → arpTip b ETH_HLEN = dm.tapIpAddr.toNat →
      dm.lportMac[recvPort]? = some mac →
        (dm.arpHandler b recvPort).1 = recvPort ∧
          ArpAnswer mac dm.tapIpAddr b (dm.arpHandler b recvPort).2) ∧
    (htons (arpOpcode b ETH_HLEN) = 1 → arpTip b ETH_HLEN ≠ dm.tapIpAddr.toNat →
      dm.arpHandler b recvPort = (DROP, b)) ∧
    (htons (arpOpcode b ETH_HLEN) ≠ 1 → htons (arpOpcode b ETH_HLEN) ≠ 2 →
      dm.arpHandler b recvPort = (DROP, b)) := by
  refine ⟨fun mac hop htip hmac => ?_, fun hop htip => ?_, fun hrequest hreply => ?_⟩
  · exact ⟨DataPlaneManager.arpHandler_of_asksForTap ⟨hop, htip⟩ recvPort,
      arpAnswer_of_asksForTap ⟨hop, htip⟩ hmac⟩
  · refine DataPlaneManager.arpHandler_of_neither (fun hask => htip hask.2) ?_ recvPort
    intro hreply
    exact absurd (hop.symm.trans hreply) (by decide)
  · exact DataPlaneManager.arpHandler_of_neither (fun hask => hrequest hask.1) hreply recvPort

/-- The theorem at a request for `1.0.0.0`. -/
theorem arpHandler_answers_arpFrame :
    ArpAnswer default 1 (arpFrame 1 1)
      (DataPlaneManager.arpHandler ⟨false, ∅, 1, default, [default]⟩ (arpFrame 1 1) 0).2 :=
  ((arpHandler_answers ⟨false, ∅, 1, default, [default]⟩ (arpFrame 1 1) 0).1 default (by decide)
    (by decide) rfl).2

end UdxFastpath
