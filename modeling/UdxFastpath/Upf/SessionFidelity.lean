import UdxFastpath.Upf.Encapsulation
import Mathlib.Tactic.Tauto

/-!
# Session fidelity of the downlink tunnel

A rule that creates an outer header names a **tunnel endpoint**: the address of
the node behind which the user sits, and the TEID that tells the users behind
one node apart.  The endpoint of an emitted packet is read off its bytes the way
that node reads it, `emittedEndpoint`, and fidelity says it is the rule's.

The encapsulator takes two things from its surroundings and only one of them
from the rule:

* the destination address is the constant `fixedOuterAddr`, whatever the rule
  says;
* the TEID is the rule's, but stored in **host order**, so that a receiver sees
  its bytes reversed.

Reversing bytes loses nothing, and a constant loses everything: two users are
kept apart exactly when their TEIDs are.
-/

namespace UdxFastpath.Upf

open ByteWindow

/-- `0xc0a80201`, the destination address of every outer header. -/
def fixedOuterAddr : Fin 4 → UInt8 := fun i => [0xc0, 0xa8, 0x02, 0x01].getD i 0

/-- The tunnel endpoint of an encapsulated packet, as its receiver reads it: the
destination address of the outer IPv4 header and the TEID in network order. -/
def emittedEndpoint (c : Window) : OutHdrCreatn where
  teid := UInt32.ofNat (c.loadBE32 46)
  ipv4Addr := fun i => c.byte (30 + i)

/-- The TEID with its four bytes reversed. -/
def swapTeid (teid : UInt32) : UInt32 := UInt32.ofNat (swap32 teid.toNat)

@[simp] theorem toNat_swapTeid (teid : UInt32) : (swapTeid teid).toNat = swap32 teid.toNat :=
  UInt32.toNat_ofNat_of_lt' (swap32_lt _)

/-- Reversing twice gives the TEID back, so no two are confused. -/
theorem swapTeid_injective : Function.Injective swapTeid := by
  intro teid teid' h
  have hswap : swap32 teid.toNat = swap32 teid'.toNat := by
    rw [← toNat_swapTeid, h, toNat_swapTeid]
  apply UInt32.toNat.inj
  rw [← swap32_swap32 teid.toNat_lt, hswap, swap32_swap32 teid'.toNat_lt]

/-! ## What is emitted -/

section Emitted

variable {tables : RuleTables} {b c : Window} {rule : PdrValue} {app : ApplicationInfo}
  {recvLport verdict : ℕ}

/-- A run that ends has pushed the outer header: short of headroom there is no
result at all. -/
theorem pushed_of_ok (h : Encapsulates tables b rule)
    (hrun : packetProcessor (some app) tables b recvLport = .ok (verdict, c)) :
    Pushed b c (outerHeader app rule.ohc.teid b.len b.before) := by
  by_cases hroom : 58 ≤ b.off
  · obtain ⟨d, hd, hp⟩ := packetProcessor_pushes app recvLport h hroom
    obtain ⟨-, rfl⟩ := Prod.mk.inj (Except.ok.inj (hd.symm.trans hrun))
    exact hp
  · rw [packetProcessor_of_encapsulates app recvLport h,
      (encapsulate_pushes app rule.ohc.teid).fault b (by omega)] at hrun
    cases hrun

/-- **The emitted endpoint**: the constant address, and the rule's TEID reversed. -/
theorem emittedEndpoint_of_ok (h : Encapsulates tables b rule)
    (hrun : packetProcessor (some app) tables b recvLport = .ok (verdict, c)) :
    emittedEndpoint c = ⟨swapTeid rule.ohc.teid, fixedOuterAddr⟩ := by
  have hp := pushed_of_ok h hrun
  have hteid : c.loadLE32 46 = rule.ohc.teid.toNat := by
    refine Window.loadLE32_of_le32 (fun k hk => ?_) rule.ohc.teid.toNat_lt
    replace hk : k < 4 := hk
    interval_cases k <;> exact byte_outerHeader hp (by decide)
  have haddr : (fun i : Fin 4 => c.byte (30 + i)) = fixedOuterAddr := by
    funext ⟨i, hi⟩
    refine (byte_outerHeader hp (show 30 + i < 58 by omega)).trans ?_
    interval_cases i <;> rfl
  rw [emittedEndpoint, ← Window.swap32_loadLE32, hteid, haddr]
  rfl

end Emitted

/-! ## Fidelity -/

section Fidelity

variable {tables : RuleTables} {b b' c c' : Window} {rule rule' : PdrValue} {app : ApplicationInfo}
  {recvLport recvLport' verdict verdict' : ℕ}

/-- A packet carries the endpoint of its rule exactly when the rule names the
constant address and a TEID that reads the same in both byte orders. -/
theorem emittedEndpoint_eq_iff (h : Encapsulates tables b rule)
    (hrun : packetProcessor (some app) tables b recvLport = .ok (verdict, c)) :
    emittedEndpoint c = rule.ohc ↔
      rule.ohc.ipv4Addr = fixedOuterAddr ∧ swapTeid rule.ohc.teid = rule.ohc.teid := by
  rw [emittedEndpoint_of_ok h hrun, OutHdrCreatn.ext_iff]
  constructor
  · rintro ⟨hteid, haddr⟩
    exact ⟨haddr.symm, hteid⟩
  · rintro ⟨haddr, hteid⟩
    exact ⟨hteid, haddr.symm⟩

/-- Two packets are emitted to one endpoint exactly when their rules have one
TEID. -/
theorem emittedEndpoint_eq_emittedEndpoint_iff (h : Encapsulates tables b rule)
    (hrun : packetProcessor (some app) tables b recvLport = .ok (verdict, c))
    (h' : Encapsulates tables b' rule')
    (hrun' : packetProcessor (some app) tables b' recvLport' = .ok (verdict', c')) :
    emittedEndpoint c = emittedEndpoint c' ↔ rule.ohc.teid = rule'.ohc.teid := by
  rw [emittedEndpoint_of_ok h hrun, emittedEndpoint_of_ok h' hrun', OutHdrCreatn.mk.injEq,
    and_iff_left rfl]
  exact swapTeid_injective.eq_iff

/-- **Session fidelity, exactly.**  For any two downlink frames forwarded with outer
header creation: the first carries its rule's endpoint exactly when that is the
constant address with a TEID that is its own reversal, and frames whose rules name
different endpoints are emitted to different endpoints exactly when the TEIDs
differ. -/
theorem sessionFidelity_iff (h : Encapsulates tables b rule)
    (hrun : packetProcessor (some app) tables b recvLport = .ok (verdict, c))
    (h' : Encapsulates tables b' rule')
    (hrun' : packetProcessor (some app) tables b' recvLport' = .ok (verdict', c')) :
    (emittedEndpoint c = rule.ohc ↔
        rule.ohc.ipv4Addr = fixedOuterAddr ∧ swapTeid rule.ohc.teid = rule.ohc.teid) ∧
      ((rule.ohc ≠ rule'.ohc → emittedEndpoint c ≠ emittedEndpoint c') ↔
        (rule.ohc.ipv4Addr ≠ rule'.ohc.ipv4Addr → rule.ohc.teid ≠ rule'.ohc.teid)) := by
  refine ⟨emittedEndpoint_eq_iff h hrun, ?_⟩
  rw [Ne, Ne, emittedEndpoint_eq_emittedEndpoint_iff h hrun h' hrun', OutHdrCreatn.ext_iff]
  tauto

end Fidelity

/-! ## Two users behind two nodes -/

/-- A forwarding rule for the tunnel endpoint `addr`, `teid`. -/
def endpointRule (addr : Fin 4 → UInt8) (teid : UInt32) : PdrValue :=
  ⟨0, UPF_FAR_MASK_OHC, ⟨teid, addr⟩, PFCP_APPLY_ACTION_FORW_MASK⟩

/-- The node `10.0.0.n`. -/
def node (n : UInt8) : Fin 4 → UInt8 := fun i => [10, 0, 0, n].getD i 0

/-- User `0.0.0.0` sits behind node `10.0.0.1` and everybody else behind `10.0.0.2`;
the two nodes chose the same TEID, one that is its own reversal. -/
def twoNodes : RuleTables where
  uplink := fun _ => none
  downlink := fun key =>
    some (endpointRule (node (if key.ueDestIpAddr = 0 then 1 else 2)) 0x07000007)

/-- A downlink frame for the user `0.0.0.n`. -/
def frameTo (n : UInt8) : Window := (udpFrame 80).store 30 [0, 0, 0, n]

theorem encapsulates_frameTo_zero :
    Encapsulates twoNodes (frameTo 0) (endpointRule (node 1) 0x07000007) :=
  ⟨by decide, rfl, by decide, by decide⟩

theorem encapsulates_frameTo_one :
    Encapsulates twoNodes (frameTo 1) (endpointRule (node 2) 0x07000007) :=
  ⟨by decide, rfl, by decide, by decide⟩

/-- **Two nodes, one endpoint.**  The frames for the two users are emitted to the
same address and TEID, and that address is neither node's. -/
theorem twoNodes_confused :
    ∃ c c', packetProcessor (some default) twoNodes (frameTo 0) 0 = .ok (1, c) ∧
      packetProcessor (some default) twoNodes (frameTo 1) 0 = .ok (1, c') ∧
      (endpointRule (node 1) 0x07000007).ohc ≠ (endpointRule (node 2) 0x07000007).ohc ∧
      emittedEndpoint c ≠ (endpointRule (node 1) 0x07000007).ohc ∧
      emittedEndpoint c = emittedEndpoint c' := by
  obtain ⟨c, hrun, -⟩ :=
    packetProcessor_pushes default 0 encapsulates_frameTo_zero (by decide)
  obtain ⟨c', hrun', -⟩ :=
    packetProcessor_pushes default 0 encapsulates_frameTo_one (by decide)
  have hnode : node 1 ≠ node 2 := fun h => absurd (congrFun h 3) (by decide)
  have hfixed : node 1 ≠ fixedOuterAddr := fun h => absurd (congrFun h 0) (by decide)
  refine ⟨c, c', hrun, hrun', fun h => hnode (OutHdrCreatn.ext_iff.mp h).2, ?_, ?_⟩
  · exact fun h => hfixed ((emittedEndpoint_eq_iff encapsulates_frameTo_zero hrun).mp h).1
  · exact (emittedEndpoint_eq_emittedEndpoint_iff encapsulates_frameTo_zero hrun
      encapsulates_frameTo_one hrun').mpr rfl

/-- The iff at a rule that names the constant address. -/
theorem sessionFidelity_fixed :
    ∃ c, packetProcessor (some default) (uniformTables (endpointRule fixedOuterAddr 0x07000007))
        (udpFrame 80) 0 = .ok (1, c) ∧
      emittedEndpoint c = ⟨0x07000007, fixedOuterAddr⟩ := by
  have henc : Encapsulates (uniformTables (endpointRule fixedOuterAddr 0x07000007)) (udpFrame 80)
      (endpointRule fixedOuterAddr 0x07000007) :=
    ⟨by decide, rfl, by decide, by decide⟩
  obtain ⟨c, hrun, -⟩ := packetProcessor_pushes default 0 henc (by decide)
  exact ⟨c, hrun, (sessionFidelity_iff henc hrun henc hrun).1.mpr ⟨rfl, by decide⟩⟩

end UdxFastpath.Upf
