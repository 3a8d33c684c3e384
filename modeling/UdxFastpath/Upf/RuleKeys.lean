import UdxFastpath.Foundation.SearchTree
import UdxFastpath.Upf.Processor
import Mathlib.Data.Prod.Lex

/-!
# The keys of the rule tables

The two rule tables are ordered maps in shared memory, `uplink_map` and `downlink_map`
of `app/upf_gtp.cpp`, compared by the `operator<` of their keys.  The control plane
fills them and `packet_processor` looks rules up; the two agree on nothing but that
operator.

Each operator compares field by field and is a **lexicographic** order
(`uplinkLt_iff`, `downlinkLt_iff`), so a strict total one, and the maps are tables by
keys whatever was inserted in whatever order (`ruleKeys_apart`).
-/

namespace UdxFastpath.Upf

open SearchTree ByteWindow

/-! ## The operators -/

/-- `pdi_info_uplink::operator<`. -/
def PdiInfoUplink.lt (lhs rhs : PdiInfoUplink) : Bool :=
  if lhs.srcIface ≠ rhs.srcIface then lhs.srcIface < rhs.srcIface
  else if lhs.ueIpAddr ≠ rhs.ueIpAddr then lhs.ueIpAddr < rhs.ueIpAddr
  else if lhs.teid ≠ rhs.teid then lhs.teid < rhs.teid
  else lhs.qfi < rhs.qfi

/-- `pdi_info_downlink::operator<`. -/
def PdiInfoDownlink.lt (lhs rhs : PdiInfoDownlink) : Bool :=
  if lhs.srcIface ≠ rhs.srcIface then lhs.srcIface < rhs.srcIface
  else lhs.ueDestIpAddr < rhs.ueDestIpAddr

/-! ## The tables in shared memory -/

/-- `uplink_pdi_map` and `downlink_pdi_map`, searched by `packet_processor`. -/
def sharedTables (uplinkPdiMap : SearchTree (PdiInfoUplink × PdrValue))
    (downlinkPdiMap : SearchTree (PdiInfoDownlink × PdrValue)) : RuleTables where
  uplink := fun mapKey => (find PdiInfoUplink.lt mapKey uplinkPdiMap).map Prod.snd
  downlink := fun mapKey => (find PdiInfoDownlink.lt mapKey downlinkPdiMap).map Prod.snd

/-- The key a frame is looked up by, if it is. -/
def lookupKey (b : Window) : Option (PdiInfoUplink ⊕ PdiInfoDownlink) :=
  let classified := getPacketType b ⟨0, 0, 0⟩
  match classified.1 with
  | .l4Udp => some (.inr (downlinkKey b classified.2))
  | .gtp =>
      let parsed := parseGtphdr b (gtpStart classified.2)
      parsed.gtphdr.map fun gtphdr =>
        .inl (uplinkKey b gtphdr (gtpStart classified.2 + parsed.len.toNat) parsed.pdu)
  | _ => none

/-- The rule under a key of either kind. -/
def RuleTables.rule (tables : RuleTables) : PdiInfoUplink ⊕ PdiInfoDownlink → Option PdrValue
  | .inl mapKey => tables.uplink mapKey
  | .inr mapKey => tables.downlink mapKey

/-- A frame matches what is under its key. -/
theorem matchedRule_eq (tables : RuleTables) (b : Window) :
    matchedRule tables b = (lookupKey b).bind tables.rule := by
  unfold matchedRule lookupKey
  obtain ⟨ptype, lens⟩ := getPacketType b ⟨0, 0, 0⟩
  cases ptype with
  | l4Udp => rfl
  | gtp =>
      cases hparsed : (parseGtphdr b (gtpStart lens)).gtphdr <;>
        simp [hparsed, RuleTables.rule]
  | _ => rfl

/-! ## Order -/

/-- A comparison orders keys strictly, and keys it does not tell apart have the same fields. -/
structure OrdersFields {κ : Type*} (lt : κ → κ → Bool) (sameFields : κ → κ → Prop) : Prop where
  irrefl : ∀ k, ¬ lt k k = true
  trans : ∀ k l m, lt k l = true → lt l m = true → lt k m = true
  trichotomy : ∀ k l, lt k l = true ∨ lt l k = true ∨ sameFields k l

/-- What a map does for its keys: it finds what was stored under the same key; that is decided by
the insertions under this very key; and no entry is found under two keys. -/
structure KeepsApart {κ α : Type*} [DecidableEq κ] (lt : κ → κ → Bool)
    (ops : List (Insertion κ α)) (t : SearchTree (κ × α)) : Prop where
  found : ∀ k, find lt k t = (stored ops k).map (k, ·)
  own : ∀ k, stored (ops.filter fun op => op.key = k) k = stored ops k
  apart : ∀ k l entry, find lt k t = some entry → find lt l t = some entry → k = l

def PdiInfoUplink.SameFields (k l : PdiInfoUplink) : Prop :=
  k.srcIface = l.srcIface ∧ k.ueIpAddr = l.ueIpAddr ∧ k.teid = l.teid ∧ k.qfi = l.qfi

def PdiInfoDownlink.SameFields (k l : PdiInfoDownlink) : Prop :=
  k.srcIface = l.srcIface ∧ k.ueDestIpAddr = l.ueDestIpAddr

/-- The fields of a key in the order they are compared. -/
def PdiInfoUplink.fields (k : PdiInfoUplink) : ℕ ×ₗ ℕ ×ₗ ℕ ×ₗ ℕ :=
  toLex (k.srcIface.toNat, toLex (k.ueIpAddr.toNat, toLex (k.teid.toNat, k.qfi.toNat)))

def PdiInfoDownlink.fields (k : PdiInfoDownlink) : ℕ ×ₗ ℕ :=
  toLex (k.srcIface.toNat, k.ueDestIpAddr.toNat)

section Order

theorem PdiInfoUplink.fields_injective : Function.Injective PdiInfoUplink.fields := by
  rintro ⟨s, u, t, q⟩ ⟨s', u', t', q'⟩ h
  simpa [fields, UInt8.toNat_inj, UInt32.toNat_inj] using h

theorem PdiInfoDownlink.fields_injective : Function.Injective PdiInfoDownlink.fields := by
  rintro ⟨s, u⟩ ⟨s', u'⟩ h
  simpa [fields, UInt8.toNat_inj, UInt32.toNat_inj] using h

/-- **The order is lexicographic.** -/
theorem uplinkLt_iff (k l : PdiInfoUplink) : k.lt l = true ↔ k.fields < l.fields := by
  simp only [PdiInfoUplink.fields, Prod.Lex.toLex_lt_toLex, PdiInfoUplink.lt, ne_eq,
    ← UInt8.toNat_inj, ← UInt32.toNat_inj, UInt8.lt_iff_toNat_lt, UInt32.lt_iff_toNat_lt]
  split_ifs <;> simp only [decide_eq_true_eq] <;> omega

theorem downlinkLt_iff (k l : PdiInfoDownlink) : k.lt l = true ↔ k.fields < l.fields := by
  simp only [PdiInfoDownlink.fields, Prod.Lex.toLex_lt_toLex, PdiInfoDownlink.lt, ne_eq,
    ← UInt8.toNat_inj, UInt8.lt_iff_toNat_lt, UInt32.lt_iff_toNat_lt]
  split_ifs <;> simp only [decide_eq_true_eq] <;> omega

instance : IsStrictTotalOrder PdiInfoUplink (PdiInfoUplink.lt · ·) :=
  isStrictTotalOrder_of_lt_iff PdiInfoUplink.fields_injective uplinkLt_iff

instance : IsStrictTotalOrder PdiInfoDownlink (PdiInfoDownlink.lt · ·) :=
  isStrictTotalOrder_of_lt_iff PdiInfoDownlink.fields_injective downlinkLt_iff

end Order

section Maps

variable {κ α : Type*} {lt : κ → κ → Bool} [IsStrictTotalOrder κ (lt · ·)]

/-- A strict total order tells keys apart by their fields. -/
theorem ordersFields_of_isStrictTotalOrder {sameFields : κ → κ → Prop}
    (hrefl : ∀ k, sameFields k k) : OrdersFields lt sameFields where
  irrefl := irrefl_of (lt · ·)
  trans := fun _ _ _ hkl hlm => trans_of (lt · ·) hkl hlm
  trichotomy := by
    intro k l
    by_cases heq : k = l
    · exact .inr (.inr (heq ▸ hrefl k))
    · exact (lt_or_lt_of_ne heq).imp_right .inl

/-- Every map filled under such an order keeps its keys apart. -/
theorem keepsApart_of_filled [DecidableEq κ] {ops : List (Insertion κ α)}
    {t : SearchTree (κ × α)} (h : Filled lt ops t) : KeepsApart lt ops t where
  found := find_of_filled h
  own := stored_filter ops
  apart := by
    intro k l entry hk hl
    rw [find_of_filled h, Option.map_eq_some_iff] at hk hl
    obtain ⟨_, -, rfl⟩ := hk
    obtain ⟨_, -, heq⟩ := hl
    exact (congrArg Prod.fst heq).symm

end Maps

/-- The rule stored under a key of either kind. -/
def storedRule (up : List (Insertion PdiInfoUplink PdrValue))
    (down : List (Insertion PdiInfoDownlink PdrValue)) :
    PdiInfoUplink ⊕ PdiInfoDownlink → Option PdrValue
  | .inl mapKey => stored up mapKey
  | .inr mapKey => stored down mapKey

/-- **Rule keys are totally ordered by their fields, and sessions never share a rule.**  Both
operators order strictly and tell keys with different fields apart; so whatever was inserted into
the two maps, in whatever order and however the trees were turned, a key finds the rule stored
under the same fields and no other, and a frame matches the rule stored under its key. -/
theorem ruleKeys_apart (up : List (Insertion PdiInfoUplink PdrValue))
    (down : List (Insertion PdiInfoDownlink PdrValue))
    (uplinkPdiMap : SearchTree (PdiInfoUplink × PdrValue))
    (downlinkPdiMap : SearchTree (PdiInfoDownlink × PdrValue))
    (hup : Filled PdiInfoUplink.lt up uplinkPdiMap)
    (hdown : Filled PdiInfoDownlink.lt down downlinkPdiMap) :
    OrdersFields PdiInfoUplink.lt PdiInfoUplink.SameFields ∧
      OrdersFields PdiInfoDownlink.lt PdiInfoDownlink.SameFields ∧
      KeepsApart PdiInfoUplink.lt up uplinkPdiMap ∧
      KeepsApart PdiInfoDownlink.lt down downlinkPdiMap ∧
      ∀ b, matchedRule (sharedTables uplinkPdiMap downlinkPdiMap) b =
        (lookupKey b).bind (storedRule up down) := by
  have hupApart := keepsApart_of_filled hup
  have hdownApart := keepsApart_of_filled hdown
  refine ⟨ordersFields_of_isStrictTotalOrder fun _ => ⟨rfl, rfl, rfl, rfl⟩,
    ordersFields_of_isStrictTotalOrder fun _ => ⟨rfl, rfl⟩, hupApart, hdownApart, fun b => ?_⟩
  rw [matchedRule_eq]
  congr 1
  funext key
  cases key with
  | inl mapKey =>
      simp only [RuleTables.rule, sharedTables, storedRule, hupApart.found]
      cases stored up mapKey <;> rfl
  | inr mapKey =>
      simp only [RuleTables.rule, sharedTables, storedRule, hdownApart.found]
      cases stored down mapKey <;> rfl

/-- An uplink key of one user and tunnel, for a QoS flow. -/
def flowKey (qfi : UInt8) : PdiInfoUplink := ⟨0, 0x0A000001, 7, qfi⟩

/-- A rule with a mark to tell it by. -/
def markedRule (pdrMask : UInt32) : PdrValue := ⟨pdrMask, 0, ⟨0, fun _ => 0⟩, 0⟩

/-- The theorem at two flows of one tunnel, in a tree turned after the second insertion. -/
theorem ruleKeys_apart_flows :
    let uplinkPdiMap :=
      node (node leaf (flowKey 5, markedRule 1) leaf) (flowKey 9, markedRule 2) leaf
    find PdiInfoUplink.lt (flowKey 5) uplinkPdiMap = some (flowKey 5, markedRule 1) ∧
      find PdiInfoUplink.lt (flowKey 9) uplinkPdiMap = some (flowKey 9, markedRule 2) := by
  intro uplinkPdiMap
  have hfirst : Filled PdiInfoUplink.lt ([] ++ [.insert (flowKey 5) (markedRule 1)])
      (node leaf (flowKey 5, markedRule 1) leaf) := .step _ .empty rfl
  have hup : Filled PdiInfoUplink.lt
      ([] ++ [.insert (flowKey 5) (markedRule 1)] ++ [.insert (flowKey 9) (markedRule 2)])
      uplinkPdiMap := .step _ hfirst rfl
  obtain ⟨-, -, huplink, -⟩ := ruleKeys_apart _ [] uplinkPdiMap leaf hup .empty
  exact ⟨huplink.found (flowKey 5), huplink.found (flowKey 9)⟩

end UdxFastpath.Upf
