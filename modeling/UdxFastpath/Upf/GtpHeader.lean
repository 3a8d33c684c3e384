import UdxFastpath.Upf.Processor

/-!
# The GTPv1-U header format and its parser

The header format on its own — flags, the optional block, the chain of extension
headers — and what `parse_gtphdr` makes of it.

A header that has any of the flags `E`, `S`, `PN` carries a four-byte optional block
behind its first eight bytes; with `E` the last byte of that block names the type
of the first extension header.  An extension header starts with its own length in
units of four bytes and ends with the type of the next one, `0` closing the chain.

The parser looks at none of the flags and at none of the lengths.  It takes the
optional block for granted, follows the chain for one step, and adds eight bytes
for a downlink container and four for an uplink one.  `Measurable` collects the
headers for which that gives the right answer.
-/

namespace UdxFastpath.Upf

open ByteWindow

/-! ## The format -/

/-- An extension header: the type it is announced with, its length in units of four
bytes, and what lies between the length and the next type. -/
structure ExtHdr where
  type : UInt8
  units : ℕ
  body : List UInt8
  type_ne : type ≠ E_GTP_EXT_HDR_NO_MORE_EXTENSION_HEADERS
  units_pos : 1 ≤ units
  units_lt : units < 256
  body_length : body.length + 2 = 4 * units

/-- The PDU type of a PDU session container: the high nibble of its second byte. -/
def ExtHdr.pduType (x : ExtHdr) : ℕ := (x.body.headD 0).toNat / 16

/-- A PDU session container of one of its two types, downlink (0) and uplink (1). -/
def ExtHdr.IsContainer (x : ExtHdr) : Prop :=
  x.type = E_GTP_EXT_HDR_PDU_SESSION_CONTAINER ∧ (x.pduType = 0 ∨ x.pduType = 1)

instance (x : ExtHdr) : Decidable x.IsContainer := inferInstanceAs (Decidable (_ ∧ _))

/-- The type announced in front of a chain. -/
def nextType : List ExtHdr → UInt8
  | [] => E_GTP_EXT_HDR_NO_MORE_EXTENSION_HEADERS
  | x :: _ => x.type

/-- The bytes of a chain. -/
def encodeExts : List ExtHdr → List UInt8
  | [] => []
  | x :: rest => UInt8.ofNat x.units :: x.body ++ nextType rest :: encodeExts rest

/-- The length of a chain in units of four bytes. -/
def totalUnits (exts : List ExtHdr) : ℕ := (exts.map ExtHdr.units).sum

/-- A GTPv1-U header.  Without `E` the last byte of the optional block means nothing
and may hold anything: `idleType`. -/
structure GtpHdr where
  e : Bool
  s : Bool
  pn : Bool
  msgType : UInt8
  length : UInt16
  teid : UInt32
  seqNo : UInt16
  npduNum : UInt8
  idleType : UInt8
  exts : List ExtHdr
  exts_eq_nil : e = false → exts = []

namespace GtpHdr

/-- The optional block is there when any of the three flags is. -/
def hasOptional (h : GtpHdr) : Bool := h.e || h.s || h.pn

/-- Version 1, protocol type GTP, and the three flags. -/
def flags (h : GtpHdr) : UInt8 :=
  GTP_V1_MASK ||| PT_MASK ||| (if h.e then GTP_E_MASK else 0) |||
    (if h.s then GTP_S_MASK else 0) ||| (if h.pn then GTP_PN_MASK else 0)

/-- The last byte of the optional block. -/
def nextOctet (h : GtpHdr) : UInt8 := if h.e then nextType h.exts else h.idleType

/-- The first eight bytes. -/
def mandatory (h : GtpHdr) : List UInt8 :=
  [h.flags, h.msgType] ++ (le16 h.length.toNat).reverse ++ (le32 h.teid.toNat).reverse

/-- The header on the wire. -/
def encode (h : GtpHdr) : List UInt8 :=
  h.mandatory ++
    if h.hasOptional then
      (le16 h.seqNo.toNat).reverse ++ [h.npduNum, h.nextOctet] ++ encodeExts h.exts
    else []

/-- Where the T-PDU starts: behind eight bytes, or behind twelve and the chain. -/
def tpduOffset (h : GtpHdr) : ℕ := if h.hasOptional then 12 + 4 * totalUnits h.exts else 8

end GtpHdr

theorem length_encodeExts (exts : List ExtHdr) :
    (encodeExts exts).length = 4 * totalUnits exts := by
  induction exts with
  | nil => rfl
  | cons x rest ih =>
      have hbody := x.body_length
      simp only [encodeExts, totalUnits, List.length_append, List.length_cons, List.map_cons,
        List.sum_cons] at ih ⊢
      omega

/-- The offset the format prescribes is the length of what is on the wire. -/
theorem GtpHdr.length_encode (h : GtpHdr) : h.encode.length = h.tpduOffset := by
  simp only [encode, tpduOffset, mandatory, List.length_append]
  split
  · simp only [List.length_append, length_encodeExts, List.length_reverse, length_le16, length_le32,
      List.length_cons, List.length_nil]
    omega
  · rfl

/-- The window holds `bs` at offset `p`. -/
def HeldAt (b : Window) (p : ℕ) (bs : List UInt8) : Prop :=
  ∀ i (hi : i < bs.length), b.byte (p + i) = bs[i]

/-- A byte of the header, by its position in what is held. -/
theorem HeldAt.byte_eq {b : Window} {p : ℕ} {bs : List UInt8} (held : HeldAt b p bs) {i : ℕ}
    {x : UInt8} (h : bs[i]? = some x) : b.byte (p + i) = x := by
  obtain ⟨hi, hx⟩ := List.getElem?_eq_some_iff.mp h
  rw [held i hi, hx]

section Positions

variable {b : Window} {p : ℕ} {h : GtpHdr}

/-- With the optional block present, the parser finds the announced type. -/
theorem byte_nextOctet (held : HeldAt b p h.encode) (hopt : h.hasOptional = true) :
    b.byte (p + 11) = h.nextOctet := by
  refine held.byte_eq ?_
  simp [GtpHdr.encode, GtpHdr.mandatory, hopt, le16, le32]

/-- With an extension header present, the parser finds its PDU type. -/
theorem byte_pduType (held : HeldAt b p h.encode) (hopt : h.hasOptional = true) {x : ExtHdr}
    {rest : List ExtHdr} (hexts : h.exts = x :: rest) :
    (b.byte (p + 13)).toNat / 16 = x.pduType := by
  have hbody := x.body_length
  have hpos := x.units_pos
  obtain ⟨first, tail, hx⟩ : ∃ first tail, x.body = first :: tail :=
    List.exists_cons_of_length_pos (by omega)
  have hbyte : b.byte (p + 13) = first := by
    refine held.byte_eq ?_
    simp [GtpHdr.encode, GtpHdr.mandatory, hopt, le16, le32, hexts, encodeExts, hx]
  rw [hbyte, ExtHdr.pduType, hx, List.headD_cons]

end Positions

/-! ## What the parser computes -/

/-- **The parser in closed form.**  Two bytes decide everything: the type byte of the
optional block and, if it announces a container, the byte with its PDU type. -/
theorem parseGtphdr_cases (b : Window) (p : ℕ) :
    (b.byte (p + 11) = E_GTP_EXT_HDR_NO_MORE_EXTENSION_HEADERS ∧
      (parseGtphdr b p).gtphdr = some p ∧ (parseGtphdr b p).len = 12) ∨
    (b.byte (p + 11) = E_GTP_EXT_HDR_PDU_SESSION_CONTAINER ∧ (b.byte (p + 13)).toNat / 16 = 0 ∧
      (parseGtphdr b p).gtphdr = some p ∧ (parseGtphdr b p).len = 20) ∨
    (b.byte (p + 11) = E_GTP_EXT_HDR_PDU_SESSION_CONTAINER ∧ (b.byte (p + 13)).toNat / 16 = 1 ∧
      (parseGtphdr b p).gtphdr = some p ∧ (parseGtphdr b p).len = 16) ∨
    (b.byte (p + 11) ≠ E_GTP_EXT_HDR_NO_MORE_EXTENSION_HEADERS ∧
      (b.byte (p + 11) = E_GTP_EXT_HDR_PDU_SESSION_CONTAINER →
        (b.byte (p + 13)).toNat / 16 ≠ 0 ∧ (b.byte (p + 13)).toNat / 16 ≠ 1) ∧
      (parseGtphdr b p).gtphdr = none) := by
  have hne : ¬ E_GTP_EXT_HDR_PDU_SESSION_CONTAINER = E_GTP_EXT_HDR_NO_MORE_EXTENSION_HEADERS := by
    decide
  simp only [parseGtphdr, parseExtensions]
  by_cases hzero : b.byte (p + 11) = E_GTP_EXT_HDR_NO_MORE_EXTENSION_HEADERS
  · exact .inl ⟨hzero, by simp [hzero], by simp [hzero]⟩
  by_cases htype : b.byte (p + 11) = E_GTP_EXT_HDR_PDU_SESSION_CONTAINER
  · simp only [htype, hne, if_false, if_true, true_and]
    split
    · rename_i hpdu
      exact .inr (.inl ⟨hpdu, rfl, rfl⟩)
    · rename_i hpdu
      exact .inr (.inr (.inl ⟨hpdu, rfl, rfl⟩))
    · rename_i hdown hup
      exact .inr (.inr (.inr ⟨hne, fun _ => ⟨hdown, hup⟩, rfl⟩))
  · rw [if_neg hzero, if_neg htype]
    exact .inr (.inr (.inr ⟨hzero, fun hcon => absurd hcon htype, rfl⟩))

/-- What a parser of this format owes a header held at `p`: the offset of the T-PDU
when the chain consists of PDU session containers, a null pointer otherwise. -/
def Measured (h : GtpHdr) (b : Window) (p : ℕ) : Prop :=
  if ∀ x ∈ h.exts, x.IsContainer then
    (parseGtphdr b p).gtphdr = some p ∧ (parseGtphdr b p).len = h.tpduOffset
  else (parseGtphdr b p).gtphdr = none

/-- The headers the parser gets right.  The optional block must be there, and be
idle when it is not used; a chain that starts with a container must consist of
containers and be two units long if the first one is downlink, one unit if it is
uplink. -/
structure Measurable (h : GtpHdr) : Prop where
  optional : h.hasOptional = true
  idle : h.e = false → h.idleType = E_GTP_EXT_HDR_NO_MORE_EXTENSION_HEADERS
  chain : ∀ x rest, h.exts = x :: rest → x.IsContainer →
    (∀ y ∈ rest, y.IsContainer) ∧ totalUnits h.exts = if x.pduType = 0 then 2 else 1

/-- Without the optional block the answer is never right: the parser starts counting
at twelve. -/
theorem not_measured_of_bare {h : GtpHdr} (hopt : h.hasOptional = false) (b : Window) (p : ℕ) :
    ¬ Measured h b p := by
  have he : h.e = false := by
    simp only [GtpHdr.hasOptional, Bool.or_eq_false_iff] at hopt
    exact hopt.1.1
  have hall : ∀ x ∈ h.exts, x.IsContainer := by simp [h.exts_eq_nil he]
  rw [Measured, if_pos hall, GtpHdr.tpduOffset, hopt]
  rintro ⟨hsome, hlen⟩
  rcases parseGtphdr_cases b p with ⟨-, -, h'⟩ | ⟨-, -, -, h'⟩ | ⟨-, -, -, h'⟩ | ⟨-, -, h'⟩
  · simp [h'] at hlen
  · simp [h'] at hlen
  · simp [h'] at hlen
  · simp [h'] at hsome

/-- With the block present and no chain behind it the answer is right when the type
byte is zero. -/
theorem measured_iff_of_nil {h : GtpHdr} {b : Window} {p : ℕ} (held : HeldAt b p h.encode)
    (hopt : h.hasOptional = true) (hnil : h.exts = []) :
    Measured h b p ↔ h.nextOctet = E_GTP_EXT_HDR_NO_MORE_EXTENSION_HEADERS := by
  have hne : ¬ E_GTP_EXT_HDR_PDU_SESSION_CONTAINER = E_GTP_EXT_HDR_NO_MORE_EXTENSION_HEADERS := by
    decide
  have hall : ∀ x ∈ h.exts, x.IsContainer := by simp [hnil]
  have hoffset : h.tpduOffset = 12 := by simp [GtpHdr.tpduOffset, hopt, hnil, totalUnits]
  rw [Measured, if_pos hall, hoffset, ← byte_nextOctet held hopt]
  rcases parseGtphdr_cases b p with
    ⟨ht, h', h''⟩ | ⟨ht, -, h', h''⟩ | ⟨ht, -, h', h''⟩ | ⟨ht, -, h'⟩
  · simp [ht, h', h'']
  · simp [ht, hne, h'']
  · simp [ht, hne, h'']
  · simp [ht, h']

/-- A parser that skipped one container and counted `n` units for it is right when the
rest are containers too and the whole chain is `n` units long. -/
theorem measured_iff_of_skipped {h : GtpHdr} {b : Window} {p n : ℕ} {x : ExtHdr}
    {rest : List ExtHdr} (hexts : h.exts = x :: rest) (hopt : h.hasOptional = true)
    (hx : x.IsContainer) (hsome : (parseGtphdr b p).gtphdr = some p)
    (hlen : (parseGtphdr b p).len = 12 + 4 * n) :
    Measured h b p ↔ (∀ y ∈ rest, y.IsContainer) ∧ totalUnits h.exts = n := by
  have hall : (∀ y ∈ h.exts, y.IsContainer) ↔ ∀ y ∈ rest, y.IsContainer := by
    rw [hexts, List.forall_mem_cons, and_iff_right hx]
  have hoffset : h.tpduOffset = 12 + 4 * totalUnits h.exts := by
    rw [GtpHdr.tpduOffset, hopt, if_pos rfl]
  by_cases hrest : ∀ y ∈ rest, y.IsContainer
  · rw [Measured, if_pos (hall.mpr hrest), hoffset, hlen]
    constructor
    · rintro ⟨-, heq⟩
      exact ⟨hrest, by omega⟩
    · rintro ⟨-, hn⟩
      exact ⟨hsome, by omega⟩
  · rw [Measured, if_neg (mt hall.mp hrest), hsome]
    refine ⟨fun hcon => ?_, fun hcon => absurd hcon.1 hrest⟩
    cases hcon

/-- For a chain the parser's one step has to be the whole of it, in length. -/
theorem measured_iff_of_chain {h : GtpHdr} {b : Window} {p : ℕ} (held : HeldAt b p h.encode)
    {x : ExtHdr} {rest : List ExtHdr} (hexts : h.exts = x :: rest) (he : h.e = true) :
    Measured h b p ↔ (x.IsContainer →
      (∀ y ∈ rest, y.IsContainer) ∧ totalUnits h.exts = if x.pduType = 0 then 2 else 1) := by
  have hopt : h.hasOptional = true := by simp [GtpHdr.hasOptional, he]
  have htype := byte_nextOctet held hopt
  rw [GtpHdr.nextOctet, he, if_pos rfl, hexts, nextType] at htype
  have hpdu := byte_pduType held hopt hexts
  have hcases := parseGtphdr_cases b p
  rw [htype, hpdu] at hcases
  rcases hcases with ⟨hcon, -⟩ | ⟨ht, hk, hsome, hlen⟩ | ⟨ht, hk, hsome, hlen⟩ | ⟨-, hno, hnone⟩
  · exact absurd hcon x.type_ne
  · have hx : x.IsContainer := ⟨ht, .inl hk⟩
    rw [measured_iff_of_skipped hexts hopt hx hsome (n := 2) (by rw [hlen]; rfl), hk, if_pos rfl]
    exact ⟨fun h _ => h, fun h => h hx⟩
  · have hx : x.IsContainer := ⟨ht, .inr hk⟩
    rw [measured_iff_of_skipped hexts hopt hx hsome (n := 1) (by rw [hlen]; rfl), hk,
      if_neg one_ne_zero]
    exact ⟨fun h _ => h, fun h => h hx⟩
  · have hx : ¬ x.IsContainer := by
      rintro ⟨ht, hk | hk⟩
      · exact (hno ht).1 hk
      · exact (hno ht).2 hk
    -- unsupported from the start: rejected, as it should be
    rw [Measured, if_neg fun hcon => hx (hcon x (by rw [hexts]; exact List.mem_cons_self))]
    exact ⟨fun _ hcon => absurd hcon hx, fun _ => hnone⟩

/-- Without a chain a header is measurable when it has the optional block, idle. -/
theorem measurable_iff_of_nil {h : GtpHdr} (hnil : h.exts = []) :
    Measurable h ↔
      h.hasOptional = true ∧ h.nextOctet = E_GTP_EXT_HDR_NO_MORE_EXTENSION_HEADERS := by
  rw [GtpHdr.nextOctet, hnil]
  constructor
  · intro hm
    refine ⟨hm.optional, ?_⟩
    cases he : h.e with
    | false => exact hm.idle he
    | true => rfl
  · rintro ⟨hopt, hidle⟩
    refine ⟨hopt, fun he => ?_, fun x rest hcons => ?_⟩
    · rwa [he] at hidle
    · rw [hnil] at hcons
      cases hcons

/-- With one, its length and its members decide. -/
theorem measurable_iff_of_chain {h : GtpHdr} {x : ExtHdr} {rest : List ExtHdr}
    (hexts : h.exts = x :: rest) (he : h.e = true) :
    Measurable h ↔ (x.IsContainer →
      (∀ y ∈ rest, y.IsContainer) ∧ totalUnits h.exts = if x.pduType = 0 then 2 else 1) := by
  constructor
  · intro hm
    exact hm.chain x rest hexts
  · intro hchain
    refine ⟨by simp [GtpHdr.hasOptional, he], by simp [he], fun y ys hys => ?_⟩
    obtain ⟨rfl, rfl⟩ := List.cons.inj (hexts.symm.trans hys)
    exact hchain

/-- The parser does what the format asks of exactly the measurable headers. -/
theorem measured_iff {h : GtpHdr} {b : Window} {p : ℕ} (held : HeldAt b p h.encode) :
    Measured h b p ↔ Measurable h := by
  cases hexts : h.exts with
  | nil =>
      rw [measurable_iff_of_nil hexts]
      cases hopt : h.hasOptional with
      | false => simp [not_measured_of_bare hopt b p]
      | true => simp [measured_iff_of_nil held hopt hexts]
  | cons x rest =>
      have he : h.e = true := by
        by_contra hcon
        rw [h.exts_eq_nil (Bool.eq_false_of_not_eq_true hcon)] at hexts
        cases hexts
      rw [measured_iff_of_chain held hexts he, measurable_iff_of_chain hexts he]

/-- **When the parser measures a header.**  On every well-formed header, wherever it
is held, the parser does what the format asks exactly when the header is
measurable; and a frame whose header it rejects is dropped untouched. -/
theorem parseGtphdr_measures_iff (h : GtpHdr) (b : Window) (p : ℕ)
    (held : HeldAt b p h.encode) :
    (Measured h b p ↔ Measurable h) ∧
      ∀ app tables recvLport, (getPacketType b ⟨0, 0, 0⟩).1 = .gtp →
        (parseGtphdr b (gtpStart (getPacketType b ⟨0, 0, 0⟩).2)).gtphdr = none →
          packetProcessor app tables b recvLport = .ok (DROP, b) := by
  refine ⟨measured_iff held, fun app tables recvLport htype hnone => ?_⟩
  refine packetProcessor_of_unmatched tables recvLport app ?_
  simp only [matchedRule, htype, hnone, Option.bind_none]

/-- The header of a G-PDU with one container of a single unit, the PDU type in the
high nibble of `pdu` and QoS flow 1. -/
def containerHeader (pdu : UInt8) : GtpHdr where
  e := true
  s := false
  pn := false
  msgType := G_PDU
  length := 8
  teid := 7
  seqNo := 0
  npduNum := 0
  idleType := 0
  exts := [⟨E_GTP_EXT_HDR_PDU_SESSION_CONTAINER, 1, [pdu, 1], by decide, by decide, by decide, rfl⟩]
  exts_eq_nil := by simp

/-- A buffer that holds just this header. -/
def containerWindow (pdu : UInt8) : Window :=
  Window.ofBytes 0 (containerHeader pdu).encode (show 0 + 16 < 2 ^ 16 by decide)

theorem parseGtphdr_measures_uplink :
    HeldAt (containerWindow 0x10) 0 (containerHeader 0x10).encode ∧
      Measured (containerHeader 0x10) (containerWindow 0x10) 0 := by
  have held : HeldAt (containerWindow 0x10) 0 (containerHeader 0x10).encode := by
    unfold HeldAt
    decide
  have hmeasurable : Measurable (containerHeader 0x10) := by
    refine ⟨rfl, by decide, ?_⟩
    intro x rest hexts _
    obtain ⟨rfl, rfl⟩ := List.cons.inj hexts
    decide
  exact ⟨held, (parseGtphdr_measures_iff _ _ 0 held).1.mpr hmeasurable⟩

/-- The smallest downlink container is four bytes long; the parser counts eight. -/
theorem downlink_container_mismeasured :
    HeldAt (containerWindow 0x00) 0 (containerHeader 0x00).encode ∧
      ¬ Measured (containerHeader 0x00) (containerWindow 0x00) 0 := by
  have held : HeldAt (containerWindow 0x00) 0 (containerHeader 0x00).encode := by
    unfold HeldAt
    decide
  refine ⟨held, fun hm => ?_⟩
  rw [measured_iff_of_chain held rfl rfl] at hm
  exact absurd (hm (by decide)).2 (by decide)

end UdxFastpath.Upf
