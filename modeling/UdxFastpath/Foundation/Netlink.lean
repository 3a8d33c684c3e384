import UdxFastpath.Foundation.ByteWindow
import UdxFastpath.Foundation.Framing

/-!
# Netlink messages

A datagram to the kernel is a sequence of messages, each with a header of sixteen bytes;
behind the fixed part of its body a message has attributes, each with a header of four
bytes.  Both are frames with their length in front, and all numbers are in the order of
a little-endian host.

* `readAttributes_join`, `readMessages_bytes`: what is written is read back.
* `readAddress_bytes`: the same for the body of a message about an address.
-/

namespace Netlink

open ByteWindow Framing

/-! ## Numbers -/

def word16 (b0 b1 : UInt8) : ℕ := b0.toNat + 256 * b1.toNat

def word32 (b0 b1 b2 b3 : UInt8) : ℕ := word16 b0 b1 + 65536 * word16 b2 b3

theorem word16_ofNat {n : ℕ} (h : n < 65536) :
    word16 (UInt8.ofNat n) (UInt8.ofNat (n / 256)) = n := by
  rw [word16, UInt8.toNat_ofNat', UInt8.toNat_ofNat']
  omega

theorem word32_ofNat {n : ℕ} (h : n < 4294967296) :
    word32 (UInt8.ofNat n) (UInt8.ofNat (n / 256)) (UInt8.ofNat (n / 65536))
      (UInt8.ofNat (n / 16777216)) = n := by
  simp only [word32, word16, UInt8.toNat_ofNat']
  omega

/-- A number of 32 bits is known from its bytes. -/
theorem le32_inj {m n : ℕ} (hm : m < 4294967296) (hn : n < 4294967296) (h : le32 m = le32 n) :
    m = n := by
  simp only [le32, List.cons.injEq, and_true] at h
  obtain ⟨h0, h1, h2, h3⟩ := h
  rw [← word32_ofNat hm, ← word32_ofNat hn, h0, h1, h2, h3]

theorem ofNat_word16 (n : UInt16) :
    UInt16.ofNat (word16 (UInt8.ofNat n.toNat) (UInt8.ofNat (n.toNat / 256))) = n := by
  rw [word16_ofNat n.toNat_lt, UInt16.ofNat_toNat]

theorem ofNat_word32 (n : UInt32) :
    UInt32.ofNat (word32 (UInt8.ofNat n.toNat) (UInt8.ofNat (n.toNat / 256))
      (UInt8.ofNat (n.toNat / 65536)) (UInt8.ofNat (n.toNat / 16777216))) = n := by
  rw [word32_ofNat n.toNat_lt, UInt32.ofNat_toNat]

/-! ## Attributes -/

/-- An attribute; its length has to fit into 16 bits. -/
@[ext] structure Attribute where
  type : UInt16
  data : List UInt8
  fits : data.length < 65532

/-- `struct rtattr` with the data behind it. -/
def Attribute.bytes (a : Attribute) : List UInt8 :=
  le16 (4 + a.data.length) ++ le16 a.type.toNat ++ a.data

def attributes : Format where
  header := 4
  align := 4
  lengthAt
    | b0 :: b1 :: _ => word16 b0 b1
    | _ => 0
  header_pos := by decide
  align_pos := by decide

theorem Attribute.length_bytes (a : Attribute) : a.bytes.length = 4 + a.data.length := by
  simp [bytes]
  omega

theorem Attribute.wellFramed (a : Attribute) : attributes.WellFramed a.bytes where
  header_le := by
    rw [a.length_bytes]
    exact Nat.le_add_right ..
  lengthAt rest := by
    have hfits := a.fits
    rw [a.length_bytes]
    exact word16_ofNat (by omega)

/-- The attribute in a frame. -/
def readAttribute : List UInt8 → UInt16 × List UInt8
  | _ :: _ :: t0 :: t1 :: data => (UInt16.ofNat (word16 t0 t1), data)
  | _ => (0, [])

theorem readAttribute_bytes (a : Attribute) : readAttribute a.bytes = (a.type, a.data) :=
  Prod.ext (ofNat_word16 a.type) rfl

/-- The attributes at the end of a body. -/
def readAttributes (bytes : List UInt8) : List (UInt16 × List UInt8) :=
  (attributes.split bytes).map readAttribute

/-- Attributes that have been packed are read back. -/
theorem readAttributes_join (l : List Attribute) :
    readAttributes (attributes.join (l.map Attribute.bytes)) = l.map fun a => (a.type, a.data) := by
  have hframed : ∀ frame ∈ l.map Attribute.bytes, attributes.WellFramed frame := by
    intro frame hframe
    obtain ⟨a, -, rfl⟩ := List.mem_map.mp hframe
    exact a.wellFramed
  have hsplit := Format.split_join_append hframed []
  have hempty : attributes.split [] = [] := by
    rw [Format.split, dif_neg (by decide)]
  rw [List.append_nil, hempty, List.append_nil] at hsplit
  rw [readAttributes, hsplit, List.map_map]
  exact List.map_congr_left fun a _ => readAttribute_bytes a

/-! ## Messages -/

/-- A message; its length has to fit into 32 bits. -/
structure Message where
  type : UInt16
  flags : UInt16
  seq : UInt32
  pid : UInt32
  body : List UInt8
  fits : body.length < 4294967280

/-- `struct nlmsghdr` with the body behind it. -/
def Message.bytes (m : Message) : List UInt8 :=
  le32 (16 + m.body.length) ++ le16 m.type.toNat ++ le16 m.flags.toNat ++ le32 m.seq.toNat ++
    le32 m.pid.toNat ++ m.body

def messages : Format where
  header := 16
  align := 4
  lengthAt
    | b0 :: b1 :: b2 :: b3 :: _ => word32 b0 b1 b2 b3
    | _ => 0
  header_pos := by decide
  align_pos := by decide

theorem Message.length_bytes (m : Message) : m.bytes.length = 16 + m.body.length := by
  simp [bytes]
  omega

theorem Message.wellFramed (m : Message) : messages.WellFramed m.bytes where
  header_le := by
    rw [m.length_bytes]
    exact Nat.le_add_right ..
  lengthAt rest := by
    have hfits := m.fits
    rw [m.length_bytes]
    exact word32_ofNat (by omega)

/-- The type, the flags and the body of a message. -/
def readMessage : List UInt8 → UInt16 × UInt16 × List UInt8
  | _ :: _ :: _ :: _ :: t0 :: t1 :: f0 :: f1 :: _ :: _ :: _ :: _ :: _ :: _ :: _ :: _ :: body =>
      (UInt16.ofNat (word16 t0 t1), UInt16.ofNat (word16 f0 f1), body)
  | _ => (0, 0, [])

theorem readMessage_bytes (m : Message) : readMessage m.bytes = (m.type, m.flags, m.body) :=
  Prod.ext (ofNat_word16 m.type) (Prod.ext (ofNat_word16 m.flags) rfl)

/-- The messages of a datagram. -/
def readMessages (datagram : List UInt8) : List (UInt16 × UInt16 × List UInt8) :=
  (messages.split datagram).map readMessage

/-- A datagram of one message. -/
theorem readMessages_bytes (m : Message) :
    readMessages m.bytes = [(m.type, m.flags, m.body)] := by
  rw [readMessages, Format.split_self m.wellFramed, List.map_singleton, readMessage_bytes]

/-! ## Bodies -/

/-- `struct ifaddrmsg`: the change of an address, with its attributes. -/
structure AddressBody where
  family : UInt8
  prefixlen : UInt8
  flags : UInt8
  scope : UInt8
  index : UInt32
  attrs : List Attribute

def AddressBody.bytes (x : AddressBody) : List UInt8 :=
  [x.family, x.prefixlen, x.flags, x.scope] ++ le32 x.index.toNat ++
    attributes.join (x.attrs.map Attribute.bytes)

/-- The family, the length of the prefix, the interface and the attributes. -/
def readAddress : List UInt8 → Option (UInt8 × UInt8 × UInt32 × List (UInt16 × List UInt8))
  | family :: prefixlen :: _ :: _ :: i0 :: i1 :: i2 :: i3 :: rest =>
      some (family, prefixlen, UInt32.ofNat (word32 i0 i1 i2 i3), readAttributes rest)
  | _ => none

theorem readAddress_bytes (x : AddressBody) :
    readAddress x.bytes =
      some (x.family, x.prefixlen, x.index, x.attrs.map fun a => (a.type, a.data)) := by
  have hattrs := readAttributes_join x.attrs
  exact congrArg some (Prod.ext rfl (Prod.ext rfl (Prod.ext (ofNat_word32 x.index) hattrs)))

/-- `struct ifinfomsg`: the change of a link. -/
structure LinkBody where
  family : UInt8
  type : UInt16
  index : UInt32
  flags : UInt32
  change : UInt32

def LinkBody.bytes (x : LinkBody) : List UInt8 :=
  [x.family, 0] ++ le16 x.type.toNat ++ le32 x.index.toNat ++ le32 x.flags.toNat ++
    le32 x.change.toNat

/-- The interface, the flags and which of them are to change. -/
def readLink : List UInt8 → Option (UInt32 × UInt32 × UInt32)
  | _ :: _ :: _ :: _ :: i0 :: i1 :: i2 :: i3 :: f0 :: f1 :: f2 :: f3 :: c0 :: c1 :: c2 :: c3 :: _ =>
      some (UInt32.ofNat (word32 i0 i1 i2 i3), UInt32.ofNat (word32 f0 f1 f2 f3),
        UInt32.ofNat (word32 c0 c1 c2 c3))
  | _ => none

theorem readLink_bytes (x : LinkBody) :
    readLink x.bytes = some (x.index, x.flags, x.change) :=
  congrArg some
    (Prod.ext (ofNat_word32 x.index) (Prod.ext (ofNat_word32 x.flags) (ofNat_word32 x.change)))

end Netlink
