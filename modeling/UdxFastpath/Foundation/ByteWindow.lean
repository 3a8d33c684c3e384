import Mathlib.Data.List.Basic
import Mathlib.Data.List.Range
import Mathlib.Data.Nat.Bitwise
import Mathlib.Tactic.IntervalCases
import Mathlib.Tactic.Ring

/-!
# Byte windows over flat memory

A packet buffer is a flat memory together with a **window** `[off, off + len)`
naming the bytes that currently count as data.  Bytes in front of the window
are headroom, bytes behind it are tailroom; both exist and both can be read or
written through a stray pointer, which is why the memory is a total function
and not the list of data bytes.

* `Window` carries the one invariant the 16-bit bookkeeping needs: the window
  ends below `2 ^ 16`.  Moving the front of the window keeps its end where it
  is, so the invariant is free.
* `byte`, `loadLE16`, `loadBE16`, `loadLE32`, `loadBE32` read relative to the
  front of the window; `swap16` and `swap32` turn one order into the other.
* `store` writes a block of bytes, `prepend` and `adjust` move the front.
* `ReadsAlike b b'` compares two windows by their contents alone.
* `Pushed b c hdr` is the specification of "put a header in front": `c` is `b`
  with the bytes `hdr` pushed, nothing else disturbed.  `Pushed.trans` composes
  two pushes and `Pushed.bytes_eq` reads the result off.
-/

namespace ByteWindow

/-- A window of `len` bytes starting at address `off` of a flat memory. -/
structure Window where
  mem : ℕ → UInt8
  off : ℕ
  len : ℕ
  fits : off + len < 2 ^ 16

namespace Window

/-- The byte at offset `i` from the front of the window. -/
def byte (b : Window) (i : ℕ) : UInt8 := b.mem (b.off + i)

/-- The `n` bytes at offset `i`, wherever they lie. -/
def slice (b : Window) (i n : ℕ) : List UInt8 := (List.range n).map fun k => b.byte (i + k)

/-- The data bytes: the contents of the window, front first. -/
def bytes (b : Window) : List UInt8 := (List.range b.len).map b.byte

@[simp] theorem length_bytes (b : Window) : b.bytes.length = b.len := by
  simp [bytes]

theorem getElem?_bytes (b : Window) (i : ℕ) :
    b.bytes[i]? = if i < b.len then some (b.byte i) else none := by
  by_cases h : i < b.len
  · simp [bytes, h]
  · simp only [h, if_false]
    exact List.getElem?_eq_none (by simpa using h)

/-- The data bytes of two windows agree exactly when the lengths do and every
byte inside does. -/
theorem bytes_eq_iff (b c : Window) :
    b.bytes = c.bytes ↔ b.len = c.len ∧ ∀ i < b.len, b.byte i = c.byte i := by
  constructor
  · intro h
    have hlen : b.len = c.len := by simpa using congrArg List.length h
    refine ⟨hlen, fun i hi => ?_⟩
    have hget := congrArg (fun l : List UInt8 => l[i]?) h
    rw [getElem?_bytes, getElem?_bytes, if_pos hi, if_pos (by omega)] at hget
    exact Option.some.inj hget
  · rintro ⟨hlen, hbyte⟩
    rw [bytes, bytes, ← hlen]
    exact List.map_congr_left fun i hi => hbyte i (List.mem_range.mp hi)

/-- The data behind the first `n` bytes of one window, compared with the data of
another. -/
theorem drop_bytes_eq_iff {b c : Window} {n : ℕ} (hlen : c.len = b.len + n) :
    c.bytes.drop n = b.bytes ↔ ∀ j < b.len, c.byte (n + j) = b.byte j := by
  constructor
  · intro h j hj
    have hget := congrArg (fun l : List UInt8 => l[j]?) h
    rw [List.getElem?_drop, getElem?_bytes, getElem?_bytes, if_pos hj, if_pos (by omega)] at hget
    exact Option.some.inj hget
  · intro h
    refine List.ext_getElem? fun j => ?_
    rw [List.getElem?_drop, getElem?_bytes, getElem?_bytes]
    by_cases hj : j < b.len
    · rw [if_pos hj, if_pos (by omega), h j hj]
    · rw [if_neg hj, if_neg (by omega)]

/-! ## Multi-byte reads -/

/-- A 16-bit load, least significant byte first. -/
def loadLE16 (b : Window) (i : ℕ) : ℕ := (b.byte i).toNat + 256 * (b.byte (i + 1)).toNat

/-- A 16-bit load, most significant byte first. -/
def loadBE16 (b : Window) (i : ℕ) : ℕ := 256 * (b.byte i).toNat + (b.byte (i + 1)).toNat

/-- A 32-bit load, least significant byte first. -/
def loadLE32 (b : Window) (i : ℕ) : ℕ := b.loadLE16 i + 65536 * b.loadLE16 (i + 2)

/-- A 32-bit load, most significant byte first. -/
def loadBE32 (b : Window) (i : ℕ) : ℕ := 65536 * b.loadBE16 i + b.loadBE16 (i + 2)

end Window

/-- Exchange the two bytes of a 16-bit value. -/
def swap16 (n : ℕ) : ℕ := 256 * (n % 256) + n / 256 % 256

/-- Reverse the four bytes of a 32-bit value. -/
def swap32 (n : ℕ) : ℕ := 65536 * swap16 (n % 65536) + swap16 (n / 65536)

/-- The bytes of a 16-bit value as a little-endian store lays them out. -/
def le16 (n : ℕ) : List UInt8 := [UInt8.ofNat n, UInt8.ofNat (n / 256)]

/-- The bytes of a 32-bit value as a little-endian store lays them out. -/
def le32 (n : ℕ) : List UInt8 :=
  [UInt8.ofNat n, UInt8.ofNat (n / 256), UInt8.ofNat (n / 65536), UInt8.ofNat (n / 16777216)]

@[simp] theorem length_le16 (n : ℕ) : (le16 n).length = 2 := rfl

@[simp] theorem length_le32 (n : ℕ) : (le32 n).length = 4 := rfl

theorem swap16_lt (n : ℕ) : swap16 n < 65536 := by
  simp only [swap16]
  omega

theorem swap16_swap16 {n : ℕ} (h : n < 65536) : swap16 (swap16 n) = n := by
  have hlow : swap16 n % 256 = n / 256 := by simp only [swap16]; omega
  have hhigh : swap16 n / 256 = n % 256 := by simp only [swap16]; omega
  rw [swap16, hlow, hhigh]
  omega

theorem swap32_lt (n : ℕ) : swap32 n < 4294967296 := by
  have hlow := swap16_lt (n % 65536)
  have hhigh := swap16_lt (n / 65536)
  simp only [swap32]
  omega

theorem swap32_swap32 {n : ℕ} (h : n < 4294967296) : swap32 (swap32 n) = n := by
  have hlt := swap16_lt (n / 65536)
  have hlow : swap32 n % 65536 = swap16 (n / 65536) := by simp only [swap32]; omega
  have hhigh : swap32 n / 65536 = swap16 (n % 65536) := by simp only [swap32]; omega
  rw [swap32, hlow, hhigh, swap16_swap16 (by omega), swap16_swap16 (by omega)]
  omega

namespace Window

theorem loadLE16_lt (b : Window) (i : ℕ) : b.loadLE16 i < 65536 := by
  have h0 := (b.byte i).toNat_lt
  have h1 := (b.byte (i + 1)).toNat_lt
  simp only [loadLE16]
  omega

@[simp] theorem swap16_loadLE16 (b : Window) (i : ℕ) : swap16 (b.loadLE16 i) = b.loadBE16 i := by
  have h0 := (b.byte i).toNat_lt
  have h1 := (b.byte (i + 1)).toNat_lt
  simp only [swap16, loadLE16, loadBE16]
  omega

@[simp] theorem swap32_loadLE32 (b : Window) (i : ℕ) : swap32 (b.loadLE32 i) = b.loadBE32 i := by
  have h0 := b.loadLE16_lt i
  have h1 := b.loadLE16_lt (i + 2)
  have hlow : b.loadLE32 i % 65536 = b.loadLE16 i := by simp only [loadLE32]; omega
  have hhigh : b.loadLE32 i / 65536 = b.loadLE16 (i + 2) := by simp only [loadLE32]; omega
  rw [swap32, hlow, hhigh, swap16_loadLE16, swap16_loadLE16, loadBE32]

/-- **Comparing in either order is the same test.**  A little-endian load equals
the byte swap of a constant exactly when the big-endian load equals the
constant. -/
theorem loadLE16_eq_swap16_iff (b : Window) (i : ℕ) {n : ℕ} (hn : n < 65536) :
    b.loadLE16 i = swap16 n ↔ b.loadBE16 i = n := by
  constructor
  · intro h
    rw [← swap16_loadLE16, h, swap16_swap16 hn]
  · intro h
    rw [← h, ← swap16_loadLE16, swap16_swap16 (b.loadLE16_lt i)]

/-- Reading back what a 16-bit store laid out. -/
theorem loadLE16_of_le16 {b : Window} {i n : ℕ} (hlow : b.byte i = UInt8.ofNat n)
    (hhigh : b.byte (i + 1) = UInt8.ofNat (n / 256)) (hn : n < 65536) : b.loadLE16 i = n := by
  rw [loadLE16, hlow, hhigh, UInt8.toNat_ofNat', UInt8.toNat_ofNat']
  omega

/-- Reading back what a 32-bit store laid out. -/
theorem loadLE32_of_le32 {b : Window} {i n : ℕ}
    (hbyte : ∀ k (hk : k < (le32 n).length), b.byte (i + k) = (le32 n)[k])
    (hn : n < 4294967296) : b.loadLE32 i = n := by
  have h0 : b.byte i = UInt8.ofNat n := hbyte 0 (by simp)
  have h1 : b.byte (i + 1) = UInt8.ofNat (n / 256) := hbyte 1 (by simp)
  have h2 : b.byte (i + 2) = UInt8.ofNat (n / 65536) := hbyte 2 (by simp)
  have h3 : b.byte (i + 2 + 1) = UInt8.ofNat (n / 16777216) := hbyte 3 (by simp)
  simp only [loadLE32, loadLE16, h0, h1, h2, h3, UInt8.toNat_ofNat']
  omega

/-! ## Stores -/

/-- Write the bytes `bs` at offset `i` from the front of the window. -/
def store (b : Window) (i : ℕ) (bs : List UInt8) : Window :=
  { b with
    mem := fun a =>
      if b.off + i ≤ a then (bs[a - (b.off + i)]?).getD (b.mem a) else b.mem a }

@[simp] theorem off_store (b : Window) (i : ℕ) (bs : List UInt8) : (b.store i bs).off = b.off := rfl

@[simp] theorem len_store (b : Window) (i : ℕ) (bs : List UInt8) : (b.store i bs).len = b.len := rfl

/-- Reading after a store: the stored block where it covers the offset, the old
byte elsewhere. -/
theorem byte_store (b : Window) (i j : ℕ) (bs : List UInt8) :
    (b.store i bs).byte j = if i ≤ j then (bs[j - i]?).getD (b.byte j) else b.byte j := by
  simp only [byte, store]
  by_cases h : i ≤ j
  · rw [if_pos (by omega), if_pos h, show b.off + j - (b.off + i) = j - i by omega]
  · rw [if_neg (by omega), if_neg h]

@[simp] theorem length_slice (b : Window) (i n : ℕ) : (b.slice i n).length = n := by
  simp [slice]

/-- Reading back a stored block. -/
theorem slice_store_self (b : Window) (i : ℕ) (bs : List UInt8) :
    (b.store i bs).slice i bs.length = bs := by
  refine List.ext_getElem (length_slice _ _ _) fun k _ hk => ?_
  simp only [slice, List.getElem_map, List.getElem_range]
  rw [byte_store, if_pos (by omega), Nat.add_sub_cancel_left, List.getElem?_eq_getElem hk,
    Option.getD_some]

/-- The bytes a 32-bit load puts together. -/
theorem le32_loadLE32 (b : Window) (i : ℕ) : le32 (b.loadLE32 i) = b.slice i 4 := by
  have h0 := (b.byte i).toNat_lt
  have h1 := (b.byte (i + 1)).toNat_lt
  have h2 := (b.byte (i + 2)).toNat_lt
  have h3 := (b.byte (i + 2 + 1)).toNat_lt
  have hslice : b.slice i 4 = [b.byte i, b.byte (i + 1), b.byte (i + 2), b.byte (i + 2 + 1)] := rfl
  rw [hslice, le32, loadLE32, loadLE16, loadLE16]
  refine congrArg₂ _ ?_ (congrArg₂ _ ?_ (congrArg₂ _ ?_ (congrArg₂ _ ?_ rfl))) <;>
    exact UInt8.toNat_inj.mp (by rw [UInt8.toNat_ofNat']; omega)

/-- A block apart from the stored one reads as before. -/
theorem slice_store_of_disjoint (b : Window) {i j n : ℕ} {bs : List UInt8}
    (h : j + n ≤ i ∨ i + bs.length ≤ j) : (b.store i bs).slice j n = b.slice j n := by
  refine List.map_congr_left fun k hk => ?_
  have hkn := List.mem_range.mp hk
  rw [byte_store]
  rcases h with h | h
  · rw [if_neg (by omega)]
  · rw [if_pos (by omega), List.getElem?_eq_none (by omega), Option.getD_none]

/-- The memory outside a stored block is untouched. -/
theorem mem_store_of_notMem (b : Window) (i : ℕ) (bs : List UInt8) {a : ℕ}
    (h : a < b.off + i ∨ b.off + i + bs.length ≤ a) : (b.store i bs).mem a = b.mem a := by
  simp only [store]
  rcases h with h | h
  · rw [if_neg (by omega)]
  · rw [if_pos (by omega), List.getElem?_eq_none (by omega), Option.getD_none]

/-- The window holding `bs` behind `headroom` zero bytes. -/
def ofBytes (headroom : ℕ) (bs : List UInt8) (fits : headroom + bs.length < 2 ^ 16) : Window where
  mem a := if a < headroom then 0 else bs.getD (a - headroom) 0
  off := headroom
  len := bs.length
  fits := fits

/-! ## Moving the front -/

/-- Extend the window by `n` bytes of headroom; `none` when there is not that
much. -/
def prepend (b : Window) (n : ℕ) : Option Window :=
  if h : n ≤ b.off then
    some { mem := b.mem, off := b.off - n, len := b.len + n, fits := by have := b.fits; omega }
  else none

/-- Give up the first `n` bytes of the window; `none` when it is shorter. -/
def adjust (b : Window) (n : ℕ) : Option Window :=
  if h : n ≤ b.len then
    some { mem := b.mem, off := b.off + n, len := b.len - n, fits := by have := b.fits; omega }
  else none

theorem prepend_eq_none_iff (b : Window) (n : ℕ) : b.prepend n = none ↔ b.off < n := by
  simp [prepend]

theorem prepend_eq_some (b : Window) {n : ℕ} (h : n ≤ b.off) :
    ∃ c, b.prepend n = some c ∧ c.mem = b.mem ∧ c.off + n = b.off ∧ c.len = b.len + n :=
  ⟨_, dif_pos h, rfl, Nat.sub_add_cancel h, rfl⟩

theorem adjust_eq_some (b : Window) {n : ℕ} (h : n ≤ b.len) :
    ∃ c, b.adjust n = some c ∧ c.mem = b.mem ∧ c.off = b.off + n ∧ c.len + n = b.len :=
  ⟨_, dif_pos h, rfl, rfl, Nat.sub_add_cancel h⟩

theorem adjust_eq_none_iff (b : Window) (n : ℕ) : b.adjust n = none ↔ b.len < n := by
  simp [adjust]

/-- What is left are the bytes behind. -/
theorem bytes_adjust {b c : Window} {n : ℕ} (h : b.adjust n = some c) :
    c.bytes = b.bytes.drop n := by
  have hle : n ≤ b.len := by
    by_contra hlt
    rw [(b.adjust_eq_none_iff n).mpr (by omega)] at h
    cases h
  obtain ⟨c', hc, hmem, hoff, hlen⟩ := b.adjust_eq_some hle
  obtain rfl := Option.some.inj (hc.symm.trans h)
  refine List.ext_getElem? fun j => ?_
  rw [List.getElem?_drop, getElem?_bytes, getElem?_bytes]
  have hbyte : c'.byte j = b.byte (n + j) := by
    rw [byte, byte, hmem, hoff, Nat.add_assoc]
  by_cases hj : j < c'.len
  · rw [if_pos hj, if_pos (by omega), hbyte]
  · rw [if_neg hj, if_neg (by omega)]

end Window

/-! ## Same contents, different surroundings -/

/-- Two windows that read alike from the front on: same length, same bytes at every
offset.  Where the windows lie and what is in front of them is left open. -/
structure ReadsAlike (b b' : Window) : Prop where
  len_eq : b.len = b'.len
  byte_eq : ∀ i, b.byte i = b'.byte i

namespace ReadsAlike

variable {b b' : Window}

theorem bytes_eq (h : ReadsAlike b b') : b.bytes = b'.bytes :=
  (Window.bytes_eq_iff b b').mpr ⟨h.len_eq, fun i _ => h.byte_eq i⟩

theorem store (h : ReadsAlike b b') (i : ℕ) (bs : List UInt8) :
    ReadsAlike (b.store i bs) (b'.store i bs) where
  len_eq := h.len_eq
  byte_eq := by
    intro j
    rw [Window.byte_store, Window.byte_store, h.byte_eq]

/-- Moving both fronts by the same amount succeeds or fails on both. -/
theorem adjust (h : ReadsAlike b b') (n : ℕ) :
    (b.adjust n = none ∧ b'.adjust n = none) ∨
      ∃ c c', b.adjust n = some c ∧ b'.adjust n = some c' ∧ ReadsAlike c c' := by
  have hlen := h.len_eq
  by_cases hn : n ≤ b.len
  · obtain ⟨c, hc, hmem, hoff, hclen⟩ := b.adjust_eq_some hn
    obtain ⟨c', hc', hmem', hoff', hclen'⟩ := b'.adjust_eq_some (n := n) (by omega)
    refine .inr ⟨c, c', hc, hc', by omega, fun i => ?_⟩
    have hbyte := h.byte_eq (n + i)
    rw [Window.byte, Window.byte] at hbyte ⊢
    rw [hmem, hmem', hoff, hoff', Nat.add_assoc, Nat.add_assoc, hbyte]
  · exact .inl ⟨dif_neg hn, dif_neg (by omega)⟩

end ReadsAlike

/-! ## Pushing headers -/

/-- `c` is `b` with the header `hdr` **pushed** in front: the front moved back by
exactly the header, the header bytes are there, and memory on either side of the
header is what it was. -/
structure Pushed (b c : Window) (hdr : List UInt8) : Prop where
  off_eq : c.off + hdr.length = b.off
  len_eq : c.len = b.len + hdr.length
  head : ∀ i (h : i < hdr.length), c.byte i = hdr[i]
  above : ∀ a, b.off ≤ a → c.mem a = b.mem a
  below : ∀ a, a < c.off → c.mem a = b.mem a

namespace Pushed

variable {b c d : Window} {hdr hdr' : List UInt8}

/-- Offsets behind the header read the old window. -/
theorem byte_add (h : Pushed b c hdr) (i : ℕ) : c.byte (hdr.length + i) = b.byte i := by
  have hoff := h.off_eq
  rw [Window.byte, Window.byte, ← h.above (b.off + i) (by omega)]
  exact congrArg c.mem (by omega)

/-- The data after a push: the header, then the old data. -/
theorem bytes_eq (h : Pushed b c hdr) : c.bytes = hdr ++ b.bytes := by
  refine List.ext_getElem? fun i => ?_
  have hlen := h.len_eq
  rw [Window.getElem?_bytes]
  by_cases hi : i < hdr.length
  · rw [if_pos (by omega), List.getElem?_append_left hi, List.getElem?_eq_getElem hi, h.head i hi]
  · obtain ⟨k, rfl⟩ : ∃ k, i = hdr.length + k := ⟨i - hdr.length, by omega⟩
    rw [List.getElem?_append_right (by omega), Nat.add_sub_cancel_left, Window.getElem?_bytes,
      h.byte_add k]
    by_cases hk : k < b.len
    · rw [if_pos hk, if_pos (by omega)]
    · rw [if_neg hk, if_neg (by omega)]

/-- Two pushes in a row push the concatenation, the later header in front. -/
theorem trans (h : Pushed b c hdr) (h' : Pushed c d hdr') : Pushed b d (hdr' ++ hdr) where
  off_eq := by
    have := h.off_eq
    have := h'.off_eq
    simp only [List.length_append]
    omega
  len_eq := by
    have := h.len_eq
    have := h'.len_eq
    simp only [List.length_append]
    omega
  head := by
    intro i hi
    by_cases hlt : i < hdr'.length
    · rw [List.getElem_append_left hlt]
      exact h'.head i hlt
    · obtain ⟨k, rfl⟩ : ∃ k, i = hdr'.length + k := ⟨i - hdr'.length, by omega⟩
      have hk : k < hdr.length := by simp only [List.length_append] at hi; omega
      rw [h'.byte_add k, h.head k hk, List.getElem_append_right (by omega)]
      simp only [Nat.add_sub_cancel_left]
  above := by
    intro a ha
    have := h.off_eq
    rw [h'.above a (by omega), h.above a ha]
  below := by
    intro a ha
    have := h'.off_eq
    rw [h'.below a ha, h.below a (by omega)]

end Pushed

end ByteWindow
