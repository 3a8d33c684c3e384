import UdxFastpath.Foundation.ByteWindow

/-!
# Fields of a byte string

A packet on the wire is a list of bytes and a header field is a stretch of it:
`field l i n` are the `n` bytes at offset `i`, and `overwrite l i bs` is the
string with the bytes `bs` written over it at `i`, as far as it goes.

* `bytes_store` says that storing into a window overwrites its data.
* `overwrite_middle` computes an overwrite on a concatenation.
* `field_overwrite_self` and `field_overwrite_of_disjoint` read a field back.
-/

namespace ByteWindow

/-- The `n` bytes at offset `i`. -/
def field (l : List UInt8) (i n : ℕ) : List UInt8 := (l.drop i).take n

/-- The string with `bs` written over it at offset `i`; what would lie behind the end is
lost. -/
def overwrite (l : List UInt8) (i : ℕ) (bs : List UInt8) : List UInt8 :=
  (l.take i ++ bs ++ l.drop (i + bs.length)).take l.length

section Overwrite

variable {l bs : List UInt8} {i j n : ℕ}

theorem length_field (h : i + n ≤ l.length) : (field l i n).length = n := by
  rw [field, List.length_take_of_le (by rw [List.length_drop]; omega)]

/-- An overwrite byte by byte. -/
theorem getElem?_overwrite :
    (overwrite l i bs)[j]? =
      if i ≤ j ∧ j < i + bs.length ∧ j < l.length then bs[j - i]? else l[j]? := by
  have hout : l.length ≤ j → (overwrite l i bs)[j]? = none ∧ l[j]? = none := by
    intro h
    rw [List.getElem?_eq_none_iff, List.getElem?_eq_none_iff, overwrite, List.length_take]
    omega
  by_cases hj : j < l.length
  · rw [overwrite, List.getElem?_take_of_lt hj]
    by_cases hlow : j < i
    · -- in front of the block
      rw [List.append_assoc, List.getElem?_append_left (by rw [List.length_take]; omega),
        List.getElem?_take_of_lt hlow, if_neg (by omega)]
    · have htake : (l.take i).length = i := List.length_take_of_le (by omega)
      rw [List.append_assoc, List.getElem?_append_right (by omega), htake]
      by_cases hmid : j < i + bs.length
      · rw [List.getElem?_append_left (by omega), if_pos ⟨by omega, hmid, hj⟩]
      · rw [List.getElem?_append_right (by omega), List.getElem?_drop, if_neg (by omega)]
        congr 1
        omega
  · rw [(hout (by omega)).1, if_neg (by omega), (hout (by omega)).2]

@[simp] theorem length_overwrite : (overwrite l i bs).length = l.length := by
  rw [overwrite, List.length_take, Nat.min_eq_left]
  simp only [List.length_append, List.length_take, List.length_drop]
  omega

/-- Storing into a window overwrites its data. -/
theorem bytes_store (b : Window) (i : ℕ) (bs : List UInt8) :
    (b.store i bs).bytes = overwrite b.bytes i bs := by
  refine List.ext_getElem? fun j => ?_
  rw [getElem?_overwrite, Window.getElem?_bytes, Window.getElem?_bytes, Window.length_bytes,
    Window.len_store, Window.byte_store]
  by_cases hj : j < b.len
  · by_cases hi : i ≤ j
    · by_cases hmid : j < i + bs.length
      · rw [if_pos hj, if_pos hi, if_pos ⟨hi, hmid, hj⟩, List.getElem?_eq_getElem (by omega),
          Option.getD_some]
      · rw [if_pos hj, if_pos hi, if_neg (by omega), if_pos hj, List.getElem?_eq_none (by omega),
          Option.getD_none]
    · rw [if_pos hj, if_neg hi, if_neg (by omega), if_pos hj]
  · rw [if_neg hj, if_neg (by omega), if_neg hj]

/-- Writing over a stretch of a concatenation. -/
theorem overwrite_middle (a : List UInt8) {b : List UInt8} (c : List UInt8)
    (h : bs.length = b.length) :
    overwrite (a ++ b ++ c) a.length bs = a ++ bs ++ c := by
  have hdrop : (a ++ b ++ c).drop (a.length + bs.length) = c := by
    rw [h, ← List.length_append, List.drop_left]
  rw [overwrite, hdrop, List.append_assoc a b c, List.take_left, List.take_of_length_le]
  simp [h]

/-- Writing twice over the same stretch: the second block stays. -/
theorem overwrite_overwrite_self {bs' : List UInt8} (h : bs'.length = bs.length) :
    overwrite (overwrite l i bs) i bs' = overwrite l i bs' := by
  refine List.ext_getElem? fun j => ?_
  rw [getElem?_overwrite, getElem?_overwrite, getElem?_overwrite, length_overwrite]
  by_cases hj : i ≤ j ∧ j < i + bs'.length ∧ j < l.length
  · rw [if_pos hj, if_pos hj]
  · rw [if_neg hj, if_neg (by omega), if_neg hj]

/-- Writing over two stretches apart from each other, in either order. -/
theorem overwrite_comm {bs' : List UInt8} (h : i + bs.length ≤ j) :
    overwrite (overwrite l i bs) j bs' = overwrite (overwrite l j bs') i bs := by
  refine List.ext_getElem? fun k => ?_
  rw [getElem?_overwrite, getElem?_overwrite, getElem?_overwrite, getElem?_overwrite,
    length_overwrite, length_overwrite]
  by_cases hi : i ≤ k ∧ k < i + bs.length ∧ k < l.length
  · rw [if_pos hi, if_neg (by omega), if_pos hi]
  · rw [if_neg hi, if_neg hi]

/-- A field that was just written, if it lies inside. -/
theorem field_overwrite_self (h : i + bs.length ≤ l.length) :
    field (overwrite l i bs) i bs.length = bs := by
  refine List.ext_getElem? fun j => ?_
  rw [field]
  by_cases hj : j < bs.length
  · rw [List.getElem?_take_of_lt hj, List.getElem?_drop, getElem?_overwrite,
      if_pos ⟨by omega, by omega, by omega⟩, Nat.add_sub_cancel_left]
  · rw [List.getElem?_eq_none (by rw [List.length_take]; omega), List.getElem?_eq_none (by omega)]

/-- A field apart from the one written. -/
theorem field_overwrite_of_disjoint (h : j + n ≤ i ∨ i + bs.length ≤ j) :
    field (overwrite l i bs) j n = field l j n := by
  refine List.ext_getElem? fun k => ?_
  rw [field, field]
  by_cases hk : k < n
  · rw [List.getElem?_take_of_lt hk, List.getElem?_take_of_lt hk, List.getElem?_drop,
      List.getElem?_drop, getElem?_overwrite, if_neg (by omega)]
  · rw [List.getElem?_eq_none (by rw [List.length_take]; omega),
      List.getElem?_eq_none (by rw [List.length_take]; omega)]

/-- A field of a concatenation. -/
theorem field_middle (a b c : List UInt8) : field (a ++ b ++ c) a.length b.length = b := by
  rw [field, List.append_assoc, List.drop_left, List.take_left]

end Overwrite

/-- A 16-bit field of the data, read in network order. -/
theorem loadBE16_of_field {b : Window} {i : ℕ} {x y : UInt8} (h : field b.bytes i 2 = [x, y]) :
    b.loadBE16 i = 256 * x.toNat + y.toNat := by
  have hbyte : ∀ k (hk : k < 2), b.byte (i + k) = [x, y][k] := by
    intro k hk
    have hget : (field b.bytes i 2)[k]? = some [x, y][k] := by
      rw [h]
      exact List.getElem?_eq_getElem hk
    rw [field, List.getElem?_take_of_lt hk, List.getElem?_drop, Window.getElem?_bytes] at hget
    split at hget
    · exact Option.some.inj hget
    · cases hget
  have hx : b.byte i = x := hbyte 0 (by omega)
  have hy : b.byte (i + 1) = y := hbyte 1 (by omega)
  rw [Window.loadBE16, hx, hy]

/-- …and such a field is there if the data goes so far. -/
theorem field_eq_pair_iff {b : Window} {i : ℕ} {x y : UInt8} (h : i + 2 ≤ b.len) :
    field b.bytes i 2 = [x, y] ↔ b.loadBE16 i = 256 * x.toNat + y.toNat := by
  refine ⟨loadBE16_of_field, fun hload => ?_⟩
  have hpair : field b.bytes i 2 = [b.byte i, b.byte (i + 1)] := by
    refine List.ext_getElem? fun k => ?_
    by_cases hk : k < 2
    · rw [field, List.getElem?_take_of_lt hk, List.getElem?_drop, Window.getElem?_bytes,
        if_pos (by omega)]
      obtain rfl | rfl : k = 0 ∨ k = 1 := by omega
      · rfl
      · rfl
    · rw [List.getElem?_eq_none (by rw [field, List.length_take]; omega),
        List.getElem?_eq_none (by simpa using Nat.le_of_not_lt hk)]
  have hx := (b.byte i).toNat_lt
  have hy := (b.byte (i + 1)).toNat_lt
  have hx' := x.toNat_lt
  have hy' := y.toNat_lt
  rw [Window.loadBE16] at hload
  have hfirst : b.byte i = x := UInt8.toNat_inj.mp (by omega)
  have hsecond : b.byte (i + 1) = y := UInt8.toNat_inj.mp (by omega)
  rw [hpair, hfirst, hsecond]

end ByteWindow
