import Mathlib.Data.List.Lex
import Mathlib.Order.Lattice

/-!
# Byte strings and their order

Strings as lists of bytes, compared byte by byte with a proper prefix first, and
numbers written into them in decimal.

* `decimal` writes a number; `decimal_injective`, and `decimal_of_lt_ten` for the
  numbers of one digit.  Digits keep the order of such numbers only: `"10"` is below
  `"9"`.
* `append_lt_append_iff` cancels a common prefix, and `lt_append_cases` says how a
  string can be below another: as a prefix of it, or at a byte both have, and then
  whatever is appended.
* `append_cons_inj_of_notMem_right` splits a string at the last occurrence of a byte,
  and `append_cons_inj_of_notMem_left` at the first.
-/

namespace ByteStrings

/-- Bytes in their order. -/
scoped instance byteOrder : LinearOrder UInt8 where
  le_refl := UInt8.le_refl
  le_trans _ _ _ := UInt8.le_trans
  le_antisymm _ _ := UInt8.le_antisymm
  le_total := UInt8.le_total
  lt_iff_le_not_ge a b := by
    rw [UInt8.not_le]
    exact ⟨fun h => ⟨UInt8.le_of_lt h, h⟩, fun h => h.2⟩
  toDecidableLE := inferInstance
  toDecidableEq := inferInstance
  toDecidableLT := inferInstance
  min_def _ _ := rfl
  max_def _ _ := rfl
  compare_eq_compareOfLessAndEq _ _ := rfl

/-! ## Order -/

section Order

variable {α : Type*} [LinearOrder α] {s t u v : List α}

theorem append_lt_append_iff : s ++ u < s ++ v ↔ u < v := by
  induction s with
  | nil => rfl
  | cons x s ih =>
      rw [List.cons_append, List.cons_append, List.cons_lt_cons_iff, ih]
      simp

/-- A smaller string is a proper prefix, or smaller at some byte whatever follows. -/
theorem lt_append_cases (h : s < t) :
    (∃ x r, t = s ++ x :: r) ∨ ∀ u v, s ++ u < t ++ v := by
  induction s generalizing t with
  | nil =>
      cases t with
      | nil => exact absurd h (lt_irrefl _)
      | cons x r => exact .inl ⟨x, r, rfl⟩
  | cons a s ih =>
      cases t with
      | nil => exact absurd h (List.not_lt_nil _)
      | cons b t =>
          rcases List.cons_lt_cons_iff.mp h with hlt | ⟨rfl, hlt⟩
          · exact .inr fun u v => List.cons_lt_cons_iff.mpr (.inl hlt)
          · rcases ih hlt with ⟨x, r, rfl⟩ | hall
            · exact .inl ⟨x, r, rfl⟩
            · exact .inr fun u v => List.cons_lt_cons_iff.mpr (.inr ⟨rfl, hall u v⟩)

/-- One byte against a longer string. -/
theorem singleton_lt_cons_iff {a b : α} (h : s ≠ []) : [a] < b :: s ↔ a ≤ b := by
  have hnil : [] < s := by
    obtain ⟨b, t, rfl⟩ := List.exists_cons_of_ne_nil h
    exact List.nil_lt_cons b t
  rw [List.cons_lt_cons_iff, le_iff_lt_or_eq, and_iff_left hnil]

end Order

/-- A byte that does not come again marks where a string was put together. -/
theorem append_cons_inj_of_notMem_right {α : Type*} {x : α} {s t u v : List α} (hu : x ∉ u)
    (hv : x ∉ v) (h : s ++ x :: u = t ++ x :: v) : s = t ∧ u = v := by
  rcases List.append_eq_append_iff.mp h with ⟨r, rfl, hr⟩ | ⟨r, rfl, hr⟩
  · cases r with
    | nil => exact ⟨(List.append_nil s).symm, (List.cons.inj hr).2⟩
    | cons y r =>
        obtain ⟨-, rfl⟩ := List.cons.inj hr
        exact absurd (List.mem_append_right r List.mem_cons_self) hu
  · cases r with
    | nil => exact ⟨List.append_nil t, (List.cons.inj hr).2.symm⟩
    | cons y r =>
        obtain ⟨-, rfl⟩ := List.cons.inj hr
        exact absurd (List.mem_append_right r List.mem_cons_self) hv

/-- …and so does a byte that did not come before. -/
theorem append_cons_inj_of_notMem_left {α : Type*} {x : α} {s t u v : List α} (hs : x ∉ s)
    (ht : x ∉ t) (h : s ++ x :: u = t ++ x :: v) : s = t ∧ u = v := by
  have hrev : u.reverse ++ x :: s.reverse = v.reverse ++ x :: t.reverse := by
    simpa using congrArg List.reverse h
  have hsplit := append_cons_inj_of_notMem_right (by simpa using hs) (by simpa using ht) hrev
  exact ⟨List.reverse_injective hsplit.2, List.reverse_injective hsplit.1⟩

/-! ## Decimals -/

/-- The bytes of a text. -/
def ascii (text : String) : List UInt8 := text.toList.map Char.toUInt8

/-- `to_string` of a number that is not negative. -/
def decimal (n : ℕ) : List UInt8 := (Nat.toDigits 10 n).map Char.toUInt8

/-- One digit. -/
def digit (n : ℕ) : UInt8 := (Nat.digitChar n).toUInt8

section Decimals

variable {m n : ℕ}

theorem decimal_of_lt_ten (h : n < 10) : decimal n = [digit n] := by
  rw [decimal, Nat.toDigits_of_lt_base h]
  rfl

/-- Digits are in the order of their numbers, and all below the colon. -/
theorem digit_lt_digit (hlt : m < n) (h : n < 10) : digit m < digit n := by
  have hall : ∀ n < 10, ∀ m < n, digit m < digit n := by decide
  exact hall n h m hlt

theorem digit_le_digit (hle : m ≤ n) (h : n < 10) : digit m ≤ digit n := by
  rcases Nat.lt_or_eq_of_le hle with hlt | rfl
  · exact (digit_lt_digit hlt h).le
  · exact le_rfl

/-- The bytes of a number are those of digits, so they are its digits again. -/
theorem toNat_toUInt8_of_isDigit {c : Char} (h : c.isDigit = true) :
    c.toUInt8.toNat = c.toNat ∧ 48 ≤ c.toNat ∧ c.toNat ≤ 57 := by
  have hrange : 48 ≤ c.toNat ∧ c.toNat ≤ 57 := by
    have hboth : 48 ≤ c.val ∧ c.val ≤ 57 := by simpa [Char.isDigit] using h
    exact hboth
  have hmod : c.toUInt8.toNat = c.toNat % 256 := rfl
  rw [hmod]
  omega

theorem map_ofNat_decimal (n : ℕ) :
    (decimal n).map (fun b => Char.ofNat b.toNat) = Nat.toDigits 10 n := by
  rw [decimal, List.map_map]
  refine (List.map_congr_left fun c hc => ?_).trans (List.map_id _)
  have hdigit : c.isDigit = true := Nat.isDigit_of_mem_toDigits (by decide) (by decide) hc
  rw [Function.comp_apply, (toNat_toUInt8_of_isDigit hdigit).1, Char.ofNat_toNat, id]

theorem decimal_injective : Function.Injective decimal := by
  intro m n h
  have hdigits : Nat.toDigits 10 m = Nat.toDigits 10 n := by
    rw [← map_ofNat_decimal, h, map_ofNat_decimal]
  rw [← Nat.ofDigitChars_ten_toDigits (n := m), hdigits, Nat.ofDigitChars_ten_toDigits]

/-- A decimal has no bytes but digits. -/
theorem toNat_mem_decimal {b : UInt8} (h : b ∈ decimal n) : 48 ≤ b.toNat ∧ b.toNat ≤ 57 := by
  obtain ⟨c, hc, rfl⟩ := List.mem_map.mp h
  obtain ⟨hnat, hrange⟩ := toNat_toUInt8_of_isDigit
    (Nat.isDigit_of_mem_toDigits (by decide) (by decide) hc)
  rwa [hnat]

theorem colon_notMem_decimal (n : ℕ) : (58 : UInt8) ∉ decimal n := by
  intro h
  exact absurd (toNat_mem_decimal h).2 (by decide)

theorem dash_notMem_decimal (n : ℕ) : (45 : UInt8) ∉ decimal n := by
  intro h
  exact absurd (toNat_mem_decimal h).1 (by decide)

end Decimals

end ByteStrings
