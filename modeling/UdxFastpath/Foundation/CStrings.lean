import UdxFastpath.Foundation.ByteStrings

/-!
# Strings with a terminator

A `CString` has the bytes in front of the terminator, none of which is zero.
`strncmp` compares two of them up to a length, and at the length of the first it
compares no further than the first goes: `strncmp_length_eq_zero_iff`.
-/

/-- The bytes of a string, without the zero behind them. -/
@[ext] structure CString where
  bytes : List UInt8
  noNul : 0 ∉ bytes
  deriving DecidableEq

namespace CStrings

/-- `strncmp`, on the bytes in front of the terminators. -/
def strncmp : List UInt8 → List UInt8 → ℕ → ℤ
  | _, _, 0 => 0
  | [], [], _ + 1 => 0
  | [], y :: _, _ + 1 => -y.toNat
  | x :: _, [], _ + 1 => x.toNat
  | x :: s, y :: t, n + 1 => if x = y then strncmp s t n else x.toNat - y.toNat

/-- Up to the length of the first string, equal means being a **prefix**. -/
theorem strncmp_length_eq_zero_iff {s : List UInt8} (hs : 0 ∉ s) (t : List UInt8) :
    strncmp s t s.length = 0 ↔ s <+: t := by
  induction s generalizing t with
  | nil => simp [strncmp]
  | cons x s ih =>
      rw [List.mem_cons, not_or] at hs
      cases t with
      | nil =>
          have hx : x.toNat ≠ 0 := fun hzero => hs.1 (UInt8.toNat_inj.mp hzero).symm
          simpa [strncmp] using hx
      | cons y t =>
          rw [List.length_cons, strncmp, List.cons_prefix_cons]
          split_ifs with hxy
          · rw [ih hs.2, and_iff_right hxy]
          · have hne : x.toNat ≠ y.toNat := fun h => hxy (UInt8.toNat_inj.mp h)
            refine iff_of_false ?_ fun h => hxy h.1
            omega

end CStrings
