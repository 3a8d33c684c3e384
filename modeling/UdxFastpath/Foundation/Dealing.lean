import Mathlib.Order.Monotone.Basic
import Mathlib.Order.Fin.Basic
import Mathlib.Algebra.Order.Monoid.Unbundled.Basic
import Mathlib.Tactic.Ring

/-!
# Dealing consecutive items

`total` items in a row are dealt to `parties` as consecutive **parts**: everybody
gets `total / parties` of them, and the last `total % parties` parties one more.

* A cutting of the row is a function `cut` with part `i` being the items from
  `cut i` up to, but not including, `cut (i + 1)`.  `InPart` is membership, and
  an item is in exactly one part (`InPart.unique`, `exists_inPart`).
* Items come in **groups** of `width` consecutive ones.  `groupsWhole_iff`: no group
  is shared between two parts exactly when every cut between parts is a multiple of
  the width.
* `dealt` is the cutting described above and `dealt_dvd_iff` says when all its cuts
  are multiples: the common share is one and at most one item is left over.  For
  whole groups `share_dvd_iff` says the same more simply.

`succ_mod` and `succ_div` are the two digits of an odometer, for loops that step
through pairs.
-/

namespace Dealing

/-! ## The odometer -/

theorem succ_mod (t width : ℕ) :
    (t + 1) % width = if t % width + 1 = width then 0 else t % width + 1 := by
  rcases Nat.eq_zero_or_pos width with rfl | hpos
  · simp
  · rw [Nat.add_mod]
    have hlt := Nat.mod_lt t hpos
    by_cases hone : width = 1
    · subst hone
      simp [Nat.mod_one]
    · rw [Nat.mod_eq_of_lt (show 1 < width by omega)]
      by_cases hcarry : t % width + 1 = width
      · rw [if_pos hcarry, hcarry, Nat.mod_self]
      · rw [if_neg hcarry, Nat.mod_eq_of_lt (by omega)]

theorem succ_div {t width : ℕ} (hpos : 0 < width) :
    (t + 1) / width = if t % width + 1 = width then t / width + 1 else t / width := by
  have hdecomp := Nat.div_add_mod t width
  have hlt := Nat.mod_lt t hpos
  by_cases hcarry : t % width + 1 = width
  · rw [if_pos hcarry]
    have hnext : t + 1 = (t / width + 1) * width := by
      rw [Nat.add_mul, Nat.mul_comm, Nat.one_mul]
      omega
    rw [hnext, Nat.mul_div_cancel _ hpos]
  · rw [if_neg hcarry]
    have hnext : t + 1 = width * (t / width) + (t % width + 1) := by omega
    rw [hnext, Nat.mul_add_div hpos, Nat.div_eq_of_lt (show t % width + 1 < width by omega),
      Nat.add_zero]

/-! ## Parts -/

/-- Item `x` is in part `i` of the cutting. -/
def InPart (cut : ℕ → ℕ) (i x : ℕ) : Prop := cut i ≤ x ∧ x < cut (i + 1)

section Parts

variable {cut : ℕ → ℕ} {width n : ℕ}

/-- An item is in one part only. -/
theorem InPart.unique (hmono : Monotone cut) {i j x : ℕ} (hi : InPart cut i x)
    (hj : InPart cut j x) : i = j := by
  rcases Nat.lt_trichotomy i j with hlt | heq | hgt
  · have hcut : cut (i + 1) ≤ cut j := hmono hlt
    exact absurd (Nat.lt_of_lt_of_le hi.2 (hcut.trans hj.1)) (lt_irrefl x)
  · exact heq
  · have hcut : cut (j + 1) ≤ cut i := hmono hgt
    exact absurd (Nat.lt_of_lt_of_le hj.2 (hcut.trans hi.1)) (lt_irrefl x)

/-- Every item in front of a cut is in one of the parts in front of it. -/
theorem exists_inPart (hzero : cut 0 = 0) {x : ℕ} :
    ∀ k, x < cut k → ∃ i < k, InPart cut i x := by
  intro k
  induction k with
  | zero =>
      intro h
      rw [hzero] at h
      exact absurd h (Nat.not_lt_zero x)
  | succ k ih =>
      intro h
      by_cases hlt : x < cut k
      · obtain ⟨i, hi, hpart⟩ := ih hlt
        exact ⟨i, Nat.lt_succ_of_lt hi, hpart⟩
      · exact ⟨k, Nat.lt_succ_self k, Nat.le_of_not_lt hlt, h⟩

/-- Of the first `n` parts no two **share** a group of `width` items. -/
def GroupsWhole (cut : ℕ → ℕ) (width n : ℕ) : Prop :=
  ∀ i < n, ∀ j < n, ∀ x y, InPart cut i x → InPart cut j y → x / width = y / width → i = j

/-- A cut that is no multiple of the width divides a group: the items on both sides of it
are in the same one. -/
theorem dvd_of_groupsWhole (hstrict : StrictMono cut) (h : GroupsWhole cut width n) {i : ℕ}
    (hpos : 0 < i) (hlt : i < n) (hwidth : 0 < width) : width ∣ cut i := by
  by_contra hcon
  obtain ⟨j, rfl⟩ : ∃ j, i = j + 1 := ⟨i - 1, by omega⟩
  have hbefore := hstrict (Nat.lt_add_one j)
  have hafter := hstrict (Nat.lt_add_one (j + 1))
  obtain ⟨t, ht⟩ : ∃ t, cut (j + 1) = t + 1 := ⟨cut (j + 1) - 1, by omega⟩
  have hcarry : ¬ t % width + 1 = width := by
    intro hcarry
    have hmod := succ_mod t width
    rw [if_pos hcarry, ← ht] at hmod
    exact hcon (Nat.dvd_of_mod_eq_zero hmod)
  have hgroup : t / width = cut (j + 1) / width := by
    rw [ht, succ_div hwidth, if_neg hcarry]
  have hsame := h j (by omega) (j + 1) hlt t (cut (j + 1)) ⟨by omega, by omega⟩
    ⟨le_rfl, hafter⟩ hgroup
  omega

/-- If all cuts are multiples, a later part is behind every group of an earlier one. -/
theorem div_lt_div_of_dvd (hmono : Monotone cut) (hwidth : 0 < width)
    (h : ∀ i, 0 < i → i < n → width ∣ cut i) {i j x y : ℕ} (hlt : i < j) (hj : j < n)
    (hx : InPart cut i x) (hy : InPart cut j y) : x / width < y / width := by
  obtain ⟨q, hq⟩ := h j (by omega) hj
  have hle := hmono (show i + 1 ≤ j from hlt)
  have hxq : x < width * q := by
    have := hx.2
    omega
  have hyq : width * q ≤ y := by
    have := hy.1
    omega
  calc x / width < q := Nat.div_lt_of_lt_mul hxq
    _ = width * q / width := (Nat.mul_div_cancel_left q hwidth).symm
    _ ≤ y / width := Nat.div_le_div_right hyq

/-- **Groups stay whole exactly when every cut is a multiple of their width.** -/
theorem groupsWhole_iff (hstrict : StrictMono cut) (hwidth : 0 < width) :
    GroupsWhole cut width n ↔ ∀ i, 0 < i → i < n → width ∣ cut i := by
  constructor
  · intro h i hpos hlt
    exact dvd_of_groupsWhole hstrict h hpos hlt hwidth
  · intro h i hi j hj x y hx hy hgroup
    rcases Nat.lt_trichotomy i j with hlt | heq | hgt
    · have := div_lt_div_of_dvd hstrict.monotone hwidth h hlt hj hx hy
      omega
    · exact heq
    · have := div_lt_div_of_dvd hstrict.monotone hwidth h hgt hi hy hx
      omega

end Parts

/-! ## Equal shares -/

/-- The cutting in which the first `few` parts have `share` items and all later ones one
more. -/
def dealt (share few i : ℕ) : ℕ :=
  if i ≤ few then i * share else few * share + (i - few) * (share + 1)

section Dealt

variable {share few : ℕ}

theorem dealt_succ (i : ℕ) :
    dealt share few (i + 1) = dealt share few i + if i < few then share else share + 1 := by
  unfold dealt
  by_cases hi : i < few
  · rw [if_pos (by omega), if_pos (by omega), if_pos hi]
    ring
  · by_cases heq : i = few
    · subst heq
      rw [if_neg (by omega), if_pos le_rfl, if_neg hi]
      simp
    · obtain ⟨k, rfl⟩ : ∃ k, i = few + k := ⟨i - few, by omega⟩
      rw [if_neg (by omega), if_neg (by omega), if_neg hi, show few + k + 1 - few = k + 1 by omega,
        show few + k - few = k by omega]
      ring

theorem dealt_strictMono (hshare : 0 < share) : StrictMono (dealt share few) := by
  refine strictMono_nat_of_lt_succ fun i => ?_
  rw [dealt_succ]
  split <;> omega

/-- Equal shares, and one more for as many as there are items left over, are all items. -/
theorem shares_total {total parties : ℕ} (hpos : 0 < parties) :
    (parties - total % parties) * (total / parties) + total % parties * (total / parties + 1) =
      total := by
  have hmod := Nat.mod_lt total hpos
  rw [Nat.mul_succ, ← Nat.add_assoc, ← Nat.add_mul, Nat.sub_add_cancel hmod.le]
  exact Nat.div_add_mod total parties

theorem dealt_total {total parties : ℕ} (hpos : 0 < parties) :
    dealt (total / parties) (parties - total % parties) parties = total := by
  have hmod := Nat.mod_lt total hpos
  have hall := @shares_total total parties hpos
  unfold dealt
  by_cases heven : total % parties = 0
  · rw [heven, Nat.sub_zero, Nat.zero_mul, Nat.add_zero] at hall
    rw [heven, Nat.sub_zero, if_pos le_rfl, hall]
  · rw [if_neg (by omega), Nat.sub_sub_self hmod.le, hall]

/-- All cuts between `few + more` parts are multiples of `width` exactly when there is at
most one part, or the width is one, or the share is a multiple and at most one part has an
item more. -/
theorem dealt_dvd_iff {width more : ℕ} (hfew : 0 < few ∨ more = 0) :
    (∀ i, 0 < i → i < few + more → width ∣ dealt share few i) ↔
      few + more ≤ 1 ∨ width = 1 ∨ width ∣ share ∧ more ≤ 1 := by
  constructor
  · intro h
    by_cases hone : few + more ≤ 1
    · exact .inl hone
    · have hshare : width ∣ share := by
        have hcut := h 1 Nat.one_pos (by omega)
        rwa [dealt, if_pos (by omega), Nat.one_mul] at hcut
      by_cases hmore : more ≤ 1
      · exact .inr (.inr ⟨hshare, hmore⟩)
      · -- the share and one more are both multiples
        have hcut := h (few + 1) (by omega) (by omega)
        rw [dealt_succ, if_neg (by omega), dealt, if_pos le_rfl] at hcut
        have hrest : width ∣ share + 1 := (Nat.dvd_add_right (hshare.mul_left few)).mp hcut
        exact .inr (.inl (Nat.dvd_one.mp ((Nat.dvd_add_right hshare).mp hrest)))
  · rintro (hone | rfl | ⟨hshare, hmore⟩) i hpos hlt
    · omega
    · exact Nat.one_dvd _
    · rw [dealt, if_pos (by omega)]
      exact hshare.mul_left i

/-- With `width * groups` items: nobody's share divides a group exactly when the parties divide
the groups. -/
theorem share_dvd_iff {width groups parties : ℕ} (hwidth : 0 < width) (hpos : 0 < parties) :
    (parties ≤ 1 ∨ width = 1 ∨
        width ∣ width * groups / parties ∧ width * groups % parties ≤ 1) ↔
      width = 1 ∨ parties ∣ groups := by
  constructor
  · rintro (hone | hwidth | ⟨⟨t, ht⟩, hrest⟩)
    · obtain rfl : parties = 1 := by omega
      exact .inr (Nat.one_dvd _)
    · exact .inl hwidth
    · -- what is left over is a multiple of the width, so there is none or the width is one
      have hdecomp := Nat.div_add_mod (width * groups) parties
      rw [ht, Nat.mul_left_comm] at hdecomp
      have hdvd : width ∣ width * groups % parties :=
        (Nat.dvd_add_right (Nat.dvd_mul_right width _)).mp ⟨groups, hdecomp⟩
      rcases Nat.le_one_iff_eq_zero_or_eq_one.mp hrest with hzero | hone
      · rw [hzero, Nat.add_zero] at hdecomp
        exact .inr ⟨t, (Nat.eq_of_mul_eq_mul_left hwidth hdecomp).symm⟩
      · rw [hone] at hdvd
        exact .inl (Nat.dvd_one.mp hdvd)
  · rintro (hwidth | ⟨t, rfl⟩)
    · exact .inr (.inl hwidth)
    · refine .inr (.inr ?_)
      rw [Nat.mul_left_comm, Nat.mul_div_cancel_left _ hpos, Nat.mul_mod_right]
      exact ⟨Nat.dvd_mul_right _ _, Nat.zero_le 1⟩

end Dealt

end Dealing
