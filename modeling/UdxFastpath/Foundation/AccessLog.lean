import UdxFastpath.Foundation.ByteWindow
import Mathlib.Algebra.Order.Ring.Int

/-!
# Computations that log what they access

A parser returns a value, and says nothing about where it looked for it.  `Logged α`
is a value of type `α` together with the list of the byte offsets that were read or
written on the way to it, so that the same parser can be asked both questions.

Offsets are relative to the front the packet had **at the beginning**.  They are
integers: a window that was moved forward or back in the meantime has its front at
`base`, and what lies in front of the original packet is negative.

* `Logged.value_bind` reduces a computation to its value step by step.
* `x.Below n` says that all accesses of `x` are below `n`; `below_bind` splits it at a
  step, and `below_access` says what it means for a single access.
-/

namespace AccessLog

open ByteWindow

/-- A value, and the offsets accessed on the way. -/
structure Logged (α : Type*) where
  value : α
  log : List ℤ

namespace Logged

universe u

variable {α β : Type u}

instance : Monad Logged where
  pure a := ⟨a, []⟩
  bind x f := ⟨(f x.value).value, x.log ++ (f x.value).log⟩

@[simp] theorem value_pure (a : α) : (pure a : Logged α).value = a := rfl

@[simp] theorem value_bind (x : Logged α) (f : α → Logged β) :
    (x >>= f).value = (f x.value).value := rfl

@[simp] theorem value_ite (c : Prop) [Decidable c] (x y : Logged α) :
    (if c then x else y).value = if c then x.value else y.value :=
  apply_ite value c x y

@[simp] theorem log_pure (a : α) : (pure a : Logged α).log = [] := rfl

@[simp] theorem log_bind (x : Logged α) (f : α → Logged β) :
    (x >>= f).log = x.log ++ (f x.value).log := rfl

@[simp] theorem log_ite (c : Prop) [Decidable c] (x y : Logged α) :
    (if c then x else y).log = if c then x.log else y.log :=
  apply_ite log c x y

/-- All accesses are below `n`. -/
def Below (x : Logged α) (n : ℤ) : Prop := ∀ o ∈ x.log, o < n

@[simp] theorem below_pure (a : α) (n : ℤ) : (pure a : Logged α).Below n := by
  intro o ho
  cases ho

@[simp] theorem below_bind (x : Logged α) (f : α → Logged β) (n : ℤ) :
    (x >>= f).Below n ↔ x.Below n ∧ (f x.value).Below n := by
  constructor
  · intro h
    refine ⟨fun o ho => ?_, fun o ho => ?_⟩
    · exact h o (List.mem_append_left _ ho)
    · exact h o (List.mem_append_right _ ho)
  · rintro ⟨hx, hf⟩ o ho
    rcases List.mem_append.mp ho with ho | ho
    · exact hx o ho
    · exact hf o ho

@[simp] theorem below_ite (c : Prop) [Decidable c] (x y : Logged α) (n : ℤ) :
    (if c then x else y).Below n ↔ (c → x.Below n) ∧ (¬ c → y.Below n) := by
  split
  · rename_i hc
    exact ⟨fun h => ⟨fun _ => h, fun hnot => absurd hc hnot⟩, fun h => h.1 hc⟩
  · rename_i hc
    exact ⟨fun h => ⟨fun hyes => absurd hyes hc, fun _ => h⟩, fun h => h.2 hc⟩

section Exits

variable {ε : Type u}

/-- A computation with exits: a step behind an exit is not taken. -/
theorem value_run_bind (x : ExceptT ε Logged α) (f : α → ExceptT ε Logged β) :
    (x >>= f).run.value = x.run.value >>= fun a => (f a).run.value := by
  rw [ExceptT.run_bind, value_bind]
  cases x.run.value <;> rfl

theorem below_run_bind {x : ExceptT ε Logged α} {f : α → ExceptT ε Logged β} {n : ℤ}
    (hx : x.run.Below n) (hf : ∀ a, (f a).run.Below n) : (x >>= f).run.Below n := by
  rw [ExceptT.run_bind, below_bind]
  refine ⟨hx, ?_⟩
  cases x.run.value with
  | ok a => exact hf a
  | error e => exact below_pure _ n

end Exits

/-- It depends on the log alone. -/
theorem below_congr {x : Logged α} {y : Logged β} (h : x.log = y.log) (n : ℤ) :
    x.Below n ↔ y.Below n := by
  rw [Below, Below, h]

theorem Below.mono {x : Logged α} {m n : ℤ} (h : x.Below m) (hmn : m ≤ n) : x.Below n :=
  fun o ho => (h o ho).trans_le hmn

end Logged

/-! ## Accesses -/

/-- Access `n` bytes at offset `p` of a window with its front at `base`. -/
def access {α : Type*} (base : ℤ) (p n : ℕ) (a : α) : Logged α :=
  ⟨a, (List.range n).map fun (k : ℕ) => base + p + (k : ℤ)⟩

@[simp] theorem value_access {α : Type*} (base : ℤ) (p n : ℕ) (a : α) :
    (access base p n a).value = a := rfl

/-- An access is below a bound when its last byte is. -/
theorem below_access {α : Type*} (base : ℤ) (p : ℕ) {n : ℕ} (hn : 0 < n) (a : α) (bound : ℤ) :
    (access base p n a).Below bound ↔ base + p + n ≤ bound := by
  constructor
  · intro h
    have hlast := h (base + p + (n - 1 : ℕ))
      (List.mem_map.mpr ⟨n - 1, List.mem_range.mpr (by omega), rfl⟩)
    omega
  · intro h o ho
    obtain ⟨k, hk, rfl⟩ := List.mem_map.mp ho
    have := List.mem_range.mp hk
    omega

section Window

variable (base : ℤ) (b : Window) (p : ℕ)

/-- Read a byte. -/
def readByte : Logged UInt8 := access base p 1 (b.byte p)

/-- Read a 16-bit field. -/
def readLE16 : Logged ℕ := access base p 2 (b.loadLE16 p)

/-- Read a 32-bit field. -/
def readLE32 : Logged ℕ := access base p 4 (b.loadLE32 p)

/-- Write a field. -/
def write (bs : List UInt8) : Logged Window := access base p bs.length (b.store p bs)

@[simp] theorem value_readByte : (readByte base b p).value = b.byte p := rfl

@[simp] theorem value_readLE16 : (readLE16 base b p).value = b.loadLE16 p := rfl

@[simp] theorem value_readLE32 : (readLE32 base b p).value = b.loadLE32 p := rfl

@[simp] theorem value_write (bs : List UInt8) : (write base b p bs).value = b.store p bs := rfl

@[simp] theorem below_readByte (bound : ℤ) :
    (readByte base b p).Below bound ↔ base + p + 1 ≤ bound :=
  below_access base p Nat.one_pos _ bound

@[simp] theorem below_readLE16 (bound : ℤ) :
    (readLE16 base b p).Below bound ↔ base + p + 2 ≤ bound :=
  below_access base p Nat.two_pos _ bound

@[simp] theorem below_readLE32 (bound : ℤ) :
    (readLE32 base b p).Below bound ↔ base + p + 4 ≤ bound :=
  below_access base p (Nat.succ_pos 3) _ bound

theorem below_write {bs : List UInt8} (hbs : bs ≠ []) (bound : ℤ) :
    (write base b p bs).Below bound ↔ base + p + bs.length ≤ bound :=
  below_access base p (List.length_pos_iff.mpr hbs) _ bound

@[simp] theorem below_writeByte (x : UInt8) (bound : ℤ) :
    (write base b p [x]).Below bound ↔ base + p + 1 ≤ bound :=
  below_write base b p (List.cons_ne_nil x []) bound

@[simp] theorem below_writeLE16 (n : ℕ) (bound : ℤ) :
    (write base b p (le16 n)).Below bound ↔ base + p + 2 ≤ bound :=
  below_write base b p (List.cons_ne_nil _ _) bound

@[simp] theorem below_writeLE32 (n : ℕ) (bound : ℤ) :
    (write base b p (le32 n)).Below bound ↔ base + p + 4 ≤ bound :=
  below_write base b p (List.cons_ne_nil _ _) bound

end Window

end AccessLog
