import UdxFastpath.Foundation.ByteStrings
import Mathlib.Data.List.TakeWhile

/-!
# Reading C strings

`strtok` cuts a token off a string, `strtoul` and `strtol` read a number at the front of
one.  `space` is the white space of the locale; `long` has 64 bits.

The base is given or found out from the text, as in `0x1f` and `017`.  A decimal is read
back in the base that is found out, since it begins with `0` only if it is zero
(`strtoul_decimal`), and one or two hexadecimal digits of either case are read as the
number they write (`strtol_of_hexNumber`).
-/

namespace CStrings

open ByteStrings

/-! ## Tokens -/

/-- `strtok` with one delimiter: the next token and the text behind its delimiter; nothing if only
delimiters are left. -/
def strtok (delim : UInt8) (text : List UInt8) : Option (List UInt8 × List UInt8) :=
  match text.dropWhile (· == delim) with
  | [] => none
  | b :: rest =>
      some ((b :: rest).takeWhile (· != delim), ((b :: rest).dropWhile (· != delim)).tail)

section Tokens

variable {delim : UInt8} {token rest text : List UInt8}

/-- A text that does not begin with the delimiter. -/
theorem strtok_cons {b : UInt8} (h : b ≠ delim) (text : List UInt8) :
    strtok delim (b :: text) =
      some ((b :: text).takeWhile (· != delim), ((b :: text).dropWhile (· != delim)).tail) := by
  rw [strtok, List.dropWhile_cons_of_neg (by simpa using h)]

theorem bne_of_notMem (h : delim ∉ token) : ∀ b ∈ token, (b != delim) = true :=
  fun _ hb => bne_iff_ne.mpr fun heq => h (heq ▸ hb)

/-- A token that is followed by a delimiter. -/
theorem strtok_append_cons (hne : token ≠ []) (h : delim ∉ token) (rest : List UInt8) :
    strtok delim (token ++ delim :: rest) = some (token, rest) := by
  obtain ⟨b, token, rfl⟩ := List.exists_cons_of_ne_nil hne
  have hall := bne_of_notMem h
  have htake : (b :: (token ++ delim :: rest)).takeWhile (· != delim) = b :: token := by
    rw [← List.cons_append, List.takeWhile_append_of_pos hall,
      List.takeWhile_cons_of_neg (by simp), List.append_nil]
  have hdrop : (b :: (token ++ delim :: rest)).dropWhile (· != delim) = delim :: rest := by
    rw [← List.cons_append, List.dropWhile_append_of_pos hall,
      List.dropWhile_cons_of_neg (by simp)]
  rw [List.cons_append, strtok_cons (bne_iff_ne.mp (hall b List.mem_cons_self)), htake, hdrop,
    List.tail_cons]

/-- The last token. -/
theorem strtok_of_notMem (hne : token ≠ []) (h : delim ∉ token) :
    strtok delim token = some (token, []) := by
  obtain ⟨b, token, rfl⟩ := List.exists_cons_of_ne_nil hne
  have hall := bne_of_notMem h
  rw [strtok_cons (bne_iff_ne.mp (hall b List.mem_cons_self)),
    List.takeWhile_eq_self_iff.mpr hall, List.dropWhile_eq_nil_iff.mpr hall, List.tail_nil]

/-- A token takes at least a byte off the text. -/
theorem length_lt_of_strtok (h : strtok delim text = some (token, rest)) :
    rest.length < text.length := by
  rw [strtok] at h
  split at h
  · cases h
  · rename_i b behind hfront
    obtain ⟨-, rfl⟩ := Prod.mk.inj (Option.some.inj h)
    have hle := (List.dropWhile_suffix (l := text) (· == delim)).length_le
    have hle' := (List.dropWhile_suffix (l := b :: behind) (· != delim)).length_le
    rw [hfront] at hle
    rw [List.length_tail]
    simp only [List.length_cons] at hle hle' ⊢
    omega

end Tokens

/-! ## Numbers -/

/-- The value of a digit or a letter; no base has a digit of value 36. -/
def digitValue (b : UInt8) : ℕ :=
  if 48 ≤ b ∧ b ≤ 57 then b.toNat - 48
  else if 97 ≤ b ∧ b ≤ 122 then b.toNat - 87
  else if 65 ≤ b ∧ b ≤ 90 then b.toNat - 55
  else 36

/-- The number the digits at the front of a text write. -/
def leadingNumber (base : ℕ) (text : List UInt8) : ℕ :=
  (text.takeWhile fun b => digitValue b < base).foldl (fun acc b => base * acc + digitValue b) 0

/-- `0x`, with a hexadecimal digit behind it. -/
def hasHexPrefix : List UInt8 → Bool
  | zero :: x :: b :: _ => zero == 48 && (x == 120 || x == 88) && digitValue b < 16
  | _ => false

/-- The number behind the sign; for the base 0 it is found out from the text. -/
def unsignedNumber (base : ℕ) (text : List UInt8) : ℕ :=
  if base = 0 then
    if hasHexPrefix text then leadingNumber 16 (text.drop 2)
    else if text.head? = some 48 then leadingNumber 8 text
    else leadingNumber 10 text
  else if base = 16 ∧ hasHexPrefix text then leadingNumber 16 (text.drop 2)
  else leadingNumber base text

/-- White space and a sign are passed over; whether there was a minus sign, and the number. -/
def signedNumber (space : UInt8 → Bool) (base : ℕ) (text : List UInt8) : Bool × ℕ :=
  match text.dropWhile space with
  | [] => (false, 0)
  | b :: rest =>
      if b = 45 then (true, unsignedNumber base rest)
      else if b = 43 then (false, unsignedNumber base rest)
      else (false, unsignedNumber base (b :: rest))

/-- `strtoul`. -/
def strtoul (space : UInt8 → Bool) (base : ℕ) (text : List UInt8) : ℕ :=
  match signedNumber space base text with
  | (negative, n) =>
      if 18446744073709551616 ≤ n then 18446744073709551615
      else if negative then (18446744073709551616 - n) % 18446744073709551616
      else n

/-- `strtol`. -/
def strtol (space : UInt8 → Bool) (base : ℕ) (text : List UInt8) : ℤ :=
  match signedNumber space base text with
  | (negative, n) =>
      if negative then max (-9223372036854775808) (-n) else min 9223372036854775807 n

/-! ## Reading back -/

section ReadingBack

variable {space : UInt8 → Bool} {base n : ℕ} {text : List UInt8}

/-- A text that begins with a digit has no sign. -/
theorem signedNumber_cons {b : UInt8} (hspace : space b = false) (hb : digitValue b < 36)
    (text : List UInt8) :
    signedNumber space base (b :: text) = (false, unsignedNumber base (b :: text)) := by
  have hminus : b ≠ 45 := by
    rintro rfl
    exact absurd hb (by decide)
  have hplus : b ≠ 43 := by
    rintro rfl
    exact absurd hb (by decide)
  rw [signedNumber, List.dropWhile_cons_of_neg (by simp [hspace])]
  simp only [if_neg hminus, if_neg hplus]

/-! ### Decimals -/

theorem decimal_ne_nil (n : ℕ) : decimal n ≠ [] := by
  rw [decimal, ne_eq, List.map_eq_nil_iff]
  exact Nat.toDigits_ne_nil

theorem digitValue_of_isDigit {c : Char} (h : c.isDigit = true) :
    digitValue c.toUInt8 = c.toNat - 48 ∧ c.toNat - 48 < 10 := by
  obtain ⟨hnat, hlow, hhigh⟩ := toNat_toUInt8_of_isDigit h
  have hrange : 48 ≤ c.toUInt8 ∧ c.toUInt8 ≤ 57 := by
    rw [UInt8.le_iff_toNat_le, UInt8.le_iff_toNat_le, hnat]
    exact ⟨hlow, hhigh⟩
  rw [digitValue, if_pos hrange, hnat]
  exact ⟨rfl, by omega⟩

theorem isDigit_of_mem_toDigits {c : Char} (h : c ∈ Nat.toDigits 10 n) : c.isDigit = true :=
  Nat.isDigit_of_mem_toDigits (by decide) (by decide) h

theorem digitValue_lt_of_mem_decimal {b : UInt8} (h : b ∈ decimal n) : digitValue b < 10 := by
  obtain ⟨c, hc, rfl⟩ := List.mem_map.mp h
  have hvalue := digitValue_of_isDigit (isDigit_of_mem_toDigits hc)
  exact hvalue.1.trans_lt hvalue.2

/-- The digits of a decimal write the number. -/
theorem leadingNumber_decimal (n : ℕ) : leadingNumber 10 (decimal n) = n := by
  have hall : ∀ b ∈ decimal n, decide (digitValue b < 10) = true := fun b hb =>
    decide_eq_true (digitValue_lt_of_mem_decimal hb)
  have hfold : ∀ (l : List Char) (acc : ℕ), (∀ c ∈ l, c.isDigit = true) →
      (l.map Char.toUInt8).foldl (fun acc b => 10 * acc + digitValue b) acc =
        Nat.ofDigitChars 10 l acc := by
    intro l
    induction l with
    | nil => intro acc _; rfl
    | cons c l ih =>
        intro acc h
        rw [List.map_cons, List.foldl_cons, ih _ fun d hd => h d (List.mem_cons_of_mem c hd),
          (digitValue_of_isDigit (h c List.mem_cons_self)).1, Nat.ofDigitChars_cons]
        rfl
  rw [leadingNumber, List.takeWhile_eq_self_iff.mpr hall, decimal,
    hfold _ _ fun c hc => isDigit_of_mem_toDigits hc, Nat.ofDigitChars_ten_toDigits]

/-- A decimal begins with `0` only if it is zero. -/
theorem head?_decimal_ne (h : n ≠ 0) : (decimal n).head? ≠ some 48 := by
  induction n using Nat.strongRecOn with
  | _ n ih =>
      by_cases hlt : n < 10
      · have hall : ∀ n < 10, n ≠ 0 → digit n ≠ 48 := by decide
        rw [decimal_of_lt_ten hlt]
        simpa using hall n hlt h
      · have hfront := ih (n / 10) (by omega) (by omega)
        have hsplit : decimal n = decimal (n / 10) ++ [digit (n % 10)] := by
          rw [decimal, Nat.toDigits_of_base_le (by decide) (by omega), List.map_append]
          rfl
        rw [hsplit, List.head?_append_of_ne_nil _ (decimal_ne_nil _)]
        exact hfront

/-- The base that is found out for a decimal is ten, or it does not matter. -/
theorem unsignedNumber_decimal (n : ℕ) : unsignedNumber 0 (decimal n) = n := by
  by_cases hzero : n = 0
  · subst hzero
    rfl
  · have hhead := head?_decimal_ne hzero
    have hplain : hasHexPrefix (decimal n) = false := by
      cases hdecimal : decimal n with
      | nil => rfl
      | cons b rest =>
          rw [hdecimal, List.head?_cons, ne_eq, Option.some_inj] at hhead
          match rest with
          | [] => rfl
          | [c] => rfl
          | c :: d :: rest => simp [hasHexPrefix, hhead]
    rw [unsignedNumber, if_pos rfl, hplain, if_neg Bool.false_ne_true, if_neg hhead,
      leadingNumber_decimal]

/-- **A decimal is read back**, in the base that is found out. -/
theorem strtoul_decimal (hspace : ∀ b, digitValue b < 16 → space b = false)
    (hn : n < 18446744073709551616) : strtoul space 0 (decimal n) = n := by
  have hsigned : signedNumber space 0 (decimal n) = (false, n) := by
    obtain ⟨b, rest, hdecimal⟩ := List.exists_cons_of_ne_nil (decimal_ne_nil n)
    have hb : digitValue b < 10 := by
      refine digitValue_lt_of_mem_decimal (n := n) ?_
      rw [hdecimal]
      exact List.mem_cons_self
    have hnumber := unsignedNumber_decimal n
    rw [hdecimal] at hnumber ⊢
    rw [signedNumber_cons (hspace b (by omega)) (by omega), hnumber]
  simp only [strtoul, hsigned, if_neg (Nat.not_le.mpr hn)]
  rfl

/-- It is read back in base ten. -/
theorem strtol_decimal (hspace : ∀ b, digitValue b < 16 → space b = false)
    (hn : n ≤ 9223372036854775807) : strtol space 10 (decimal n) = n := by
  have hsigned : signedNumber space 10 (decimal n) = (false, n) := by
    obtain ⟨b, rest, hdecimal⟩ := List.exists_cons_of_ne_nil (decimal_ne_nil n)
    have hb : digitValue b < 10 := by
      refine digitValue_lt_of_mem_decimal (n := n) ?_
      rw [hdecimal]
      exact List.mem_cons_self
    have hnumber := leadingNumber_decimal n
    rw [hdecimal] at hnumber ⊢
    rw [signedNumber_cons (hspace b (by omega)) (by omega), unsignedNumber,
      if_neg (by decide), if_neg (by rintro ⟨h, -⟩; exact absurd h (by decide)), hnumber]
  rw [strtol, hsigned]
  dsimp only
  rw [if_neg Bool.false_ne_true]
  exact min_eq_right (by omega)

/-! ### Hexadecimal numbers -/

/-- The digits of a value, in lower and in upper case. -/
def IsHexDigit (b : UInt8) (v : ℕ) : Prop :=
  v < 16 ∧ (b = (ascii "0123456789abcdef").getD v 0 ∨ b = (ascii "0123456789ABCDEF").getD v 0)

/-- One or two hexadecimal digits. -/
inductive HexNumber : List UInt8 → ℕ → Prop
  | one {b : UInt8} {v : ℕ} (h : IsHexDigit b v) : HexNumber [b] v
  | two {b c : UInt8} {v w : ℕ} (high : IsHexDigit b v) (low : IsHexDigit c w) :
      HexNumber [b, c] (16 * v + w)

theorem IsHexDigit.digitValue_eq {b : UInt8} {v : ℕ} (h : IsHexDigit b v) :
    digitValue b = v ∧ b ≠ 58 := by
  have hall : ∀ v < 16,
      (digitValue ((ascii "0123456789abcdef").getD v 0) = v ∧
        (ascii "0123456789abcdef").getD v 0 ≠ 58) ∧
      digitValue ((ascii "0123456789ABCDEF").getD v 0) = v ∧
        (ascii "0123456789ABCDEF").getD v 0 ≠ 58 := by decide
  obtain ⟨hv, rfl | rfl⟩ := h
  · exact (hall v hv).1
  · exact (hall v hv).2

/-- A token without colons, below 256. -/
theorem HexNumber.token (h : HexNumber text n) : text ≠ [] ∧ (58 : UInt8) ∉ text ∧ n < 256 := by
  cases h with
  | one hb =>
      have hlt := hb.1
      exact ⟨List.cons_ne_nil _ _, by simpa using Ne.symm hb.digitValue_eq.2, by omega⟩
  | two hb hc =>
      have hlt := hb.1
      have hlt' := hc.1
      refine ⟨List.cons_ne_nil _ _, ?_, by omega⟩
      simpa using ⟨Ne.symm hb.digitValue_eq.2, Ne.symm hc.digitValue_eq.2⟩

/-- The digits write the number; two of them cannot be `0x` and a digit. -/
theorem HexNumber.unsignedNumber_eq (h : HexNumber text n) : unsignedNumber 16 text = n := by
  cases h with
  | one hb =>
      have hvalue := hb.digitValue_eq.1
      have hlt := hb.1
      simp [unsignedNumber, hasHexPrefix, leadingNumber, hvalue, hlt]
  | two hb hc =>
      have hvalue := hb.digitValue_eq.1
      have hvalue' := hc.digitValue_eq.1
      have hlt := hb.1
      have hlt' := hc.1
      simp [unsignedNumber, hasHexPrefix, leadingNumber, hvalue, hvalue', hlt, hlt']

/-- **One or two hexadecimal digits are read as the number they write**, whatever their case. -/
theorem strtol_of_hexNumber (hspace : ∀ b, digitValue b < 16 → space b = false)
    (h : HexNumber text n) : strtol space 16 text = n := by
  have hfirst : ∃ b rest, text = b :: rest ∧ digitValue b < 16 := by
    cases h with
    | one hb => exact ⟨_, _, rfl, hb.digitValue_eq.1.trans_lt hb.1⟩
    | two hb hc => exact ⟨_, _, rfl, hb.digitValue_eq.1.trans_lt hb.1⟩
  obtain ⟨b, rest, rfl, hb⟩ := hfirst
  have hlt := h.token.2.2
  simp only [strtol, signedNumber_cons (hspace b hb) (by omega), h.unsignedNumber_eq]
  rw [if_neg Bool.false_ne_true, min_eq_right (by omega)]

end ReadingBack

end CStrings
