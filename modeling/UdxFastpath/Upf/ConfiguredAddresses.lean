import UdxFastpath.Core.Loader
import UdxFastpath.Core.Manager
import UdxFastpath.Foundation.CParsing
import UdxFastpath.Net.InterfaceAddress
import Mathlib.Data.Fintype.Basic
import Mathlib.Data.List.Forall2
import Mathlib.Tactic.FinCases

/-!
# The addresses in the configuration

`str_ip_addr_to_int` and `str_mac_addr_to_array` of `app/main.cpp` read the addresses of
the application's configuration file.  Both cut their text into tokens with `strtok` and
read a number off each.  `ip_str_to_uint32` of the network library reads the address of
the TAP device, by way of `inet_pton`.

The two readers of IPv4 addresses disagree about the order of the bytes: the application
puts the first octet on top, the library leaves the address as it is in memory.
`configuredAddresses_faithful` says what each returns on canonical texts.
-/

namespace UdxFastpath

open ByteStrings CStrings ByteWindow

/-! ## The readers -/

/-- `c_str()`, as far as a C function sees it. -/
def cStr (text : List UInt8) : List UInt8 := text.takeWhile (· != 0)

/-- The loop over the tokens of an IPv4 address. -/
def addTokens (text : List UInt8) (num : UInt32) : UInt32 :=
  match _h : strtok 46 text with
  | none => num
  | some (tok, rest) => addTokens rest ((num <<< 8) + UInt32.ofNat (strtoul isSpace 0 tok))
termination_by text.length
decreasing_by exact length_lt_of_strtok _h

/-- `str_ip_addr_to_int`. -/
def strIpAddrToInt (ipadr : List UInt8) : UInt32 := addTokens (cStr ipadr) 0

/-- The octets of a MAC address; there are none when a token is missing and `strtol` is handed a
null pointer. -/
def macOctets : ℕ → List UInt8 → Option (List UInt8)
  | 0, _ => some []
  | n + 1, text => do
      let (tok, rest) ← strtok 58 text
      let octets ← macOctets n rest
      return UInt8.ofInt (strtol isSpace 16 tok) :: octets

/-- `str_mac_addr_to_array`. -/
def strMacAddrToArray (macaddr : List UInt8) : Option EtherAddr := do
  let octets ← macOctets 6 (cStr macaddr)
  return ⟨fun i => octets.getD i 0⟩

/-- `ip_str_to_uint32`; it ends the program on a text `inet_pton` does not take. -/
def ipStrToUint32 (inetPton : List UInt8 → Option InAddr) (ipStr : List UInt8) : Option UInt32 :=
  (inetPton ipStr).map InAddr.sAddr

/-! ## Texts -/

/-- A rendering of a MAC address: its octets as numbers of one or two hexadecimal digits, of either
case, with colons in between. -/
def RendersMac (mac : EtherAddr) (text : List UInt8) : Prop :=
  ∃ parts, List.Forall₂ (fun part octet => HexNumber part octet.toNat) parts mac.toList ∧
    text = [58].intercalate parts

/-- A text without zeros is seen whole. -/
theorem cStr_eq {text : List UInt8} (h : 0 ∉ text) : cStr text = text :=
  List.takeWhile_eq_self_iff.mpr (bne_of_notMem h)

/-! ## IPv4 addresses -/

section Addresses

variable {tok rest text : List UInt8} {num : UInt32} {n : ℕ}

theorem addTokens_of_strtok (h : strtok 46 text = some (tok, rest)) (num : UInt32) :
    addTokens text num = addTokens rest ((num <<< 8) + UInt32.ofNat (strtoul isSpace 0 tok)) := by
  rw [addTokens]
  split
  · rename_i hnone
    rw [h] at hnone
    cases hnone
  · rename_i hsome
    rw [h] at hsome
    cases hsome
    rfl

/-- A decimal in front of a dot is one round of the loop, -/
theorem addTokens_decimal_cons (hn : n < 256) (rest : List UInt8) (num : UInt32) :
    addTokens (decimal n ++ 46 :: rest) num = addTokens rest ((num <<< 8) + UInt32.ofNat n) := by
  rw [addTokens_of_strtok (strtok_append_cons (decimal_ne_nil n) (dot_notMem_decimal n) rest),
    strtoul_decimal (fun _ => isSpace_of_digitValue_lt) (by omega)]

/-- …and one at the end is the last. -/
theorem addTokens_decimal (hn : n < 256) (num : UInt32) :
    addTokens (decimal n) num = (num <<< 8) + UInt32.ofNat n := by
  rw [addTokens_of_strtok (strtok_of_notMem (decimal_ne_nil n) (dot_notMem_decimal n)),
    strtoul_decimal (fun _ => isSpace_of_digitValue_lt) (by omega), addTokens]
  rfl

/-- A round puts an octet behind those read so far. -/
theorem toNat_shiftLeft_add {m : ℕ} (h : num.toNat = m) (hm : m < 16777216) (hn : n < 256) :
    ((num <<< 8) + UInt32.ofNat n).toNat = 256 * m + n := by
  have hshift : (num <<< 8).toNat = num.toNat * 256 % 4294967296 := by
    rw [UInt32.toNat_shiftLeft, Nat.shiftLeft_eq]
    rfl
  rw [UInt32.toNat_add, hshift, UInt32.toNat_ofNat_of_lt' (by simp [UInt32.size]; omega)]
  omega

theorem zero_notMem_inetNtop (a : InAddr) : (0 : UInt8) ∉ inetNtop a := by
  have hdecimal : ∀ n, (0 : UInt8) ∉ decimal n := by
    intro n h
    exact absurd (toNat_mem_decimal h).1 (by decide)
  simp [inetNtop, hdecimal]

theorem InAddr.octet_lt (a : InAddr) :
    (a.octet 0).toNat < 256 ∧ (a.octet 1).toNat < 256 ∧ (a.octet 2).toNat < 256 ∧
      (a.octet 3).toNat < 256 :=
  ⟨(a.octet 0).toNat_lt, (a.octet 1).toNat_lt, (a.octet 2).toNat_lt, (a.octet 3).toNat_lt⟩

/-- **The application's reader**: the first octet is on top. -/
theorem toNat_strIpAddrToInt_inetNtop (a : InAddr) :
    (strIpAddrToInt (inetNtop a)).toNat = (a.octet 0).toNat * 2 ^ 24 +
      (a.octet 1).toNat * 2 ^ 16 + (a.octet 2).toNat * 2 ^ 8 + (a.octet 3).toNat := by
  obtain ⟨h0, h1, h2, h3⟩ := a.octet_lt
  have hfirst : (((0 : UInt32) <<< 8) + UInt32.ofNat (a.octet 0).toNat).toNat =
      256 * 0 + (a.octet 0).toNat := toNat_shiftLeft_add rfl (by omega) h0
  have hsecond := toNat_shiftLeft_add hfirst (by omega) h1
  have hthird := toNat_shiftLeft_add hsecond (by omega) h2
  have hfourth := toNat_shiftLeft_add hthird (by omega) h3
  rw [strIpAddrToInt, cStr_eq (zero_notMem_inetNtop a), inetNtop, addTokens_decimal_cons h0,
    addTokens_decimal_cons h1, addTokens_decimal_cons h2, addTokens_decimal h3, hfourth]
  omega

/-- The library's reader leaves the octets as they are in memory. -/
theorem toNat_sAddr (a : InAddr) :
    a.sAddr.toNat = (a.octet 0).toNat + 256 * (a.octet 1).toNat + 65536 * (a.octet 2).toNat +
      16777216 * (a.octet 3).toNat := by
  obtain ⟨h0, h1, h2, h3⟩ := a.octet_lt
  rw [InAddr.sAddr, UInt32.toNat_ofNat_of_lt' (by simp [UInt32.size]; omega)]

/-- **The two readers of IPv4 addresses are each other's byte swap.** -/
theorem strIpAddrToInt_eq_swap32 (a : InAddr) :
    (strIpAddrToInt (inetNtop a)).toNat = swap32 a.sAddr.toNat := by
  obtain ⟨h0, h1, h2, h3⟩ := a.octet_lt
  rw [toNat_strIpAddrToInt_inetNtop, toNat_sAddr]
  simp only [swap32, swap16]
  omega

end Addresses

/-! ## MAC addresses -/

section Macs

variable {part rest text octets : List UInt8} {parts : List (List UInt8)} {octet : UInt8} {n : ℕ}

theorem ofInt_strtol_of_hexNumber (h : HexNumber part octet.toNat) :
    UInt8.ofInt (strtol isSpace 16 part) = octet := by
  have hlt := octet.toNat_lt
  have hmod : ((octet.toNat : ℤ) % 2 ^ 8).toNat = octet.toNat := by omega
  rw [strtol_of_hexNumber (fun _ => isSpace_of_digitValue_lt) h, UInt8.ofInt, hmod,
    UInt8.ofNat_toNat]

/-- A part in front of a colon is one round of the loop, -/
theorem macOctets_cons (h : HexNumber part octet.toNat) (rest : List UInt8) (n : ℕ) :
    macOctets (n + 1) (part ++ 58 :: rest) = (macOctets n rest).map (octet :: ·) := by
  obtain ⟨hne, hcolon, -⟩ := h.token
  rw [macOctets, strtok_append_cons hne hcolon rest]
  cases hrest : macOctets n rest <;> simp [hrest, ofInt_strtol_of_hexNumber h]

/-- …and one at the end is the last. -/
theorem macOctets_last (h : HexNumber part octet.toNat) : macOctets 1 part = some [octet] := by
  obtain ⟨hne, hcolon, -⟩ := h.token
  rw [macOctets, strtok_of_notMem hne hcolon]
  simp [macOctets, ofInt_strtol_of_hexNumber h]

theorem zero_notMem_of_hexNumber (h : HexNumber part n) : (0 : UInt8) ∉ part := by
  have hzero : ∀ v, ¬ IsHexDigit 0 v := by
    intro v hv
    have hvalue : digitValue 0 = v := hv.digitValue_eq.1
    exact absurd (hvalue.trans_lt hv.1) (by decide)
  cases h with
  | one hb =>
      rw [List.mem_singleton]
      rintro rfl
      exact hzero _ hb
  | two hb hc =>
      rw [List.mem_pair]
      rintro (rfl | rfl)
      · exact hzero _ hb
      · exact hzero _ hc

/-- The loop reads the octets off their rendering. -/
theorem macOctets_intercalate
    (h : List.Forall₂ (fun part octet => HexNumber part octet.toNat) parts octets)
    (hne : parts ≠ []) : macOctets octets.length ([58].intercalate parts) = some octets := by
  induction h with
  | nil => exact absurd rfl hne
  | cons hpart hrest ih =>
      cases hrest with
      | nil =>
          rw [List.intercalate_singleton]
          exact macOctets_last hpart
      | cons hnext hbehind =>
          rw [List.intercalate_cons_cons, List.append_assoc, List.singleton_append,
            List.length_cons, macOctets_cons hpart, ih (List.cons_ne_nil _ _), Option.map_some]

theorem zero_notMem_intercalate
    (h : List.Forall₂ (fun part octet => HexNumber part octet.toNat) parts octets) :
    (0 : UInt8) ∉ [58].intercalate parts := by
  induction h with
  | nil => exact List.not_mem_nil
  | cons hpart hrest ih =>
      have hzero := zero_notMem_of_hexNumber hpart
      cases hrest with
      | nil => rwa [List.intercalate_singleton]
      | cons hnext hbehind =>
          rw [List.intercalate_cons_cons, List.append_assoc, List.mem_append]
          exact not_or.mpr ⟨hzero, List.not_mem_cons_of_ne_of_not_mem (by decide) ih⟩

/-- **Every rendering of a MAC address is read as that address.** -/
theorem strMacAddrToArray_of_rendersMac {mac : EtherAddr} (h : RendersMac mac text) :
    strMacAddrToArray text = some mac := by
  obtain ⟨parts, hparts, rfl⟩ := h
  have hlength : parts.length = 6 := hparts.length_eq
  have hread : macOctets 6 ([58].intercalate parts) = some mac.toList :=
    macOctets_intercalate hparts (List.ne_nil_of_length_pos (by omega))
  have hmac : (⟨fun i => mac.toList.getD i 0⟩ : EtherAddr) = mac := by
    obtain ⟨octet⟩ := mac
    congr 1
    funext i
    fin_cases i <;> rfl
  rw [strMacAddrToArray, cStr_eq (zero_notMem_intercalate hparts), hread, Option.bind_eq_bind,
    Option.bind_some, hmac]
  rfl

end Macs

/-! ## Both kinds -/

/-- **Configured addresses are parsed faithfully.**  On the canonical text of an IPv4 address the
application's reader returns the octets with the first on top, and the library's, with an
`inet_pton` that reads such texts back, the byte swap of it; and every rendering of a MAC address
is read as its octets. -/
theorem configuredAddresses_faithful (inetPton : List UInt8 → Option InAddr)
    (hpton : ∀ a, inetPton (inetNtop a) = some a) :
    (∀ a : InAddr,
      (strIpAddrToInt (inetNtop a)).toNat = (a.octet 0).toNat * 2 ^ 24 +
        (a.octet 1).toNat * 2 ^ 16 + (a.octet 2).toNat * 2 ^ 8 + (a.octet 3).toNat ∧
      ∃ n, ipStrToUint32 inetPton (inetNtop a) = some n ∧
        (strIpAddrToInt (inetNtop a)).toNat = swap32 n.toNat) ∧
    ∀ (mac : EtherAddr) (text : List UInt8), RendersMac mac text →
      strMacAddrToArray text = some mac := by
  refine ⟨fun a => ⟨toNat_strIpAddrToInt_inetNtop a, a.sAddr, ?_, strIpAddrToInt_eq_swap32 a⟩,
    fun mac text h => strMacAddrToArray_of_rendersMac h⟩
  rw [ipStrToUint32, hpton, Option.map_some]

/-- The octet a decimal writes; no other text is taken. -/
def ptonOctet (text : List UInt8) : Option UInt8 :=
  ((List.range 256).find? fun n => decimal n == text).map UInt8.ofNat

/-- `inet_pton` for `AF_INET`: four decimals with dots in between. -/
def inetPton (text : List UInt8) : Option InAddr :=
  match (text.splitOn 46).map ptonOctet with
  | [some a, some b, some c, some d] => some ⟨fun i => [a, b, c, d].getD i 0⟩
  | _ => none

theorem ptonOctet_decimal (octet : UInt8) : ptonOctet (decimal octet.toNat) = some octet := by
  have hfind : (List.range 256).find? (fun n => decimal n == decimal octet.toNat) =
      some octet.toNat := by
    refine List.find?_range_eq_some.mpr
      ⟨beq_self_eq_true _, List.mem_range.mpr octet.toNat_lt, fun n hn => ?_⟩
    have hne : decimal n ≠ decimal octet.toNat := decimal_injective.ne hn.ne
    simpa using hne
  rw [ptonOctet, hfind, Option.map_some, UInt8.ofNat_toNat]

/-- Such an `inet_pton` reads back what `inet_ntop` writes. -/
theorem inetPton_inetNtop (a : InAddr) : inetPton (inetNtop a) = some a := by
  obtain ⟨octet⟩ := a
  have hsplit : (inetNtop ⟨octet⟩).splitOn 46 = [decimal (octet 0).toNat, decimal (octet 1).toNat,
      decimal (octet 2).toNat, decimal (octet 3).toNat] := by
    rw [inetNtop, List.splitOn_append_cons_self_of_not_mem (dot_notMem_decimal _),
      List.splitOn_append_cons_self_of_not_mem (dot_notMem_decimal _),
      List.splitOn_append_cons_self_of_not_mem (dot_notMem_decimal _),
      List.splitOn_eq_singleton (dot_notMem_decimal _)]
  rw [inetPton, hsplit]
  simp only [List.map_cons, List.map_nil, ptonOctet_decimal, Option.some_inj, InAddr.mk.injEq]
  funext i
  fin_cases i <;> rfl

/-- The theorem at `192.168.1.10`, and at a MAC address with single digits and both cases. -/
theorem configuredAddresses_faithful_mixedCase :
    (strIpAddrToInt (ascii "192.168.1.10")).toNat = 0xC0A8010A ∧
      (∃ n, ipStrToUint32 inetPton (ascii "192.168.1.10") = some n ∧
        swap32 n.toNat = 0xC0A8010A) ∧
      strMacAddrToArray (ascii "0:1B:fF:a0:C:80") =
        some ⟨fun i => [0x00, 0x1B, 0xFF, 0xA0, 0x0C, 0x80].getD i 0⟩ := by
  obtain ⟨haddress, hmac⟩ := configuredAddresses_faithful inetPton inetPton_inetNtop
  obtain ⟨hvalue, n, hstored, hswap⟩ := haddress ⟨fun i => [192, 168, 1, 10].getD i 0⟩
  refine ⟨hvalue, ⟨n, hstored, hswap.symm.trans hvalue⟩, hmac _ _ ⟨[ascii "0", ascii "1B",
    ascii "fF", ascii "a0", ascii "C", ascii "80"], ?_, by decide⟩⟩
  exact .cons (.one ⟨by decide, .inl rfl⟩) <|
    .cons (.two (v := 1) (w := 11) ⟨by decide, .inl rfl⟩ ⟨by decide, .inr rfl⟩) <|
    .cons (.two (v := 15) (w := 15) ⟨by decide, .inl rfl⟩ ⟨by decide, .inr rfl⟩) <|
    .cons (.two (v := 10) (w := 0) ⟨by decide, .inl rfl⟩ ⟨by decide, .inl rfl⟩) <|
    .cons (.one ⟨by decide, .inr rfl⟩) <|
    .cons (.two (v := 8) (w := 0) ⟨by decide, .inl rfl⟩ ⟨by decide, .inl rfl⟩) .nil

end UdxFastpath
