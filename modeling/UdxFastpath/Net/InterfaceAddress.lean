import UdxFastpath.Foundation.CStrings

/-!
# The address of an interface

`get_ip_address` of `lib/unet/common/common.cpp` walks through the entries of
`getifaddrs` and takes the first IPv4 entry with the right name; the datapath asks it
for the address of `tap0`.  `getIPAddress` of `testing/read_mac.cpp` is a copy of it.

The two differ in the comparison.  The copy compares the names.  The library compares
as many bytes as the **requested** name has, so that the interface `tap01` answers for
`tap0` if it comes first (`byExactName_iff`).
-/

namespace UdxFastpath

open ByteStrings CStrings

/-! ## Interfaces -/

def AF_INET : ℕ := 2

/-- `struct in_addr`, in memory order. -/
structure InAddr where
  octet : Fin 4 → UInt8

/-- `s_addr`, on a little-endian host. -/
def InAddr.sAddr (a : InAddr) : UInt32 :=
  UInt32.ofNat ((a.octet 0).toNat + 256 * (a.octet 1).toNat + 65536 * (a.octet 2).toNat +
    16777216 * (a.octet 3).toNat)

/-- What `ifa_addr` points to; the address is there for the family `AF_INET`. -/
structure SockAddr where
  saFamily : ℕ
  sinAddr : InAddr

/-- `struct ifaddrs`, without the link to the next one. -/
structure IfAddrs where
  ifaName : CString
  ifaAddr : Option SockAddr

/-- The IPv4 address of an entry. -/
def IfAddrs.inet (ifa : IfAddrs) : Option InAddr :=
  ifa.ifaAddr.bind fun addr => if addr.saFamily = AF_INET then some addr.sinAddr else none

/-- `inet_ntop` for `AF_INET`: the octets in decimal, with dots in between. -/
def inetNtop (a : InAddr) : List UInt8 :=
  decimal (a.octet 0).toNat ++ 46 :: (decimal (a.octet 1).toNat ++
    46 :: (decimal (a.octet 2).toNat ++ 46 :: decimal (a.octet 3).toNat))

/-! ## The look-up and its copy -/

/-- The loop over the entries: the first IPv4 entry whose name passes the comparison. -/
def firstAddress (named : CString → Bool) : List IfAddrs → List UInt8
  | [] => []
  | ifa :: rest =>
      match ifa.ifaAddr with
      | none => firstAddress named rest
      | some addr =>
          if addr.saFamily = AF_INET ∧ named ifa.ifaName then inetNtop addr.sinAddr
          else firstAddress named rest

/-- `get_ip_address`; without entries when `getifaddrs` fails. -/
def getIpAddress (ifaddr : Option (List IfAddrs)) (interfaceName : CString) : List UInt8 :=
  firstAddress
    (fun name => strncmp interfaceName.bytes name.bytes interfaceName.bytes.length == 0)
    (ifaddr.getD [])

/-- `getIPAddress`, the copy among the tests. -/
def getIPAddress (ifaddr : Option (List IfAddrs)) (interfaceName : CString) : List UInt8 :=
  firstAddress (fun name => interfaceName == name) (ifaddr.getD [])

/-! ## Texts of addresses -/

section Texts

theorem dot_notMem_decimal (n : ℕ) : (46 : UInt8) ∉ decimal n := by
  intro h
  exact absurd (toNat_mem_decimal h).1 (by decide)

theorem decimal_toNat_inj {x y : UInt8} (h : decimal x.toNat = decimal y.toNat) : x = y :=
  UInt8.toNat_inj.mp (decimal_injective h)

/-- The first dot ends the first number. -/
theorem append_dot_inj {m n : ℕ} {s t : List UInt8}
    (h : decimal m ++ 46 :: s = decimal n ++ 46 :: t) : decimal m = decimal n ∧ s = t :=
  append_cons_inj_of_notMem_left (dot_notMem_decimal m) (dot_notMem_decimal n) h

/-- A text belongs to one address. -/
theorem inetNtop_injective : Function.Injective inetNtop := by
  rintro ⟨a⟩ ⟨c⟩ h
  simp only [inetNtop] at h
  obtain ⟨h0, h⟩ := append_dot_inj h
  obtain ⟨h1, h⟩ := append_dot_inj h
  obtain ⟨h2, h3⟩ := append_dot_inj h
  congr 1
  funext i
  match i with
  | 0 => exact decimal_toNat_inj h0
  | 1 => exact decimal_toNat_inj h1
  | 2 => exact decimal_toNat_inj h2
  | 3 => exact decimal_toNat_inj h3

theorem inetNtop_ne_nil (a : InAddr) : inetNtop a ≠ [] := by
  rw [inetNtop]
  exact fun h => List.cons_ne_nil _ _ (List.append_eq_nil_iff.mp h).2

end Texts

/-! ## Which entry answers -/

/-- The first IPv4 entry with a name of the kind. -/
def firstEntry (named : CString → Bool) (entries : List IfAddrs) : Option IfAddrs :=
  entries.find? fun ifa => ifa.inet.isSome && named ifa.ifaName

/-- **Look-up by exact name**: the text of the first IPv4 entry of that name, or nothing; and
what is returned is always the address of an interface of that name. -/
structure ByExactName (entries : List IfAddrs) (interfaceName : CString) (text : List UInt8) :
    Prop where
  found : ∀ ifa a, firstEntry (interfaceName == ·) entries = some ifa → ifa.inet = some a →
    text = inetNtop a
  missing : firstEntry (interfaceName == ·) entries = none → text = []
  own : text ≠ [] → ∃ ifa ∈ entries, ∃ a, ifa.ifaName = interfaceName ∧ ifa.inet = some a ∧
    text = inetNtop a

/-- The requested name begins the name of the entry. -/
def Begins (interfaceName name : CString) : Bool := interfaceName.bytes.isPrefixOf name.bytes

/-- Of the IPv4 entries whose names begin with the requested one, the first has that very name,
or at least the address of the first entry that has it. -/
def FirstIsOwn (entries : List IfAddrs) (interfaceName : CString) : Prop :=
  ∀ ifa, firstEntry (Begins interfaceName) entries = some ifa →
    ∃ own, firstEntry (interfaceName == ·) entries = some own ∧ own.inet = ifa.inet

section Lookup

variable {named : CString → Bool} {entries : List IfAddrs} {ifa : IfAddrs}

theorem firstEntry_some (h : firstEntry named entries = some ifa) :
    ifa ∈ entries ∧ named ifa.ifaName = true ∧ ∃ a, ifa.inet = some a := by
  rw [firstEntry, List.find?_eq_some_iff_append] at h
  obtain ⟨hboth, before, after, rfl, -⟩ := h
  obtain ⟨hinet, hname⟩ := Bool.and_eq_true_iff.mp hboth
  exact ⟨List.mem_append_right before List.mem_cons_self, hname, Option.isSome_iff_exists.mp hinet⟩

/-- The loop returns the text of the first entry, or nothing. -/
theorem firstAddress_eq (named : CString → Bool) (entries : List IfAddrs) :
    firstAddress named entries =
      (((firstEntry named entries).bind IfAddrs.inet).map inetNtop).getD [] := by
  induction entries with
  | nil => rfl
  | cons ifa rest ih =>
      rw [firstEntry] at ih
      rw [firstAddress, firstEntry, List.find?_cons]
      cases haddr : ifa.ifaAddr with
      | none =>
          have hinet : ifa.inet = none := by rw [IfAddrs.inet, haddr, Option.bind_none]
          rw [hinet]
          exact ih
      | some addr =>
          have hinet : ifa.inet = if addr.saFamily = AF_INET then some addr.sinAddr else none := by
            rw [IfAddrs.inet, haddr, Option.bind_some]
          by_cases hfamily : addr.saFamily = AF_INET
          · rw [if_pos hfamily] at hinet
            cases hnamed : named ifa.ifaName with
            | true => simp [hfamily, hinet]
            | false => simpa [hfamily, hinet] using ih
          · rw [if_neg hfamily] at hinet
            simpa [hfamily, hinet] using ih

theorem firstAddress_of_some {a : InAddr} (h : firstEntry named entries = some ifa)
    (ha : ifa.inet = some a) : firstAddress named entries = inetNtop a := by
  rw [firstAddress_eq, h, Option.bind_some, ha]
  rfl

theorem firstAddress_of_none (h : firstEntry named entries = none) :
    firstAddress named entries = [] := by
  rw [firstAddress_eq, h]
  rfl

/-- The library's comparison asks for a prefix. -/
theorem getIpAddress_eq (entries : List IfAddrs) (interfaceName : CString) :
    getIpAddress (some entries) interfaceName = firstAddress (Begins interfaceName) entries := by
  have hnamed : (fun name : CString => strncmp interfaceName.bytes name.bytes
      interfaceName.bytes.length == 0) = Begins interfaceName := by
    funext name
    rw [Bool.eq_iff_iff, beq_iff_eq, strncmp_length_eq_zero_iff interfaceName.noNul, Begins,
      List.isPrefixOf_iff_prefix]
  rw [getIpAddress, hnamed, Option.getD_some]

/-- The copy looks up by exact name. -/
theorem byExactName_getIPAddress (entries : List IfAddrs) (interfaceName : CString) :
    ByExactName entries interfaceName (getIPAddress (some entries) interfaceName) := by
  refine ⟨fun ifa a h ha => firstAddress_of_some h ha, fun h => firstAddress_of_none h, ?_⟩
  intro hne
  cases h : firstEntry (interfaceName == ·) entries with
  | none => exact absurd (firstAddress_of_none h) hne
  | some ifa =>
      obtain ⟨hmem, hname, a, ha⟩ := firstEntry_some h
      exact ⟨ifa, hmem, a, (beq_iff_eq.mp hname).symm, ha, firstAddress_of_some h ha⟩

/-- There is one text for a look-up by exact name. -/
theorem ByExactName.eq {interfaceName : CString} {s t : List UInt8}
    (hs : ByExactName entries interfaceName s) (ht : ByExactName entries interfaceName t) :
    s = t := by
  cases h : firstEntry (interfaceName == ·) entries with
  | none => rw [hs.missing h, ht.missing h]
  | some ifa =>
      obtain ⟨-, -, a, ha⟩ := firstEntry_some h
      rw [hs.found ifa a h ha, ht.found ifa a h ha]

end Lookup

/-- **An interface with a longer name can answer.**  The library looks up by exact name, as its
copy among the tests does, exactly when the first IPv4 entry whose name begins with the
requested one has that name, or at least the right address. -/
theorem byExactName_iff (entries : List IfAddrs) (interfaceName : CString) :
    (ByExactName entries interfaceName (getIpAddress (some entries) interfaceName) ∧
        getIPAddress (some entries) interfaceName = getIpAddress (some entries) interfaceName) ↔
      FirstIsOwn entries interfaceName := by
  have hcopy := byExactName_getIPAddress entries interfaceName
  rw [getIpAddress_eq]
  constructor
  · rintro ⟨hexact, -⟩ ifa hfirst
    obtain ⟨-, -, a, ha⟩ := firstEntry_some hfirst
    have htext := firstAddress_of_some hfirst ha
    cases hown : firstEntry (interfaceName == ·) entries with
    | none => exact absurd (htext.symm.trans (hexact.missing hown)) (inetNtop_ne_nil a)
    | some own =>
        obtain ⟨-, -, c, hc⟩ := firstEntry_some hown
        have hsame : a = c := inetNtop_injective (htext.symm.trans (hexact.found own c hown hc))
        exact ⟨own, rfl, by rw [hc, ha, hsame]⟩
  · intro h
    have hexact : getIPAddress (some entries) interfaceName =
        firstAddress (Begins interfaceName) entries := by
      cases hfirst : firstEntry (Begins interfaceName) entries with
      | none =>
          -- an entry of the name itself would begin with it
          have hnone : firstEntry (interfaceName == ·) entries = none := by
            rw [firstEntry, List.find?_eq_none] at hfirst ⊢
            intro ifa hmem hown
            obtain ⟨hinet, hname⟩ := Bool.and_eq_true_iff.mp hown
            have hbegins : Begins interfaceName ifa.ifaName = true :=
              List.isPrefixOf_iff_prefix.mpr (beq_iff_eq.mp hname ▸ List.prefix_rfl)
            exact hfirst ifa hmem (Bool.and_eq_true_iff.mpr ⟨hinet, hbegins⟩)
          rw [firstAddress_of_none hfirst]
          exact hcopy.missing hnone
      | some ifa =>
          obtain ⟨own, hown, hsame⟩ := h ifa hfirst
          obtain ⟨-, -, a, ha⟩ := firstEntry_some hfirst
          rw [firstAddress_of_some hfirst ha]
          exact hcopy.found own a hown (hsame.trans ha)
    exact ⟨hexact ▸ hcopy, hexact⟩

/-! ## Two TAP devices -/

/-- The name of the TAP device. -/
def tap0 : CString := ⟨ascii "tap0", by decide⟩

/-- An IPv4 entry for an interface. -/
def inetEntry (name : CString) (last : UInt8) : IfAddrs :=
  ⟨name, some ⟨AF_INET, ⟨fun i => [10, 0, 0, last].getD i 0⟩⟩⟩

/-- `tap01` is listed before `tap0`. -/
def twoTaps : List IfAddrs := [inetEntry ⟨ascii "tap01", by decide⟩ 2, inetEntry tap0 1]

/-- **The datapath takes the address of `tap01` for its own.** -/
theorem twoTaps_wrong_address :
    getIpAddress (some twoTaps) tap0 = ascii "10.0.0.2" ∧
      getIPAddress (some twoTaps) tap0 = ascii "10.0.0.1" ∧
      ¬ ByExactName twoTaps tap0 (getIpAddress (some twoTaps) tap0) := by
  have hwrong : getIpAddress (some twoTaps) tap0 = ascii "10.0.0.2" := by decide
  have hright : getIPAddress (some twoTaps) tap0 = ascii "10.0.0.1" := by decide
  refine ⟨hwrong, hright, fun h => ?_⟩
  have heq := h.eq (byExactName_getIPAddress twoTaps tap0)
  rw [hwrong, hright] at heq
  exact absurd heq (by decide)

end UdxFastpath
