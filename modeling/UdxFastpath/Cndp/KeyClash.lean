import UdxFastpath.Cndp.Indices

/-!
# When the indices agree

Two things make the order of lport keys, of thread keys and of the walk differ.

* **A longer name.**  Behind a name comes a colon, and that is above all digits:
  `eth10:0` is before `eth1:0` although `eth1` is before `eth10`.  `Clash` says
  exactly when a name and a longer one, or rather their keys, change places.
* **Two digits.**  `fwd:10` is before `fwd:2`.  With one netdev the lports change
  places in the same way, so nothing is lost; with several, places of one netdev
  come to lie among those of another, or queue 10 of the walk is queue 9 or less of
  its netdev and does not move with its thread.

`forall_indicesAgree_iff` is the outcome for up to 32 lports, which is the size of
`func_arg_store`.
-/

namespace UdxFastpath.Cndp

open ByteStrings OrderedObject

/-! ## The order of keys -/

section Keys

/-- A netdev `dev` with the given number of queues, at most ten, and a netdev whose name is
longer change places: the longer name goes on below the colon, or with a colon and then below
the digit of the last queue. -/
def Clash (dev : JsonString) (nbQueues : ℕ) (dev' : JsonString) : Prop :=
  ∃ x rest, dev' = dev ++ x :: rest ∧
    (x < 58 ∨ x = 58 ∧ ∃ y rest', rest = y :: rest' ∧ y < digit (nbQueues - 1))

theorem clash_append_iff {dev : JsonString} {nbQueues : ℕ} {x : UInt8} {rest : JsonString} :
    Clash dev nbQueues (dev ++ x :: rest) ↔
      x < 58 ∨ x = 58 ∧ ∃ y rest', rest = y :: rest' ∧ y < digit (nbQueues - 1) := by
  constructor
  · rintro ⟨x', rest', heq, h⟩
    obtain ⟨rfl, rfl⟩ := List.cons.inj (List.append_cancel_left heq)
    exact h
  · intro h
    exact ⟨x, rest, rfl, h⟩

theorem lt_of_clash {dev dev' : JsonString} {nbQueues : ℕ} (h : Clash dev nbQueues dev') :
    dev < dev' := by
  obtain ⟨x, rest, rfl, -⟩ := h
  conv_lhs => rw [← List.append_nil dev]
  exact append_lt_append_iff.mpr (List.nil_lt_cons _ _)

theorem digit_lt_colon {q : ℕ} (h : q < 10) : digit q < 58 := by
  have hall : ∀ q < 10, digit q < 58 := by decide
  exact hall q h

/-- More queues clash with more names. -/
theorem Clash.mono {dev dev' : JsonString} {q nbQueues : ℕ} (hle : q < nbQueues)
    (hten : nbQueues ≤ 10) (h : Clash dev (q + 1) dev') : Clash dev nbQueues dev' := by
  obtain ⟨x, rest, rfl, h⟩ := h
  refine ⟨x, rest, rfl, h.imp_right ?_⟩
  rintro ⟨hx, y, rest', hrest, hy⟩
  exact ⟨hx, y, rest', hrest, lt_of_lt_of_le hy (digit_le_digit (by omega) (by omega))⟩

theorem lportKey_lt_lportKey_iff {dev : JsonString} {q q' : ℕ} :
    lportKey dev q < lportKey dev q' ↔ decimal q < decimal q' := by
  rw [lportKey, lportKey, append_lt_append_iff]

theorem fwdKey_lt_fwdKey_iff {m n : ℕ} : fwdKey m < fwdKey n ↔ decimal m < decimal n :=
  append_lt_append_iff

theorem decimal_lt_decimal {m n : ℕ} (hlt : m < n) (h : n < 10) : decimal m < decimal n := by
  rw [decimal_of_lt_ten h, decimal_of_lt_ten (hlt.trans h)]
  exact List.cons_lt_cons_iff.mpr (.inl (digit_lt_digit hlt h))

/-- The end of a key against the end of a longer name's. -/
theorem colon_digit_lt_iff {q : ℕ} (hq : q < 10) (x : UInt8) (rest key : JsonString) :
    [58, digit q] < x :: (rest ++ 58 :: key) ↔
      ¬ (x < 58 ∨ x = 58 ∧ ∃ y rest', rest = y :: rest' ∧ y < digit q) := by
  rw [List.cons_lt_cons_iff]
  rcases lt_trichotomy x 58 with hx | rfl | hx
  · refine iff_of_false ?_ (not_not.mpr (.inl hx))
    rintro (h | ⟨h, -⟩)
    · exact h.asymm hx
    · exact hx.ne' h
  · -- a colon as well: the digit against what comes next
    simp only [lt_irrefl, false_or, true_and]
    cases rest with
    | nil => exact iff_of_true (List.cons_lt_cons_iff.mpr (.inl (digit_lt_colon hq))) (by simp)
    | cons y rest =>
        rw [List.cons_append, singleton_lt_cons_iff (by simp)]
        constructor
        · rintro h ⟨y', rest', heq, hy⟩
          obtain ⟨rfl, -⟩ := List.cons.inj heq
          exact h.not_gt hy
        · intro h
          exact not_lt.mp fun hy => h ⟨y, rest, rfl, hy⟩
  · refine iff_of_true (.inl hx) ?_
    rintro (h | ⟨h, -⟩)
    · exact h.asymm hx
    · exact hx.ne' h

/-- **The keys of two netdevs are in the order of their names unless the names clash.** -/
theorem lportKey_lt_iff_not_clash {dev dev' : JsonString} {q q' : ℕ} (hlt : dev < dev')
    (hq : q < 10) : lportKey dev q < lportKey dev' q' ↔ ¬ Clash dev (q + 1) dev' := by
  have hkey : lportKey dev q = dev ++ [58, digit q] := by
    rw [lportKey, decimal_of_lt_ten hq, List.append_assoc]
    rfl
  rcases lt_append_cases hlt with ⟨x, rest, rfl⟩ | hall
  · have hkey' : lportKey (dev ++ x :: rest) q' = dev ++ x :: (rest ++ 58 :: decimal q') := by
      simp only [lportKey, List.append_assoc, List.cons_append]
      rfl
    rw [hkey, hkey', append_lt_append_iff, clash_append_iff, Nat.add_sub_cancel]
    exact colon_digit_lt_iff hq x rest (decimal q')
  · rw [hkey, lportKey, List.append_assoc]
    refine iff_of_true (hall _ _) ?_
    rintro ⟨x, rest, rfl, -⟩
    have hself := hall (x :: rest) []
    rw [List.append_nil] at hself
    exact lt_irrefl _ hself

end Keys

/-! ## One netdev -/

section OneNetdev

variable {cfg : Configuration}

/-- At most one netdev has queues. -/
def OneNetdev (cfg : Configuration) : Prop :=
  ∀ e ∈ cfg.lports.entries, ∀ e' ∈ cfg.lports.entries,
    e.2.queues ≠ [] → e'.2.queues ≠ [] → e.1 = e'.1

/-- A queue of a netdev is somewhere on the walk. -/
theorem exists_place_of_lt {e : JsonString × Netdev} (he : e ∈ cfg.lports.entries) {q : ℕ}
    (hq : q < e.2.queues.length) :
    ∃ n < cfg.nbLports, (cfg.place n).dev = e.1 ∧ (cfg.place n).lportId = q := by
  have hmem : (⟨e.1, e.2, q, e.2.queues[q]⟩ : Place) ∈ cfg.places :=
    mem_places.mpr ⟨he, List.getElem?_eq_getElem hq⟩
  obtain ⟨n, hn, hplace⟩ := exists_place_of_mem hmem
  exact ⟨n, hn, by rw [hplace], by rw [hplace]⟩

theorem entry_place {n : ℕ} (hn : n < cfg.nbLports) :
    ((cfg.place n).dev, (cfg.place n).netdev) ∈ cfg.lports.entries ∧
      (cfg.place n).lportId < (cfg.place n).netdev.queues.length := by
  have hmem := mem_places.mp (List.mem_of_getElem? (getElem?_places hn))
  exact ⟨hmem.1, (List.getElem?_eq_some_iff.mp hmem.2).1⟩

/-- One netdev has all queues exactly when the walk ends where it began. -/
theorem oneNetdev_iff :
    OneNetdev cfg ↔ ∀ n < cfg.nbLports, (cfg.place n).dev = (cfg.place 0).dev := by
  constructor
  · intro h n hn
    obtain ⟨he, hq⟩ := entry_place hn
    obtain ⟨he', hq'⟩ := entry_place (Nat.zero_lt_of_lt hn)
    exact h _ he _ he' (List.ne_nil_of_length_pos (Nat.zero_lt_of_lt hq))
      (List.ne_nil_of_length_pos (Nat.zero_lt_of_lt hq'))
  · intro h e he e' he' hne hne'
    obtain ⟨n, hn, hdev, -⟩ := exists_place_of_lt he (List.length_pos_of_ne_nil hne)
    obtain ⟨n', hn', hdev', -⟩ := exists_place_of_lt he' (List.length_pos_of_ne_nil hne')
    rw [← hdev, ← hdev', h n hn, h n' hn']

/-- On a single netdev places and queues have the same numbers. -/
theorem lportId_eq (h : ∀ n < cfg.nbLports, (cfg.place n).dev = (cfg.place 0).dev) {n : ℕ}
    (hn : n < cfg.nbLports) : (cfg.place n).lportId = n := by
  refine Nat.le_antisymm (lportId_le hn) ?_
  induction n with
  | zero => exact Nat.zero_le _
  | succ n ih =>
      have hprev := ih (Nat.lt_of_succ_lt hn)
      rcases before_of_lt (Nat.lt_succ_self n) hn with hlt | ⟨-, hlt⟩
      · rw [h _ hn, h _ (Nat.lt_of_succ_lt hn)] at hlt
        exact absurd hlt (lt_irrefl _)
      · exact Nat.succ_le_of_lt (Nat.lt_of_le_of_lt hprev hlt)

/-- **One netdev**: lports and threads change places alike. -/
theorem arranged_eq_of_oneNetdev (h : OneNetdev cfg) :
    arranged cfg.key cfg.nbLports = arranged fwdKey cfg.nbLports := by
  have hdev := oneNetdev_iff.mp h
  rw [arranged_eq_iff (distinct_key cfg) (distinct_fwdKey _)]
  intro a ha b hb hlt
  rw [key_eq, key_eq, hdev a ha, hdev b hb,
    lportKey_lt_lportKey_iff, lportId_eq hdev ha, lportId_eq hdev hb] at hlt
  exact fwdKey_lt_fwdKey_iff.mpr hlt

end OneNetdev

/-! ## Up to ten lports -/

section Ten

variable {cfg : Configuration}

/-- No two names of netdevs with queues clash. -/
def NoClash (cfg : Configuration) : Prop :=
  ∀ e ∈ cfg.lports.entries, ∀ e' ∈ cfg.lports.entries,
    e.2.queues ≠ [] → e'.2.queues ≠ [] → ¬ Clash e.1 e.2.queues.length e'.1

/-- The walk is in the order of the keys. -/
def KeysIncrease (cfg : Configuration) : Prop :=
  ∀ a b, a < b → b < cfg.nbLports → cfg.key a < cfg.key b

/-- No netdev has more queues than there are places. -/
theorem length_queues_le {e : JsonString × Netdev} (he : e ∈ cfg.lports.entries) :
    e.2.queues.length ≤ cfg.nbLports := by
  by_contra hlt
  obtain ⟨n, hn, -, hid⟩ := exists_place_of_lt he (Nat.lt_of_not_le hlt)
  have := lportId_le hn
  omega

theorem keysIncrease_of_noClash (hten : cfg.nbLports ≤ 10) (h : NoClash cfg) :
    KeysIncrease cfg := by
  intro a b hab hb
  have ha := hab.trans hb
  obtain ⟨he, hq⟩ := entry_place ha
  obtain ⟨he', hq'⟩ := entry_place hb
  rcases before_of_lt hab hb with hdev | ⟨hdev, hid⟩
  · refine (lportKey_lt_iff_not_clash hdev (by have := lportId_le ha; omega)).mpr fun hclash => ?_
    refine h _ he _ he' (List.ne_nil_of_length_pos (Nat.zero_lt_of_lt hq))
      (List.ne_nil_of_length_pos (Nat.zero_lt_of_lt hq')) ?_
    exact hclash.mono hq ((length_queues_le he).trans hten)
  · rw [key_eq, key_eq, hdev, lportKey_lt_lportKey_iff]
    exact decimal_lt_decimal hid (by have := lportId_le hb; omega)

theorem noClash_of_keysIncrease (hten : cfg.nbLports ≤ 10) (h : KeysIncrease cfg) :
    NoClash cfg := by
  intro e he e' he' hne hne' hclash
  have hpos := List.length_pos_of_ne_nil hne
  have hlt := lt_of_clash hclash
  -- the last queue of the shorter name, and the first of the longer one
  obtain ⟨a, ha, hdev, hid⟩ := exists_place_of_lt he (Nat.sub_lt hpos Nat.one_pos)
  obtain ⟨b, hb, hdev', -⟩ := exists_place_of_lt he' (List.length_pos_of_ne_nil hne')
  have hab : a < b := by
    rcases Nat.lt_or_ge a b with hab | hba
    · exact hab
    · have hle := dev_le_dev hba ha
      rw [hdev, hdev'] at hle
      exact absurd hlt hle.not_gt
  have hkey := h a b hab hb
  rw [key_eq, key_eq, hdev, hdev', hid,
    lportKey_lt_iff_not_clash hlt (by have := length_queues_le he; omega),
    Nat.sub_add_cancel hpos] at hkey
  exact hkey hclash

theorem arranged_fwdKey_of_le_ten {n : ℕ} (h : n ≤ 10) : arranged fwdKey n = List.range n :=
  arranged_eq_range fun _ _ hab hb => fwdKey_lt_fwdKey_iff.mpr (decimal_lt_decimal hab (by omega))

/-- **Up to ten lports** the threads are in the order of the walk, and so must the lports be. -/
theorem arranged_eq_iff_of_le_ten (hten : cfg.nbLports ≤ 10) :
    arranged cfg.key cfg.nbLports = arranged fwdKey cfg.nbLports ↔ NoClash cfg := by
  constructor
  · intro h
    refine noClash_of_keysIncrease hten fun a b hab hb => ?_
    have hthreads : fwdKey a < fwdKey b :=
      fwdKey_lt_fwdKey_iff.mpr (decimal_lt_decimal hab (by omega))
    exact (arranged_eq_iff (distinct_fwdKey _) (distinct_key cfg)).mp h.symm a (hab.trans hb) b hb
      hthreads
  · intro h
    rw [arranged_fwdKey_of_le_ten hten]
    exact arranged_eq_range (keysIncrease_of_noClash hten h)

end Ten

/-! ## More than ten -/

section Eleven

variable {cfg : Configuration}

/-- From eleven threads on, thread 10 is third and thread 9 is last. -/
theorem arranged_fwdKey_of_eleven_le {n : ℕ} (hlow : 11 ≤ n) (hhigh : n ≤ 32) :
    (arranged fwdKey n)[2]? = some 10 ∧ (arranged fwdKey n)[n - 1]? = some 9 := by
  have hall : ∀ n < 33, 11 ≤ n →
      (arranged fwdKey n)[2]? = some 10 ∧ (arranged fwdKey n)[n - 1]? = some 9 := by
    decide +kernel
  exact hall n (by omega) hlow

/-- **From eleven lports on all must be on one netdev.**  Otherwise places 2 to the last are on
one, which is not the first, and there place 10 has a queue of one digit. -/
theorem oneNetdev_of_eleven_le (hlow : 11 ≤ cfg.nbLports) (hhigh : cfg.nbLports ≤ 32)
    (hstay : ∀ i a, (arranged cfg.key cfg.nbLports)[i]? = some a →
      (cfg.place a).dev = (cfg.place i).dev)
    (harranged : arranged cfg.key cfg.nbLports = arranged fwdKey cfg.nbLports) :
    OneNetdev cfg := by
  obtain ⟨hthird, hlast⟩ := arranged_fwdKey_of_eleven_le hlow hhigh
  rw [← harranged] at hthird hlast
  have hten : (cfg.place 10).dev = (cfg.place 2).dev := hstay 2 10 hthird
  have hnine : (cfg.place 9).dev = (cfg.place (cfg.nbLports - 1)).dev := hstay _ 9 hlast
  have hend : (cfg.place (cfg.nbLports - 1)).dev ≤ (cfg.place 2).dev :=
    calc (cfg.place (cfg.nbLports - 1)).dev = (cfg.place 9).dev := hnine.symm
      _ ≤ (cfg.place 10).dev := dev_le_dev (by decide) (by omega)
      _ = (cfg.place 2).dev := hten
  by_cases hfirst : (cfg.place 0).dev = (cfg.place 2).dev
  · refine oneNetdev_iff.mpr fun n hn => le_antisymm ?_ (dev_le_dev (Nat.zero_le n) hn)
    calc (cfg.place n).dev ≤ (cfg.place (cfg.nbLports - 1)).dev := dev_le_dev (by omega) (by omega)
      _ ≤ (cfg.place 2).dev := hend
      _ = (cfg.place 0).dev := hfirst.symm
  · exfalso
    have hid : (cfg.place 10).lportId < 10 := lportId_lt (by omega) (by rwa [hten])
    have hthreads : fwdKey 10 < fwdKey 2 := by decide
    have hkeys := (arranged_eq_iff (distinct_fwdKey _) (distinct_key cfg)).mp harranged.symm
      10 (by omega) 2 (by omega) hthreads
    rcases before_of_lt (show 2 < 10 by decide) (show 10 < cfg.nbLports by omega) with
      hdev | ⟨hdev, hlt⟩
    · exact hdev.ne hten.symm
    · rw [key_eq, key_eq, hdev,
        lportKey_lt_lportKey_iff] at hkeys
      exact (decimal_lt_decimal hlt hid).asymm hkeys

end Eleven

/-! ## The outcome -/

section Main

variable {cfg : Configuration}

/-- **When lports, threads and MAC addresses agree by index**, for up to 32 lports and whatever
addresses the netdevs have: all queues are on one netdev, or there are at most ten and no two
names clash. -/
theorem forall_indicesAgree_iff (h : cfg.nbLports ≤ 32) :
    (∀ getMacAddress, IndicesAgree getMacAddress cfg) ↔
      OneNetdev cfg ∨ cfg.nbLports ≤ 10 ∧ NoClash cfg := by
  rw [forall_indicesAgree_iff_arranged]
  constructor
  · rintro ⟨hstay, harranged⟩
    rcases Nat.lt_or_ge 10 cfg.nbLports with hlow | hten
    · exact .inl (oneNetdev_of_eleven_le hlow h hstay harranged)
    · exact .inr ⟨hten, (arranged_eq_iff_of_le_ten hten).mp harranged⟩
  · rintro (hone | ⟨hten, hclash⟩)
    · refine ⟨fun i a ha => ?_, arranged_eq_of_oneNetdev hone⟩
      obtain ⟨hi, han⟩ := lt_of_getElem?_arranged ha
      rw [oneNetdev_iff.mp hone a han, oneNetdev_iff.mp hone i hi]
    · refine ⟨fun i a ha => ?_, (arranged_eq_iff_of_le_ten hten).mpr hclash⟩
      rw [(arranged_eq_iff_of_le_ten hten).mpr hclash, arranged_fwdKey_of_le_ten hten] at ha
      obtain ⟨hi, rfl⟩ := List.getElem?_eq_some_iff.mp ha
      rw [List.getElem_range]

end Main

/-- A netdev with one queue. -/
def oneQueue : Netdev where
  pmd := some (ascii "net_af_xdp")
  umem := some (ascii "umem0")
  busyPoll := none
  busyBudget := none
  skbMode := none
  xskPinPath := none
  rxTxQueuesInfo := OrderedObject.empty.set (ascii "queue:0") ⟨1, 0, 0⟩

/-- Two netdevs with one queue each. -/
def twoNetdevs (dev dev' : String) : Configuration where
  lports := (OrderedObject.empty.set (ascii dev) oneQueue).set (ascii dev') oneQueue
  idleTimeout := none
  intrTimeout := none

/-- The iff for two netdevs with names of one length. -/
theorem twoNetdevs_agree :
    (twoNetdevs "eth0" "eth1").nbLports ≤ 32 ∧
      ∀ getMacAddress, IndicesAgree getMacAddress (twoNetdevs "eth0" "eth1") := by
  refine ⟨by decide, (forall_indicesAgree_iff (by decide)).mpr (.inr ⟨by decide, ?_⟩)⟩
  intro e he e' he' _ _ hclash
  have hlength : ∀ e ∈ (twoNetdevs "eth0" "eth1").lports.entries, e.1.length = 4 := by decide
  obtain ⟨x, rest, heq, -⟩ := hclash
  have hlonger := congrArg List.length heq
  rw [List.length_append, List.length_cons, hlength e he, hlength e' he'] at hlonger
  omega

/-- Addresses that tell the two netdevs apart: six times the last byte of the name. -/
def macOfLastByte (dev : JsonString) : EtherAddr := ⟨fun _ => dev.getLastD 0⟩

/-- **`eth1` and `eth10`**: lport 0 is the queue of `eth10`, but entry 0 of `cndp_lport_mac` is
the address of `eth1`, and what is sent for lport 0 goes out on `eth1`. -/
theorem eth10_before_eth1 :
    LportAt macOfLastByte (twoNetdevs "eth1" "eth10") 0 (ascii "eth10:0") ∧
      (getLportTemplate macOfLastByte (twoNetdevs "eth1" "eth10")).2[0]? =
        some (macOfLastByte (ascii "eth1")) ∧
      sendSinglePacketLport (twoNetdevs "eth1" "eth10") 0 = some (ascii "eth1:0") ∧
      ¬ IndicesAgree macOfLastByte (twoNetdevs "eth1" "eth10") := by
  have hlport : LportAt macOfLastByte (twoNetdevs "eth1" "eth10") 0 (ascii "eth10:0") :=
    ⟨fwdLport oneQueue ⟨1, 0, 0⟩, rfl⟩
  have hsends : sendSinglePacketLport (twoNetdevs "eth1" "eth10") 0 = some (ascii "eth1:0") := by
    decide
  refine ⟨hlport, rfl, hsends, fun h => ?_⟩
  have hother := h.sends 0 _ hlport
  rw [hsends] at hother
  exact absurd hother (by decide)

end UdxFastpath.Cndp
