import UdxFastpath.Cndp.Configuration

/-!
# Lport numbers and thread numbers

CNDP numbers the generated lports and threads in the order in which they are printed,
which is the order of their **keys**.  `cndp_lport_mac` is in the order of the walk
over netdevs and queues.  The datapath takes the three for one: it answers ARP
requests of lport `i` with `cndp_lport_mac[i]`, and `send_single_packet_cndp` sends
for lport `i` on the lport of thread `i`.

With the places numbered along the walk, the lports lie as `arranged key` and the
threads as `arranged fwdKey` (`entries_lports`, `entries_threads`).  So the indices
agree exactly when the two arrangements are one, and no place leaves its netdev in it
(`forall_indicesAgree_iff_arranged`).
-/

namespace UdxFastpath.Cndp

open ByteStrings ByteWindow OrderedObject

/-! ## What the indices are taken for -/

section Agreement

variable (getMacAddress : JsonString → EtherAddr) (cfg : Configuration)

/-- The number of queues of all netdevs. -/
def Configuration.nbLports : ℕ := (cfg.lports.entries.map fun e => e.2.queues.length).sum

/-- The lport with `lpid = i`. -/
def LportAt (i : ℕ) (key : JsonString) : Prop :=
  ∃ lport, (getLportTemplate getMacAddress cfg).1.entries[i]? = some (key, lport)

/-- The thread with `idx = i`. -/
def ThreadAt (i : ℕ) (thd : ThreadConfig) : Prop :=
  ∃ name, (getThreadTemplate cfg).entries[i]? = some (name, thd)

/-- The lport is one of the netdev. -/
def LportOf (key dev : JsonString) : Prop :=
  ∃ netdev q, (dev, netdev) ∈ cfg.lports.entries ∧ q < netdev.queues.length ∧
    key = lportKey dev q

/-- `func_arg_store`: `process_callback` fills it for the threads other than `main`. -/
def funcArgStore (i : ℕ) : Option ThreadConfig :=
  match (getThreadTemplate cfg).entries[i]? with
  | some (name, thd) => if name = ascii "main" then none else some thd
  | none => none

/-- The lport `send_single_packet_cndp` sends on: the first one of the thread it finds. -/
def sendSinglePacketLport (lpid : ℕ) : Option JsonString :=
  (funcArgStore cfg lpid).bind fun thd => thd.lports[0]?

/-- **The indices agree**: entry `i` of `cndp_lport_mac` is the address of lport `i`'s netdev,
and thread `i` serves lport `i`; so a request on lport `i` is answered with that address, and a
packet for lport `i` is sent on it. -/
structure IndicesAgree : Prop where
  mac : ∀ i key dev, LportAt getMacAddress cfg i key → LportOf cfg key dev →
    (getLportTemplate getMacAddress cfg).2[i]? = some (getMacAddress dev)
  thread : ∀ i key, LportAt getMacAddress cfg i key → ∃ thd, ThreadAt cfg i thd ∧ thd.lports = [key]
  answers : ∀ i key dev, LportAt getMacAddress cfg i key → LportOf cfg key dev →
    ∀ (dm : DataPlaneManager) (b : Window),
      dm.lportMac = (getLportTemplate getMacAddress cfg).2 → dm.AsksForTap b →
        (dm.arpHandler b i).2.slice ETH_ALEN ETH_ALEN = (getMacAddress dev).toList
  sends : ∀ i key, LportAt getMacAddress cfg i key → sendSinglePacketLport cfg i = some key

end Agreement

/-! ## Numbered places -/

section Numbers

variable (cfg : Configuration)

/-- Place `n` of the walk. -/
def Configuration.place (n : ℕ) : Place := cfg.places.getD n default

/-- The key of the lport made at place `n`. -/
def Configuration.key (n : ℕ) : JsonString := (cfg.place n).key

theorem key_eq (n : ℕ) : cfg.key n = lportKey (cfg.place n).dev (cfg.place n).lportId := rfl

theorem length_places : cfg.places.length = cfg.nbLports := by
  simp [Configuration.places, placesOf, Configuration.nbLports, List.length_flatMap, placesFrom]

theorem places_eq_map : cfg.places = (List.range cfg.nbLports).map cfg.place := by
  refine List.ext_getElem (by simp [length_places]) fun n hn _ => ?_
  simp [Configuration.place, List.getElem?_eq_getElem hn]

variable {cfg} {m n : ℕ}

theorem getElem?_places (h : n < cfg.nbLports) : cfg.places[n]? = some (cfg.place n) := by
  rw [places_eq_map, List.getElem?_map, List.getElem?_range h, Option.map_some]

theorem exists_place_of_mem {p : Place} (h : p ∈ cfg.places) :
    ∃ n < cfg.nbLports, cfg.place n = p := by
  rw [places_eq_map] at h
  obtain ⟨n, hn, rfl⟩ := List.mem_map.mp h
  exact ⟨n, List.mem_range.mp hn, rfl⟩

theorem before_of_lt (hlt : m < n) (hn : n < cfg.nbLports) :
    (cfg.place m).Before (cfg.place n) := by
  have hpairwise := pairwise_places cfg
  rw [places_eq_map, List.pairwise_map] at hpairwise
  have hget := List.pairwise_iff_getElem.mp hpairwise m n (by simpa using hlt.trans hn)
    (by simpa using hn) hlt
  simpa using hget

theorem dev_le_dev (hle : m ≤ n) (hn : n < cfg.nbLports) :
    (cfg.place m).dev ≤ (cfg.place n).dev := by
  rcases Nat.lt_or_eq_of_le hle with hlt | rfl
  · rcases before_of_lt hlt hn with hdev | ⟨hdev, -⟩
    · exact hdev.le
    · exact hdev.le
  · exact le_rfl

theorem lportId_le (hn : n < cfg.nbLports) : (cfg.place n).lportId ≤ n :=
  (getElem?_placesOf_sub _ n _ (getElem?_places hn)).1

/-- Only on the first netdev the number of a place is that of its queue. -/
theorem lportId_lt (hn : n < cfg.nbLports) (hdev : (cfg.place 0).dev ≠ (cfg.place n).dev) :
    (cfg.place n).lportId < n := by
  obtain ⟨hle, p', hp', hdev'⟩ := getElem?_placesOf_sub _ n _ (getElem?_places hn)
  refine lt_of_le_of_ne hle fun heq => ?_
  rw [heq, Nat.sub_self] at hp'
  have hfirst := getElem?_places (Nat.zero_lt_of_lt hn)
  obtain rfl := Option.some.inj (hp'.symm.trans hfirst)
  exact hdev hdev'

theorem distinct_key (cfg : Configuration) : Distinct cfg.key cfg.nbLports := by
  intro a ha b hb hkey
  obtain ⟨hdev, hid⟩ := lportKey_inj hkey
  rcases Nat.lt_trichotomy a b with hlt | heq | hgt
  · rcases before_of_lt hlt hb with hlt | ⟨-, hlt⟩
    · exact absurd hdev hlt.ne
    · exact absurd hid hlt.ne
  · exact heq
  · rcases before_of_lt hgt ha with hlt | ⟨-, hlt⟩
    · exact absurd hdev hlt.ne'
    · exact absurd hid hlt.ne'

theorem distinct_fwdKey (n : ℕ) : Distinct fwdKey n := fun _ _ _ _ h => fwdKey_injective h

end Numbers

/-! ## How the generated objects lie -/

section Entries

variable (getMacAddress : JsonString → EtherAddr) (cfg : Configuration)

theorem entries_lports :
    (getLportTemplate getMacAddress cfg).1.entries =
      (arranged cfg.key cfg.nbLports).map fun n => (cfg.key n, (cfg.place n).lport) := by
  rw [getLportTemplate_eq]
  refine entries_eq_arranged _ (distinct_key cfg) ?_
  have hentries : lportEntries cfg.places =
      (List.range cfg.nbLports).map fun n => (cfg.key n, (cfg.place n).lport) := by
    rw [lportEntries, places_eq_map, List.map_map]
    rfl
  rw [← hentries]
  refine entries_perm_setAll _ _ ?_
  have hkeys : (lportEntries cfg.places).map Prod.fst =
      (List.range cfg.nbLports).map cfg.key := by
    rw [hentries, List.map_map]
    rfl
  rw [hkeys]
  refine List.Nodup.map_on ?_ List.nodup_range
  intro a ha b hb hkey
  exact distinct_key cfg a (List.mem_range.mp ha) b (List.mem_range.mp hb) hkey

theorem macs_eq :
    (getLportTemplate getMacAddress cfg).2 =
      (List.range cfg.nbLports).map fun n => getMacAddress (cfg.place n).dev := by
  rw [getLportTemplate_eq, places_eq_map, List.map_map]
  rfl

theorem threadEntries_places :
    threadEntries cfg cfg.places 0 =
      (List.range cfg.nbLports).map fun n => (fwdKey n, (cfg.place n).thread cfg) := by
  rw [places_eq_map, threadEntries]
  refine List.ext_getElem (by simp) fun n _ _ => ?_
  simp

/-- The thread `main` is behind all others. -/
theorem fwdKey_lt_main (n : ℕ) : fwdKey n < ascii "main" :=
  List.cons_lt_cons_iff.mpr (.inl (by decide))

theorem entries_threads :
    (getThreadTemplate cfg).entries =
      (arranged fwdKey cfg.nbLports).map (fun n => (fwdKey n, (cfg.place n).thread cfg)) ++
        [(ascii "main", mainThread)] := by
  rw [getThreadTemplate_eq, threadEntries_places]
  refine entries_eq_of_perm _ ?_ ?_
  · refine List.pairwise_append.mpr ⟨?_, List.pairwise_singleton _ _, ?_⟩
    · exact List.pairwise_map.mpr (pairwise_arranged (distinct_fwdKey _))
    · intro e he e' he'
      obtain ⟨n, -, rfl⟩ := List.mem_map.mp he
      rw [List.mem_singleton.mp he']
      exact fwdKey_lt_main n
  · refine (entries_perm_setAll _ _ ?_).trans (List.perm_append_comm.trans ?_)
    · rw [List.map_map]
      have hnodup : ((List.range cfg.nbLports).map fwdKey).Nodup :=
        List.nodup_range.map fwdKey_injective
      refine List.nodup_cons.mpr ⟨fun hmem => ?_, hnodup⟩
      have hmain : ascii "main" ∈ (List.range cfg.nbLports).map fwdKey := hmem
      obtain ⟨n, -, hn⟩ := List.mem_map.mp hmain
      exact (fwdKey_lt_main n).ne hn
    · exact ((arranged_perm fwdKey _).symm.map _).append_right _

end Entries

/-! ## Agreement as a question about arrangements -/

section Arrangements

variable {getMacAddress : JsonString → EtherAddr} {cfg : Configuration} {i : ℕ}

theorem lportAt_iff {key : JsonString} :
    LportAt getMacAddress cfg i key ↔
      ∃ a, (arranged cfg.key cfg.nbLports)[i]? = some a ∧ cfg.key a = key := by
  rw [LportAt, entries_lports, List.getElem?_map]
  constructor
  · rintro ⟨lport, h⟩
    obtain ⟨a, ha, heq⟩ := Option.map_eq_some_iff.mp h
    exact ⟨a, ha, congrArg Prod.fst heq⟩
  · rintro ⟨a, ha, rfl⟩
    exact ⟨(cfg.place a).lport, by rw [ha, Option.map_some]⟩

theorem lt_of_getElem?_arranged {key : ℕ → JsonString} {n a : ℕ}
    (h : (arranged key n)[i]? = some a) : i < n ∧ a < n := by
  obtain ⟨hlt, rfl⟩ := List.getElem?_eq_some_iff.mp h
  rw [length_arranged] at hlt
  exact ⟨hlt, mem_arranged.mp (List.getElem_mem _)⟩

/-- Below the number of lports, the thread with a number is the one of some place. -/
theorem threadAt_iff (hi : i < cfg.nbLports) {thd : ThreadConfig} :
    ThreadAt cfg i thd ↔
      ∃ a, (arranged fwdKey cfg.nbLports)[i]? = some a ∧ (cfg.place a).thread cfg = thd := by
  rw [ThreadAt, entries_threads, List.getElem?_append_left (by simpa [length_arranged] using hi),
    List.getElem?_map]
  constructor
  · rintro ⟨name, h⟩
    obtain ⟨a, ha, heq⟩ := Option.map_eq_some_iff.mp h
    exact ⟨a, ha, congrArg Prod.snd heq⟩
  · rintro ⟨a, ha, rfl⟩
    exact ⟨fwdKey a, by rw [ha, Option.map_some]⟩

theorem getElem?_macs (hi : i < cfg.nbLports) :
    (getLportTemplate getMacAddress cfg).2[i]? = some (getMacAddress (cfg.place i).dev) := by
  rw [macs_eq, List.getElem?_map, List.getElem?_range hi, Option.map_some]

/-- The lport made at a place is one of the place's netdev, and of no other. -/
theorem lportOf_key_iff {a : ℕ} (ha : a < cfg.nbLports) {dev : JsonString} :
    LportOf cfg (cfg.key a) dev ↔ (cfg.place a).dev = dev := by
  constructor
  · rintro ⟨netdev, q, -, -, hkey⟩
    exact (lportKey_inj hkey).1
  · rintro rfl
    have hmem := mem_places.mp (List.mem_of_getElem? (getElem?_places ha))
    exact ⟨_, _, hmem.1, (List.getElem?_eq_some_iff.mp hmem.2).1, rfl⟩

/-- A MAC address assignment tells a netdev from all others. -/
theorem mac_iff_dev_eq :
    (∀ getMacAddress i key dev, LportAt getMacAddress cfg i key → LportOf cfg key dev →
        (getLportTemplate getMacAddress cfg).2[i]? = some (getMacAddress dev)) ↔
      ∀ i a, (arranged cfg.key cfg.nbLports)[i]? = some a →
        (cfg.place a).dev = (cfg.place i).dev := by
  constructor
  · intro h i a ha
    obtain ⟨hi, han⟩ := lt_of_getElem?_arranged ha
    by_contra hne
    have hmac := h (fun dev => if dev = (cfg.place i).dev then ⟨fun _ => 1⟩ else ⟨fun _ => 0⟩) i _ _
      (lportAt_iff.mpr ⟨a, ha, rfl⟩) ((lportOf_key_iff han).mpr rfl)
    rw [getElem?_macs hi, Option.some.injEq, if_pos rfl, if_neg hne] at hmac
    have hoctet : (1 : UInt8) = 0 := congrArg (fun mac : EtherAddr => mac.octet 0) hmac
    exact absurd hoctet (by decide)
  · rintro h getMacAddress i key dev hlport hdev
    obtain ⟨a, ha, rfl⟩ := lportAt_iff.mp hlport
    obtain ⟨hi, han⟩ := lt_of_getElem?_arranged ha
    rw [getElem?_macs hi, ← h i a ha, (lportOf_key_iff han).mp hdev]

variable (getMacAddress) in
theorem thread_iff_arranged_eq :
    (∀ i key, LportAt getMacAddress cfg i key →
        ∃ thd, ThreadAt cfg i thd ∧ thd.lports = [key]) ↔
      arranged cfg.key cfg.nbLports = arranged fwdKey cfg.nbLports := by
  constructor
  · intro h
    refine List.ext_getElem? fun i => ?_
    by_cases hi : i < cfg.nbLports
    · obtain ⟨a, ha⟩ : ∃ a, (arranged cfg.key cfg.nbLports)[i]? = some a :=
        ⟨_, List.getElem?_eq_getElem (by rwa [length_arranged])⟩
      obtain ⟨thd, hthd, hlports⟩ := h i _ (lportAt_iff.mpr ⟨a, ha, rfl⟩)
      obtain ⟨b, hb, rfl⟩ := (threadAt_iff hi).mp hthd
      have hkey : cfg.key b = cfg.key a := (List.cons.inj hlports).1
      rw [ha, hb, distinct_key cfg b (lt_of_getElem?_arranged hb).2 a
        (lt_of_getElem?_arranged ha).2 hkey]
    · rw [List.getElem?_eq_none (by rw [length_arranged]; omega),
        List.getElem?_eq_none (by rw [length_arranged]; omega)]
  · intro h i key hlport
    obtain ⟨a, ha, rfl⟩ := lportAt_iff.mp hlport
    have hi := (lt_of_getElem?_arranged ha).1
    exact ⟨_, (threadAt_iff hi).mpr ⟨a, h ▸ ha, rfl⟩, rfl⟩

/-- The address a request is answered with is the entry of `lport_mac`. -/
theorem slice_arpHandler {dm : DataPlaneManager} {b : Window} (h : dm.AsksForTap b)
    {mac : EtherAddr} (hmac : dm.lportMac[i]? = some mac) :
    (dm.arpHandler b i).2.slice ETH_ALEN ETH_ALEN = mac.toList := by
  have hget : dm.lportMac.getD i default = mac := by
    rw [List.getD_eq_getElem?_getD, hmac, Option.getD_some]
  simp only [DataPlaneManager.arpHandler, if_pos h.1, if_pos h.2, hget]
  exact Window.slice_store_self _ ETH_ALEN mac.toList

/-- A packet is sent on the lport that the thread with its number serves. -/
theorem sendSinglePacketLport_eq (hi : i < cfg.nbLports) {thd : ThreadConfig} {key : JsonString}
    (hthd : ThreadAt cfg i thd) (hlports : thd.lports = [key]) :
    sendSinglePacketLport cfg i = some key := by
  obtain ⟨a, ha, rfl⟩ := (threadAt_iff hi).mp hthd
  have hentry : (getThreadTemplate cfg).entries[i]? =
      some (fwdKey a, (cfg.place a).thread cfg) := by
    rw [entries_threads, List.getElem?_append_left (by simpa [length_arranged] using hi),
      List.getElem?_map, ha, Option.map_some]
  simp [sendSinglePacketLport, funcArgStore, hentry, (fwdKey_lt_main a).ne, hlports]

/-- **Agreement is one arrangement in which no place leaves its netdev.** -/
theorem forall_indicesAgree_iff_arranged :
    (∀ getMacAddress, IndicesAgree getMacAddress cfg) ↔
      (∀ i a, (arranged cfg.key cfg.nbLports)[i]? = some a →
          (cfg.place a).dev = (cfg.place i).dev) ∧
        arranged cfg.key cfg.nbLports = arranged fwdKey cfg.nbLports := by
  constructor
  · intro h
    exact ⟨mac_iff_dev_eq.mp fun getMacAddress => (h getMacAddress).mac,
      (thread_iff_arranged_eq default).mp (h default).thread⟩
  · rintro ⟨hdev, harranged⟩ getMacAddress
    have hmac := mac_iff_dev_eq.mpr hdev getMacAddress
    have hthread := (thread_iff_arranged_eq getMacAddress).mpr harranged
    refine ⟨hmac, hthread, ?_, ?_⟩
    · intro i key dev hlport hof dm b hmacs hask
      exact slice_arpHandler hask (hmacs ▸ hmac i key dev hlport hof)
    · intro i key hlport
      obtain ⟨thd, hthd, hlports⟩ := hthread i key hlport
      obtain ⟨a, ha, -⟩ := lportAt_iff.mp hlport
      exact sendSinglePacketLport_eq (lt_of_getElem?_arranged ha).1 hthd hlports

end Arrangements

end UdxFastpath.Cndp
