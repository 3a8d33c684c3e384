import UdxFastpath.Core.Manager
import UdxFastpath.Core.Rejection
import Mathlib.Data.Finset.Lattice.Basic
import Mathlib.Data.List.TakeWhile

/-!
# The list of fast-path ports

What `load_and_parse_config_file` makes of the entries of `fastpath-ports`.

An entry **covers** a port if it is the port's number, or a string of two decimals around
a dash with the port between them.  The loader reads more than that: it cuts numbers to
32 bits, and `stoi` is content with white space, signs and text behind a number; what it
cannot read ends the program (`Accepted`, `ReachesPort`).  `badEntriesSkipped_iff` puts the
two side by side.
-/

namespace UdxFastpath

open EarlyExit ByteStrings

/-! ## Decimals -/

/-- A number in decimal: digits, at least one, and nothing else. -/
structure IsDecimal (bytes : List UInt8) (n : ℕ) : Prop where
  ne_nil : bytes ≠ []
  digits : ∀ b ∈ bytes, isDigit b = true
  value : digitsValue bytes = n

section Decimals

variable {bytes x y : List UInt8} {n : ℕ}

theorem isDecimal_iff :
    IsDecimal bytes n ↔ bytes ≠ [] ∧ bytes.all isDigit = true ∧ digitsValue bytes = n := by
  rw [List.all_eq_true]
  exact ⟨fun h => ⟨h.ne_nil, h.digits, h.value⟩, fun h => ⟨h.1, h.2.1, h.2.2⟩⟩

instance : Decidable (IsDecimal bytes n) := decidable_of_iff _ isDecimal_iff.symm

/-- A digit is neither white space nor a sign. -/
theorem digit_cases {b : UInt8} (h : isDigit b = true) : isSpace b = false ∧ b ≠ 45 ∧ b ≠ 43 := by
  have hrange : 48 ≤ b.toNat ∧ b.toNat ≤ 57 := by
    simpa [isDigit, UInt8.le_iff_toNat_le] using h
  have hne : ∀ c : UInt8, c.toNat < 48 → b ≠ c := by
    rintro c hc rfl
    omega
  refine ⟨?_, hne 45 (by decide), hne 43 (by decide)⟩
  have hspace : ¬ b ≤ 13 := by
    rw [UInt8.le_iff_toNat_le]
    exact fun hle => absurd hle (by simp; omega)
  simp [isSpace, hne 32 (by decide), hspace]

/-- `stoi` reads a decimal back. -/
theorem stoi_of_isDecimal (h : IsDecimal bytes n) (hn : n ≤ 2147483647) :
    stoi bytes = some (n : ℤ) := by
  obtain ⟨b, rest, rfl⟩ := List.exists_cons_of_ne_nil h.ne_nil
  obtain ⟨hspace, hminus, hplus⟩ := digit_cases (h.digits b List.mem_cons_self)
  have hall : (b :: rest).takeWhile isDigit = b :: rest := List.takeWhile_eq_self_iff.mpr h.digits
  have hfits : JsonValue.FitsInt (n : ℤ) := ⟨by omega, by omega⟩
  have hsign : ((b :: rest).head? == some 45) = false := by simp [hminus]
  have hhead : ¬ ((b :: rest).head? = some 45 ∨ (b :: rest).head? = some 43) := by
    simp [hminus, hplus]
  rw [stoi, List.dropWhile_cons_of_neg (by simp [hspace])]
  simp only [hsign, if_neg hhead, hall, h.value]
  rw [if_neg Bool.false_ne_true, if_pos ⟨List.cons_ne_nil _ _, hfits⟩]

/-- The first dash of a range is the one between the decimals. -/
theorem IsDecimal.dash_notMem (h : IsDecimal bytes n) : (45 : UInt8) ∉ bytes :=
  fun hmem => (digit_cases (h.digits 45 hmem)).2.1 rfl

theorem idxOf?_dash (h : (45 : UInt8) ∉ x) : (x ++ 45 :: y).idxOf? 45 = some x.length := by
  induction x with
  | nil => rfl
  | cons b x ih =>
      rw [List.mem_cons, not_or] at h
      rw [List.cons_append, List.idxOf?_cons, ih h.2, if_neg (by simpa using Ne.symm h.1)]
      rfl

end Decimals

/-! ## What an entry means, and what the loader makes of it -/

/-- A well-formed entry for a port: its number, or a range of decimals it lies in. -/
def Covers (item : JsonValue) (p : ℕ) : Prop :=
  item.int64 = some (p : ℤ) ∨
    ∃ x y a b, item = .string (x ++ 45 :: y) ∧ IsDecimal x a ∧ IsDecimal y b ∧
      a ≤ 2147483647 ∧ b ≤ 2147483647 ∧ a ≤ p ∧ p ≤ b

/-- A string in which `stoi` finds a number on either side of the first dash. -/
def ReadAsRange (item : JsonValue) (start stop : ℤ) : Prop :=
  ∃ text ind, item = .string text ∧ text.idxOf? 45 = some ind ∧
    stoi (text.take ind) = some start ∧ stoi (text.drop (ind + 1)) = some stop

/-- An entry the loader survives: a number of 64 bits, or a string read as a range that does not
go up to the largest `int`. -/
def Accepted (item : JsonValue) : Prop :=
  item.int64.isSome ∨
    ∃ start stop, ReadAsRange item start stop ∧ ¬ (start ≤ stop ∧ stop = 2147483647)

/-- A port an accepted entry switches on: by the low 32 bits of a number, or by a range. -/
def ReachesPort (item : JsonValue) (p : ℤ) : Prop :=
  (∃ n, item.int64 = some n ∧ n.bmod 4294967296 = p) ∨
    ∃ start stop, ReadAsRange item start stop ∧ start ≤ p ∧ p ≤ stop

section Entries

variable {item : JsonValue}

theorem mem_insertRange {ports : Finset ℤ} {start stop p : ℤ} :
    p ∈ insertRange ports start stop ↔ p ∈ ports ∨ start ≤ p ∧ p ≤ stop := by
  have hloop : ∀ (l : List ℤ) (ports : Finset ℤ),
      p ∈ l.foldl (fun ports k => insert (start + k) ports) ports ↔
        p ∈ ports ∨ ∃ k ∈ l, start + k = p := by
    intro l
    induction l with
    | nil => simp
    | cons k l ih =>
        intro ports
        rw [List.foldl_cons, ih, Finset.mem_insert, List.exists_mem_cons_iff, eq_comm (a := p),
          or_assoc, or_left_comm]
  rw [insertRange, hloop]
  refine or_congr_right ?_
  simp only [List.bind_eq_flatMap, List.mem_flatMap, List.pure_def, List.mem_singleton,
    List.mem_range]
  constructor
  · rintro ⟨_, ⟨k, hk, rfl⟩, rfl⟩
    omega
  · rintro ⟨hstart, hstop⟩
    exact ⟨p - start, ⟨(p - start).toNat, by omega, by omega⟩, by omega⟩

/-- A range is no number, and it is read in one way. -/
theorem ReadAsRange.int64_eq_none {start stop : ℤ} (h : ReadAsRange item start stop) :
    item.int64 = none := by
  obtain ⟨text, ind, rfl, -⟩ := h
  rfl

theorem ReadAsRange.unique {start stop start' stop' : ℤ} (h : ReadAsRange item start stop)
    (h' : ReadAsRange item start' stop') : start = start' ∧ stop = stop' := by
  obtain ⟨text, ind, rfl, hind, hstart, hstop⟩ := h
  obtain ⟨text', ind', htext, hind', hstart', hstop'⟩ := h'
  obtain rfl := JsonValue.string.inj htext
  obtain rfl := Option.some.inj (hind.symm.trans hind')
  exact ⟨Option.some.inj (hstart.symm.trans hstart'), Option.some.inj (hstop.symm.trans hstop')⟩

theorem demand_eq_ok_iff {α : Type} {x : Option α} {a : α} : demand x = .ok a ↔ x = some a := by
  cases x <;> simp [demand]

/-- What one round of the loop does, if it does not stop short. -/
theorem insertPort_ok_iff {dm dm' : Loaded} :
    insertPort dm item = .ok dm' ↔
      (∃ n, item.int64 = some n ∧
        dm' = { dm with fastpathPorts := insert (n.bmod 4294967296) dm.fastpathPorts }) ∨
      ∃ start stop, ReadAsRange item start stop ∧ ¬ (start ≤ stop ∧ stop = 2147483647) ∧
        dm' = { dm with fastpathPorts := insertRange dm.fastpathPorts start stop } := by
  constructor
  · intro h
    unfold insertPort at h
    split at h
    · rename_i n hn
      exact .inl ⟨n, hn, (Except.ok.inj h).symm⟩
    · split at h
      · rename_i hstring
        split at h
        · cases h
        · rename_i ind hind
          obtain ⟨start, hstart, h⟩ := bind_eq_ok_iff.mp h
          obtain ⟨stop, hstop, h⟩ := bind_eq_ok_iff.mp h
          split at h
          · cases h
          · rename_i hend
            refine .inr ⟨start, stop, ⟨item.text, ind, ?_, hind, demand_eq_ok_iff.mp hstart,
              demand_eq_ok_iff.mp hstop⟩, hend, (Except.ok.inj h).symm⟩
            cases item <;> first | rfl | cases hstring
      · cases h
  · rintro (⟨n, hn, rfl⟩ | ⟨start, stop, ⟨text, ind, rfl, hind, hstart, hstop⟩, hend, rfl⟩)
    · simp only [insertPort, hn]
    · have htext : (JsonValue.string text).text = text := rfl
      have hstring : (JsonValue.string text).isString = true := rfl
      have hnumber : (JsonValue.string text).int64 = none := rfl
      simp only [insertPort, hnumber, hstring, htext, hind, hstart, hstop, demand, ok_bind, if_true]
      rw [if_neg hend]
      rfl

/-- A round gets through exactly for an accepted entry. -/
theorem exists_insertPort_iff (dm : Loaded) :
    (∃ dm', insertPort dm item = .ok dm') ↔ Accepted item := by
  simp only [insertPort_ok_iff, Accepted, Option.isSome_iff_exists]
  constructor
  · rintro ⟨dm', ⟨n, hn, -⟩ | ⟨start, stop, hread, hend, -⟩⟩
    · exact .inl ⟨n, hn⟩
    · exact .inr ⟨start, stop, hread, hend⟩
  · rintro (⟨n, hn⟩ | ⟨start, stop, hread, hend⟩)
    · exact ⟨_, .inl ⟨n, hn, rfl⟩⟩
    · exact ⟨_, .inr ⟨start, stop, hread, hend, rfl⟩⟩

/-- …and then adds the ports the entry reaches. -/
theorem mem_insertPort {dm dm' : Loaded} (h : insertPort dm item = .ok dm') (p : ℤ) :
    p ∈ dm'.fastpathPorts ↔ p ∈ dm.fastpathPorts ∨ ReachesPort item p := by
  rcases insertPort_ok_iff.mp h with ⟨n, hn, rfl⟩ | ⟨start, stop, hread, -, rfl⟩
  · rw [Finset.mem_insert, or_comm]
    refine or_congr_right ⟨fun hp => .inl ⟨n, hn, hp.symm⟩, ?_⟩
    rintro (⟨m, hm, rfl⟩ | ⟨start, stop, hread, -⟩)
    · rw [Option.some.inj (hn.symm.trans hm)]
    · rw [hread.int64_eq_none] at hn
      cases hn
  · rw [mem_insertRange]
    refine or_congr_right ⟨fun hp => .inr ⟨start, stop, hread, hp⟩, ?_⟩
    rintro (⟨m, hm, -⟩ | ⟨start', stop', hread', hp⟩)
    · rw [hread.int64_eq_none] at hm
      cases hm
    · obtain ⟨rfl, rfl⟩ := hread.unique hread'
      exact hp

/-- The loop over accepted entries gets through, and adds what they reach. -/
theorem foldlM_insertPort {items : List JsonValue} (h : ∀ item ∈ items, Accepted item)
    (dm : Loaded) :
    ∃ dm', items.foldlM insertPort dm = .ok dm' ∧
      ∀ p, p ∈ dm'.fastpathPorts ↔ p ∈ dm.fastpathPorts ∨ ∃ item ∈ items, ReachesPort item p := by
  induction items generalizing dm with
  | nil => exact ⟨dm, rfl, by simp⟩
  | cons item rest ih =>
      obtain ⟨dm₁, hround⟩ := (exists_insertPort_iff dm).mpr (h item List.mem_cons_self)
      obtain ⟨dm', hrest, hmem⟩ := ih (fun i hi => h i (List.mem_cons_of_mem _ hi)) dm₁
      refine ⟨dm', by rw [List.foldlM_cons, hround, ok_bind, hrest], fun p => ?_⟩
      rw [hmem, mem_insertPort hround, or_assoc, List.exists_mem_cons_iff]

/-- If it gets through, all entries were accepted. -/
theorem accepted_of_foldlM {items : List JsonValue} {dm dm' : Loaded}
    (h : items.foldlM insertPort dm = .ok dm') : ∀ item ∈ items, Accepted item := by
  induction items generalizing dm with
  | nil => simp
  | cons item rest ih =>
      rw [List.foldlM_cons] at h
      obtain ⟨dm₁, hround, hrest⟩ := bind_eq_ok_iff.mp h
      intro i hi
      rcases List.mem_cons.mp hi with rfl | hi
      · exact (exists_insertPort_iff dm).mp ⟨dm₁, hround⟩
      · exact ih hrest i hi

/-- Two decimals around a dash are read as the range they are. -/
theorem readAsRange_of_isDecimal {x y : List UInt8} {a b : ℕ} (hx : IsDecimal x a)
    (hy : IsDecimal y b) (ha : a ≤ 2147483647) (hb : b ≤ 2147483647) :
    ReadAsRange (.string (x ++ 45 :: y)) a b := by
  refine ⟨_, x.length, rfl, idxOf?_dash hx.dash_notMem, ?_, ?_⟩
  · rw [List.take_left]
    exact stoi_of_isDecimal hx ha
  · rw [← List.singleton_append, ← List.append_assoc, List.drop_left' (by simp)]
    exact stoi_of_isDecimal hy hb

/-- The loader reads a well-formed entry as it is meant. -/
theorem Covers.reaches {p : ℕ} (h : Covers item p) (hp : p ≤ 65535) : ReachesPort item p := by
  rcases h with hnumber | ⟨x, y, a, b, rfl, hx, hy, ha, hb, hap, hpb⟩
  · exact .inl ⟨p, hnumber, Int.bmod_eq_of_le (by omega) (by omega)⟩
  · exact .inr ⟨a, b, readAsRange_of_isDecimal hx hy ha hb, by omega, by omega⟩

end Entries

/-! ## The document around the list -/

/-- A document that is in order up to the entries of its list of ports. -/
structure PortsDocument (doc : JsonValue) (items : List JsonValue) : Prop where
  chosen : ApiChosen doc
  model : ModelAccepted doc
  cloud : Converts doc CLOUD_DEPLOYMENT_TAG JsonValue.asBool
  ports : ∃ config, doc.find FASTPATH_PORT_CONFIGURATION_TAG = some config ∧
    config.find FASTPATH_PORTS_TAG = some (.array items) ∧
    ((config.find FASTPATH_FILTERING_TAG).getD .null).asBool.isSome

/-- The manager after loading. -/
def Loaded.manager (dm : Loaded) (old : DataPlaneManager) : DataPlaneManager :=
  { old with fastPathFiltering := dm.fastPathFiltering, fastpathPorts := dm.fastpathPorts }

section Document

variable {doc : JsonValue} {members : List (List UInt8 × JsonValue)} {items : List JsonValue}

/-- The choice of the API leaves the ports alone. -/
theorem selectApi_keeps (h : doc.members = some members) (haccepted : ApiAccepted doc)
    (dm : Loaded) :
    ∃ dm', selectApi doc dm = .ok dm' ∧ dm'.fastpathPorts = dm.fastpathPorts := by
  have hne : ¬ API_VALUE_DPDK_TAG = API_VALUE_CNDP_TAG := by decide
  rw [selectApi_eq h]
  rcases haccepted with ⟨hname, hsection⟩ | ⟨hname, hsection⟩
  · obtain ⟨params, hparams⟩ := Option.isSome_iff_exists.mp hsection
    simp only [hname, hparams, Option.getD_some, JsonValue.text, if_true]
    exact ⟨_, rfl, rfl⟩
  · obtain ⟨params, hparams⟩ := Option.isSome_iff_exists.mp hsection
    simp only [hname, hparams, Option.getD_some, JsonValue.text, if_neg hne, if_true]
    exact ⟨_, rfl, rfl⟩

/-- …and so does that of the model. -/
theorem selectModel_keeps (h : doc.members = some members) (haccepted : ModelAccepted doc)
    (dm : Loaded) :
    ∃ dm', selectModel doc dm = .ok dm' ∧ dm'.fastpathPorts = dm.fastpathPorts := by
  have hne : ¬ MODEL_VALUE_RUN_TO_COMPLETION_TAG = MODEL_VALUE_MASTER_WORKER_TAG := by decide
  rw [selectModel_eq h]
  rcases haccepted with ⟨hname, hsection⟩ | hname
  · obtain ⟨workers, hworkers⟩ := Option.isSome_iff_exists.mp hsection
    simp only [hname, hworkers, Option.getD_some, JsonValue.text, if_true]
    exact ⟨_, rfl, rfl⟩
  · simp only [hname, Option.getD_some, JsonValue.text, if_neg hne, if_true]
    exact ⟨_, rfl, rfl⟩

/-- What is left of the loader is the loop over the entries, with no ports to begin with. -/
theorem loadAndParseConfigFile_eq_foldlM (h : PortsDocument doc items) :
    ∃ dm : Loaded, dm.fastpathPorts = ∅ ∧
      loadAndParseConfigFile doc {} = items.foldlM insertPort dm := by
  obtain ⟨config, hconfig, hports, hfiltering⟩ := h.ports
  obtain ⟨members, hmembers⟩ := JsonValue.exists_members_of_find hconfig
  obtain ⟨inner, hinner⟩ := JsonValue.exists_members_of_find hports
  obtain ⟨filtering, hfiltering⟩ := Option.isSome_iff_exists.mp hfiltering
  have hapi : ∃ name, doc.find API_TAG = some (.string name) := by
    rcases h.chosen.api with ⟨hname, -⟩ | ⟨hname, -⟩
    · exact ⟨_, hname⟩
    · exact ⟨_, hname⟩
  have hcheck : checkString doc API_TAG {} = .ok () :=
    ((checkString_cases hmembers API_TAG {}).resolve_right fun hnot => hnot.1 hapi).2
  have hcheck' : checkString doc MODEL_TAG {} = .ok () :=
    ((checkString_cases hmembers MODEL_TAG {}).resolve_right fun hnot => hnot.1 h.chosen.model).2
  obtain ⟨-, createTap, numQueuesTap, htap⟩ := (readTapOptions_cases {} hmembers).resolve_right
    fun hnot => hnot.1 ⟨h.chosen.createTap, h.chosen.numQueuesTap⟩
  obtain ⟨dm₁, hselect, hkeep₁⟩ :=
    selectApi_keeps hmembers h.chosen.api { createTap, numQueuesTap }
  obtain ⟨dm₂, hmodel, hkeep₂⟩ := selectModel_keeps hmembers h.model dm₁
  obtain ⟨-, cloudDeployment, hcloud⟩ :=
    (readCloudDeployment_cases dm₂ hmembers).resolve_right fun hnot => hnot.1 h.cloud
  refine ⟨{ dm₂ with cloudDeployment, fastPathFiltering := filtering }, hkeep₂.trans hkeep₁, ?_⟩
  simp only [loadAndParseConfigFile, hcheck, hcheck', htap, hselect, hmodel, hcloud, ok_bind]
  rw [readFastpathPorts_eq hmembers, hconfig]
  simp only [hinner, hports, hfiltering, Option.getD_some, JsonValue.isArray, JsonValue.items,
    demand, ok_bind, if_true]

end Document

/-! ## Bad entries -/

/-- **Bad entries are skipped, good ones still apply.**  The loader runs to its end, and
afterwards the filter lets exactly the ports through that a well-formed entry covers. -/
def BadEntriesSkipped (doc : JsonValue) (items : List JsonValue) : Prop :=
  ∃ dm, loadAndParseConfigFile doc {} = .ok dm ∧
    ∀ old : DataPlaneManager, ∀ p ≤ 65535,
      (dm.manager old).filterPacket p = false ↔ ∃ item ∈ items, Covers item p

/-- **When bad entries are skipped**: every entry is one the loader survives, and a port that an
entry reaches without covering it is covered by another. -/
theorem badEntriesSkipped_iff (doc : JsonValue) (items : List JsonValue)
    (h : PortsDocument doc items) :
    BadEntriesSkipped doc items ↔
      (∀ item ∈ items, Accepted item) ∧
        ∀ item ∈ items, ∀ p : ℕ, p ≤ 65535 → ReachesPort item p →
          ∃ good ∈ items, Covers good p := by
  obtain ⟨start, hnone, hload⟩ := loadAndParseConfigFile_eq_foldlM h
  have hfilter : ∀ (dm : Loaded) (old : DataPlaneManager) (p : ℕ),
      (dm.manager old).filterPacket p = false ↔ (p : ℤ) ∈ dm.fastpathPorts :=
    fun dm old p => (dm.manager old).filterPacket_eq_false_iff p
  constructor
  · rintro ⟨dm, hdm, hexact⟩
    have haccepted := accepted_of_foldlM (hload.symm.trans hdm)
    obtain ⟨dm', hdm', hmem⟩ := foldlM_insertPort haccepted start
    obtain rfl : dm = dm' := Except.ok.inj (hdm.symm.trans (hload.trans hdm'))
    refine ⟨haccepted, fun item hitem p hp hreaches => ?_⟩
    refine (hexact ⟨false, ∅, 0, default, []⟩ p hp).mp ((hfilter dm _ p).mpr ?_)
    exact (hmem p).mpr (.inr ⟨item, hitem, hreaches⟩)
  · rintro ⟨haccepted, hcovered⟩
    obtain ⟨dm, hdm, hmem⟩ := foldlM_insertPort haccepted start
    refine ⟨dm, hload.trans hdm, fun old p hp => ?_⟩
    rw [hfilter, hmem, hnone]
    constructor
    · rintro (hin | ⟨item, hitem, hreaches⟩)
      · exact absurd hin (Finset.notMem_empty _)
      · exact hcovered item hitem p hp hreaches
    · rintro ⟨item, hitem, hcovers⟩
      exact .inr ⟨item, hitem, hcovers.reaches hp⟩

/-- A DPDK configuration with a list of ports. -/
def portsConfig (items : List JsonValue) : JsonValue :=
  .object [(API_TAG, .string API_VALUE_DPDK_TAG),
    (MODEL_TAG, .string MODEL_VALUE_RUN_TO_COMPLETION_TAG), (DPDK_DATAPATH_TAG, .object []),
    (FASTPATH_PORT_CONFIGURATION_TAG,
      .object [(FASTPATH_FILTERING_TAG, .boolean true), (FASTPATH_PORTS_TAG, .array items)])]

theorem portsDocument_portsConfig (items : List JsonValue) :
    PortsDocument (portsConfig items) items where
  chosen := {
    api := .inr ⟨rfl, rfl⟩
    model := ⟨_, rfl⟩
    createTap := fun _ h => by cases h
    numQueuesTap := fun _ h => by cases h }
  model := .inr rfl
  cloud := fun _ h => by cases h
  ports := ⟨_, rfl, rfl, rfl⟩

/-- The iff at the entries of the template. -/
theorem badEntriesSkipped_template :
    BadEntriesSkipped (portsConfig [.int 2506, .string (ascii "10000-10100")])
      [.int 2506, .string (ascii "10000-10100")] := by
  have hread : ReadAsRange (.string (ascii "10000-10100")) 10000 10100 :=
    ⟨_, 5, rfl, by decide, by decide, by decide⟩
  refine (badEntriesSkipped_iff _ _ (portsDocument_portsConfig _)).mpr ⟨?_, ?_⟩
  · rintro item hitem
    rcases List.mem_pair.mp hitem with rfl | rfl
    · exact .inl rfl
    · exact .inr ⟨10000, 10100, hread, by decide⟩
  · rintro item hitem p hp hreaches
    refine ⟨item, hitem, ?_⟩
    rcases List.mem_pair.mp hitem with rfl | rfl
    · rcases hreaches with ⟨n, hn, hbmod⟩ | ⟨start, stop, hread, -⟩
      · have hvalue : n = 2506 := (Option.some.inj hn).symm
        subst hvalue
        have hport : (p : ℤ) = 2506 := hbmod.symm
        exact .inl (by rw [hport]; rfl)
      · cases hread.int64_eq_none
    · rcases hreaches with ⟨n, hn, -⟩ | ⟨start, stop, hread', hstart, hstop⟩
      · cases hn
      · obtain ⟨rfl, rfl⟩ := hread.unique hread'
        refine .inr ⟨ascii "10000", ascii "10100", 10000, 10100, rfl,
          by decide, by decide, by decide, by decide, by omega, by omega⟩

/-- **Four entries that are not skipped**: a string without a dash, a boolean, a range up to the
largest `int`, and a number that is port 80 in its low 32 bits. -/
theorem badEntries_not_skipped :
    loadAndParseConfigFile (portsConfig [.string (ascii "2506")]) {} = .error .undefined ∧
      loadAndParseConfigFile (portsConfig [.boolean true]) {} = .error .thrown ∧
      loadAndParseConfigFile (portsConfig [.string (ascii "0-2147483647")]) {} =
        .error .undefined ∧
      (∃ dm, loadAndParseConfigFile (portsConfig [.int 4294967376]) {} = .ok dm ∧
        80 ∈ dm.fastpathPorts) ∧
      ¬ BadEntriesSkipped (portsConfig [.boolean true]) [.boolean true] := by
  have hthrown : loadAndParseConfigFile (portsConfig [.boolean true]) {} = .error .thrown := rfl
  refine ⟨rfl, hthrown, rfl, ⟨_, rfl, by decide⟩, ?_⟩
  rintro ⟨dm, hdm, -⟩
  rw [hthrown] at hdm
  cases hdm

end UdxFastpath
