import UdxFastpath.Core.FastpathPorts

/-!
# Lists of numbers and ranges

Three loops expand a list of numbers and ranges: that over `fastpath-ports` in the
loader, and those over `worker-cores` in `setup_worker_threads` of CNDP and in
`start_dpdk_datapath`.  The last two are one text written twice; they ask for a smaller
number than the loader, append where it inserts, and pass over what it stumbles over.

On a list of numbers and ranges of ports the three compute the same
(`rangeLists_alike`): `Denotes` says what an entry stands for, and the list stands for
the concatenation.
-/

namespace UdxFastpath

open EarlyExit ByteStrings

/-! ## The loops over worker cores -/

/-- One round: a number or a range is appended to the vector.  `asUInt` throws for a negative
number; a string without a dash makes an iterator in front of its beginning, and a range up to
the largest `int` has no end.  Any other entry is passed over. -/
def pushWorkerCore (cores : List ℤ) (item : JsonValue) : Except Stop (List ℤ) :=
  match item.int32 with
  | some n => if 0 ≤ n then .ok (cores ++ [n]) else .error .thrown
  | none =>
      if item.isString then
        match item.text.idxOf? 45 with
        | none => .error .undefined
        | some ind => do
            let start ← demand (stoi (item.text.take ind))
            let stop ← demand (stoi (item.text.drop (ind + 1)))
            if start ≤ stop ∧ stop = 2147483647 then throw .undefined
            return cores ++
              (List.range (stop + 1 - start).toNat).map fun k : ℕ => start + (k : ℤ)
      else .ok cores

/-- `worker_cores` of `setup_worker_threads`, for the entries of `worker-cores`. -/
def Cndp.workerCores (items : List JsonValue) : Except Stop (List ℤ) :=
  items.foldlM pushWorkerCore []

/-- `workers_cores` of `start_dpdk_datapath`. -/
def Dpdk.workersCores (items : List JsonValue) : Except Stop (List ℤ) :=
  items.foldlM pushWorkerCore []

/-! ## What an entry denotes -/

/-- An entry denotes its number, or the numbers of its range in order; there are none when the
range runs backwards. -/
inductive Denotes (bound : ℕ) : JsonValue → List ℕ → Prop
  | number {item : JsonValue} {n : ℕ} (value : item.int64 = some (n : ℤ)) (le : n ≤ bound) :
      Denotes bound item [n]
  | range {x y : List UInt8} {a b : ℕ} (start : IsDecimal x a) (stop : IsDecimal y b)
      (start_le : a ≤ bound) (stop_le : b ≤ bound) :
      Denotes bound (.string (x ++ 45 :: y)) (List.range' a (b + 1 - a))

section Entries

variable {item : JsonValue} {numbers : List ℕ}

/-- The loader survives such an entry. -/
theorem Denotes.accepted (h : Denotes 65535 item numbers) : Accepted item := by
  cases h with
  | number value le => exact .inl (Option.isSome_of_eq_some value)
  | range start stop start_le stop_le =>
      exact .inr ⟨_, _, readAsRange_of_isDecimal start stop (by omega) (by omega), by omega⟩

/-- …and inserts what it denotes. -/
theorem Denotes.reaches_iff (h : Denotes 65535 item numbers) (p : ℤ) :
    ReachesPort item p ↔ p ∈ numbers.map Nat.cast := by
  cases h with
  | @number _ n value le =>
      have hbmod : (n : ℤ).bmod 4294967296 = n := Int.bmod_eq_of_le (by omega) (by omega)
      rw [List.map_singleton, List.mem_singleton]
      constructor
      · rintro (⟨m, hm, rfl⟩ | ⟨start, stop, hread, -⟩)
        · rw [← Option.some.inj (value.symm.trans hm), hbmod]
        · rw [hread.int64_eq_none] at value
          cases value
      · rintro rfl
        exact .inl ⟨n, value, hbmod⟩
  | @range x y a b start stop start_le stop_le =>
      have hread := readAsRange_of_isDecimal start stop (by omega) (by omega)
      rw [List.mem_map]
      constructor
      · rintro (⟨m, hm, -⟩ | ⟨start', stop', hread', hle, hle'⟩)
        · cases hm
        · obtain ⟨rfl, rfl⟩ := hread.unique hread'
          exact ⟨p.toNat, List.mem_range'_1.mpr ⟨by omega, by omega⟩, by omega⟩
      · rintro ⟨n, hn, rfl⟩
        have hbounds := List.mem_range'_1.mp hn
        exact .inr ⟨a, b, hread, by omega, by omega⟩

/-- A string of digits has one value. -/
theorem IsDecimal.unique {bytes : List UInt8} {m n : ℕ} (h : IsDecimal bytes m)
    (h' : IsDecimal bytes n) : m = n :=
  Int.ofNat_inj.mp (h.value.symm.trans h'.value)

/-- What an entry denotes is what it covers. -/
theorem Denotes.covers_iff (h : Denotes 65535 item numbers) (p : ℕ) :
    Covers item p ↔ p ∈ numbers := by
  cases h with
  | @number _ n value le =>
      rw [List.mem_singleton]
      constructor
      · rintro (hp | ⟨x, y, a, b, rfl, -⟩)
        · exact Int.ofNat_inj.mp (Option.some.inj (hp.symm.trans value))
        · cases value
      · rintro rfl
        exact .inl value
  | @range x y a b start stop start_le stop_le =>
      rw [List.mem_range'_1]
      constructor
      · rintro (hp | ⟨x', y', a', b', htext, hx', hy', -, -, hap, hpb⟩)
        · cases hp
        · obtain ⟨rfl, rfl⟩ := append_cons_inj_of_notMem_left start.dash_notMem hx'.dash_notMem
            (JsonValue.string.inj htext)
          obtain rfl := start.unique hx'
          obtain rfl := stop.unique hy'
          exact ⟨hap, by omega⟩
      · rintro ⟨hap, hpb⟩
        exact .inr ⟨x, y, a, b, rfl, start, stop, by omega, by omega, hap, by omega⟩

/-- What a worker loop does with a range. -/
theorem pushWorkerCore_of_range {start stop : ℤ} (h : ReadAsRange item start stop)
    (hend : ¬ (start ≤ stop ∧ stop = 2147483647)) (cores : List ℤ) :
    pushWorkerCore cores item =
      .ok (cores ++ (List.range (stop + 1 - start).toNat).map fun k : ℕ => start + (k : ℤ)) := by
  obtain ⟨text, ind, rfl, hind, hstart, hstop⟩ := h
  have htext : (JsonValue.string text).text = text := rfl
  have hstring : (JsonValue.string text).isString = true := rfl
  have hnumber : (JsonValue.string text).int32 = none := rfl
  simp only [pushWorkerCore, hnumber, hstring, htext, hind, hstart, hstop, demand, ok_bind,
    if_true]
  rw [if_neg hend]
  rfl

/-- A worker loop appends what the entry denotes. -/
theorem Denotes.pushWorkerCore_eq (h : Denotes 65535 item numbers) (cores : List ℤ) :
    pushWorkerCore cores item = .ok (cores ++ numbers.map Nat.cast) := by
  cases h with
  | @number _ n value le =>
      have hint := JsonValue.int32_of_int64 value ⟨by omega, by omega⟩
      rw [pushWorkerCore, hint]
      exact if_pos (Int.natCast_nonneg n)
  | @range x y a b start stop start_le stop_le =>
      rw [pushWorkerCore_of_range
        (readAsRange_of_isDecimal start stop (by omega) (by omega)) (by omega)]
      have hlen : ((b : ℤ) + 1 - a).toNat = b + 1 - a := by omega
      rw [hlen, List.range'_eq_map_range, List.map_map]
      rfl

end Entries

/-! ## Lists -/

section Lists

variable {items : List JsonValue} {numbers : List (List ℕ)}

/-- A worker loop concatenates. -/
theorem foldlM_pushWorkerCore (h : List.Forall₂ (Denotes 65535) items numbers) (cores : List ℤ) :
    items.foldlM pushWorkerCore cores = .ok (cores ++ numbers.flatten.map Nat.cast) := by
  induction h generalizing cores with
  | nil => simp
  | cons hitem _ ih =>
      rw [List.foldlM_cons, hitem.pushWorkerCore_eq, ok_bind, ih, List.flatten_cons,
        List.map_append, List.append_assoc]

/-- The loader survives such a list. -/
theorem accepted_of_denotes (h : List.Forall₂ (Denotes 65535) items numbers) :
    ∀ item ∈ items, Accepted item := by
  induction h with
  | nil => simp
  | cons hfirst _ ih => exact List.forall_mem_cons.mpr ⟨hfirst.accepted, ih⟩

/-- What can be said of an entry by the numbers it denotes can be said of the list by the
concatenation. -/
theorem exists_entry_iff {P : JsonValue → Prop} {R : ℕ → Prop}
    (hentry : ∀ item l, Denotes 65535 item l → (P item ↔ ∃ n ∈ l, R n))
    (h : List.Forall₂ (Denotes 65535) items numbers) :
    (∃ item ∈ items, P item) ↔ ∃ n ∈ numbers.flatten, R n := by
  induction h with
  | nil => simp
  | cons hfirst _ ih =>
      rw [List.exists_mem_cons_iff, hentry _ _ hfirst, ih, List.flatten_cons]
      simp only [List.mem_append, or_and_right, exists_or]

end Lists

/-- **The three loops expand a list alike.**  On numbers and ranges up to 65535, both worker loops
compute the concatenation of what the entries denote, and the loader the set of its elements;
the filter then lets exactly the ports through that an entry names. -/
theorem rangeLists_alike {items : List JsonValue} {numbers : List (List ℕ)}
    (h : List.Forall₂ (Denotes 65535) items numbers) (doc : JsonValue)
    (hdoc : PortsDocument doc items) :
    Cndp.workerCores items = .ok (numbers.flatten.map Nat.cast) ∧
      Dpdk.workersCores items = .ok (numbers.flatten.map Nat.cast) ∧
      ∃ dm, loadAndParseConfigFile doc {} = .ok dm ∧
        (∀ p : ℤ, p ∈ dm.fastpathPorts ↔ p ∈ numbers.flatten.map Nat.cast) ∧
        ∀ (old : DataPlaneManager) (p : ℕ),
          (dm.manager old).filterPacket p = false ↔ ∃ item ∈ items, Covers item p := by
  have hcores : items.foldlM pushWorkerCore [] = .ok (numbers.flatten.map Nat.cast) :=
    foldlM_pushWorkerCore h []
  obtain ⟨start, hnone, hload⟩ := loadAndParseConfigFile_eq_foldlM hdoc
  obtain ⟨dm, hdm, hmem⟩ := foldlM_insertPort (accepted_of_denotes h) start
  have hports : ∀ p : ℤ, p ∈ dm.fastpathPorts ↔ p ∈ numbers.flatten.map Nat.cast := by
    intro p
    rw [hmem, hnone, or_iff_right (Finset.notMem_empty p), List.mem_map]
    exact exists_entry_iff (fun item l hl => (hl.reaches_iff p).trans List.mem_map) h
  refine ⟨hcores, hcores, dm, hload.trans hdm, hports, fun old p => ?_⟩
  rw [DataPlaneManager.filterPacket_eq_false_iff]
  refine (hports p).trans ?_
  rw [exists_entry_iff (R := fun n => n = p) (fun item l hl => by
    rw [hl.covers_iff, exists_eq_right]) h, exists_eq_right]
  exact List.mem_map_of_injective Int.ofNat_injective

/-- The theorem at a number, a range, and a range that runs backwards. -/
theorem rangeLists_alike_template :
    Cndp.workerCores [.int 7, .string (ascii "1-4"), .string (ascii "9-3")] =
      .ok [7, 1, 2, 3, 4] :=
  let hrun : Denotes 65535 (.string (ascii "1-4")) [1, 2, 3, 4] :=
    .range (x := ascii "1") (y := ascii "4") (a := 1) (b := 4) (by decide) (by decide) (by decide)
      (by decide)
  let hback : Denotes 65535 (.string (ascii "9-3")) [] :=
    .range (x := ascii "9") (y := ascii "3") (a := 9) (b := 3) (by decide) (by decide) (by decide)
      (by decide)
  (rangeLists_alike (.cons (.number rfl (by decide)) (.cons hrun (.cons hback .nil)))
    (portsConfig [.int 7, .string (ascii "1-4"), .string (ascii "9-3")])
    (portsDocument_portsConfig _)).1

end UdxFastpath
