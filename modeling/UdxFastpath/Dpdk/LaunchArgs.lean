import UdxFastpath.Dpdk.CommandLine
import UdxFastpath.Foundation.EarlyExit

/-!
# The options behind the dashes

`launch_args_parse` reads the options that `count_args` has written behind `--` back into
globals.  On the way a number of the configuration is a text, an `int`, and what fits
into the global; what is not in range ends the process, wraps around, or is taken for
something else.

`configuration_arrives_iff` says which configurations come through unchanged.
-/

namespace UdxFastpath.Dpdk

open ByteStrings CStrings EarlyExit Words

/-! ## Numbers and lists -/

/-- `atoi`: the number of `strtol`, cut down to 32 bits. -/
def atoi (text : List UInt8) : ℤ := (strtol isSpace 10 text).bmod 4294967296

/-- The loop of `parse_item_list`: the value so far and whether there is one, the items stored and
how many there have been.  An item too many is not stored, and its digits are kept. -/
def parseItems (maxItems : ℕ) :
    List UInt8 → UInt32 → Bool → List UInt32 → ℕ → Option (List UInt32 × UInt32 × ℕ)
  | [], value, _, items, nbItem => some (items, value, nbItem)
  | c :: rest, value, valueOk, items, nbItem =>
      if 48 ≤ c ∧ c ≤ 57 then
        parseItems maxItems rest (value * 10 + (c - 48).toUInt32) true items nbItem
      else if c ≠ 44 then none
      else if !valueOk then none
      else if nbItem < maxItems then
        parseItems maxItems rest 0 false (items ++ [value]) (nbItem + 1)
      else parseItems maxItems rest value valueOk items (nbItem + 1)

/-- `parse_item_list`, without the check for duplicates; there is no list when it returns 0. -/
def parseItemList (str : List UInt8) (maxItems : ℕ) : Option (List UInt32) :=
  match parseItems maxItems (str.take 128) 0 false [] 0 with
  | none => none
  | some (items, value, nbItem) => if maxItems ≤ nbItem then none else some (items ++ [value])

/-! ## Options and globals -/

def MAX_PKT_BURST : ℤ := 512
def MAX_SEGS_BUFFER_SPLIT : ℕ := 8
def MIN_TOTAL_NUM_MBUFS : ℤ := 1024
def RTE_ETHER_MIN_LEN : ℤ := 64
def RTE_MEMPOOL_CACHE_MAX_SIZE : ℤ := 512

/-- The options of `lgopts` that `count_args` writes. -/
inductive LongOption
  | nbPorts
  | nbCores
  | mpAlloc
  | mbufSize
  | totalNumMbufs
  | maxPktLen
  | rxq
  | txq
  | burst
  | mbcache
  | rxd
  | txd
  deriving DecidableEq, Repr

def LongOption.name : LongOption → List UInt8
  | .nbPorts => ascii "nb-ports"
  | .nbCores => ascii "nb-cores"
  | .mpAlloc => ascii "mp-alloc"
  | .mbufSize => ascii "mbuf-size"
  | .totalNumMbufs => ascii "total-num-mbufs"
  | .maxPktLen => ascii "max-pkt-len"
  | .rxq => ascii "rxq"
  | .txq => ascii "txq"
  | .burst => ascii "burst"
  | .mbcache => ascii "mbcache"
  | .rxd => ascii "rxd"
  | .txd => ascii "txd"

/-- They all take an argument. -/
def lgopts : List LongOption :=
  [.nbCores, .nbPorts, .mbufSize, .totalNumMbufs, .maxPktLen, .rxq, .txq, .rxd, .txd, .burst,
    .mbcache, .mpAlloc]

/-- `getopt_long`, on a word `--name=argument`. -/
def getoptLong (word : List UInt8) : Option (LongOption × List UInt8) :=
  match word with
  | 45 :: 45 :: rest =>
      match rest.dropWhile (· != 61) with
      | [] => none
      | _ :: optarg =>
          (lgopts.find? fun o => o.name == rest.takeWhile (· != 61)).map fun o => (o, optarg)
  | _ => none

/-- The values of `mp_alloc_type`. -/
inductive MpAlloc
  | native
  | anon
  | xmem
  | xmemHuge
  | xbuf
  deriving DecidableEq, Repr

def MpAlloc.text : MpAlloc → List UInt8
  | .native => ascii "native"
  | .anon => ascii "anon"
  | .xmem => ascii "xmem"
  | .xmemHuge => ascii "xmemhuge"
  | .xbuf => ascii "xbuf"

/-- The chain of comparisons with the names of the allocation types. -/
def parseMpAlloc (optarg : List UInt8) : Option MpAlloc :=
  [MpAlloc.native, .anon, .xmem, .xmemHuge, .xbuf].find? fun t => optarg == t.text

/-- The globals that the options set. -/
@[ext] structure Globals where
  nbFwdPorts : ℕ
  nbFwdLcores : ℕ
  mpAllocType : MpAlloc
  mbufDataSize : List ℕ
  paramTotalNumMbufs : ℕ
  maxRxPktLen : ℕ
  nbRxq : ℕ
  nbTxq : ℕ
  nbPktPerBurst : ℕ
  mbMempoolCache : ℕ
  nbRxd : ℕ
  nbTxd : ℕ
  deriving DecidableEq, Repr

/-- What has been found out before: the numbers of ports and lcores, the largest numbers of queues
of the ports whose information can be read, the burst that port 0 recommends, and two constants of
the library. -/
structure LaunchEnv where
  nbPorts : UInt16
  nbLcores : UInt8
  maxRxQueues : List (Option UInt16)
  maxTxQueues : List (Option UInt16)
  recommendedBurst : Option UInt16
  maxQueuesPerPort : UInt16
  defaultBufSize : ℕ

/-- The globals before `launch_args_parse`. -/
def Globals.init (env : LaunchEnv) : Globals where
  nbFwdPorts := env.nbPorts.toNat
  nbFwdLcores := 1
  mpAllocType := .native
  mbufDataSize := [env.defaultBufSize]
  paramTotalNumMbufs := 0
  maxRxPktLen := 0
  nbRxq := 1
  nbTxq := 1
  nbPktPerBurst := 32
  mbMempoolCache := 250
  nbRxd := 0
  nbTxd := 0

/-- `get_allowed_max_nb_rxq` and `get_allowed_max_nb_txq`. -/
def allowedMaxNbq (limit : UInt16) (ports : List (Option UInt16)) : UInt16 :=
  let r := ports.foldl (fun r port =>
    match port with
    | none => r
    | some maxQueues => (if maxQueues < r.1 then maxQueues else r.1, true)) (limit, false)
  if r.2 then r.1 else 0

/-- How `launch_args_parse` ends early. -/
inductive LaunchStop
  | exited
  | returned (g : Globals)

/-- A value in the range of a global of 16 bits. -/
def toUint16 (n : ℤ) : ℕ := (n % 65536).toNat

section Options

variable (env : LaunchEnv) (g : Globals) (optarg : List UInt8)

/-- The options in front of the check of the queue numbers. -/
def optionBeforeCheck : LongOption → Except LaunchStop Globals
  | .nbPorts =>
      let n := atoi optarg
      if 0 < n ∧ n ≤ env.nbPorts.toNat then .ok { g with nbFwdPorts := n.toNat }
      else .error .exited
  | .nbCores =>
      let n := atoi optarg
      if 0 < n ∧ n ≤ env.nbLcores.toNat then .ok { g with nbFwdLcores := n.toNat }
      else .error .exited
  | .mpAlloc =>
      match parseMpAlloc optarg with
      | some type => .ok { g with mpAllocType := type }
      | none => .error .exited
  | .mbufSize =>
      match parseItemList optarg MAX_SEGS_BUFFER_SPLIT with
      | some sizes =>
          if sizes.all fun size => 0 < size ∧ size ≤ 0xFFFF then
            .ok { g with mbufDataSize := sizes.map UInt32.toNat }
          else .error .exited
      | none => .error .exited
  | .totalNumMbufs =>
      let n := atoi optarg
      if MIN_TOTAL_NUM_MBUFS < n then .ok { g with paramTotalNumMbufs := n.toNat }
      else .error .exited
  | .maxPktLen =>
      let n := atoi optarg
      if RTE_ETHER_MIN_LEN ≤ n then .ok { g with maxRxPktLen := n.toNat } else .error .exited
  | .rxq =>
      let n := atoi optarg
      if 0 ≤ n ∧ toUint16 n ≤ (allowedMaxNbq env.maxQueuesPerPort env.maxRxQueues).toNat then
        .ok { g with nbRxq := toUint16 n }
      else .error .exited
  | .txq =>
      let n := atoi optarg
      if 0 ≤ n ∧ toUint16 n ≤ (allowedMaxNbq env.maxQueuesPerPort env.maxTxQueues).toNat then
        .ok { g with nbTxq := toUint16 n }
      else .error .exited
  | _ => .ok g

/-- The options behind it.  A burst of zero asks the driver of port 0; when that fails, the
function returns.  `rx_free_thresh` is unset, which is `-1`. -/
def optionAfterCheck : LongOption → Except LaunchStop Globals
  | .burst =>
      let n := atoi optarg
      if n = 0 then
        match env.recommendedBurst with
        | none => .error (.returned g)
        | some burst =>
            if burst = 0 ∨ MAX_PKT_BURST < burst.toNat then .error .exited
            else .ok { g with nbPktPerBurst := burst.toNat }
      else if MAX_PKT_BURST < n then .error .exited
      else .ok { g with nbPktPerBurst := toUint16 n }
  | .mbcache =>
      let n := atoi optarg
      if 0 ≤ n ∧ n ≤ RTE_MEMPOOL_CACHE_MAX_SIZE then .ok { g with mbMempoolCache := n.toNat }
      else .error .exited
  | .rxd =>
      let n := atoi optarg
      if 0 < n then
        if -1 ≥ n then .error .exited else .ok { g with nbRxd := toUint16 n }
      else .error .exited
  | .txd =>
      let n := atoi optarg
      if 0 < n then .ok { g with nbTxd := toUint16 n } else .error .exited
  | _ => .ok g

/-- The body of the loop of `launch_args_parse`, for a long option. -/
def launchOption (o : LongOption) : Except LaunchStop Globals := do
  let g ← optionBeforeCheck env g optarg o
  if g.nbRxq = 0 ∧ g.nbTxq = 0 then throw .exited
  optionAfterCheck env g optarg o

end Options

/-- One round of the loop. -/
def launchWord (env : LaunchEnv) (g : Globals) (word : List UInt8) : Except LaunchStop Globals :=
  match getoptLong word with
  | some (o, optarg) => launchOption env g optarg o
  | none => .error .exited

/-- `launch_args_parse`; nothing when the process exits. -/
def launchArgsParse (env : LaunchEnv) (words : List (List UInt8)) : Option Globals :=
  match words.foldlM (launchWord env) (Globals.init env) with
  | .ok g => some g
  | .error (.returned g) => some g
  | .error .exited => none

/-- What `rte_eal_init` leaves: the words behind the first `--`. -/
def behindDashes (argv : List (Option (List UInt8))) : List (List UInt8) :=
  ((argv.filterMap id).dropWhile (· != ascii "--")).tail

/-! ## Reading a number -/

section Numbers

variable {n : ℕ}

/-- **A number below `2 ^ 31` is read back.** -/
theorem atoi_decimal (hn : n < 2147483648) : atoi (decimal n) = n := by
  rw [atoi, strtol_decimal (fun _ => isSpace_of_digitValue_lt) (by omega)]
  exact Int.bmod_eq_of_le (by omega) (by omega)

/-- Whatever is read is an `int`. -/
theorem atoi_lt (text : List UInt8) : atoi text < 2147483648 := Int.bmod_lt (by decide)

/-- A digit more, in 32 bits. -/
theorem ofNat_digit {c : UInt8} (h : 48 ≤ c ∧ c ≤ 57) (value : ℕ) :
    UInt32.ofNat value * 10 + (c - 48).toUInt32 = UInt32.ofNat (10 * value + digitValue c) := by
  have hc := h
  rw [UInt8.le_iff_toNat_le, UInt8.le_iff_toNat_le] at hc
  have hdigit : (c - 48).toUInt32 = UInt32.ofNat (digitValue c) := by
    rw [digitValue, if_pos h, ← UInt32.toNat_inj, UInt8.toNat_toUInt32, UInt32.toNat_ofNat',
      UInt8.toNat_sub_of_le _ _ h.1]
    have hlow : (48 : UInt8).toNat = 48 := rfl
    have hhigh : (57 : UInt8).toNat = 57 := rfl
    omega
  rw [hdigit, UInt32.ofNat_add, UInt32.ofNat_mul, UInt32.mul_comm (UInt32.ofNat 10)]
  rfl

/-- Digits are added up. -/
theorem parseItems_digits (maxItems : ℕ) (digits : List UInt8)
    (h : ∀ c ∈ digits, 48 ≤ c ∧ c ≤ 57) (value : ℕ) (valueOk : Bool) (items : List UInt32)
    (nbItem : ℕ) :
    parseItems maxItems digits (UInt32.ofNat value) valueOk items nbItem =
      some (items, UInt32.ofNat
        (digits.foldl (fun acc b => 10 * acc + digitValue b) value), nbItem) := by
  induction digits generalizing value valueOk with
  | nil => rfl
  | cons c digits ih =>
      have hc := h c List.mem_cons_self
      rw [parseItems, if_pos hc, ofNat_digit hc,
        ih fun d hd => h d (List.mem_cons_of_mem c hd), List.foldl_cons]

theorem digit_of_mem_decimal {c : UInt8} (h : c ∈ decimal n) : 48 ≤ c ∧ c ≤ 57 := by
  rw [UInt8.le_iff_toNat_le, UInt8.le_iff_toNat_le]
  exact toNat_mem_decimal h

/-- **A number of 16 bits is a list of one.** -/
theorem parseItemList_decimal (hn : n < 65536) :
    parseItemList (decimal n) MAX_SEGS_BUFFER_SPLIT = some [UInt32.ofNat n] := by
  have hlength : (decimal n).length ≤ 128 := by
    rw [decimal, List.length_map]
    exact (Nat.length_toDigits_le_iff (by decide) (by decide)).mpr (by omega)
  have hvalue := leadingNumber_decimal n
  rw [leadingNumber, List.takeWhile_eq_self_iff.mpr fun b hb =>
    decide_eq_true (digitValue_lt_of_mem_decimal hb)] at hvalue
  have hitems := parseItems_digits MAX_SEGS_BUFFER_SPLIT (decimal n)
    (fun c hc => digit_of_mem_decimal hc) 0 false [] 0
  rw [hvalue] at hitems
  rw [parseItemList, List.take_of_length_le hlength]
  rw [show (0 : UInt32) = UInt32.ofNat 0 from rfl, hitems]
  rfl

end Numbers

/-! ## One option -/

section OneOption

variable (env : LaunchEnv)

/-- The option is in front of the check of the queue numbers. -/
def LongOption.early : LongOption → Bool
  | .burst | .mbcache | .rxd | .txd => false
  | _ => true

/-- The argument is accepted. -/
def Accepts (optarg : List UInt8) : LongOption → Prop
  | .nbPorts => 0 < atoi optarg ∧ atoi optarg ≤ env.nbPorts.toNat
  | .nbCores => 0 < atoi optarg ∧ atoi optarg ≤ env.nbLcores.toNat
  | .mpAlloc => (parseMpAlloc optarg).isSome
  | .mbufSize => ∃ sizes, parseItemList optarg MAX_SEGS_BUFFER_SPLIT = some sizes ∧
      ∀ size ∈ sizes, 0 < size ∧ size ≤ 0xFFFF
  | .totalNumMbufs => MIN_TOTAL_NUM_MBUFS < atoi optarg
  | .maxPktLen => RTE_ETHER_MIN_LEN ≤ atoi optarg
  | .rxq => 0 ≤ atoi optarg ∧
      toUint16 (atoi optarg) ≤ (allowedMaxNbq env.maxQueuesPerPort env.maxRxQueues).toNat
  | .txq => 0 ≤ atoi optarg ∧
      toUint16 (atoi optarg) ≤ (allowedMaxNbq env.maxQueuesPerPort env.maxTxQueues).toNat
  | .burst =>
      (atoi optarg = 0 → ∃ burst, env.recommendedBurst = some burst ∧ burst ≠ 0 ∧
        burst.toNat ≤ MAX_PKT_BURST) ∧ (atoi optarg ≠ 0 → atoi optarg ≤ MAX_PKT_BURST)
  | .mbcache => 0 ≤ atoi optarg ∧ atoi optarg ≤ RTE_MEMPOOL_CACHE_MAX_SIZE
  | .rxd => 0 < atoi optarg
  | .txd => 0 < atoi optarg

/-- The burst: that of port 0 for a zero. -/
def burstOf (optarg : List UInt8) : ℕ :=
  if atoi optarg = 0 then (env.recommendedBurst.getD 0).toNat else toUint16 (atoi optarg)

/-- The sizes of buffers. -/
def sizesOf (optarg : List UInt8) : List ℕ :=
  ((parseItemList optarg MAX_SEGS_BUFFER_SPLIT).getD []).map UInt32.toNat

/-- What is stored for it. -/
def store (g : Globals) (optarg : List UInt8) : LongOption → Globals
  | .nbPorts => { g with nbFwdPorts := (atoi optarg).toNat }
  | .nbCores => { g with nbFwdLcores := (atoi optarg).toNat }
  | .mpAlloc => { g with mpAllocType := (parseMpAlloc optarg).getD .native }
  | .mbufSize => { g with mbufDataSize := sizesOf optarg }
  | .totalNumMbufs => { g with paramTotalNumMbufs := (atoi optarg).toNat }
  | .maxPktLen => { g with maxRxPktLen := (atoi optarg).toNat }
  | .rxq => { g with nbRxq := toUint16 (atoi optarg) }
  | .txq => { g with nbTxq := toUint16 (atoi optarg) }
  | .burst => { g with nbPktPerBurst := burstOf env optarg }
  | .mbcache => { g with mbMempoolCache := (atoi optarg).toNat }
  | .rxd => { g with nbRxd := toUint16 (atoi optarg) }
  | .txd => { g with nbTxd := toUint16 (atoi optarg) }

/-- The type of the global that an option sets. -/
def LongOption.Value : LongOption → Type
  | .mpAlloc => MpAlloc
  | .mbufSize => List ℕ
  | _ => ℕ

/-- The global that an option sets. -/
def Globals.get (g : Globals) : (o : LongOption) → o.Value
  | .nbPorts => g.nbFwdPorts
  | .nbCores => g.nbFwdLcores
  | .mpAlloc => g.mpAllocType
  | .mbufSize => g.mbufDataSize
  | .totalNumMbufs => g.paramTotalNumMbufs
  | .maxPktLen => g.maxRxPktLen
  | .rxq => g.nbRxq
  | .txq => g.nbTxq
  | .burst => g.nbPktPerBurst
  | .mbcache => g.mbMempoolCache
  | .rxd => g.nbRxd
  | .txd => g.nbTxd

/-- The value it sets it to. -/
def LongOption.value (optarg : List UInt8) : (o : LongOption) → o.Value
  | .nbPorts | .nbCores | .totalNumMbufs | .maxPktLen | .mbcache => (atoi optarg).toNat
  | .mpAlloc => (parseMpAlloc optarg).getD .native
  | .mbufSize => sizesOf optarg
  | .rxq | .txq | .rxd | .txd => toUint16 (atoi optarg)
  | .burst => burstOf env optarg

variable {env} {g g' : Globals} {optarg : List UInt8} {o : LongOption}

theorem get_store_self : (store env g optarg o).get o = o.value env optarg := by
  cases o <;> rfl

theorem get_store_of_ne {o' : LongOption} (h : o ≠ o') :
    (store env g optarg o).get o' = g.get o' := by
  cases o <;> cases o' <;> first | rfl | exact absurd rfl h

/-- There are no queues at all. -/
def Globals.NoQueues (g : Globals) : Prop := g.nbRxq = 0 ∧ g.nbTxq = 0

instance (g : Globals) : Decidable g.NoQueues := inferInstanceAs (Decidable (_ ∧ _))

theorem ite_ok_iff {c : Prop} [Decidable c] {g' : Globals} {e : LaunchStop} :
    (if c then Except.ok g else Except.error e) = .ok g' ↔ c ∧ g' = g := by
  split
  · rename_i h
    simp [h, eq_comm]
  · rename_i h
    simp [h]

theorem optionBeforeCheck_ok_iff (h : o.early = true) :
    optionBeforeCheck env g optarg o = .ok g' ↔
      Accepts env optarg o ∧ g' = store env g optarg o := by
  cases o with
  | nbPorts | nbCores | totalNumMbufs | maxPktLen | rxq | txq => exact ite_ok_iff
  | mpAlloc =>
      simp only [optionBeforeCheck, Accepts, store]
      cases parseMpAlloc optarg <;> simp [eq_comm]
  | mbufSize =>
      simp only [optionBeforeCheck, Accepts, store, sizesOf]
      cases parseItemList optarg MAX_SEGS_BUFFER_SPLIT with
      | none => simp
      | some sizes => simp [ite_ok_iff]
  | burst | mbcache | rxd | txd => cases h

theorem optionAfterCheck_ok_iff (h : o.early = false) :
    optionAfterCheck env g optarg o = .ok g' ↔
      Accepts env optarg o ∧ g' = store env g optarg o := by
  cases o with
  | burst =>
      simp only [optionAfterCheck, Accepts, store, burstOf]
      by_cases hzero : atoi optarg = 0
      · cases hburst : env.recommendedBurst with
        | none => simp [hzero]
        | some burst =>
            by_cases hbad : burst = 0 ∨ MAX_PKT_BURST < burst.toNat
            · have hnot : ¬ (burst ≠ 0 ∧ burst.toNat ≤ MAX_PKT_BURST) := by
                rintro ⟨hne, hle⟩
                exact hbad.elim hne hle.not_gt
              simp [hzero, hbad, hnot]
            · obtain ⟨hne, hle⟩ := not_or.mp hbad
              simp [hzero, hne, hle, not_lt.mp hle, eq_comm]
      · by_cases hlarge : MAX_PKT_BURST < atoi optarg
        · simp [hzero, hlarge, hlarge.not_ge]
        · simp [hzero, hlarge, not_lt.mp hlarge, eq_comm]
  | mbcache => exact ite_ok_iff
  | rxd =>
      simp only [optionAfterCheck, Accepts, store]
      by_cases hpos : 0 < atoi optarg
      · have hfree : ¬ -1 ≥ atoi optarg := by omega
        simp [hpos, hfree, eq_comm]
      · simp [hpos]
  | txd => exact ite_ok_iff
  | nbPorts | nbCores | mpAlloc | mbufSize | totalNumMbufs | maxPktLen | rxq | txq => cases h

/-- The body goes on behind the check when there are queues. -/
theorem launchOption_eq_ok_iff :
    launchOption env g optarg o = .ok g' ↔ ∃ g₁, optionBeforeCheck env g optarg o = .ok g₁ ∧
      ¬ g₁.NoQueues ∧ optionAfterCheck env g₁ optarg o = .ok g' := by
  unfold launchOption
  rw [bind_eq_ok_iff]
  refine exists_congr fun g₁ => and_congr_right fun _ => ?_
  by_cases hnone : g₁.nbRxq = 0 ∧ g₁.nbTxq = 0
  · simp [Globals.NoQueues, hnone]
  · simp [Globals.NoQueues, hnone]

/-- **When an option is taken, and what it does.** -/
theorem launchOption_ok_iff :
    launchOption env g optarg o = .ok g' ↔
      Accepts env optarg o ∧ g' = store env g optarg o ∧ ¬ g'.NoQueues := by
  rw [launchOption_eq_ok_iff]
  cases hearly : o.early with
  | true =>
      have hafter : ∀ g, optionAfterCheck env g optarg o = .ok g := by
        intro g
        cases o <;> first | rfl | cases hearly
      constructor
      · rintro ⟨g₁, hbefore, hqueues, hg'⟩
        rw [hafter] at hg'
        cases hg'
        obtain ⟨haccepts, hstore⟩ := (optionBeforeCheck_ok_iff hearly).mp hbefore
        exact ⟨haccepts, hstore, hqueues⟩
      · rintro ⟨haccepts, hstore, hqueues⟩
        exact ⟨g', (optionBeforeCheck_ok_iff hearly).mpr ⟨haccepts, hstore⟩, hqueues, hafter g'⟩
  | false =>
      have hbefore : optionBeforeCheck env g optarg o = .ok g := by
        cases o <;> first | rfl | cases hearly
      have hqueues : (store env g optarg o).NoQueues ↔ g.NoQueues := by
        cases o <;> first | rfl | cases hearly
      constructor
      · rintro ⟨g₁, hg₁, hnone, hafter⟩
        rw [hbefore] at hg₁
        cases hg₁
        obtain ⟨haccepts, rfl⟩ := (optionAfterCheck_ok_iff hearly).mp hafter
        exact ⟨haccepts, rfl, fun h => hnone (hqueues.mp h)⟩
      · rintro ⟨haccepts, rfl, hnone⟩
        exact ⟨g, hbefore, fun h => hnone (hqueues.mpr h),
          (optionAfterCheck_ok_iff hearly).mpr ⟨haccepts, rfl⟩⟩

theorem ite_ne_returned {c : Prop} [Decidable c] {g₁ : Globals} :
    (if c then Except.ok g₁ else Except.error LaunchStop.exited) ≠ .error (.returned g') := by
  split <;> nofun

theorem optionBeforeCheck_ne_returned :
    optionBeforeCheck env g optarg o ≠ .error (.returned g') := by
  cases o with
  | nbPorts | nbCores | totalNumMbufs | maxPktLen | rxq | txq => exact ite_ne_returned
  | mpAlloc =>
      simp only [optionBeforeCheck]
      cases parseMpAlloc optarg <;> nofun
  | mbufSize =>
      simp only [optionBeforeCheck]
      cases parseItemList optarg MAX_SEGS_BUFFER_SPLIT with
      | none => nofun
      | some sizes => exact ite_ne_returned
  | burst | mbcache | rxd | txd => nofun

/-- The function returns only from a burst of zero, with what has been stored before. -/
theorem launchOption_returned (h : launchOption env g optarg o = .error (.returned g')) :
    o = .burst ∧ atoi optarg = 0 ∧ g' = g := by
  unfold launchOption at h
  rcases bind_eq_error_iff.mp h with hbefore | ⟨g₁, hbefore, h⟩
  · exact absurd hbefore optionBeforeCheck_ne_returned
  · by_cases hnone : g₁.nbRxq = 0 ∧ g₁.nbTxq = 0
    · simp [hnone] at h
    · have hafter : optionAfterCheck env g₁ optarg o = .error (.returned g') := by
        simpa [hnone] using h
      cases o with
      | burst =>
          cases hbefore
          simp only [optionAfterCheck] at hafter
          split at hafter
          · rename_i hzero
            split at hafter
            · cases hafter
              exact ⟨rfl, hzero, rfl⟩
            · split at hafter <;> cases hafter
          · split at hafter <;> cases hafter
      | mbcache | txd => exact absurd hafter ite_ne_returned
      | rxd =>
          simp only [optionAfterCheck] at hafter
          split at hafter
          · split at hafter <;> cases hafter
          · cases hafter
      | nbPorts | nbCores | mpAlloc | mbufSize | totalNumMbufs | maxPktLen | rxq | txq =>
          cases hafter

end OneOption

/-! ## The loop -/

/-- An option with its argument, as `count_args` writes it. -/
def written (o : LongOption) (text : List UInt8) : List UInt8 :=
  ascii "--" ++ o.name ++ ascii "=" ++ text

theorem equals_notMem_name (o : LongOption) : (61 : UInt8) ∉ o.name := by
  cases o <;> decide

theorem find_name (o : LongOption) : lgopts.find? (fun o' => o'.name == o.name) = some o := by
  cases o <;> decide

/-- `getopt_long` finds the option that was written. -/
theorem getoptLong_written (o : LongOption) (text : List UInt8) :
    getoptLong (written o text) = some (o, text) := by
  have hword : written o text = 45 :: 45 :: (o.name ++ 61 :: text) := by
    have hdash : '-'.toUInt8 = 45 := by decide
    have hequals : '='.toUInt8 = 61 := by decide
    simp [written, ascii, hdash, hequals]
  have hstop : ∀ b ∈ o.name, (b != 61) = true := fun b hb =>
    bne_iff_ne.mpr fun heq => equals_notMem_name o (heq ▸ hb)
  have htake : (o.name ++ 61 :: text).takeWhile (· != 61) = o.name := by
    rw [List.takeWhile_append_of_pos hstop]
    simp
  have hdrop : (o.name ++ 61 :: text).dropWhile (· != 61) = 61 :: text := by
    rw [List.dropWhile_append_of_pos hstop]
    simp
  rw [hword]
  simp only [getoptLong, htake, hdrop, find_name, Option.map_some]

section Loop

variable (env : LaunchEnv) (argument : LongOption → Option (List UInt8))

/-- A round for an option that may be missing. -/
def takeOption (g : Globals) (o : LongOption) : Except LaunchStop Globals :=
  match argument o with
  | some optarg => launchOption env g optarg o
  | none => .ok g

/-- What it stores. -/
def applyOption (g : Globals) (o : LongOption) : Globals :=
  match argument o with
  | some optarg => store env g optarg o
  | none => g

variable {env argument} {g g' : Globals}

/-- The loop over the words written for some options. -/
theorem foldlM_written (os : List LongOption) (g : Globals) :
    (os.flatMap fun o => (argument o).toList.map (written o)).foldlM (launchWord env) g =
      os.foldlM (takeOption env argument) g := by
  induction os generalizing g with
  | nil => rfl
  | cons o os ih =>
      rw [List.flatMap_cons, List.foldlM_append, List.foldlM_cons, takeOption]
      cases argument o with
      | none => simp [ih]
      | some optarg => simp [launchWord, getoptLong_written, ih]

/-- Without `--txq` there are always queues, if there were before. -/
theorem foldlM_takeOption_ok_iff (os : List LongOption) (htxq : .txq ∉ os) (hg : g.nbTxq ≠ 0) :
    os.foldlM (takeOption env argument) g = .ok g' ↔
      (∀ o ∈ os, ∀ optarg ∈ argument o, Accepts env optarg o) ∧
        g' = os.foldl (applyOption env argument) g := by
  induction os generalizing g with
  | nil => simp [eq_comm]
  | cons o os ih =>
      obtain ⟨ho, hos⟩ := not_or.mp (mt List.mem_cons.mpr htxq)
      have hnext : (applyOption env argument g o).nbTxq ≠ 0 := by
        unfold applyOption
        split
        · exact (get_store_of_ne (Ne.symm ho)).trans_ne hg
        · exact hg
      have hround : ∀ g₁, takeOption env argument g o = .ok g₁ ↔
          (∀ optarg ∈ argument o, Accepts env optarg o) ∧ g₁ = applyOption env argument g o := by
        intro g₁
        unfold takeOption applyOption at *
        cases hargument : argument o with
        | none => simp [eq_comm]
        | some optarg =>
            rw [hargument] at hnext
            simp only [launchOption_ok_iff, Option.mem_some_iff, forall_eq']
            refine and_congr_right fun _ => and_iff_left_of_imp ?_
            rintro rfl h
            exact hnext h.2
      rw [List.foldlM_cons, bind_eq_ok_iff, List.foldl_cons]
      constructor
      · rintro ⟨g₁, hg₁, hrest⟩
        obtain ⟨haccepts, rfl⟩ := (hround g₁).mp hg₁
        obtain ⟨hall, rfl⟩ := (ih hos hnext).mp hrest
        exact ⟨List.forall_mem_cons.mpr ⟨haccepts, hall⟩, rfl⟩
      · rintro ⟨hall, rfl⟩
        obtain ⟨haccepts, hall⟩ := List.forall_mem_cons.mp hall
        exact ⟨_, (hround _).mpr ⟨haccepts, rfl⟩, (ih hos hnext).mpr ⟨hall, rfl⟩⟩

/-- A global is set to what its option was given, or is what it was before. -/
theorem get_foldl (o₀ : LongOption) (os : List LongOption) (hos : os.Nodup) (g : Globals) :
    (os.foldl (applyOption env argument) g).get o₀ =
      if o₀ ∈ os then (argument o₀).elim (g.get o₀) (o₀.value env) else g.get o₀ := by
  induction os generalizing g with
  | nil => rfl
  | cons o os ih =>
      obtain ⟨hnot, hos⟩ := List.nodup_cons.mp hos
      rw [List.foldl_cons, ih hos]
      by_cases ho : o = o₀
      · subst ho
        rw [if_neg hnot, if_pos List.mem_cons_self, applyOption]
        cases argument o with
        | none => rfl
        | some optarg => exact get_store_self
      · have hkept : (applyOption env argument g o).get o₀ = g.get o₀ := by
          unfold applyOption
          split
          · exact get_store_of_ne ho
          · rfl
        rw [hkept]
        simp [Ne.symm ho]

/-- When the function returns early, the burst is still what it was. -/
theorem foldlM_takeOption_returned (os : List LongOption) (hos : os.Nodup)
    (h : os.foldlM (takeOption env argument) g = .error (.returned g')) :
    ∃ optarg, argument .burst = some optarg ∧ atoi optarg = 0 ∧ .burst ∈ os ∧
      g'.nbPktPerBurst = g.nbPktPerBurst := by
  induction os generalizing g with
  | nil => cases h
  | cons o os ih =>
      obtain ⟨hnot, hos⟩ := List.nodup_cons.mp hos
      rw [List.foldlM_cons] at h
      rcases bind_eq_error_iff.mp h with h | ⟨g₁, hg₁, h⟩
      · unfold takeOption at h
        split at h
        · rename_i optarg hargument
          obtain ⟨rfl, hzero, rfl⟩ := launchOption_returned h
          exact ⟨optarg, hargument, hzero, List.mem_cons_self, rfl⟩
        · cases h
      · obtain ⟨optarg, hargument, hzero, hmem, hburst⟩ := ih hos h
        refine ⟨optarg, hargument, hzero, List.mem_cons_of_mem o hmem, hburst.trans ?_⟩
        have ho : o ≠ .burst := by
          rintro rfl
          exact hnot hmem
        unfold takeOption at hg₁
        split at hg₁
        · obtain ⟨-, rfl, -⟩ := launchOption_ok_iff.mp hg₁
          exact get_store_of_ne ho
        · cases hg₁
          rfl

end Loop

/-! ## One number on its way -/

section OneNumber

variable {env : LaunchEnv} {n : ℤ}

/-- A number as a text. -/
def intText (n : ℤ) : List UInt8 :=
  if 0 ≤ n then decimal n.toNat else ascii "-" ++ decimal (-n).toNat

theorem atoi_intText (h : 0 ≤ n) (hn : n < 2147483648) : atoi (intText n) = n := by
  rw [intText, if_pos h, atoi_decimal (by omega)]
  exact Int.toNat_of_nonneg h

theorem toUint16_of_lt (h : 0 ≤ n) (hn : n < 65536) : (toUint16 n : ℤ) = n := by
  rw [toUint16, Int.emod_eq_of_lt h hn]
  exact Int.toNat_of_nonneg h

theorem toUint16_range (n : ℤ) : (0 : ℤ) ≤ toUint16 n ∧ (toUint16 n : ℤ) < 65536 := by
  have hlow := Int.emod_nonneg n (show (65536 : ℤ) ≠ 0 by decide)
  have hhigh := Int.emod_lt_of_pos n (show (0 : ℤ) < 65536 by decide)
  rw [toUint16, Int.toNat_of_nonneg hlow]
  exact ⟨hlow, hhigh⟩

/-- What is stored as it was read has been in range. -/
theorem toNat_atoi_arrives_iff {low high : ℤ} (hlow : 0 ≤ low) (hhigh : high < 2147483648) :
    ((low ≤ atoi (intText n) ∧ atoi (intText n) ≤ high) ∧ ((atoi (intText n)).toNat : ℤ) = n) ↔
      low ≤ n ∧ n ≤ high := by
  constructor
  · rintro ⟨⟨hle, hle'⟩, harrives⟩
    rw [Int.toNat_of_nonneg (hlow.trans hle)] at harrives
    rw [harrives] at hle hle'
    exact ⟨hle, hle'⟩
  · rintro ⟨hle, hle'⟩
    have hread := atoi_intText (hlow.trans hle) (hle'.trans_lt hhigh)
    rw [hread]
    exact ⟨⟨hle, hle'⟩, Int.toNat_of_nonneg (hlow.trans hle)⟩

theorem totalNumMbufs_arrives_iff :
    (Accepts env (intText n) .totalNumMbufs ∧ ((atoi (intText n)).toNat : ℤ) = n) ↔
      1025 ≤ n ∧ n ≤ 2147483647 := by
  rw [← toNat_atoi_arrives_iff (by decide) (by decide)]
  refine and_congr_left fun _ => ?_
  have hlt := atoi_lt (intText n)
  simp only [Accepts, MIN_TOTAL_NUM_MBUFS]
  omega

theorem maxPktLen_arrives_iff :
    (Accepts env (intText n) .maxPktLen ∧ ((atoi (intText n)).toNat : ℤ) = n) ↔
      64 ≤ n ∧ n ≤ 2147483647 := by
  rw [← toNat_atoi_arrives_iff (by decide) (by decide)]
  refine and_congr_left fun _ => ?_
  have hlt := atoi_lt (intText n)
  simp only [Accepts, RTE_ETHER_MIN_LEN]
  omega

theorem mbcache_arrives_iff :
    (Accepts env (intText n) .mbcache ∧ ((atoi (intText n)).toNat : ℤ) = n) ↔ 0 ≤ n ∧ n ≤ 512 :=
  toNat_atoi_arrives_iff (by decide) (by decide)

/-- A number of 16 bits is what is read for it. -/
theorem atoi_of_toUint16 (h : (toUint16 (atoi (intText n)) : ℤ) = n) : atoi (intText n) = n := by
  have hrange := toUint16_range (atoi (intText n))
  rw [h] at hrange
  exact atoi_intText hrange.1 (by omega)

/-- The numbers of descriptors wrap around. -/
theorem descriptors_arrives_iff :
    (0 < atoi (intText n) ∧ (toUint16 (atoi (intText n)) : ℤ) = n) ↔ 1 ≤ n ∧ n ≤ 65535 := by
  constructor
  · rintro ⟨hpos, harrives⟩
    have hrange := toUint16_range (atoi (intText n))
    rw [atoi_of_toUint16 harrives] at hpos
    omega
  · rintro ⟨hle, hle'⟩
    rw [atoi_intText (by omega) (by omega)]
    exact ⟨by omega, toUint16_of_lt (by omega) (by omega)⟩

/-- A burst of zero is replaced, and a negative one wraps around. -/
theorem burst_arrives_iff :
    (Accepts env (intText n) .burst ∧ (burstOf env (intText n) : ℤ) = n) ↔ 1 ≤ n ∧ n ≤ 512 := by
  constructor
  · rintro ⟨⟨hzero, hburst⟩, harrives⟩
    rw [burstOf] at harrives
    split at harrives
    · rename_i hread
      -- the recommended burst is not zero, but what is read for it would be
      obtain ⟨burst, hsome, hne, hle⟩ := hzero hread
      rw [hsome, Option.getD_some] at harrives
      have hlt : burst.toNat < 65536 := burst.toNat_lt
      rw [atoi_intText (by omega) (by omega), ← harrives] at hread
      exact absurd (UInt16.toNat_inj.mp (by simpa using hread)) hne
    · rename_i hread
      have hn := atoi_of_toUint16 harrives
      have hrange := toUint16_range (atoi (intText n))
      have hle := hburst hread
      rw [hn] at hread hle
      simp only [MAX_PKT_BURST] at hle
      omega
  · rintro ⟨hle, hle'⟩
    have hread := atoi_intText (n := n) (by omega) (by omega)
    have hne : atoi (intText n) ≠ 0 := by omega
    refine ⟨⟨fun h => absurd h hne, fun _ => ?_⟩, ?_⟩
    · rw [hread]
      exact hle'
    · rw [burstOf, if_neg hne, hread]
      exact toUint16_of_lt (by omega) (by omega)

/-- The list of sizes has one. -/
theorem mbufSize_arrives_iff :
    (Accepts env (intText n) .mbufSize ∧ (sizesOf (intText n)).map Nat.cast = [n]) ↔
      1 ≤ n ∧ n ≤ 65535 := by
  constructor
  · rintro ⟨⟨sizes, hparse, hall⟩, harrives⟩
    rw [sizesOf, hparse, Option.getD_some, List.map_map] at harrives
    obtain ⟨size, rfl⟩ : ∃ size, sizes = [size] := by
      rw [← List.length_eq_one_iff, ← List.length_map, harrives]
      rfl
    obtain ⟨hpos, hle⟩ := hall size List.mem_cons_self
    rw [UInt32.lt_iff_toNat_lt] at hpos
    rw [UInt32.le_iff_toNat_le] at hle
    have hn : (size.toNat : ℤ) = n := by simpa using harrives
    have hzero : (0 : UInt32).toNat = 0 := rfl
    have hmax : (0xFFFF : UInt32).toNat = 65535 := rfl
    omega
  · rintro ⟨hle, hle'⟩
    have hparse : parseItemList (intText n) MAX_SEGS_BUFFER_SPLIT =
        some [UInt32.ofNat n.toNat] := by
      rw [intText, if_pos (by omega), parseItemList_decimal (by omega)]
    have hsize : (UInt32.ofNat n.toNat).toNat = n.toNat := by
      rw [UInt32.toNat_ofNat']
      omega
    refine ⟨⟨_, hparse, ?_⟩, ?_⟩
    · intro size hsize'
      rw [List.mem_singleton.mp hsize', UInt32.lt_iff_toNat_lt, UInt32.le_iff_toNat_le, hsize]
      have hzero : (0 : UInt32).toNat = 0 := rfl
      have hmax : (0xFFFF : UInt32).toNat = 65535 := rfl
      omega
    · rw [sizesOf, hparse]
      simp [hsize, Int.toNat_of_nonneg (show 0 ≤ n by omega)]

/-- A scheme is known by its name. -/
theorem mpAlloc_arrives_iff {text : List UInt8} :
    (Accepts env text .mpAlloc ∧ ((parseMpAlloc text).getD .native).text = text) ↔
      ∃ type : MpAlloc, type.text = text := by
  constructor
  · rintro ⟨-, harrives⟩
    exact ⟨_, harrives⟩
  · rintro ⟨type, rfl⟩
    have hparse : parseMpAlloc type.text = some type := by
      cases type <;> decide
    rw [Accepts, hparse]
    exact ⟨rfl, rfl⟩

/-- A number of lcores or ports that is in a range of at most 16 bits. -/
theorem positive_arrives_iff {m bound : ℕ} (hbound : bound < 65536) :
    ((0 < atoi (decimal m) ∧ atoi (decimal m) ≤ bound) ∧ (atoi (decimal m)).toNat = m) ↔
      1 ≤ m ∧ m ≤ bound := by
  constructor
  · rintro ⟨⟨hpos, hle⟩, harrives⟩
    omega
  · rintro ⟨hpos, hle⟩
    rw [atoi_decimal (by omega)]
    omega

/-- A number of queues. -/
theorem queues_arrives_iff {m bound : ℕ} (hbound : bound < 65536) :
    ((0 ≤ atoi (decimal m) ∧ toUint16 (atoi (decimal m)) ≤ bound) ∧
      toUint16 (atoi (decimal m)) = m) ↔ m ≤ bound := by
  constructor
  · rintro ⟨⟨-, hle⟩, harrives⟩
    rwa [harrives] at hle
  · intro hle
    have hread : toUint16 (atoi (decimal m)) = m := by
      rw [atoi_decimal (by omega)]
      exact Int.ofNat_inj.mp (toUint16_of_lt (by omega) (by omega))
    rw [hread, atoi_decimal (by omega)]
    exact ⟨⟨by omega, hle⟩, rfl⟩

end OneNumber

/-! ## From the configuration to the globals -/

/-- The options in the order in which `count_args` writes them. -/
def writtenOptions : List LongOption :=
  [.mpAlloc, .mbufSize, .totalNumMbufs, .mbcache, .maxPktLen, .burst, .rxd, .txd, .nbCores,
    .nbPorts, .rxq, .txq]

section Arrival

variable (showDouble : Rat → List UInt8) (env : LaunchEnv) (config : JsonValue)

/-- The argument of an option on the command line. -/
def argumentOf : LongOption → Option (List UInt8)
  | .rxd | .txd =>
      if 0 < (((queuesOf config).find NUM_RX_TX_DESC_TAG).bind JsonValue.asInt64).getD 0 then
        some (optionText showDouble (queuesOf config) NUM_RX_TX_DESC_TAG)
      else none
  | .nbCores | .rxq | .txq => some (decimal (memberCount config))
  | .nbPorts => some (decimal (lportsOf config).length)
  | o =>
      if ((queuesOf config).find o.name).isSome then
        some (optionText showDouble (queuesOf config) o.name)
      else none

/-- The number that is configured. -/
def number (tag : List UInt8) : Option ℤ :=
  match (queuesOf config).find tag with
  | some (.int n) => some n
  | _ => none

/-- The allocation scheme that is configured. -/
def mpAllocText : Option (List UInt8) :=
  match (queuesOf config).find MP_ALLOC_TAG with
  | some (.string text) => some text
  | _ => none

/-- The tags of numbers. -/
def numberTags : List (List UInt8) :=
  [MBUF_SIZE_TAG, TOTAL_NUM_MBUS_TAG, MBCACHE_TAG, MAX_PKT_LEN_TAG, BURST_TAG, NUM_RX_TX_DESC_TAG]

/-- The values are of the types the template gives: numbers, and a word for the allocation
scheme. -/
structure TypedOptions : Prop where
  mpAlloc : ∀ v, (queuesOf config).find MP_ALLOC_TAG = some v →
    ∃ text, v = .string text ∧ text.any isSpace = false
  numbers : ∀ tag ∈ numberTags, ∀ v, (queuesOf config).find tag = some v → ∃ n, v = .int n

/-- **The configuration has arrived**: every global is what the configuration says, or the default
where it says nothing. -/
structure Arrives (g : Globals) : Prop where
  mpAlloc : g.mpAllocType.text = (mpAllocText config).getD MpAlloc.native.text
  mbufSize : g.mbufDataSize.map Nat.cast = [(number config MBUF_SIZE_TAG).getD env.defaultBufSize]
  totalNumMbufs : (g.paramTotalNumMbufs : ℤ) = (number config TOTAL_NUM_MBUS_TAG).getD 0
  mbcache : (g.mbMempoolCache : ℤ) = (number config MBCACHE_TAG).getD 250
  maxPktLen : (g.maxRxPktLen : ℤ) = (number config MAX_PKT_LEN_TAG).getD 0
  burst : (g.nbPktPerBurst : ℤ) = (number config BURST_TAG).getD 32
  rxd : (g.nbRxd : ℤ) = max 0 ((number config NUM_RX_TX_DESC_TAG).getD 0)
  txd : (g.nbTxd : ℤ) = max 0 ((number config NUM_RX_TX_DESC_TAG).getD 0)
  nbFwdLcores : g.nbFwdLcores = memberCount config
  nbFwdPorts : g.nbFwdPorts = (lportsOf config).length
  nbRxq : g.nbRxq = memberCount config
  nbTxq : g.nbTxq = memberCount config

/-- The values are in range, and there are lcores, ports and queues enough. -/
structure ValuesInRange : Prop where
  mpAlloc : ∀ text, mpAllocText config = some text → ∃ type : MpAlloc, type.text = text
  mbufSize : ∀ n, number config MBUF_SIZE_TAG = some n → 1 ≤ n ∧ n ≤ 65535
  totalNumMbufs : ∀ n, number config TOTAL_NUM_MBUS_TAG = some n → 1025 ≤ n ∧ n ≤ 2147483647
  mbcache : ∀ n, number config MBCACHE_TAG = some n → 0 ≤ n ∧ n ≤ 512
  maxPktLen : ∀ n, number config MAX_PKT_LEN_TAG = some n → 64 ≤ n ∧ n ≤ 2147483647
  burst : ∀ n, number config BURST_TAG = some n → 1 ≤ n ∧ n ≤ 512
  descriptors : ∀ n, number config NUM_RX_TX_DESC_TAG = some n → n ≤ 65535
  cores_pos : 1 ≤ memberCount config
  cores : memberCount config ≤ env.nbLcores.toNat
  ports_pos : 1 ≤ (lportsOf config).length
  ports : (lportsOf config).length ≤ env.nbPorts.toNat
  rxq : memberCount config ≤ (allowedMaxNbq env.maxQueuesPerPort env.maxRxQueues).toNat
  txq : memberCount config ≤ (allowedMaxNbq env.maxQueuesPerPort env.maxTxQueues).toNat

variable {showDouble env config}

/-- A member with one of the tags of numbers is a number, and is written as one. -/
theorem find_eq_number (htyped : TypedOptions config) (tag : List UInt8) (htag : tag ∈ numberTags) :
    (queuesOf config).find tag = (number config tag).map JsonValue.int := by
  unfold number
  cases hfind : (queuesOf config).find tag with
  | none => rfl
  | some v =>
      obtain ⟨n, rfl⟩ := htyped.numbers tag htag v hfind
      rfl

theorem optionText_of_number {tag : List UInt8} {n : ℤ}
    (hfind : (queuesOf config).find tag = some (.int n)) :
    optionText showDouble (queuesOf config) tag = intText n := by
  rw [optionText, hfind]
  cases n with
  | ofNat n => rfl
  | negSucc n => rfl

/-- The argument of an option with a number. -/
theorem argumentOf_number (htyped : TypedOptions config) {o : LongOption}
    (ho : o ∈ [LongOption.mbufSize, .totalNumMbufs, .mbcache, .maxPktLen, .burst]) :
    argumentOf showDouble config o = (number config o.name).map intText := by
  have htag : o.name ∈ numberTags := by
    simp only [List.mem_cons, List.not_mem_nil, or_false] at ho
    rcases ho with rfl | rfl | rfl | rfl | rfl <;> decide
  have hfind := find_eq_number htyped o.name htag
  have hargument : argumentOf showDouble config o =
      if ((queuesOf config).find o.name).isSome then
        some (optionText showDouble (queuesOf config) o.name)
      else none := by
    simp only [List.mem_cons, List.not_mem_nil, or_false] at ho
    rcases ho with rfl | rfl | rfl | rfl | rfl <;> rfl
  rw [hargument]
  cases hnumber : number config o.name with
  | none =>
      rw [hnumber] at hfind
      rw [hfind]
      rfl
  | some n =>
      rw [hnumber] at hfind
      rw [optionText_of_number hfind, hfind]
      rfl

/-- The argument of `--rxd` and `--txd`. -/
theorem argumentOf_descriptors (htyped : TypedOptions config)
    (hconvertible : Convertible showDouble config) {o : LongOption} (ho : o = .rxd ∨ o = .txd) :
    argumentOf showDouble config o =
      ((number config NUM_RX_TX_DESC_TAG).filter (0 < ·)).map intText := by
  have hfind := find_eq_number htyped NUM_RX_TX_DESC_TAG (by decide)
  have hargument : argumentOf showDouble config o =
      if 0 < (((queuesOf config).find NUM_RX_TX_DESC_TAG).bind JsonValue.asInt64).getD 0 then
        some (optionText showDouble (queuesOf config) NUM_RX_TX_DESC_TAG)
      else none := by
    rcases ho with rfl | rfl <;> rfl
  rw [hargument]
  cases hnumber : number config NUM_RX_TX_DESC_TAG with
  | none =>
      rw [hnumber] at hfind
      rw [hfind]
      rfl
  | some n =>
      rw [hnumber] at hfind
      obtain ⟨n', hn'⟩ := Option.isSome_iff_exists.mp (hconvertible.descriptors _ hfind)
      have hfits : JsonValue.asInt64 (.int n) = some n := by
        simp only [JsonValue.asInt64] at hn' ⊢
        split at hn'
        · rename_i hfits
          rw [if_pos hfits]
        · cases hn'
      rw [optionText_of_number hfind, hfind]
      simp only [Option.map_some, Option.bind_some, hfits, Option.getD_some, Option.filter_some]
      by_cases hpos : 0 < n <;> simp [hpos]

/-- The argument of `--mp-alloc`. -/
theorem argumentOf_mpAlloc (htyped : TypedOptions config) :
    argumentOf showDouble config .mpAlloc = mpAllocText config := by
  unfold mpAllocText
  have hargument : argumentOf showDouble config .mpAlloc =
      if ((queuesOf config).find MP_ALLOC_TAG).isSome then
        some (optionText showDouble (queuesOf config) MP_ALLOC_TAG)
      else none := rfl
  rw [hargument]
  cases hfind : (queuesOf config).find MP_ALLOC_TAG with
  | none => rfl
  | some v =>
      obtain ⟨text, rfl, -⟩ := htyped.mpAlloc v hfind
      rw [optionText, hfind]
      rfl

/-! ### The words -/

theorem isSpace_of_mem_decimal {n : ℕ} {b : UInt8} (h : b ∈ decimal n) : isSpace b = false :=
  isSpace_of_digitValue_lt ((digitValue_lt_of_mem_decimal h).trans (by decide))

theorem any_isSpace_decimal (n : ℕ) : (decimal n).any isSpace = false :=
  List.any_eq_false.mpr fun _ hb => by simp [isSpace_of_mem_decimal hb]

theorem any_isSpace_intText (n : ℤ) : (intText n).any isSpace = false := by
  unfold intText
  split
  · exact any_isSpace_decimal _
  · rw [List.any_append, any_isSpace_decimal]
    rfl

/-- No argument has white space in it. -/
theorem any_isSpace_argumentOf (htyped : TypedOptions config)
    (hconvertible : Convertible showDouble config) {o : LongOption} {optarg : List UInt8}
    (h : argumentOf showDouble config o = some optarg) : optarg.any isSpace = false := by
  cases o with
  | mbufSize | totalNumMbufs | mbcache | maxPktLen | burst =>
      rw [argumentOf_number htyped (by decide)] at h
      obtain ⟨n, -, rfl⟩ := Option.map_eq_some_iff.mp h
      exact any_isSpace_intText n
  | rxd =>
      rw [argumentOf_descriptors htyped hconvertible (.inl rfl)] at h
      obtain ⟨n, -, rfl⟩ := Option.map_eq_some_iff.mp h
      exact any_isSpace_intText n
  | txd =>
      rw [argumentOf_descriptors htyped hconvertible (.inr rfl)] at h
      obtain ⟨n, -, rfl⟩ := Option.map_eq_some_iff.mp h
      exact any_isSpace_intText n
  | mpAlloc =>
      rw [argumentOf_mpAlloc htyped] at h
      unfold mpAllocText at h
      split at h
      · rename_i text hfind
        cases h
        obtain ⟨text', htext, hspace⟩ := htyped.mpAlloc _ hfind
        cases htext
        exact hspace
      · cases h
  | nbCores | nbPorts | rxq | txq =>
      cases h
      exact any_isSpace_decimal _

/-- What stands behind `--` are the options with their arguments. -/
theorem testpmdOptions_eq :
    testpmdOptions showDouble config (memberCount config) (lportsOf config).length
        (memberCount config) (memberCount config) =
      writtenOptions.flatMap fun o => (argumentOf showDouble config o).toList.map (written o) := by
  have hpassed : ∀ o ∈ [LongOption.mpAlloc, .mbufSize, .totalNumMbufs, .mbcache, .maxPktLen,
      .burst], passedOn showDouble (queuesOf config) [o.name] =
        (argumentOf showDouble config o).toList.map (written o) := by
    intro o ho
    have hargument : argumentOf showDouble config o =
        if ((queuesOf config).find o.name).isSome then
          some (optionText showDouble (queuesOf config) o.name)
        else none := by
      simp only [List.mem_cons, List.not_mem_nil, or_false] at ho
      rcases ho with rfl | rfl | rfl | rfl | rfl | rfl <;> rfl
    rw [hargument, passedOn, List.flatMap_singleton]
    split <;> rfl
  have hdescriptors : descriptorOptions showDouble (queuesOf config) =
      (argumentOf showDouble config .rxd).toList.map (written .rxd) ++
        (argumentOf showDouble config .txd).toList.map (written .txd) := by
    rw [descriptorOptions, argumentOf, argumentOf]
    split
    · have hrxd : ascii "--rxd=" = ascii "--" ++ ascii "rxd" ++ ascii "=" := by decide
      have htxd : ascii "--txd=" = ascii "--" ++ ascii "txd" ++ ascii "=" := by decide
      rw [hrxd, htxd]
      rfl
    · rfl
  have hcores : ascii "--nb-cores=" = ascii "--" ++ ascii "nb-cores" ++ ascii "=" := by decide
  have hports : ascii "--nb-ports=" = ascii "--" ++ ascii "nb-ports" ++ ascii "=" := by decide
  have hrxq : ascii "--rxq=" = ascii "--" ++ ascii "rxq" ++ ascii "=" := by decide
  have htxq : ascii "--txq=" = ascii "--" ++ ascii "txq" ++ ascii "=" := by decide
  have hsplit : passedOn showDouble (queuesOf config) queueTags =
      ([LongOption.mpAlloc, .mbufSize, .totalNumMbufs, .mbcache, .maxPktLen, .burst].flatMap
        fun o => passedOn showDouble (queuesOf config) [o.name]) := by
    rw [passedOn, show queueTags = [LongOption.mpAlloc, .mbufSize, .totalNumMbufs, .mbcache,
      .maxPktLen, .burst].map LongOption.name from rfl, List.flatMap_map]
    refine List.flatMap_congr fun o _ => ?_
    rw [passedOn, List.flatMap_singleton]
  simp only [List.forall_mem_cons] at hpassed
  obtain ⟨h1, h2, h3, h4, h5, h6, -⟩ := hpassed
  rw [testpmdOptions, hsplit, hdescriptors, hcores, hports, hrxq, htxq]
  simp only [List.flatMap_cons, List.flatMap_nil, h1, h2, h3, h4, h5, h6, writtenOptions]
  simp [argumentOf, written, LongOption.name]

/-- Each of them is a word. -/
theorem words_written {optarg : List UInt8} (o : LongOption) (h : optarg.any isSpace = false) :
    words isSpace (written o optarg) = [written o optarg] := by
  have hname : o.name.any isSpace = false := by
    cases o <;> decide
  refine words_of_any_eq_false isSpace (by simp [written, ascii]) ?_
  rw [written, List.any_append, List.any_append, List.any_append, hname, h]
  rfl

theorem words_testpmdOptions (htyped : TypedOptions config)
    (hconvertible : Convertible showDouble config) :
    (testpmdOptions showDouble config (memberCount config) (lportsOf config).length
        (memberCount config) (memberCount config)).flatMap (words isSpace) =
      writtenOptions.flatMap fun o => (argumentOf showDouble config o).toList.map (written o) := by
  rw [testpmdOptions_eq, List.flatMap_assoc]
  refine List.flatMap_congr fun o _ => ?_
  cases hargument : argumentOf showDouble config o with
  | none => rfl
  | some optarg =>
      have hword := words_written o (any_isSpace_argumentOf htyped hconvertible hargument)
      simp [hword]

/-! ### The globals -/

theorem mem_writtenOptions (o : LongOption) : o ∈ writtenOptions := by
  cases o <;> decide

variable (showDouble env config) in
/-- The globals when all options have been taken. -/
def launched : Globals :=
  writtenOptions.foldl (applyOption env (argumentOf showDouble config)) (Globals.init env)

theorem get_launched (o : LongOption) :
    (launched showDouble env config).get o =
      (argumentOf showDouble config o).elim ((Globals.init env).get o) (o.value env) := by
  rw [launched, get_foldl o writtenOptions (by decide), if_pos (mem_writtenOptions o)]

/-- All options are taken when each is accepted and there are queues. -/
theorem foldlM_writtenOptions_ok_iff {g : Globals} :
    writtenOptions.foldlM (takeOption env (argumentOf showDouble config)) (Globals.init env) =
        .ok g ↔
      (∀ o, ∀ optarg ∈ argumentOf showDouble config o, Accepts env optarg o) ∧
        g = launched showDouble env config ∧ ¬ g.NoQueues := by
  have hsplit : writtenOptions = writtenOptions.dropLast ++ [.txq] := rfl
  have hlast : ∀ g₁, [LongOption.txq].foldlM (takeOption env (argumentOf showDouble config)) g₁ =
      launchOption env g₁ (decimal (memberCount config)) .txq := by
    intro g₁
    rw [List.foldlM_cons]
    exact bind_pure _
  have hfold : launched showDouble env config =
      store env (writtenOptions.dropLast.foldl (applyOption env (argumentOf showDouble config))
        (Globals.init env)) (decimal (memberCount config)) .txq := by
    rw [launched, hsplit, List.foldl_append]
    rfl
  have hfront : ∀ g₁, writtenOptions.dropLast.foldlM
      (takeOption env (argumentOf showDouble config)) (Globals.init env) = .ok g₁ ↔
        (∀ o ∈ writtenOptions.dropLast, ∀ optarg ∈ argumentOf showDouble config o,
          Accepts env optarg o) ∧
          g₁ = writtenOptions.dropLast.foldl (applyOption env (argumentOf showDouble config))
            (Globals.init env) :=
    fun g₁ => foldlM_takeOption_ok_iff _ (by decide) Nat.one_ne_zero
  have hmem : ∀ o, o ∈ writtenOptions.dropLast ∨ o = .txq := by
    intro o
    cases o <;> decide
  rw [hsplit, List.foldlM_append, bind_eq_ok_iff, hfold]
  constructor
  · rintro ⟨g₁, hg₁, hg⟩
    obtain ⟨hall, rfl⟩ := (hfront g₁).mp hg₁
    rw [hlast] at hg
    obtain ⟨haccepts, hstore, hqueues⟩ := launchOption_ok_iff.mp hg
    refine ⟨fun o optarg hargument => ?_, hstore, hqueues⟩
    rcases hmem o with ho | rfl
    · exact hall o ho optarg hargument
    · cases hargument
      exact haccepts
  · rintro ⟨hall, hstore, hqueues⟩
    refine ⟨_, (hfront _).mpr ⟨fun o _ => hall o, rfl⟩, ?_⟩
    rw [hlast]
    exact launchOption_ok_iff.mpr ⟨hall .txq _ rfl, hstore, hqueues⟩

/-- A configuration that arrives has had all of its options taken. -/
theorem launchArgsParse_arrives_iff (htyped : TypedOptions config) {g : Globals} :
    (launchArgsParse env (writtenOptions.flatMap fun o =>
        (argumentOf showDouble config o).toList.map (written o)) = some g ∧
      Arrives env config g) ↔
    (∀ o, ∀ optarg ∈ argumentOf showDouble config o, Accepts env optarg o) ∧
      g = launched showDouble env config ∧ ¬ g.NoQueues ∧ Arrives env config g := by
  rw [launchArgsParse, foldlM_written]
  cases hrun : writtenOptions.foldlM (takeOption env (argumentOf showDouble config))
      (Globals.init env) with
  | ok g₁ =>
      obtain ⟨hall, hstore, hqueues⟩ := foldlM_writtenOptions_ok_iff.mp hrun
      dsimp only
      rw [Option.some_inj]
      constructor
      · rintro ⟨rfl, harrives⟩
        exact ⟨hall, hstore, hqueues, harrives⟩
      · rintro ⟨-, rfl, -, harrives⟩
        exact ⟨hstore, harrives⟩
  | error e =>
      have hno : ¬ ((∀ o, ∀ optarg ∈ argumentOf showDouble config o, Accepts env optarg o) ∧
          g = launched showDouble env config ∧ ¬ g.NoQueues ∧ Arrives env config g) := by
        rintro ⟨hall, hstore, hqueues, -⟩
        rw [foldlM_writtenOptions_ok_iff.mpr ⟨hall, hstore, hqueues⟩] at hrun
        cases hrun
      refine iff_of_false ?_ hno
      cases e with
      | exited => nofun
      | returned g₁ =>
          rintro ⟨hsome, harrives⟩
          obtain rfl := Option.some.inj hsome
          -- the burst would have to be the default, but what has been read for it is zero
          obtain ⟨optarg, hargument, hzero, -, hburst⟩ :=
            foldlM_takeOption_returned writtenOptions (by decide) hrun
          rw [argumentOf_number htyped (by decide)] at hargument
          obtain ⟨n, hnumber, rfl⟩ := Option.map_eq_some_iff.mp hargument
          have hdefault := harrives.burst
          rw [hburst, show number config BURST_TAG = some n from hnumber, Option.getD_some]
            at hdefault
          obtain rfl : (32 : ℤ) = n := hdefault
          rw [atoi_intText (by decide) (by decide)] at hzero
          exact absurd hzero (by decide)

/-! ### What arrives -/

/-- An option with a number. -/
theorem number_arrives {x : Option ℤ} {accepts : List UInt8 → Prop} {value : List UInt8 → ℕ}
    {d : ℕ} {P : ℤ → Prop}
    (h : ∀ n, (accepts (intText n) ∧ (value (intText n) : ℤ) = n) ↔ P n) :
    ((∀ optarg ∈ x.map intText, accepts optarg) ∧
        (((x.map intText).elim d value : ℕ) : ℤ) = x.getD d) ↔ ∀ n, x = some n → P n := by
  cases x with
  | none => simp
  | some n => simpa using h n

/-- The numbers of descriptors are passed on if they are positive. -/
theorem descriptors_arrive {x : Option ℤ} :
    ((∀ optarg ∈ (x.filter (0 < ·)).map intText, 0 < atoi optarg) ∧
        ((((x.filter (0 < ·)).map intText).elim 0 fun optarg => toUint16 (atoi optarg) : ℕ) : ℤ) =
          max 0 (x.getD 0)) ↔ ∀ n, x = some n → n ≤ 65535 := by
  cases x with
  | none => simp
  | some n =>
      by_cases hpos : 0 < n
      · have h : _ ↔ (1 ≤ n ∧ n ≤ 65535) := descriptors_arrives_iff
        have hrange : (1 ≤ n ∧ n ≤ 65535) ↔ n ≤ 65535 := and_iff_right hpos
        simpa [Option.filter_some, hpos, max_eq_right hpos.le] using h.trans hrange
      · have hle : n ≤ 65535 := (not_lt.mp hpos).trans (by decide)
        simp [Option.filter_some, hpos, not_lt.mp hpos, hle]

/-- The globals of options with a number. -/
theorem get_launched_number (htyped : TypedOptions config) {o : LongOption}
    (ho : o ∈ [LongOption.mbufSize, .totalNumMbufs, .mbcache, .maxPktLen, .burst]) :
    (launched showDouble env config).get o =
      ((number config o.name).map intText).elim ((Globals.init env).get o) (o.value env) := by
  rw [get_launched, argumentOf_number htyped ho]

/-- The numbers of descriptors. -/
theorem get_launched_descriptors (htyped : TypedOptions config)
    (hconvertible : Convertible showDouble config) {o : LongOption} (ho : o = .rxd ∨ o = .txd) :
    (launched showDouble env config).get o =
      (((number config NUM_RX_TX_DESC_TAG).filter (0 < ·)).map intText).elim
        ((Globals.init env).get o) (o.value env) := by
  rw [get_launched, argumentOf_descriptors htyped hconvertible ho]

variable (showDouble env config) in
/-- All arguments of an option are accepted; there is at most one. -/
def Taken (o : LongOption) : Prop := ∀ optarg ∈ argumentOf showDouble config o, Accepts env optarg o

variable (showDouble env)

theorem burst_iff (htyped : TypedOptions config) :
    (Taken showDouble env config .burst ∧
        ((launched showDouble env config).nbPktPerBurst : ℤ) = (number config BURST_TAG).getD 32) ↔
      ∀ n, number config BURST_TAG = some n → 1 ≤ n ∧ n ≤ 512 := by
  have hget : (launched showDouble env config).nbPktPerBurst = _ :=
    get_launched_number htyped (o := .burst) (by decide)
  rw [Taken, argumentOf_number htyped (by decide), hget]
  exact number_arrives fun _ => burst_arrives_iff

theorem totalNumMbufs_iff (htyped : TypedOptions config) :
    (Taken showDouble env config .totalNumMbufs ∧
        ((launched showDouble env config).paramTotalNumMbufs : ℤ) =
          (number config TOTAL_NUM_MBUS_TAG).getD 0) ↔
      ∀ n, number config TOTAL_NUM_MBUS_TAG = some n → 1025 ≤ n ∧ n ≤ 2147483647 := by
  have hget : (launched showDouble env config).paramTotalNumMbufs = _ :=
    get_launched_number htyped (o := .totalNumMbufs) (by decide)
  rw [Taken, argumentOf_number htyped (by decide), hget]
  exact number_arrives fun _ => totalNumMbufs_arrives_iff

theorem mbcache_iff (htyped : TypedOptions config) :
    (Taken showDouble env config .mbcache ∧
        ((launched showDouble env config).mbMempoolCache : ℤ) =
          (number config MBCACHE_TAG).getD 250) ↔
      ∀ n, number config MBCACHE_TAG = some n → 0 ≤ n ∧ n ≤ 512 := by
  have hget : (launched showDouble env config).mbMempoolCache = _ :=
    get_launched_number htyped (o := .mbcache) (by decide)
  rw [Taken, argumentOf_number htyped (by decide), hget]
  exact number_arrives fun _ => mbcache_arrives_iff

theorem maxPktLen_iff (htyped : TypedOptions config) :
    (Taken showDouble env config .maxPktLen ∧
        ((launched showDouble env config).maxRxPktLen : ℤ) =
          (number config MAX_PKT_LEN_TAG).getD 0) ↔
      ∀ n, number config MAX_PKT_LEN_TAG = some n → 64 ≤ n ∧ n ≤ 2147483647 := by
  have hget : (launched showDouble env config).maxRxPktLen = _ :=
    get_launched_number htyped (o := .maxPktLen) (by decide)
  rw [Taken, argumentOf_number htyped (by decide), hget]
  exact number_arrives fun _ => maxPktLen_arrives_iff

theorem mbufSize_iff (htyped : TypedOptions config) :
    (Taken showDouble env config .mbufSize ∧
        (launched showDouble env config).mbufDataSize.map Nat.cast =
          [(number config MBUF_SIZE_TAG).getD env.defaultBufSize]) ↔
      ∀ n, number config MBUF_SIZE_TAG = some n → 1 ≤ n ∧ n ≤ 65535 := by
  have hget : (launched showDouble env config).mbufDataSize =
      ((number config MBUF_SIZE_TAG).map intText).elim [env.defaultBufSize] sizesOf :=
    get_launched_number htyped (o := .mbufSize) (by decide)
  have hargument : argumentOf showDouble config .mbufSize =
      (number config MBUF_SIZE_TAG).map intText := argumentOf_number htyped (by decide)
  rw [Taken, hargument, hget]
  cases number config MBUF_SIZE_TAG with
  | none => simp
  | some n =>
      have h : (Accepts env (intText n) .mbufSize ∧ (sizesOf (intText n)).map Nat.cast = [n]) ↔
          1 ≤ n ∧ n ≤ 65535 := mbufSize_arrives_iff
      simpa using h

theorem mpAlloc_iff (htyped : TypedOptions config) :
    (Taken showDouble env config .mpAlloc ∧
        (launched showDouble env config).mpAllocType.text =
          (mpAllocText config).getD MpAlloc.native.text) ↔
      ∀ text, mpAllocText config = some text → ∃ type : MpAlloc, type.text = text := by
  have hget : (launched showDouble env config).mpAllocType =
      (argumentOf showDouble config .mpAlloc).elim .native
        fun text => (parseMpAlloc text).getD .native := get_launched .mpAlloc
  rw [Taken, hget, argumentOf_mpAlloc htyped]
  cases mpAllocText config with
  | none => simp
  | some text =>
      have h : (Accepts env text .mpAlloc ∧ ((parseMpAlloc text).getD .native).text = text) ↔
          ∃ type : MpAlloc, type.text = text := mpAlloc_arrives_iff
      simpa using h

theorem rxd_iff (htyped : TypedOptions config) (hconvertible : Convertible showDouble config) :
    (Taken showDouble env config .rxd ∧ ((launched showDouble env config).nbRxd : ℤ) =
        max 0 ((number config NUM_RX_TX_DESC_TAG).getD 0)) ↔
      ∀ n, number config NUM_RX_TX_DESC_TAG = some n → n ≤ 65535 := by
  have hget : (launched showDouble env config).nbRxd = _ :=
    get_launched_descriptors htyped hconvertible (.inl rfl)
  rw [Taken, argumentOf_descriptors htyped hconvertible (.inl rfl), hget]
  exact descriptors_arrive

theorem txd_iff (htyped : TypedOptions config) (hconvertible : Convertible showDouble config) :
    (Taken showDouble env config .txd ∧ ((launched showDouble env config).nbTxd : ℤ) =
        max 0 ((number config NUM_RX_TX_DESC_TAG).getD 0)) ↔
      ∀ n, number config NUM_RX_TX_DESC_TAG = some n → n ≤ 65535 := by
  have hget : (launched showDouble env config).nbTxd = _ :=
    get_launched_descriptors htyped hconvertible (.inr rfl)
  rw [Taken, argumentOf_descriptors htyped hconvertible (.inr rfl), hget]
  exact descriptors_arrive

variable {showDouble env} in
/-- The options that are always written. -/
theorem taken_some {o : LongOption} {optarg : List UInt8}
    (h : argumentOf showDouble config o = some optarg) :
    Taken showDouble env config o ↔ Accepts env optarg o := by
  rw [Taken, h]
  simp

theorem nbCores_iff :
    (Taken showDouble env config .nbCores ∧
        (launched showDouble env config).nbFwdLcores = memberCount config) ↔
      1 ≤ memberCount config ∧ memberCount config ≤ env.nbLcores.toNat := by
  have hget : (launched showDouble env config).nbFwdLcores =
      (atoi (decimal (memberCount config))).toNat := get_launched .nbCores
  rw [taken_some rfl, hget]
  exact positive_arrives_iff (env.nbLcores.toNat_lt.trans (by decide))

theorem nbPorts_iff :
    (Taken showDouble env config .nbPorts ∧
        (launched showDouble env config).nbFwdPorts = (lportsOf config).length) ↔
      1 ≤ (lportsOf config).length ∧ (lportsOf config).length ≤ env.nbPorts.toNat := by
  have hget : (launched showDouble env config).nbFwdPorts =
      (atoi (decimal (lportsOf config).length)).toNat := get_launched .nbPorts
  rw [taken_some rfl, hget]
  exact positive_arrives_iff env.nbPorts.toNat_lt

theorem rxq_iff :
    (Taken showDouble env config .rxq ∧
        (launched showDouble env config).nbRxq = memberCount config) ↔
      memberCount config ≤ (allowedMaxNbq env.maxQueuesPerPort env.maxRxQueues).toNat := by
  have hget : (launched showDouble env config).nbRxq =
      toUint16 (atoi (decimal (memberCount config))) := get_launched .rxq
  rw [taken_some rfl, hget]
  exact queues_arrives_iff (UInt16.toNat_lt _)

theorem txq_iff :
    (Taken showDouble env config .txq ∧
        (launched showDouble env config).nbTxq = memberCount config) ↔
      memberCount config ≤ (allowedMaxNbq env.maxQueuesPerPort env.maxTxQueues).toNat := by
  have hget : (launched showDouble env config).nbTxq =
      toUint16 (atoi (decimal (memberCount config))) := get_launched .txq
  rw [taken_some rfl, hget]
  exact queues_arrives_iff (UInt16.toNat_lt _)

/-- **What has to hold for every option to be taken and to arrive.** -/
theorem launched_arrives_iff (htyped : TypedOptions config)
    (hconvertible : Convertible showDouble config) :
    ((∀ o, Taken showDouble env config o) ∧ ¬ (launched showDouble env config).NoQueues ∧
        Arrives env config (launched showDouble env config)) ↔ ValuesInRange env config := by
  constructor
  · rintro ⟨htaken, -, h⟩
    have hcores := (nbCores_iff showDouble env).mp ⟨htaken .nbCores, h.nbFwdLcores⟩
    have hports := (nbPorts_iff showDouble env).mp ⟨htaken .nbPorts, h.nbFwdPorts⟩
    exact {
      mpAlloc := (mpAlloc_iff showDouble env htyped).mp ⟨htaken .mpAlloc, h.mpAlloc⟩
      mbufSize := (mbufSize_iff showDouble env htyped).mp ⟨htaken .mbufSize, h.mbufSize⟩
      totalNumMbufs :=
        (totalNumMbufs_iff showDouble env htyped).mp ⟨htaken .totalNumMbufs, h.totalNumMbufs⟩
      mbcache := (mbcache_iff showDouble env htyped).mp ⟨htaken .mbcache, h.mbcache⟩
      maxPktLen := (maxPktLen_iff showDouble env htyped).mp ⟨htaken .maxPktLen, h.maxPktLen⟩
      burst := (burst_iff showDouble env htyped).mp ⟨htaken .burst, h.burst⟩
      descriptors := (rxd_iff showDouble env htyped hconvertible).mp ⟨htaken .rxd, h.rxd⟩
      cores_pos := hcores.1
      cores := hcores.2
      ports_pos := hports.1
      ports := hports.2
      rxq := (rxq_iff showDouble env).mp ⟨htaken .rxq, h.nbRxq⟩
      txq := (txq_iff showDouble env).mp ⟨htaken .txq, h.nbTxq⟩ }
  · intro h
    have hmpAlloc := (mpAlloc_iff showDouble env htyped).mpr h.mpAlloc
    have hmbufSize := (mbufSize_iff showDouble env htyped).mpr h.mbufSize
    have htotal := (totalNumMbufs_iff showDouble env htyped).mpr h.totalNumMbufs
    have hmbcache := (mbcache_iff showDouble env htyped).mpr h.mbcache
    have hmaxPktLen := (maxPktLen_iff showDouble env htyped).mpr h.maxPktLen
    have hburst := (burst_iff showDouble env htyped).mpr h.burst
    have hrxd := (rxd_iff showDouble env htyped hconvertible).mpr h.descriptors
    have htxd := (txd_iff showDouble env htyped hconvertible).mpr h.descriptors
    have hcores := (nbCores_iff showDouble env).mpr ⟨h.cores_pos, h.cores⟩
    have hports := (nbPorts_iff showDouble env).mpr ⟨h.ports_pos, h.ports⟩
    have hrxq := (rxq_iff showDouble env).mpr h.rxq
    have htxq := (txq_iff showDouble env).mpr h.txq
    refine ⟨fun o => ?_, fun hnone => ?_, ?_⟩
    · cases o with
      | nbPorts => exact hports.1
      | nbCores => exact hcores.1
      | mpAlloc => exact hmpAlloc.1
      | mbufSize => exact hmbufSize.1
      | totalNumMbufs => exact htotal.1
      | maxPktLen => exact hmaxPktLen.1
      | rxq => exact hrxq.1
      | txq => exact htxq.1
      | burst => exact hburst.1
      | mbcache => exact hmbcache.1
      | rxd => exact hrxd.1
      | txd => exact htxd.1
    · exact absurd (hrxq.2.symm.trans hnone.1) (Nat.ne_of_gt h.cores_pos)
    · exact ⟨hmpAlloc.2, hmbufSize.2, htotal.2, hmbcache.2, hmaxPktLen.2, hburst.2, hrxd.2,
        htxd.2, hcores.2, hports.2, hrxq.2, htxq.2⟩

/-! ### From one end to the other -/

/-- The texts for the library have no `--` of their own. -/
def DashesOnce (showDouble : Rat → List UInt8) (config : JsonValue) : Prop :=
  ∀ tag ∈ [LCORE_RELATED_OPTIONS_TAG, MEMORY_REALTED_OPTIONS_TAG, DEVICE_RELATED_OPTIONS_TAG,
    DEBUGGIN_RELATED_OPTIONS_TAG], ascii "--" ∉ words isSpace (optionText showDouble config tag)

variable {showDouble env}

/-- What is left of a list behind the first `--`. -/
theorem behindDashes_append {front back : List (List UInt8)} (h : ascii "--" ∉ front) :
    behindDashes ((front ++ [ascii "--"] ++ back).map some) = back := by
  have hfilter : ((front ++ [ascii "--"] ++ back).map some).filterMap id =
      front ++ [ascii "--"] ++ back := by
    rw [List.filterMap_map]
    exact List.filterMap_some
  rw [behindDashes, hfilter, List.append_assoc, List.dropWhile_append_of_pos]
  · simp
  · intro word hword
    exact bne_iff_ne.mpr fun heq => h (heq ▸ hword)

/-- What the library leaves of the arguments are the options. -/
theorem behindDashes_ealArguments (hkeys : UsesTemplateKeys config)
    (hdashes : DashesOnce showDouble config) {argc : ℕ} {argv : List (Option (List UInt8))}
    (h : ealArguments showDouble config = some (argc, argv)) :
    behindDashes argv = (testpmdOptions showDouble config (memberCount config)
      (lportsOf config).length (memberCount config) (memberCount config)).flatMap
        (words isSpace) := by
  obtain ⟨-, -, rfl⟩ := (ealArguments_eq_some_iff hkeys).mp h
  rw [words_parts, commandLine]
  refine behindDashes_append ?_
  have hnone : words isSpace ([] : List UInt8) = [] := rfl
  have hname : ascii "--" ≠ ascii "./APPNAME" := by decide
  simp only [DashesOnce, List.forall_mem_cons] at hdashes
  obtain ⟨hlcore, hmemory, hdevice, hdebuggin, -⟩ := hdashes
  simp only [hnone, List.append_nil, List.mem_append, List.mem_singleton, not_or]
  exact ⟨⟨⟨⟨hname, hlcore⟩, hmemory⟩, hdevice⟩, hdebuggin⟩

end Arrival

/-! ## One configuration -/

/-- One port with sixteen queues, and three lcores. -/
def onePortEnv : LaunchEnv where
  nbPorts := 1
  nbLcores := 3
  maxRxQueues := [some 16]
  maxTxQueues := [some 16]
  recommendedBurst := none
  maxQueuesPerPort := 1024
  defaultBufSize := 2176

theorem onePortParams_typedOptions (queues : List (List UInt8)) :
    TypedOptions (onePortParams [] queues) := by
  constructor
  · rintro v ⟨⟩
  · simp only [numberTags, List.forall_mem_cons]
    refine ⟨?_, ?_, ?_, ?_, ?_, ?_, List.forall_mem_nil _⟩ <;> rintro v ⟨⟩
    · exact ⟨32, rfl⟩
    · exact ⟨512, rfl⟩

theorem onePortParams_dashesOnce (showDouble : Rat → List UInt8) (queues : List (List UInt8)) :
    DashesOnce showDouble (onePortParams [] queues) := by
  have htexts : ∀ text ∈ [ascii "-l 0,1,2", ascii "-n 4", ascii "-a 0000:04:00.0",
      ascii "--no-shconf"], ascii "--" ∉ words isSpace text := by decide +kernel
  simp only [List.forall_mem_cons] at htexts
  obtain ⟨hlcore, hmemory, hdevice, hdebuggin, -⟩ := htexts
  simp only [DashesOnce, List.forall_mem_cons]
  exact ⟨hlcore, hmemory, hdevice, hdebuggin, List.forall_mem_nil _⟩

theorem onePortParams_valuesInRange :
    ValuesInRange onePortEnv (onePortParams [] [ascii "queue:0", ascii "queue:1"]) := by
  constructor
  case burst | descriptors =>
    rintro n ⟨⟩
    decide
  case cores_pos | cores | ports_pos | ports | rxq | txq => decide
  all_goals rintro n ⟨⟩

end UdxFastpath.Dpdk
