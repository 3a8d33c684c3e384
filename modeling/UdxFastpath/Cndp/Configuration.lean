import UdxFastpath.Core.Manager
import UdxFastpath.Foundation.ByteStrings
import UdxFastpath.Foundation.OrderedObject

/-!
# The generated CNDP configuration

`get_thread_template` and `get_lport_template` of `lib/core/cndp/cndp.cpp` turn the
datapath configuration into the one CNDP reads: an lport named `dev:q` for every
queue of every netdev, and a thread named `fwd:n` that serves it, besides the thread
`main`.  On the way `get_lport_template` appends the netdev's MAC address to
`cndp_lport_mac`.

JSON objects are `OrderedObject`s over byte strings: `jsoncpp` keeps and prints
members in that order.  Both functions walk the same netdevs and queues, each with
its own counters; a `Place` is a queue on that walk, and `getThreadTemplate_eq` and
`getLportTemplate_eq` say what the two functions make of the list of places.
-/

namespace UdxFastpath.Cndp

open ByteStrings

/-! ## What is read -/

/-- The bytes of a JSON string. -/
abbrev JsonString := List UInt8

/-- A member of `rx-tx-queues-info`. -/
structure QueueInfo where
  coreId : ℤ
  regionIndex : ℤ
  queueId : ℤ
  deriving DecidableEq, Repr, Inhabited

/-- A member of the configuration's `lports`: a netdev and its queues. -/
structure Netdev where
  pmd : Option JsonString
  umem : Option JsonString
  busyPoll : Option Bool
  busyBudget : Option ℤ
  skbMode : Option Bool
  xskPinPath : Option JsonString
  rxTxQueuesInfo : OrderedObject JsonString QueueInfo
  deriving Inhabited

/-- The queues in the order in which a loop over the object meets them. -/
def Netdev.queues (netdev : Netdev) : List QueueInfo := netdev.rxTxQueuesInfo.entries.map Prod.snd

/-- What the two templates read of `cndp-datapath-params`. -/
structure Configuration where
  lports : OrderedObject JsonString Netdev
  idleTimeout : Option ℤ
  intrTimeout : Option ℤ

/-! ## What is generated -/

/-- A member of the generated `threads`. -/
structure ThreadConfig where
  group : JsonString
  lports : List JsonString
  idleTimeout : Option ℤ
  intrTimeout : Option ℤ
  description : JsonString
  deriving DecidableEq, Repr

/-- A member of the generated `lports`. -/
structure LportConfig where
  description : JsonString
  pmd : Option JsonString
  umem : Option JsonString
  busyPoll : Option Bool
  busyBudget : Option ℤ
  skbMode : Option Bool
  xskPinPath : Option JsonString
  region : ℤ
  qid : ℤ
  deriving DecidableEq, Repr

/-- `asString` of a JSON integer. -/
def asString : ℤ → JsonString
  | .ofNat n => decimal n
  | .negSucc n => ascii "-" ++ decimal (n + 1)

/-- `"fwd:" + to_string(n)`. -/
def fwdKey (n : ℕ) : JsonString := ascii "fwd:" ++ decimal n

/-- `dev_name + ":" + to_string(q)`. -/
def lportKey (dev : JsonString) (q : ℕ) : JsonString := dev ++ ascii ":" ++ decimal q

/-- The thread `main`. -/
def mainThread : ThreadConfig := ⟨ascii "initial", [], none, none, ascii "setup thread"⟩

/-- The thread for one queue. -/
def fwdThread (cfg : Configuration) (dev : JsonString) (lportId : ℕ) (queue : QueueInfo) :
    ThreadConfig where
  group := ascii "group" ++ asString queue.coreId
  lports := [lportKey dev lportId]
  idleTimeout := cfg.idleTimeout
  intrTimeout := cfg.intrTimeout
  description := ascii "fwd thread"

/-- The lport for one queue. -/
def fwdLport (netdev : Netdev) (queue : QueueInfo) : LportConfig where
  description := ascii "fwd thread"
  pmd := netdev.pmd
  umem := netdev.umem
  busyPoll := netdev.busyPoll
  busyBudget := netdev.busyBudget
  skbMode := netdev.skbMode
  xskPinPath := netdev.xskPinPath
  region := queue.regionIndex
  qid := queue.queueId

/-- The inner loop of `get_thread_template`, with its two counters. -/
def threadLoop (cfg : Configuration) (dev : JsonString) :
    List QueueInfo → ℕ → OrderedObject JsonString ThreadConfig × ℕ →
      OrderedObject JsonString ThreadConfig × ℕ
  | [], _, s => s
  | queue :: rest, lportId, (threads, n) =>
      threadLoop cfg dev rest (lportId + 1)
        (threads.set (fwdKey n) (fwdThread cfg dev lportId queue), n + 1)

/-- `get_thread_template`. -/
def getThreadTemplate (cfg : Configuration) : OrderedObject JsonString ThreadConfig :=
  (cfg.lports.entries.foldl (fun s netdev => threadLoop cfg netdev.1 netdev.2.queues 0 s)
    (OrderedObject.empty.set (ascii "main") mainThread, 0)).1

/-- The inner loop of `get_lport_template`: the lports and `cndp_lport_mac`. -/
def lportLoop (dev : JsonString) (netdev : Netdev) (devMac : EtherAddr) :
    List QueueInfo → ℕ → OrderedObject JsonString LportConfig × List EtherAddr →
      OrderedObject JsonString LportConfig × List EtherAddr
  | [], _, s => s
  | queue :: rest, queueId, (lports, macs) =>
      lportLoop dev netdev devMac rest (queueId + 1)
        (lports.set (lportKey dev queueId) (fwdLport netdev queue), macs ++ [devMac])

/-- `get_lport_template`, and what it leaves in `cndp_lport_mac`, which is empty before. -/
def getLportTemplate (getMacAddress : JsonString → EtherAddr) (cfg : Configuration) :
    OrderedObject JsonString LportConfig × List EtherAddr :=
  cfg.lports.entries.foldl
    (fun s netdev =>
      lportLoop netdev.1 netdev.2 (getMacAddress netdev.1) netdev.2.queues 0 s)
    (OrderedObject.empty, [])

/-! ## Places -/

/-- A queue on the walk over netdevs and queues. -/
structure Place where
  dev : JsonString
  netdev : Netdev
  lportId : ℕ
  queue : QueueInfo
  deriving Inhabited

namespace Place

/-- The key of the lport made at a place. -/
def key (p : Place) : JsonString := lportKey p.dev p.lportId

/-- The thread made at a place. -/
def thread (cfg : Configuration) (p : Place) : ThreadConfig :=
  fwdThread cfg p.dev p.lportId p.queue

/-- The lport made at a place. -/
def lport (p : Place) : LportConfig := fwdLport p.netdev p.queue

end Place

/-- The places of some queues of a netdev, the first of them having the number `k`. -/
def placesFrom (dev : JsonString) (netdev : Netdev) (queues : List QueueInfo) (k : ℕ) :
    List Place :=
  (queues.zipIdx k).map fun q => ⟨dev, netdev, q.2, q.1⟩

/-- The places of some netdevs. -/
def placesOf (netdevs : List (JsonString × Netdev)) : List Place :=
  netdevs.flatMap fun netdev => placesFrom netdev.1 netdev.2 netdev.2.queues 0

/-- All places, in the order of the walk. -/
def Configuration.places (cfg : Configuration) : List Place := placesOf cfg.lports.entries

/-! ## The two functions on the list of places -/

section Templates

variable (cfg : Configuration)

/-- The threads made at the places, the first of them having the number `n`. -/
def threadEntries (ps : List Place) (n : ℕ) : List (JsonString × ThreadConfig) :=
  (ps.zipIdx n).map fun p => (fwdKey p.2, p.1.thread cfg)

/-- The lports made at the places. -/
def lportEntries (ps : List Place) : List (JsonString × LportConfig) :=
  ps.map fun p => (p.key, p.lport)

theorem threadLoop_eq (dev : JsonString) (netdev : Netdev) :
    ∀ (queues : List QueueInfo) (k n : ℕ) (o : OrderedObject JsonString ThreadConfig),
      threadLoop cfg dev queues k (o, n) =
        (o.setAll (threadEntries cfg (placesFrom dev netdev queues k) n), n + queues.length) := by
  intro queues
  induction queues with
  | nil => intro k n o; rfl
  | cons queue rest ih =>
      intro k n o
      rw [threadLoop, ih, List.length_cons, Nat.add_right_comm n 1]
      rfl

theorem foldl_threadLoop_eq :
    ∀ (netdevs : List (JsonString × Netdev)) (n : ℕ) (o : OrderedObject JsonString ThreadConfig),
      netdevs.foldl (fun s netdev => threadLoop cfg netdev.1 netdev.2.queues 0 s) (o, n) =
        (o.setAll (threadEntries cfg (placesOf netdevs) n), n + (placesOf netdevs).length) := by
  intro netdevs
  induction netdevs with
  | nil => intro n o; rfl
  | cons netdev rest ih =>
      intro n o
      have hlength : (placesFrom netdev.1 netdev.2 netdev.2.queues 0).length =
          netdev.2.queues.length := by simp [placesFrom]
      rw [List.foldl_cons, threadLoop_eq cfg netdev.1 netdev.2, ih]
      simp only [placesOf, List.flatMap_cons, threadEntries, List.zipIdx_append, List.map_append,
        OrderedObject.setAll, List.foldl_append, List.length_append, hlength, Nat.add_assoc]

/-- **`get_thread_template`**: `main`, and one thread after the other. -/
theorem getThreadTemplate_eq :
    getThreadTemplate cfg =
      (OrderedObject.empty.set (ascii "main") mainThread).setAll (threadEntries cfg cfg.places 0) :=
  congrArg Prod.fst (foldl_threadLoop_eq cfg _ _ _)

theorem lportLoop_eq (dev : JsonString) (netdev : Netdev) (devMac : EtherAddr) :
    ∀ (queues : List QueueInfo) (k : ℕ) (o : OrderedObject JsonString LportConfig)
      (macs : List EtherAddr),
      lportLoop dev netdev devMac queues k (o, macs) =
        (o.setAll (lportEntries (placesFrom dev netdev queues k)),
          macs ++ List.replicate queues.length devMac) := by
  intro queues
  induction queues with
  | nil =>
      intro k o macs
      rw [lportLoop, List.length_nil, List.replicate_zero, List.append_nil]
      rfl
  | cons queue rest ih =>
      intro k o macs
      rw [lportLoop, ih, List.append_assoc, List.length_cons, List.replicate_succ]
      rfl

theorem foldl_lportLoop_eq (getMacAddress : JsonString → EtherAddr) :
    ∀ (netdevs : List (JsonString × Netdev)) (o : OrderedObject JsonString LportConfig)
      (macs : List EtherAddr),
      netdevs.foldl
          (fun s netdev =>
            lportLoop netdev.1 netdev.2 (getMacAddress netdev.1) netdev.2.queues 0 s) (o, macs) =
        (o.setAll (lportEntries (placesOf netdevs)),
          macs ++ (placesOf netdevs).map fun p => getMacAddress p.dev) := by
  intro netdevs
  induction netdevs with
  | nil => intro o macs; simp [placesOf, lportEntries, OrderedObject.setAll]
  | cons netdev rest ih =>
      intro o macs
      have hmacs : (placesFrom netdev.1 netdev.2 netdev.2.queues 0).map
          (fun p => getMacAddress p.dev) =
            List.replicate netdev.2.queues.length (getMacAddress netdev.1) := by
        refine List.eq_replicate_iff.mpr ⟨by simp [placesFrom], fun mac hmac => ?_⟩
        obtain ⟨p, hp, rfl⟩ := List.mem_map.mp hmac
        obtain ⟨q, -, rfl⟩ := List.mem_map.mp hp
        rfl
      rw [List.foldl_cons, lportLoop_eq, ih, ← hmacs]
      simp only [placesOf, List.flatMap_cons, lportEntries, List.map_append,
        OrderedObject.setAll, List.foldl_append, List.append_assoc]

/-- **`get_lport_template`**: one lport after the other, and their MAC addresses in that
order. -/
theorem getLportTemplate_eq (getMacAddress : JsonString → EtherAddr) :
    getLportTemplate getMacAddress cfg =
      (OrderedObject.empty.setAll (lportEntries cfg.places),
        cfg.places.map fun p => getMacAddress p.dev) :=
  foldl_lportLoop_eq getMacAddress _ _ _

end Templates

/-! ## The walk -/

section Walk

variable {cfg : Configuration}

/-- A key tells the netdev and the queue: the last colon is the one that was put there. -/
theorem lportKey_inj {dev dev' : JsonString} {q q' : ℕ} (h : lportKey dev q = lportKey dev' q') :
    dev = dev' ∧ q = q' := by
  simp only [lportKey, List.append_assoc] at h
  obtain ⟨hdev, hq⟩ := append_cons_inj_of_notMem_right (colon_notMem_decimal q)
    (colon_notMem_decimal q') h
  exact ⟨hdev, decimal_injective hq⟩

theorem fwdKey_injective : Function.Injective fwdKey := fun _ _ h =>
  decimal_injective (List.append_cancel_left h)

theorem getElem?_placesFrom (dev : JsonString) (netdev : Netdev) (queues : List QueueInfo)
    (k n : ℕ) :
    (placesFrom dev netdev queues k)[n]? =
      queues[n]?.map fun queue => ⟨dev, netdev, k + n, queue⟩ := by
  rw [placesFrom, List.getElem?_map, List.getElem?_zipIdx, Option.map_map]
  rfl

theorem mem_placesFrom {dev : JsonString} {netdev : Netdev} {p : Place} :
    p ∈ placesFrom dev netdev netdev.queues 0 ↔
      p.dev = dev ∧ p.netdev = netdev ∧ netdev.queues[p.lportId]? = some p.queue := by
  rw [List.mem_iff_getElem?]
  simp only [getElem?_placesFrom, Nat.zero_add, Option.map_eq_some_iff]
  constructor
  · rintro ⟨n, queue, hqueue, rfl⟩
    exact ⟨rfl, rfl, hqueue⟩
  · rintro ⟨rfl, rfl, hqueue⟩
    exact ⟨p.lportId, p.queue, hqueue, rfl⟩

theorem mem_places {p : Place} :
    p ∈ cfg.places ↔
      (p.dev, p.netdev) ∈ cfg.lports.entries ∧ p.netdev.queues[p.lportId]? = some p.queue := by
  simp only [Configuration.places, placesOf, List.mem_flatMap, mem_placesFrom]
  constructor
  · rintro ⟨e, he, hdev, hnetdev, hqueue⟩
    rw [hdev, hnetdev]
    exact ⟨he, hqueue⟩
  · rintro ⟨he, hqueue⟩
    exact ⟨_, he, rfl, rfl, hqueue⟩

/-- An earlier netdev, or the same and an earlier queue. -/
def Place.Before (p p' : Place) : Prop := p.dev < p'.dev ∨ p.dev = p'.dev ∧ p.lportId < p'.lportId

/-- The walk goes through the netdevs in the order of their names, and through the queues of
each in order. -/
theorem pairwise_places (cfg : Configuration) : cfg.places.Pairwise Place.Before := by
  refine List.pairwise_flatMap.mpr ⟨fun e _ => ?_, cfg.lports.sorted.imp ?_⟩
  · refine List.pairwise_map.mpr (List.pairwise_iff_getElem.mpr ?_)
    intro i j hi hj hij
    refine .inr ⟨rfl, ?_⟩
    simpa using hij
  · intro e e' hlt p hp p' hp'
    left
    rw [(mem_placesFrom.mp hp).1, (mem_placesFrom.mp hp').1]
    exact hlt

/-- When the walk is at queue `q` of a netdev it is `q` places behind the netdev's first. -/
theorem getElem?_placesOf_sub :
    ∀ (netdevs : List (JsonString × Netdev)) (n : ℕ) (p : Place),
      (placesOf netdevs)[n]? = some p →
        p.lportId ≤ n ∧ ∃ p', (placesOf netdevs)[n - p.lportId]? = some p' ∧ p'.dev = p.dev := by
  intro netdevs
  induction netdevs with
  | nil => intro n p h; simp [placesOf] at h
  | cons e rest ih =>
      intro n p h
      have happend : placesOf (e :: rest) =
          placesFrom e.1 e.2 e.2.queues 0 ++ placesOf rest := List.flatMap_cons
      have hlength : (placesFrom e.1 e.2 e.2.queues 0).length = e.2.queues.length := by
        simp [placesFrom]
      rw [happend] at h ⊢
      by_cases hn : n < e.2.queues.length
      · -- within the first netdev
        rw [List.getElem?_append_left (hlength ▸ hn), getElem?_placesFrom,
          List.getElem?_eq_getElem hn, Option.map_some, Nat.zero_add] at h
        obtain rfl := Option.some.inj h
        have hpos : 0 < e.2.queues.length := Nat.zero_lt_of_lt hn
        refine ⟨le_rfl, ⟨e.1, e.2, 0, e.2.queues[0]⟩, ?_, rfl⟩
        rw [Nat.sub_self, List.getElem?_append_left (hlength ▸ hpos), getElem?_placesFrom,
          List.getElem?_eq_getElem hpos, Option.map_some]
      · rw [List.getElem?_append_right (by omega), hlength] at h
        obtain ⟨hle, p', hp', hdev⟩ := ih _ _ h
        refine ⟨by omega, p', ?_, hdev⟩
        rw [List.getElem?_append_right (by omega), hlength,
          show n - p.lportId - e.2.queues.length = n - e.2.queues.length - p.lportId by omega]
        exact hp'

end Walk

end UdxFastpath.Cndp
