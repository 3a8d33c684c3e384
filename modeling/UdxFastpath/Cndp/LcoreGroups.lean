import UdxFastpath.Cndp.Indices
import UdxFastpath.Core.Json

/-!
# The generated configuration is closed

`get_cndp_configuration` of `lib/core/cndp/cndp.cpp` puts the generated objects
together: `threads`, `lcore-groups`, `default`, `lports`, `umems` and `options`.
Threads name an lport and a group of lcores by their **keys**, and three functions
that do not know of each other make these keys: `get_thread_template`,
`get_lport_template` and `get_lcore_groups_template`, each on its own walk over
netdevs and queues.

`ClosedConfiguration` says that they meet: one thread and one lport for every queue,
every lport named by exactly one thread, and every thread in a group which holds the
lcore its queue asks for and nothing else.  Several queues may ask for one lcore; they
set the same group to the same value.

An integer that does not fit an `int` makes `asInt` throw, and then nothing is
generated (`getCndpConfiguration_isSome_iff`).
-/

namespace UdxFastpath.Cndp

open ByteStrings OrderedObject

/-! ## The remaining templates -/

/-- What `get_cndp_configuration` reads: two more members are copied as they are. -/
structure DatapathParams extends Configuration where
  mainLcore : JsonValue
  umems : JsonValue

/-- What it generates. -/
structure CndpConfiguration where
  threads : OrderedObject JsonString ThreadConfig
  lcoreGroups : OrderedObject JsonString (List JsonValue)
  default : JsonValue
  lports : OrderedObject JsonString LportConfig
  umems : JsonValue
  options : JsonValue

/-- `"group" + core_id`. -/
def groupKey (coreId : ℤ) : JsonString := ascii "group" ++ asString coreId

/-- The inner loop of `get_lcore_groups_template`. -/
def groupLoop :
    List QueueInfo → OrderedObject JsonString (List JsonValue) →
      OrderedObject JsonString (List JsonValue)
  | [], o => o
  | queue :: rest, o => groupLoop rest (o.set (groupKey queue.coreId) [.int queue.coreId])

/-- `get_lcore_groups_template`. -/
def getLcoreGroupsTemplate (cfg : DatapathParams) : OrderedObject JsonString (List JsonValue) :=
  cfg.lports.entries.foldl (fun o netdev => groupLoop netdev.2.queues o)
    (OrderedObject.empty.set (ascii "initial") [cfg.mainLcore])

/-- `get_default_template`. -/
def getDefaultTemplate : JsonValue :=
  .object [(ascii "bufcnt", .int 16), (ascii "bufsz", .int 2), (ascii "cache", .int 256),
    (ascii "mtype", .string (ascii "2MB")), (ascii "rxdesc", .int 2), (ascii "txdesc", .int 2)]

/-- `get_umem_template`. -/
def getUmemTemplate (cfg : DatapathParams) : JsonValue := cfg.umems

/-- `get_options_template`. -/
def getOptionsTemplate : JsonValue :=
  .object [(ascii "cli", .boolean false), (ascii "no-metrics", .boolean true),
    (ascii "no-restapi", .boolean true), (ascii "pkt_api", .string (ascii "xskdev"))]

/-- The integers the three walks pass through `asInt` at a place. -/
def Place.integers (cfg : Configuration) (p : Place) : List ℤ :=
  [p.queue.coreId, p.queue.regionIndex, p.queue.queueId] ++ p.netdev.busyBudget.toList ++
    cfg.idleTimeout.toList ++ cfg.intrTimeout.toList

/-- Every integer on the walk is one `asInt` converts. -/
def Configuration.Converts (cfg : Configuration) : Prop :=
  ∀ p ∈ cfg.places, ∀ n ∈ p.integers cfg, JsonValue.FitsInt n

instance (cfg : Configuration) : Decidable cfg.Converts :=
  inferInstanceAs (Decidable (∀ p ∈ cfg.places, _))

/-- `get_cndp_configuration`, before it is printed; `none` when a conversion throws. -/
def getCndpConfiguration (getMacAddress : JsonString → EtherAddr) (cfg : DatapathParams) :
    Option CndpConfiguration :=
  if cfg.Converts then
    some
      { threads := getThreadTemplate cfg.toConfiguration
        lcoreGroups := getLcoreGroupsTemplate cfg
        default := getDefaultTemplate
        lports := (getLportTemplate getMacAddress cfg.toConfiguration).1
        umems := getUmemTemplate cfg
        options := getOptionsTemplate }
  else none

/-- A configuration is generated unless some conversion throws. -/
theorem getCndpConfiguration_isSome_iff (getMacAddress : JsonString → EtherAddr)
    (cfg : DatapathParams) :
    (getCndpConfiguration getMacAddress cfg).isSome ↔ cfg.Converts := by
  rw [getCndpConfiguration]
  split
  · rename_i h
    exact iff_of_true rfl h
  · rename_i h
    exact iff_of_false Bool.false_ne_true h

/-! ## The groups -/

section Groups

variable (cfg : DatapathParams)

/-- The groups made at the places. -/
def groupEntries (ps : List Place) : List (JsonString × List JsonValue) :=
  ps.map fun p => (groupKey p.queue.coreId, [.int p.queue.coreId])

theorem groupLoop_eq (dev : JsonString) (netdev : Netdev) :
    ∀ (queues : List QueueInfo) (k : ℕ) (o : OrderedObject JsonString (List JsonValue)),
      groupLoop queues o = o.setAll (groupEntries (placesFrom dev netdev queues k)) := by
  intro queues
  induction queues with
  | nil => intro k o; rfl
  | cons queue rest ih =>
      intro k o
      rw [groupLoop, ih (k + 1)]
      rfl

theorem foldl_groupLoop_eq :
    ∀ (netdevs : List (JsonString × Netdev)) (o : OrderedObject JsonString (List JsonValue)),
      netdevs.foldl (fun o netdev => groupLoop netdev.2.queues o) o =
        o.setAll (groupEntries (placesOf netdevs)) := by
  intro netdevs
  induction netdevs with
  | nil => intro o; rfl
  | cons netdev rest ih =>
      intro o
      rw [List.foldl_cons, groupLoop_eq netdev.1 netdev.2 _ 0, ih]
      simp only [placesOf, List.flatMap_cons, groupEntries, List.map_append, setAll,
        List.foldl_append]

/-- **`get_lcore_groups_template`**: `initial`, and one group after the other. -/
theorem getLcoreGroupsTemplate_eq :
    getLcoreGroupsTemplate cfg =
      (OrderedObject.empty.set (ascii "initial") [cfg.mainLcore]).setAll
        (groupEntries cfg.places) :=
  foldl_groupLoop_eq _ _

theorem asString_injective : Function.Injective asString := by
  have hsign : ∀ m n : ℕ, decimal m ≠ ascii "-" ++ decimal n := by
    intro m n h
    refine dash_notMem_decimal m ?_
    rw [h]
    exact List.mem_cons_self
  intro a b h
  cases a with
  | ofNat m =>
      cases b with
      | ofNat n => exact congrArg Int.ofNat (decimal_injective h)
      | negSucc n => exact absurd h (hsign m (n + 1))
  | negSucc m =>
      cases b with
      | ofNat n => exact absurd h.symm (hsign n (m + 1))
      | negSucc n =>
          have hsucc : m + 1 = n + 1 := decimal_injective (List.append_cancel_left h)
          exact congrArg Int.negSucc (Nat.succ.inj hsucc)

theorem groupKey_injective : Function.Injective groupKey := fun _ _ h =>
  asString_injective (List.append_cancel_left h)

theorem groupKey_ne_initial (coreId : ℤ) : groupKey coreId ≠ ascii "initial" := by
  intro h
  exact absurd (List.cons.inj h).1 (by decide)

/-- Queues that ask for one lcore set one group, and to the same value. -/
theorem mem_lcoreGroups {key : JsonString} {cores : List JsonValue} :
    (key, cores) ∈ (getLcoreGroupsTemplate cfg).entries ↔
      (∃ p ∈ cfg.places, key = groupKey p.queue.coreId ∧ cores = [.int p.queue.coreId]) ∨
        key = ascii "initial" ∧ cores = [cfg.mainLcore] := by
  rw [getLcoreGroupsTemplate_eq, mem_setAll]
  · have hgroup : (key, cores) ∈ groupEntries cfg.places ↔
        ∃ p ∈ cfg.places, key = groupKey p.queue.coreId ∧ cores = [.int p.queue.coreId] := by
      simp only [groupEntries, List.mem_map, Prod.mk.injEq, eq_comm]
    have hinitial : (key, cores) ∈
        (OrderedObject.empty.set (ascii "initial") [cfg.mainLcore]).entries ↔
          key = ascii "initial" ∧ cores = [cfg.mainLcore] :=
      List.mem_singleton.trans Prod.mk_inj
    have hother : ∀ a ∈ groupEntries cfg.places, a.1 ≠ ascii "initial" := by
      intro a ha
      obtain ⟨p, -, rfl⟩ := List.mem_map.mp ha
      exact groupKey_ne_initial _
    rw [hgroup, hinitial]
    refine or_congr_right (and_iff_left_of_imp ?_)
    rintro ⟨rfl, -⟩ a ha
    exact (hother a ha).symm
  · intro a ha b hb hkey
    obtain ⟨p, -, rfl⟩ := List.mem_map.mp ha
    obtain ⟨q, -, rfl⟩ := List.mem_map.mp hb
    rw [groupKey_injective hkey]

end Groups

/-! ## Closedness -/

/-- Queue `q` of netdev `dev`. -/
def Configuration.QueueAt (cfg : Configuration) (dev : JsonString) (q : ℕ) (queue : QueueInfo) :
    Prop :=
  ∃ netdev, (dev, netdev) ∈ cfg.lports.entries ∧ netdev.queues[q]? = some queue

/-- The threads named `fwd:…`. -/
def CndpConfiguration.fwdThreads (out : CndpConfiguration) : List (JsonString × ThreadConfig) :=
  out.threads.entries.filter fun e => (ascii "fwd:").isPrefixOf e.1

/-- **The configuration is closed and partitions the queues.** -/
structure ClosedConfiguration (cfg : Configuration) (out : CndpConfiguration) : Prop where
  threads_lports : out.fwdThreads.length = out.lports.entries.length
  lports_queues : out.lports.entries.length = cfg.nbLports
  named_once : ∀ key ∈ out.lports.entries.map Prod.fst,
    ∃! e : JsonString × ThreadConfig, e ∈ out.threads.entries ∧ key ∈ e.2.lports
  named_key : ∀ e ∈ out.threads.entries, ∀ key ∈ e.2.lports, key ∈ out.lports.entries.map Prod.fst
  queue_key : ∀ dev q queue, cfg.QueueAt dev q queue →
    lportKey dev q ∈ out.lports.entries.map Prod.fst
  distinct_keys : ∀ dev q queue dev' q' queue', cfg.QueueAt dev q queue →
    cfg.QueueAt dev' q' queue' → (dev, q) ≠ (dev', q') → lportKey dev q ≠ lportKey dev' q'
  group_key : ∀ e ∈ out.threads.entries, e.2.group ∈ out.lcoreGroups.entries.map Prod.fst
  group_cores : ∀ e ∈ out.threads.entries, ∀ dev q queue, cfg.QueueAt dev q queue →
    lportKey dev q ∈ e.2.lports →
      ∀ cores, (e.2.group, cores) ∈ out.lcoreGroups.entries ↔ cores = [.int queue.coreId]

section Closed

variable {getMacAddress : JsonString → EtherAddr} {cfg : Configuration}

theorem mem_threads {e : JsonString × ThreadConfig} :
    e ∈ (getThreadTemplate cfg).entries ↔
      (∃ n < cfg.nbLports, e = (fwdKey n, (cfg.place n).thread cfg)) ∨
        e = (ascii "main", mainThread) := by
  rw [entries_threads, List.mem_append, List.mem_singleton]
  refine or_congr_left ?_
  simp only [List.mem_map, mem_arranged, eq_comm]

theorem mem_lportKeys {key : JsonString} :
    key ∈ (getLportTemplate getMacAddress cfg).1.entries.map Prod.fst ↔
      ∃ n < cfg.nbLports, key = cfg.key n := by
  rw [entries_lports, List.map_map]
  simp only [List.mem_map, mem_arranged, Function.comp_apply, eq_comm]

/-- An lport is served at one place, and in one thread. -/
theorem mem_threads_of_key {e : JsonString × ThreadConfig} {n : ℕ} (hn : n < cfg.nbLports)
    (he : e ∈ (getThreadTemplate cfg).entries) (hkey : cfg.key n ∈ e.2.lports) :
    e = (fwdKey n, (cfg.place n).thread cfg) := by
  rcases mem_threads.mp he with ⟨m, hm, rfl⟩ | rfl
  · rw [distinct_key cfg n hn m hm (List.mem_singleton.mp hkey)]
  · cases hkey

/-- A queue is at one place. -/
theorem exists_place_of_queueAt {dev : JsonString} {q : ℕ} {queue : QueueInfo}
    (h : cfg.QueueAt dev q queue) :
    ∃ n < cfg.nbLports, cfg.key n = lportKey dev q ∧ (cfg.place n).queue = queue := by
  obtain ⟨netdev, hnetdev, hqueue⟩ := h
  have hmem : (⟨dev, netdev, q, queue⟩ : Place) ∈ cfg.places := mem_places.mpr ⟨hnetdev, hqueue⟩
  obtain ⟨n, hn, hplace⟩ := exists_place_of_mem hmem
  exact ⟨n, hn, by rw [key_eq, hplace], by rw [hplace]⟩

theorem length_fwdThreads :
    ((getThreadTemplate cfg).entries.filter fun e => (ascii "fwd:").isPrefixOf e.1).length =
      cfg.nbLports := by
  have hfwd : ∀ e ∈ (arranged fwdKey cfg.nbLports).map
      (fun n => (fwdKey n, (cfg.place n).thread cfg)), (ascii "fwd:").isPrefixOf e.1 = true := by
    intro e he
    obtain ⟨n, -, rfl⟩ := List.mem_map.mp he
    exact List.isPrefixOf_iff_prefix.mpr (List.prefix_append _ _)
  have hmain : (ascii "fwd:").isPrefixOf (ascii "main") = false := rfl
  rw [entries_threads, List.filter_append, List.filter_eq_self.mpr hfwd, List.length_append,
    List.length_map, length_arranged]
  simp [hmain]

/-- The group of a thread holds the lcore of its queue. -/
theorem mem_lcoreGroups_thread (params : DatapathParams) {n : ℕ} (hn : n < params.nbLports) :
    ((params.place n).thread params.toConfiguration).group =
        groupKey (params.place n).queue.coreId ∧
      (groupKey (params.place n).queue.coreId, [JsonValue.int (params.place n).queue.coreId]) ∈
        (getLcoreGroupsTemplate params).entries :=
  ⟨rfl, (mem_lcoreGroups params).mpr
    (.inl ⟨_, List.mem_of_getElem? (getElem?_places hn), rfl, rfl⟩)⟩

end Closed

/-- **Every generated configuration is closed**, whatever the names of the netdevs and however
many queues ask for one lcore. -/
theorem closedConfiguration_of_getCndpConfiguration (getMacAddress : JsonString → EtherAddr)
    (params : DatapathParams) (out : CndpConfiguration)
    (hout : getCndpConfiguration getMacAddress params = some out) :
    ClosedConfiguration params.toConfiguration out := by
  have hconverts : params.Converts := by
    rw [← getCndpConfiguration_isSome_iff getMacAddress, hout]
    rfl
  rw [getCndpConfiguration, if_pos hconverts] at hout
  obtain rfl := Option.some.inj hout
  have hlength : (getLportTemplate getMacAddress params.toConfiguration).1.entries.length =
      params.nbLports := by
    rw [entries_lports, List.length_map, length_arranged]
  refine ⟨length_fwdThreads.trans hlength.symm, hlength, ?_, ?_, ?_, ?_, ?_, ?_⟩
  · intro key hkey
    obtain ⟨n, hn, rfl⟩ := mem_lportKeys.mp hkey
    refine ⟨_, ⟨mem_threads.mpr (.inl ⟨n, hn, rfl⟩), List.mem_singleton_self _⟩, ?_⟩
    rintro e ⟨he, hmem⟩
    exact mem_threads_of_key hn he hmem
  · intro e he key hkey
    rcases mem_threads.mp he with ⟨n, hn, rfl⟩ | rfl
    · exact mem_lportKeys.mpr ⟨n, hn, List.mem_singleton.mp hkey⟩
    · cases hkey
  · intro dev q queue hqueue
    obtain ⟨n, hn, hkey, -⟩ := exists_place_of_queueAt hqueue
    exact mem_lportKeys.mpr ⟨n, hn, hkey.symm⟩
  · intro dev q queue dev' q' queue' _ _ hne hkey
    obtain ⟨rfl, rfl⟩ := lportKey_inj hkey
    exact hne rfl
  · intro e he
    rcases mem_threads.mp he with ⟨n, hn, rfl⟩ | rfl
    · exact List.mem_map_of_mem (mem_lcoreGroups_thread params hn).2
    · exact List.mem_map_of_mem ((mem_lcoreGroups params).mpr (.inr ⟨rfl, rfl⟩))
  · intro e he dev q queue hqueue hmem cores
    obtain ⟨n, hn, hkey, rfl⟩ := exists_place_of_queueAt hqueue
    obtain rfl := mem_threads_of_key hn he (hkey ▸ hmem)
    obtain ⟨hgroup, hcores⟩ := mem_lcoreGroups_thread params hn
    constructor
    · intro h
      exact eq_of_mem_entries _ h hcores
    · rintro rfl
      exact hcores

/-- A netdev with a colon in its name and two queues on one lcore. -/
def sharedLcore : DatapathParams where
  lports := OrderedObject.empty.set (ascii "eth0:1")
    { (default : Netdev) with
      rxTxQueuesInfo :=
        (OrderedObject.empty.set (ascii "queue:0") ⟨1, 0, 0⟩).set (ascii "queue:1") ⟨1, 1, 1⟩ }
  idleTimeout := some 100
  intrTimeout := none
  mainLcore := .int 0
  umems := .null

theorem closedConfiguration_sharedLcore :
    ∃ out, getCndpConfiguration (fun _ => default) sharedLcore = some out ∧
      out.lports.entries.length = 2 ∧ ClosedConfiguration sharedLcore.toConfiguration out := by
  have hsome : (getCndpConfiguration (fun _ => default) sharedLcore).isSome :=
    (getCndpConfiguration_isSome_iff _ _).mpr (by decide)
  obtain ⟨out, hout⟩ := Option.isSome_iff_exists.mp hsome
  have hclosed := closedConfiguration_of_getCndpConfiguration _ _ out hout
  exact ⟨out, hout, hclosed.lports_queues.trans (by decide), hclosed⟩

end UdxFastpath.Cndp
