import UdxFastpath.Dpdk.LaunchArgs
import UdxFastpath.Dpdk.StartUp
import UdxFastpath.Foundation.Registry

/-!
# Sockets and their pools

`set_def_fwd_config` goes through the lcores and the devices and takes down the sockets
they are on; the options `--port-numa-config`, `--ring-numa-config` and `--socket-num` of
`launch_args_parse` may name more.  `init_config` then creates a pool of packet buffers
for every socket and every size of buffer, each under a name of its own, and whoever
needs a pool later asks for it by that name (`mbuf_pool_find`).

* `createPools_ok_iff`: no two pools want the same name.
* `rxQueue_pool`: whatever the options, each receive queue finds the pool of its socket.
* `startPort_left_by_driver`: so no port is left half configured for want of a pool.
* `lcorePool_isSome_iff`: an lcore may be left without one, with `--no-numa`.
-/

namespace UdxFastpath.Dpdk

open ByteStrings CStrings EarlyExit Registries

/-! ## Sockets -/

def RTE_MAX_NUMA_NODES : ℕ := 32
def UMA_NO_CONFIG : ℕ := 255
def RTE_PKTMBUF_HEADROOM : ℕ := 128

/-- The used prefix of `socket_ids`. -/
@[ext] structure SocketIds where
  ids : List ℕ
  nodup : ids.Nodup
  few : ids.length ≤ RTE_MAX_NUMA_NODES

/-- `new_socket_id`. -/
def SocketIds.isNew (sockets : SocketIds) (id : ℕ) : Bool := decide (id ∉ sockets.ids)

/-- A new socket is taken down behind the others, if there is room. -/
def SocketIds.add (sockets : SocketIds) (id : ℕ) : Option SocketIds :=
  if hnew : sockets.isNew id = true then
    if hfull : RTE_MAX_NUMA_NODES ≤ sockets.ids.length then none
    else some
      { ids := sockets.ids ++ [id]
        nodup := sockets.nodup.append (List.nodup_singleton id)
          (List.disjoint_singleton.mpr (of_decide_eq_true hnew))
        few := by
          rw [List.length_append, List.length_singleton]
          exact Nat.lt_of_not_le hfull }
  else some sockets

/-- What the library tells of the machine: the enabled lcores, the socket of each, the ports
`RTE_ETH_FOREACH_DEV` goes through, and the socket of each device, an `int`. -/
structure Machine where
  lcores : List ℕ
  mainLcore : ℕ
  lcoreSocket : ℕ → ℕ
  ports : List ℕ
  ports_nodup : ports.Nodup
  portSocket : ℕ → ℤ
  portSocket_lt : ∀ pid, portSocket pid < 2147483648

/-- The globals that have to do with sockets. -/
structure NumaState where
  numaSupport : Bool
  socketNum : ℕ
  portNuma : ℕ → ℕ
  rxringNuma : ℕ → ℕ
  txringNuma : ℕ → ℕ
  sockets : SocketIds
  fwdLcoresCpuids : List ℕ

/-- Their values at first; `init_port` has set those for the ports. -/
def NumaState.init : NumaState where
  numaSupport := true
  socketNum := UMA_NO_CONFIG
  portNuma _ := NUMA_NO_CONFIG
  rxringNuma _ := NUMA_NO_CONFIG
  txringNuma _ := NUMA_NO_CONFIG
  sockets := ⟨[], List.nodup_nil, Nat.zero_le _⟩
  fwdLcoresCpuids := []

/-- A use of `new_socket_id`. -/
def NumaState.addSocket (s : NumaState) (id : ℕ) : Option NumaState :=
  (s.sockets.add id).map fun sockets => { s with sockets }

/-- The exits of the process. -/
inductive NumaStop
  | totalSockets
  | noCores
  | portNumaConfig
  | ringNumaConfig
  | socketId
  | mbufPool (name : List UInt8)
  deriving DecidableEq, Repr

section Sockets

variable (m : Machine)

/-- A round of `set_default_fwd_lcores_config`. -/
def setDefaultFwdLcore (s : NumaState) (i : ℕ) : Except NumaStop NumaState :=
  match s.addSocket (m.lcoreSocket i) with
  | none => .error .totalSockets
  | some s =>
      .ok (if i = m.mainLcore then s else { s with fwdLcoresCpuids := s.fwdLcoresCpuids ++ [i] })

/-- A round of `set_default_fwd_ports_config`. -/
def setDefaultFwdPort (s : NumaState) (pid : ℕ) : Except NumaStop NumaState :=
  if 0 ≤ m.portSocket pid then
    match s.addSocket (m.portSocket pid).toNat with
    | none => .error .totalSockets
    | some s => .ok s
  else .ok s

/-- `set_def_fwd_config`, and the check for cores behind its call. -/
def setDefFwdConfig (s : NumaState) : Except NumaStop NumaState := do
  let s ← m.lcores.foldlM (setDefaultFwdLcore m) s
  let s ← m.ports.foldlM (setDefaultFwdPort m) s
  if s.fwdLcoresCpuids = [] then .error .noCores else .ok s

end Sockets

/-! ## Options -/

/-- `strtoul` has something to convert, for the base 0. -/
def hasNumber (text : List UInt8) : Bool :=
  let text := text.dropWhile isSpace
  let text := if text.head? = some 43 ∨ text.head? = some 45 then text.tail else text
  text.head?.any fun b => 48 ≤ b && b ≤ 57

/-- A field of an entry, between 0 and 255. -/
def numaField (text : List UInt8) : Option ℕ :=
  if !hasNumber text then none
  else if 255 < strtoul isSpace 0 text then none
  else some (strtoul isSpace 0 text)

/-- The options of `lgopts` that have to do with sockets. -/
inductive NumaOption
  | noNuma
  | numa
  | portNumaConfig (optarg : List UInt8)
  | ringNumaConfig (optarg : List UInt8)
  | socketNum (optarg : List UInt8)
  deriving DecidableEq, Repr

section Options

variable (strsplit : List UInt8 → ℕ → List (List UInt8)) (m : Machine)

/-- The text between two parentheses, of `numFld` fields. -/
def numaEntry (numFld : ℕ) (text : List UInt8) : Option (List ℕ) :=
  if 256 ≤ text.length then none
  else if (strsplit text numFld).length ≠ numFld then none
  else (strsplit text numFld).mapM numaField

/-- The loop over the entries of a configuration: what is in front of an entry is passed over, an
entry is read up to the parenthesis behind it. -/
def numaEntries (numFld : ℕ) (store : NumaState → List ℕ → Option NumaState) :
    List UInt8 → Option (List UInt8) → NumaState → Option NumaState
  | [], none, s => some s
  | [], some _, _ => none
  | b :: rest, none, s => numaEntries numFld store rest (if b = 40 then some [] else none) s
  | b :: rest, some text, s =>
      if b = 41 then
        match (numaEntry strsplit numFld text).bind (store s) with
        | none => none
        | some s => numaEntries numFld store rest none s
      else numaEntries numFld store rest (some (text ++ [b])) s

/-- A round of `parse_portnuma_config`. -/
def storePortNuma (s : NumaState) : List ℕ → Option NumaState
  | [port, socket] =>
      if port ∉ m.ports then none
      else (s.addSocket socket).map fun s =>
        { s with portNuma := Function.update s.portNuma port socket }
  | _ => none

/-- A round of `parse_ringnuma_config`. -/
def storeRingNuma (s : NumaState) : List ℕ → Option NumaState
  | [port, ringFlag, socket] =>
      if port ∉ m.ports then none
      else
        match s.addSocket socket with
        | none => none
        | some s =>
            if ringFlag < 1 ∨ 3 < ringFlag then none
            else if ringFlag = 1 then
              some { s with rxringNuma := Function.update s.rxringNuma port socket }
            else if ringFlag = 2 then
              some { s with txringNuma := Function.update s.txringNuma port socket }
            else
              some
                { s with
                  rxringNuma := Function.update s.rxringNuma port socket
                  txringNuma := Function.update s.txringNuma port socket }
  | _ => none

/-- What `launch_args_parse` does with an option. -/
def applyNumaOption (s : NumaState) : NumaOption → Except NumaStop NumaState
  | .noNuma => .ok { s with numaSupport := false }
  | .numa => .ok { s with numaSupport := true }
  | .portNumaConfig optarg =>
      match numaEntries strsplit 2 (storePortNuma m) optarg none s with
      | none => .error .portNumaConfig
      | some s => .ok s
  | .ringNumaConfig optarg =>
      match numaEntries strsplit 3 (storeRingNuma m) optarg none s with
      | none => .error .ringNumaConfig
      | some s => .ok s
  | .socketNum optarg =>
      let n := (atoi optarg % 256).toNat
      if s.sockets.isNew n then .error .socketId else .ok { s with socketNum := n }

end Options

/-! ## Pools -/

/-- A pool of packet buffers. -/
structure Mempool where
  name : List UInt8
  socket : ℕ
  dataSize : ℕ
  deriving DecidableEq, Repr

/-- `mbuf_poolname_build`; the names are short enough for `RTE_MEMPOOL_NAMESIZE`. -/
def mbufPoolnameBuild (sockId idx : ℕ) : List UInt8 :=
  if idx = 0 then ascii "mb_pool_" ++ decimal sockId
  else ascii "mb_pool_" ++ (decimal (sockId % 65536) ++ 95 :: decimal idx)

/-- `mbuf_pool_find`. -/
def mbufPoolFind (pools : List Mempool) (sockId idx : ℕ) : Option Mempool :=
  lookup Mempool.name pools (mbufPoolnameBuild sockId idx)

/-- What the creation of pools depends on: the pools there are already, which new ones there is
memory for, and the socket of the heap for external memory. -/
structure PoolEnv where
  isProcPrimary : Bool
  mpAllocType : MpAlloc
  heapSocket : ℕ
  pools : List Mempool
  granted : Mempool → Bool

/-- What limits a packet of a port: the number of its segments, the MTU if it can be read, and what
comes on top of it. -/
structure SegmentLimit where
  nbMtuSegMax : ℕ
  mtu : Option ℕ
  ethOverhead : ℕ

section Pools

variable (env : PoolEnv) (m : Machine)

/-- The pool `mbuf_pool_create` is asked for. -/
def wantedPool (mbufSegSize socketId sizeIdx : ℕ) : Mempool where
  name := mbufPoolnameBuild socketId sizeIdx
  socket :=
    match env.mpAllocType with
    | .xmem | .xmemHuge => env.heapSocket
    | .native | .anon | .xbuf => socketId
  dataSize := mbufSegSize

/-- `mbuf_pool_create`.  The library does not create a pool under a name that is taken. -/
def mbufPoolCreate (pools : List Mempool) (pool : Mempool) :
    Except (List UInt8) (List Mempool) :=
  if env.isProcPrimary = false then
    if (lookup Mempool.name pools pool.name).isNone then .error pool.name else .ok pools
  else register Mempool.name env.granted pools pool

/-- The socket when NUMA is not supported. -/
def umaSocket (s : NumaState) : ℕ := if s.socketNum = UMA_NO_CONFIG then 0 else s.socketNum

/-- The socket of a port, as `init_config` has it.  The socket of a device is an `int` that is made
unsigned. -/
def portSocketId (s : NumaState) (pid : ℕ) : ℕ :=
  if s.numaSupport then
    if s.portNuma pid = NUMA_NO_CONFIG then
      let socketId := (m.portSocket pid % 4294967296).toNat
      if s.sockets.isNew socketId then s.sockets.ids.headD 0 else socketId
    else s.portNuma pid
  else umaSocket s

/-- The socket of a port, as `init_fwd_streams` works it out once more. -/
def initFwdStreamsSocket (s : NumaState) (pid : ℕ) : ℕ :=
  if s.numaSupport then
    if s.portNuma pid ≠ NUMA_NO_CONFIG then s.portNuma pid
    else
      let socketId := (m.portSocket pid % 4294967296).toNat
      if s.sockets.isNew socketId then s.sockets.ids.headD 0 else socketId
  else if s.socketNum = UMA_NO_CONFIG then 0
  else s.socketNum

/-- The end of `init_config_port_offloads`: the size of buffer that a port needs, if it has a limit
on segments. -/
def bufferSize (limit : SegmentLimit) : Option ℕ :=
  if limit.nbMtuSegMax = 65535 ∨ limit.nbMtuSegMax = 0 then none
  else limit.mtu.map fun mtu =>
    let dataSize := (mtu + limit.ethOverhead) % 4294967296 / limit.nbMtuSegMax % 65536
    (dataSize + RTE_PKTMBUF_HEADROOM) % 65536

/-- The first size of buffer is made to fit a port. -/
def fitSegments (limit : ℕ → SegmentLimit) (mbufDataSize : List ℕ) (pid : ℕ) : List ℕ :=
  match bufferSize (limit pid), mbufDataSize with
  | some bufferSize, size :: rest => (if size < bufferSize then bufferSize else size) :: rest
  | _, _ => mbufDataSize

/-- The pools `init_config` asks for, in order. -/
def wantedPools (s : NumaState) (mbufDataSize : List ℕ) : List Mempool :=
  if s.numaSupport then
    s.sockets.ids.flatMap fun socket =>
      mbufDataSize.zipIdx.map fun p => wantedPool env p.1 socket p.2
  else mbufDataSize.zipIdx.map fun p => wantedPool env p.1 (umaSocket s) p.2

/-- The creation of the pools in `init_config`. -/
def createPools (s : NumaState) (mbufDataSize : List ℕ) : Except NumaStop (List Mempool) :=
  match (wantedPools env s mbufDataSize).foldlM (mbufPoolCreate env) env.pools with
  | .error name => .error (.mbufPool name)
  | .ok pools => .ok pools

/-- The pool of an lcore, as `init_config` records it. -/
def lcorePool (pools : List Mempool) (cpuid : ℕ) : Option Mempool :=
  (mbufPoolFind pools (m.lcoreSocket cpuid) 0).or (mbufPoolFind pools 0 0)

/-- From the first look at the machine to the pools. -/
def setUpPools (strsplit : List UInt8 → ℕ → List (List UInt8)) (limit : ℕ → SegmentLimit)
    (options : List NumaOption) (mbufDataSize : List ℕ) :
    Except NumaStop (NumaState × List ℕ × List Mempool) := do
  let s ← setDefFwdConfig m .init
  let s ← options.foldlM (applyNumaOption strsplit m) s
  let mbufDataSize := m.ports.foldl (fitSegments limit) mbufDataSize
  let pools ← createPools env s mbufDataSize
  .ok (s, mbufDataSize, pools)

end Pools

/-! ## What is found out about the sockets -/

section Found

variable {m : Machine} {s s' : NumaState} {sockets sockets' : SocketIds} {id : ℕ}

theorem SocketIds.isNew_iff : sockets.isNew id = true ↔ id ∉ sockets.ids := decide_eq_true_iff

/-- A socket that is taken down is there afterwards, and so are the others. -/
theorem SocketIds.add_some (h : sockets.add id = some sockets') :
    id ∈ sockets'.ids ∧ sockets.ids ⊆ sockets'.ids := by
  unfold SocketIds.add at h
  split_ifs at h with hnew hfull
  · obtain rfl := Option.some.inj h
    exact ⟨List.mem_append_right _ List.mem_cons_self, List.subset_append_left ..⟩
  · obtain rfl := Option.some.inj h
    rw [SocketIds.isNew_iff, not_not] at hnew
    exact ⟨hnew, List.Subset.refl _⟩

/-- The sockets of the lcores are known, and whatever has been configured is one that is. -/
structure Found (m : Machine) (s : NumaState) : Prop where
  lcores : ∀ i ∈ s.fwdLcoresCpuids, m.lcoreSocket i ∈ s.sockets.ids
  portNuma : ∀ pid, s.portNuma pid ≠ NUMA_NO_CONFIG → s.portNuma pid ∈ s.sockets.ids
  rxringNuma : ∀ pid, s.rxringNuma pid ≠ NUMA_NO_CONFIG → s.rxringNuma pid ∈ s.sockets.ids
  txringNuma : ∀ pid, s.txringNuma pid ≠ NUMA_NO_CONFIG → s.txringNuma pid ∈ s.sockets.ids

/-- What a round may do: nothing that has been found is forgotten. -/
def Grows (m : Machine) (s s' : NumaState) : Prop :=
  (Found m s → Found m s') ∧ s.sockets.ids ⊆ s'.sockets.ids

theorem Grows.refl (m : Machine) (s : NumaState) : Grows m s s := ⟨id, List.Subset.refl _⟩

theorem Grows.trans {s'' : NumaState} (h : Grows m s s') (h' : Grows m s' s'') :
    Grows m s s'' :=
  ⟨h'.1 ∘ h.1, List.Subset.trans h.2 h'.2⟩

theorem grows_addSocket (h : s.addSocket id = some s') :
    Grows m s s' ∧ id ∈ s'.sockets.ids := by
  obtain ⟨sockets, hadd, rfl⟩ := Option.map_eq_some_iff.mp h
  obtain ⟨hmem, hsub⟩ := SocketIds.add_some hadd
  refine ⟨⟨fun hfound => ?_, hsub⟩, hmem⟩
  exact
    { lcores := fun i hi => hsub (hfound.lcores i hi)
      portNuma := fun pid hpid => hsub (hfound.portNuma pid hpid)
      rxringNuma := fun pid hpid => hsub (hfound.rxringNuma pid hpid)
      txringNuma := fun pid hpid => hsub (hfound.txringNuma pid hpid) }

/-- A setting that is changed to a known socket stays one of those that are known. -/
theorem mem_update {ids : List ℕ} {f : ℕ → ℕ} {port socket : ℕ}
    (h : ∀ pid, f pid ≠ NUMA_NO_CONFIG → f pid ∈ ids) (hsocket : socket ∈ ids) (pid : ℕ)
    (hpid : Function.update f port socket pid ≠ NUMA_NO_CONFIG) :
    Function.update f port socket pid ∈ ids := by
  by_cases hport : pid = port
  · subst hport
    rwa [Function.update_self]
  · rw [Function.update_of_ne hport] at hpid ⊢
    exact h pid hpid

theorem grows_setDefaultFwdLcore {i : ℕ} (h : setDefaultFwdLcore m s i = .ok s') :
    Grows m s s' := by
  unfold setDefaultFwdLcore at h
  cases hadd : s.addSocket (m.lcoreSocket i) with
  | none =>
      rw [hadd] at h
      cases h
  | some t =>
      rw [hadd] at h
      obtain rfl := Except.ok.inj h
      obtain ⟨hgrows, hmem⟩ := grows_addSocket (m := m) hadd
      refine hgrows.trans ?_
      split_ifs
      · exact Grows.refl m t
      · refine ⟨fun hfound => ⟨?_, hfound.portNuma, hfound.rxringNuma, hfound.txringNuma⟩,
          List.Subset.refl _⟩
        rw [List.forall_mem_append, List.forall_mem_singleton]
        exact ⟨hfound.lcores, hmem⟩

theorem grows_setDefaultFwdPort {pid : ℕ} (h : setDefaultFwdPort m s pid = .ok s') :
    Grows m s s' ∧ (0 ≤ m.portSocket pid → (m.portSocket pid).toNat ∈ s'.sockets.ids) := by
  unfold setDefaultFwdPort at h
  split_ifs at h with hsocket
  · cases hadd : s.addSocket (m.portSocket pid).toNat with
    | none =>
        rw [hadd] at h
        cases h
    | some t =>
        rw [hadd] at h
        obtain rfl := Except.ok.inj h
        exact ⟨(grows_addSocket hadd).1, fun _ => (grows_addSocket (m := m) hadd).2⟩
  · obtain rfl := Except.ok.inj h
    exact ⟨Grows.refl m s, fun h => absurd h hsocket⟩

theorem grows_storePortNuma {fields : List ℕ} (h : storePortNuma m s fields = some s') :
    Grows m s s' := by
  unfold storePortNuma at h
  split at h
  · split_ifs at h with hport
    obtain ⟨t, hadd, rfl⟩ := Option.map_eq_some_iff.mp h
    obtain ⟨hgrows, hmem⟩ := grows_addSocket (m := m) hadd
    refine hgrows.trans ⟨fun hfound => ?_, List.Subset.refl _⟩
    exact { hfound with portNuma := mem_update hfound.portNuma hmem }
  · cases h

theorem grows_storeRingNuma {fields : List ℕ} (h : storeRingNuma m s fields = some s') :
    Grows m s s' := by
  unfold storeRingNuma at h
  split at h
  · next port ringFlag socket =>
    by_cases hport : port ∉ m.ports
    · rw [if_pos hport] at h
      cases h
    · rw [if_neg hport] at h
      cases hadd : s.addSocket socket with
      | none =>
          rw [hadd] at h
          cases h
      | some t =>
          rw [hadd] at h
          dsimp only at h
          obtain ⟨hgrows, hmem⟩ := grows_addSocket (m := m) hadd
          refine hgrows.trans ?_
          split_ifs at h with hflag hrx htx
          · obtain rfl := Option.some.inj h
            exact ⟨fun hfound => { hfound with rxringNuma := mem_update hfound.rxringNuma hmem },
              List.Subset.refl _⟩
          · obtain rfl := Option.some.inj h
            exact ⟨fun hfound => { hfound with txringNuma := mem_update hfound.txringNuma hmem },
              List.Subset.refl _⟩
          · obtain rfl := Option.some.inj h
            exact ⟨fun hfound =>
              { hfound with
                rxringNuma := mem_update hfound.rxringNuma hmem
                txringNuma := mem_update hfound.txringNuma hmem }, List.Subset.refl _⟩
  · cases h

/-- The loop over the entries of a configuration grows what it grows in each round. -/
theorem grows_numaEntries {strsplit : List UInt8 → ℕ → List (List UInt8)} {numFld : ℕ}
    {store : NumaState → List ℕ → Option NumaState}
    (hstore : ∀ s fields s', store s fields = some s' → Grows m s s') (optarg : List UInt8) :
    ∀ (entry : Option (List UInt8)) (s s' : NumaState),
      numaEntries strsplit numFld store optarg entry s = some s' → Grows m s s' := by
  induction optarg with
  | nil =>
      intro entry s s' h
      cases entry with
      | none =>
          obtain rfl := Option.some.inj h
          exact Grows.refl m s
      | some text => cases h
  | cons b rest ih =>
      intro entry s s' h
      cases entry with
      | none => exact ih _ s s' h
      | some text =>
          unfold numaEntries at h
          split_ifs at h with hclose
          · cases hround : (numaEntry strsplit numFld text).bind (store s) with
            | none =>
                rw [hround] at h
                cases h
            | some t =>
                rw [hround] at h
                obtain ⟨fields, -, hfields⟩ := Option.bind_eq_some_iff.mp hround
                exact (hstore s fields t hfields).trans (ih none t s' h)
          · exact ih _ s s' h

theorem grows_applyNumaOption {strsplit : List UInt8 → ℕ → List (List UInt8)} {o : NumaOption}
    (h : applyNumaOption strsplit m s o = .ok s') : Grows m s s' := by
  cases o with
  | noNuma =>
      obtain rfl := Except.ok.inj h
      exact ⟨fun hfound => { hfound with }, List.Subset.refl _⟩
  | numa =>
      obtain rfl := Except.ok.inj h
      exact ⟨fun hfound => { hfound with }, List.Subset.refl _⟩
  | portNumaConfig optarg =>
      rw [applyNumaOption] at h
      cases hentries : numaEntries strsplit 2 (storePortNuma m) optarg none s with
      | none =>
          rw [hentries] at h
          cases h
      | some t =>
          rw [hentries] at h
          obtain rfl := Except.ok.inj h
          exact grows_numaEntries (fun _ _ _ => grows_storePortNuma) optarg none s _ hentries
  | ringNumaConfig optarg =>
      rw [applyNumaOption] at h
      cases hentries : numaEntries strsplit 3 (storeRingNuma m) optarg none s with
      | none =>
          rw [hentries] at h
          cases h
      | some t =>
          rw [hentries] at h
          obtain rfl := Except.ok.inj h
          exact grows_numaEntries (fun _ _ _ => grows_storeRingNuma) optarg none s _ hentries
  | socketNum optarg =>
      rw [applyNumaOption] at h
      split_ifs at h
      obtain rfl := Except.ok.inj h
      exact ⟨fun hfound => { hfound with }, List.Subset.refl _⟩

theorem found_init (m : Machine) : Found m .init where
  lcores := nofun
  portNuma _ h := absurd rfl h
  rxringNuma _ h := absurd rfl h
  txringNuma _ h := absurd rfl h

/-- After `set_def_fwd_config` the sockets of the devices are known too, and there is a socket. -/
theorem setDefFwdConfig_ok (h : setDefFwdConfig m .init = .ok s) :
    Found m s ∧ s.sockets.ids ≠ [] ∧
      ∀ pid ∈ m.ports, 0 ≤ m.portSocket pid → (m.portSocket pid).toNat ∈ s.sockets.ids := by
  obtain ⟨s₁, hlcores, h⟩ := bind_eq_ok_iff.mp h
  obtain ⟨s₂, hports, h⟩ := bind_eq_ok_iff.mp h
  split_ifs at h with hcores
  obtain rfl := Except.ok.inj h
  have hfound₁ : Found m s₁ := foldlM_ok
    (fun s i s' hfound hround => (grows_setDefaultFwdLcore hround).1 hfound)
    m.lcores _ s₁ (found_init m) hlcores
  have hfound₂ : Found m s₂ := foldlM_ok
    (fun s pid s' hfound hround => (grows_setDefaultFwdPort hround).1.1 hfound)
    m.ports s₁ s₂ hfound₁ hports
  have hids : s₂.sockets.ids ≠ [] := by
    obtain ⟨i, hi⟩ := List.exists_mem_of_ne_nil _ hcores
    exact List.ne_nil_of_mem (hfound₂.lcores i hi)
  refine ⟨hfound₂, hids, foldlM_ok_forall
    (Q := fun pid s => 0 ≤ m.portSocket pid → (m.portSocket pid).toNat ∈ s.sockets.ids)
    (fun s pid s' hround => (grows_setDefaultFwdPort hround).2)
    (fun pid s pid' s' hmem hround hsocket =>
      (grows_setDefaultFwdPort hround).1.2 (hmem hsocket)) m.ports s₁ s₂ hports⟩

end Found

/-! ## The names of the pools -/

section Names

theorem underscore_notMem_decimal (n : ℕ) : (95 : UInt8) ∉ decimal n := by
  intro h
  exact absurd (toNat_mem_decimal h).2 (by decide)

/-- Names are different for different sizes, and for sockets that are different as they are
printed. -/
theorem mbufPoolnameBuild_inj {sockId sockId' idx idx' : ℕ}
    (h : mbufPoolnameBuild sockId idx = mbufPoolnameBuild sockId' idx') :
    idx = idx' ∧ (idx = 0 → sockId = sockId') ∧ sockId % 65536 = sockId' % 65536 := by
  unfold mbufPoolnameBuild at h
  split_ifs at h with hidx hidx' hidx'
  · have hsock := decimal_injective (List.append_cancel_left h)
    exact ⟨hidx.trans hidx'.symm, fun _ => hsock, by rw [hsock]⟩
  · -- only one of the names has an underscore behind the socket
    have hmem : (95 : UInt8) ∈ decimal sockId := by
      rw [List.append_cancel_left h]
      exact List.mem_append_right _ List.mem_cons_self
    exact absurd hmem (underscore_notMem_decimal _)
  · have hmem : (95 : UInt8) ∈ decimal sockId' := by
      rw [← List.append_cancel_left h]
      exact List.mem_append_right _ List.mem_cons_self
    exact absurd hmem (underscore_notMem_decimal _)
  · obtain ⟨hsock, hsize⟩ := append_cons_inj_of_notMem_left (underscore_notMem_decimal _)
      (underscore_notMem_decimal _) (List.append_cancel_left h)
    exact ⟨decimal_injective hsize, fun hzero => absurd hzero hidx, decimal_injective hsock⟩

end Names

/-! ## The pools that are created -/

section Created

variable {env : PoolEnv} {s : NumaState} {sizes : List ℕ} {pools : List Mempool}

/-- The sockets that get pools. -/
def poolSockets (s : NumaState) : List ℕ :=
  if s.numaSupport then s.sockets.ids else [umaSocket s]

theorem poolSockets_nodup (s : NumaState) : (poolSockets s).Nodup := by
  unfold poolSockets
  split_ifs
  · exact s.sockets.nodup
  · exact List.nodup_singleton _

theorem wantedPools_eq :
    wantedPools env s sizes = (poolSockets s).flatMap fun socket =>
      sizes.zipIdx.map fun p => wantedPool env p.1 socket p.2 := by
  unfold wantedPools poolSockets
  split_ifs
  · rfl
  · rw [List.flatMap_singleton]

theorem mem_wantedPools {pool : Mempool} :
    pool ∈ wantedPools env s sizes ↔ ∃ socket ∈ poolSockets s, ∃ idx, ∃ h : idx < sizes.length,
      pool = wantedPool env sizes[idx] socket idx := by
  rw [wantedPools_eq, List.mem_flatMap]
  refine exists_congr fun socket => and_congr_right fun _ => ?_
  rw [List.mem_map]
  constructor
  · rintro ⟨⟨size, idx⟩, hmem, rfl⟩
    obtain ⟨hidx, hsize⟩ := List.getElem?_eq_some_iff.mp (List.mem_zipIdx_iff_getElem?.mp hmem)
    exact ⟨idx, hidx, by rw [hsize]⟩
  · rintro ⟨idx, hidx, rfl⟩
    exact ⟨(sizes[idx], idx), List.mem_zipIdx_iff_getElem?.mpr (List.getElem?_eq_getElem hidx), rfl⟩

/-- No two pools want the same name. -/
theorem wantedPools_names_nodup (hsmall : ∀ id ∈ poolSockets s, id < 65536) :
    ((wantedPools env s sizes).map Mempool.name).Nodup := by
  have hnames : (wantedPools env s sizes).map Mempool.name =
      ((poolSockets s).product (List.range sizes.length)).map fun p =>
        mbufPoolnameBuild p.1 p.2 := by
    rw [wantedPools_eq, List.map_flatMap, List.product, List.map_flatMap]
    congr 1
    funext socket
    rw [List.map_map, List.map_map, List.range_eq_range', ← List.zipIdx_map_snd, List.map_map]
    rfl
  rw [hnames]
  refine List.Nodup.map_on ?_ ((poolSockets_nodup s).product List.nodup_range)
  rintro ⟨socket, idx⟩ hmem ⟨socket', idx'⟩ hmem' hname
  obtain ⟨rfl, -, hsocket⟩ := mbufPoolnameBuild_inj hname
  rw [Nat.mod_eq_of_lt (hsmall _ (List.pair_mem_product.mp hmem).1),
    Nat.mod_eq_of_lt (hsmall _ (List.pair_mem_product.mp hmem').1)] at hsocket
  exact Prod.ext hsocket rfl

theorem mbufPoolCreate_primary (hprimary : env.isProcPrimary = true) :
    mbufPoolCreate env = register Mempool.name env.granted := by
  funext pools pool
  rw [mbufPoolCreate, if_neg (by rw [hprimary]; exact Bool.true_eq_false.mp)]

/-- The other process has created the pools. -/
theorem mbufPoolCreate_secondary {pools' : List Mempool} {pool : Mempool}
    (hsecondary : env.isProcPrimary = false) (h : mbufPoolCreate env pools pool = .ok pools') :
    pools' = pools ∧ (lookup Mempool.name pools pool.name).isSome = true := by
  rw [mbufPoolCreate, if_pos hsecondary] at h
  split_ifs at h with hnone
  rw [Bool.not_eq_true, Option.isNone_eq_false_iff] at hnone
  exact ⟨(Except.ok.inj h).symm, hnone⟩

theorem createPools_eq_ok_iff :
    createPools env s sizes = .ok pools ↔
      (wantedPools env s sizes).foldlM (mbufPoolCreate env) env.pools = .ok pools := by
  unfold createPools
  cases (wantedPools env s sizes).foldlM (mbufPoolCreate env) env.pools with
  | error name => exact iff_of_false nofun nofun
  | ok pools' =>
      rw [Except.ok.injEq]
      exact Except.ok.injEq .. |>.symm ▸ Iff.rfl

/-- What has been asked for is there under its name. -/
theorem lookup_of_createPools (h : createPools env s sizes = .ok pools) {pool : Mempool}
    (hmem : pool ∈ wantedPools env s sizes) :
    ∃ found, lookup Mempool.name pools pool.name = some found ∧
      (env.isProcPrimary = true → found = pool) := by
  rw [createPools_eq_ok_iff] at h
  cases hprimary : env.isProcPrimary with
  | true =>
      rw [mbufPoolCreate_primary hprimary] at h
      exact ⟨pool, (lookup_of_registerAll h).2 pool hmem, fun _ => rfl⟩
  | false =>
      have hthere := foldlM_ok_forall
        (Q := fun pool pools => (lookup Mempool.name pools pool.name).isSome = true)
        (fun pools pool pools' hround => by
          obtain ⟨rfl, hsome⟩ := mbufPoolCreate_secondary hprimary hround
          exact hsome)
        (fun pool pools pool' pools' hsome hround => by
          obtain ⟨rfl, -⟩ := mbufPoolCreate_secondary hprimary hround
          exact hsome) _ _ _ h pool hmem
      obtain ⟨found, hfound⟩ := Option.isSome_iff_exists.mp hthere
      exact ⟨found, hfound, fun hfalse => absurd hfalse Bool.false_ne_true⟩

/-- **No two pools get into each other's way.**  With sockets of 16 bits the primary process creates
all pools exactly when there is memory for each. -/
theorem createPools_ok_iff (env : PoolEnv) (s : NumaState) (sizes : List ℕ) (pools : List Mempool)
    (hprimary : env.isProcPrimary = true) (hnone : env.pools = [])
    (hsmall : ∀ id ∈ poolSockets s, id < 65536) :
    createPools env s sizes = .ok pools ↔
      (∀ pool ∈ wantedPools env s sizes, env.granted pool = true) ∧
        pools = wantedPools env s sizes := by
  rw [createPools_eq_ok_iff, mbufPoolCreate_primary hprimary, hnone]
  refine registerAll_ok_iff.trans (and_congr_right fun _ => ?_)
  rw [and_iff_right (wantedPools_names_nodup hsmall), List.nil_append]
  exact and_iff_right fun _ _ => rfl

end Created

/-! ## Ports and their pools -/

/-- The settings that `start_port` reads, with what has been configured about sockets. -/
def PortSettings.withNuma (g : PortSettings) (s : NumaState) : PortSettings :=
  { g with numaSupport := s.numaSupport, rxringNuma := s.rxringNuma }

/-- The answers of a driver, and the pools there are. -/
def Driver.withPools (d : Driver) (pools : List Mempool) : Driver :=
  let found (sockId : ℕ) : Bool := (UdxFastpath.Dpdk.mbufPoolFind pools sockId 0).isSome
  { d with mbufPoolFind := found }

section Ports

variable {m : Machine} {env : PoolEnv} {strsplit : List UInt8 → ℕ → List (List UInt8)}
  {limit : ℕ → SegmentLimit} {options : List NumaOption} {mbufDataSize sizes : List ℕ}
  {s : NumaState} {pools : List Mempool}

/-- A port is given what it needs, and nothing is taken away. -/
theorem fitSegments_cons (size : ℕ) (rest : List ℕ) (pid : ℕ) :
    fitSegments limit (size :: rest) pid = max size ((bufferSize (limit pid)).getD 0) :: rest := by
  unfold fitSegments
  cases bufferSize (limit pid) with
  | none => rw [Option.getD_none, Nat.max_zero]
  | some needed =>
      dsimp only [Option.getD_some]
      congr 1
      split_ifs with hsmall
      · exact (max_eq_right hsmall.le).symm
      · exact (max_eq_left (not_lt.mp hsmall)).symm

theorem foldl_fitSegments (limit : ℕ → SegmentLimit) (ports : List ℕ) (size : ℕ) (rest : List ℕ) :
    ∃ size', ports.foldl (fitSegments limit) (size :: rest) = size' :: rest ∧ size ≤ size' ∧
      ∀ pid ∈ ports, (bufferSize (limit pid)).getD 0 ≤ size' := by
  induction ports generalizing size with
  | nil => exact ⟨size, rfl, le_rfl, nofun⟩
  | cons pid ports ih =>
      obtain ⟨size', hfold, hle, hports⟩ := ih (max size ((bufferSize (limit pid)).getD 0))
      refine ⟨size', ?_, (le_max_left ..).trans hle, ?_⟩
      · rw [List.foldl_cons, fitSegments_cons, hfold]
      · rw [List.forall_mem_cons]
        exact ⟨(le_max_right ..).trans hle, hports⟩

theorem setUpPools_ok
    (h : setUpPools env m strsplit limit options mbufDataSize = .ok (s, sizes, pools)) :
    Found m s ∧ s.sockets.ids ≠ [] ∧
      (∀ pid ∈ m.ports, 0 ≤ m.portSocket pid → (m.portSocket pid).toNat ∈ s.sockets.ids) ∧
      sizes = m.ports.foldl (fitSegments limit) mbufDataSize ∧
      createPools env s sizes = .ok pools := by
  obtain ⟨s₁, hdef, h⟩ := bind_eq_ok_iff.mp h
  obtain ⟨s₂, hoptions, h⟩ := bind_eq_ok_iff.mp h
  obtain ⟨pools', hpools, h⟩ := bind_eq_ok_iff.mp h
  cases h
  obtain ⟨hfound, hids, hports⟩ := setDefFwdConfig_ok hdef
  have hgrows : Grows m s₁ s := foldlM_ok
    (fun t o t' hgrows hround => hgrows.trans (grows_applyNumaOption hround))
    options s₁ s (Grows.refl m s₁) hoptions
  refine ⟨hgrows.1 hfound, ?_, fun pid hpid hsocket => hgrows.2 (hports pid hpid hsocket), rfl,
    hpools⟩
  obtain ⟨id, hid⟩ := List.exists_mem_of_ne_nil _ hids
  exact List.ne_nil_of_mem (hgrows.2 hid)

theorem initFwdStreamsSocket_eq (m : Machine) (s : NumaState) (pid : ℕ) :
    initFwdStreamsSocket m s pid = portSocketId m s pid := by
  unfold initFwdStreamsSocket portSocketId umaSocket
  split_ifs <;> first | rfl | contradiction

/-- The first socket stands in for one that is not known. -/
theorem portSocketId_mem (hids : s.sockets.ids ≠ []) (hfound : Found m s)
    (hnuma : s.numaSupport = true) (pid : ℕ) : portSocketId m s pid ∈ s.sockets.ids := by
  unfold portSocketId
  rw [if_pos hnuma]
  dsimp only
  split_ifs with hconfig hnew
  · obtain ⟨id, rest, hcons⟩ := List.exists_cons_of_ne_nil hids
    rw [hcons]
    exact List.mem_cons_self
  · rw [SocketIds.isNew_iff, not_not] at hnew
    exact hnew
  · exact hfound.portNuma pid hconfig

/-- A port that nothing has been configured for gets the socket of its device. -/
theorem portSocketId_own (hnuma : s.numaSupport = true) {pid : ℕ}
    (hconfig : s.portNuma pid = NUMA_NO_CONFIG) (hsocket : 0 ≤ m.portSocket pid)
    (hmem : (m.portSocket pid).toNat ∈ s.sockets.ids) :
    portSocketId m s pid = (m.portSocket pid).toNat := by
  have hsmall := m.portSocket_lt pid
  have hmod : m.portSocket pid % 4294967296 = m.portSocket pid :=
    Int.emod_eq_of_lt hsocket (by omega)
  unfold portSocketId
  rw [if_pos hnuma, if_pos hconfig, hmod]
  exact if_neg fun hnew => SocketIds.isNew_iff.mp hnew hmem

/-- There are pools for the socket of a receive queue. -/
theorem rxSocket_mem (hids : s.sockets.ids ≠ []) (hfound : Found m s) (g : PortSettings)
    (pid : ℕ) : rxSocket (g.withNuma s) pid (portSocketId m s pid) ∈ poolSockets s := by
  unfold rxSocket poolSockets PortSettings.withNuma
  dsimp only
  cases hnuma : s.numaSupport with
  | true =>
      rw [if_pos rfl]
      split_ifs with hring
      · exact hfound.rxringNuma pid hring.2
      · exact portSocketId_mem hids hfound hnuma pid
  | false =>
      have huma : ¬ (false = true ∧ s.rxringNuma pid ≠ NUMA_NO_CONFIG) :=
        fun h => Bool.false_ne_true h.1
      rw [if_neg huma, if_neg Bool.false_ne_true, List.mem_singleton]
      unfold portSocketId
      rw [hnuma]
      exact if_neg Bool.false_ne_true

theorem mbufPoolFind_rxSocket
    (h : setUpPools env m strsplit limit options mbufDataSize = .ok (s, sizes, pools))
    (g : PortSettings) (pid : ℕ) {idx : ℕ} (hidx : idx < sizes.length) :
    ∃ pool, mbufPoolFind pools (rxSocket (g.withNuma s) pid (portSocketId m s pid)) idx =
        some pool ∧
      (env.isProcPrimary = true → pool = wantedPool env sizes[idx]
        (rxSocket (g.withNuma s) pid (portSocketId m s pid)) idx) := by
  obtain ⟨hfound, hids, -, -, hpools⟩ := setUpPools_ok h
  exact lookup_of_createPools hpools
    (mem_wantedPools.mpr ⟨_, rxSocket_mem hids hfound g pid, idx, hidx, rfl⟩)

/-- **No port is left half configured for want of a pool** when the process comes up: if
`start_port` leaves one, the driver has refused something. -/
theorem startPort_left_by_driver {firstSize : ℕ} {otherSizes : List ℕ}
    (h : setUpPools env m strsplit limit options (firstSize :: otherSizes) =
      .ok (s, sizes, pools)) (g : PortSettings) (d : Driver) {pid : ℕ}
    (hleft : ((startPort (g.withNuma s) (d.withPools pools) RTE_PORT_ALL
      (initialPorts m.ports (initFwdStreamsSocket m s))).2.port pid).status = .handling) :
    (g.flowIsolateAll = true ∧ d.flowIsolate pid ≠ 0) ∨
      (0 < g.nbHairpinq ∧ d.hairpinCapabilityGet pid ≠ 0) ∨ d.devConfGet pid ≠ 0 := by
  have hstopped : ((initialPorts m.ports (initFwdStreamsSocket m s)).port pid).status ≠
      .handling := by
    show PortStatus.stopped ≠ .handling
    decide
  have hbetween : LeftInBetween (g.withNuma s) (d.withPools pools) pid
      ((initialPorts m.ports (initFwdStreamsSocket m s)).port pid) := by
    have hattempted : ∀ l : List ℕ, (((initialPorts m.ports (initFwdStreamsSocket m s)).mapPorts l
        (attempted (g.withNuma s) (d.withPools pools) RTE_PORT_ALL)).port pid).status =
          .handling → LeftInBetween (g.withNuma s) (d.withPools pools) pid
            ((initialPorts m.ports (initFwdStreamsSocket m s)).port pid) := by
      intro l hl
      unfold Ports.mapPorts at hl
      dsimp only at hl
      split_ifs at hl
      · exact ((attempted_handling_iff hstopped).mp hl).2.2
      · exact absurd hl hstopped
    have hvalid : portIdIsInvalid (initialPorts m.ports (initFwdStreamsSocket m s)) RTE_PORT_ALL =
        false := rfl
    rcases startPort_cases (g := g.withNuma s) (d := d.withPools pools) hvalid m.ports_nodup with
      ⟨pre, q, post, -, -, -, heq⟩ | ⟨-, heq, -⟩
    · rw [heq] at hleft
      exact hattempted _ hleft
    · rw [heq] at hleft
      exact hattempted _ hleft
  cases hbetween with
  | isolate _ on failed => exact .inl ⟨on, failed⟩
  | capability _ _ on failed => exact .inr (.inl ⟨on, failed⟩)
  | conf _ _ _ _ failed => exact .inr (.inr failed)
  | pool _ _ _ _ _ failed =>
      obtain ⟨-, -, -, hsizes, -⟩ := setUpPools_ok h
      obtain ⟨size, hfold, -⟩ := foldl_fitSegments limit m.ports firstSize otherSizes
      have hlen : 0 < sizes.length := by
        rw [hsizes, hfold]
        exact Nat.succ_pos _
      obtain ⟨pool, hpool, -⟩ := mbufPoolFind_rxSocket h g pid hlen
      have hthere : (d.withPools pools).mbufPoolFind (rxSocket (g.withNuma s) pid
          (initFwdStreamsSocket m s pid)) = true := by
        rw [initFwdStreamsSocket_eq]
        exact congrArg Option.isSome hpool
      exact absurd (hthere.symm.trans failed) Bool.true_eq_false.mp

/-- The pool with the first size of buffer is there exactly for the sockets that get pools. -/
theorem mbufPoolFind_isSome_iff (hsizes : 0 < sizes.length) (sockId : ℕ) :
    (mbufPoolFind (wantedPools env s sizes) sockId 0).isSome = true ↔
      sockId ∈ poolSockets s := by
  unfold mbufPoolFind Registries.lookup
  rw [List.find?_isSome]
  constructor
  · rintro ⟨pool, hmem, hname⟩
    obtain ⟨socket, hsocket, idx, hidx, rfl⟩ := mem_wantedPools.mp hmem
    obtain ⟨rfl, hsock, -⟩ := mbufPoolnameBuild_inj (of_decide_eq_true hname)
    rwa [← hsock rfl]
  · intro hmem
    exact ⟨wantedPool env sizes[0] sockId 0, mem_wantedPools.mpr ⟨sockId, hmem, 0, hsizes, rfl⟩,
      decide_eq_true rfl⟩

end Ports

/-! ## Two sockets -/

/-- A main lcore and one more on socket 0, and one on socket 1; the socket of the second device is
not known. -/
def twoSockets : Machine where
  lcores := [0, 1, 2]
  mainLcore := 0
  lcoreSocket i := if i = 2 then 1 else 0
  ports := [0, 1]
  ports_nodup := by simp
  portSocket pid := if pid = 1 then -1 else 0
  portSocket_lt pid := by split_ifs <;> omega

def plainPools : PoolEnv where
  isProcPrimary := true
  mpAllocType := .native
  heapSocket := 0
  pools := []
  granted _ := true

def splitAtCommas (text : List UInt8) (numFld : ℕ) : List (List UInt8) :=
  (text.splitOn 44).take numFld

/-- The second port takes at most four segments. -/
def fourSegments (pid : ℕ) : SegmentLimit := ⟨if pid = 1 then 4 else 0, some 9000, 18⟩

def twoSocketsUp (options : List NumaOption) :
    Except NumaStop (NumaState × List ℕ × List Mempool) :=
  setUpPools plainPools twoSockets splitAtCommas fourSegments options [2176, 4096]

/-- What is computed from the outcome is computed from what there is afterwards. -/
theorem twoSocketsUp_ok {β : Type} {options : List NumaOption}
    {f : NumaState × List ℕ × List Mempool → β} {b : β}
    (h : (twoSocketsUp options).toOption.map f = some b) :
    ∃ s sizes pools, twoSocketsUp options = .ok (s, sizes, pools) ∧ f (s, sizes, pools) = b := by
  cases hup : twoSocketsUp options with
  | error e =>
      rw [hup] at h
      cases h
  | ok r =>
      rw [hup] at h
      exact ⟨r.1, r.2.1, r.2.2, rfl, Option.some.inj h⟩

/-- The configuration of the first port cannot be read back. -/
theorem startPort_left_by_driver_conf :
    let d := { willingDriver with devConfGet := fun pi => if pi = 0 then -1 else 0 }
    ∃ s sizes pools, twoSocketsUp [] = .ok (s, sizes, pools) ∧
      ((startPort (plainSettings.withNuma s) (d.withPools pools) RTE_PORT_ALL
        (initialPorts [0, 1] (initFwdStreamsSocket twoSockets s))).2.port 0).status = .handling ∧
      ((false = true ∧ d.flowIsolate 0 ≠ 0) ∨ (0 < 0 ∧ d.hairpinCapabilityGet 0 ≠ 0) ∨
        d.devConfGet 0 ≠ 0) := by
  intro d
  have hup : (twoSocketsUp []).toOption.map (fun r =>
      ((startPort (plainSettings.withNuma r.1) (d.withPools r.2.2) RTE_PORT_ALL
        (initialPorts [0, 1] (initFwdStreamsSocket twoSockets r.1))).2.port 0).status) =
      some .handling := by decide +kernel
  obtain ⟨s, sizes, pools, hok, hleft⟩ := twoSocketsUp_ok hup
  exact ⟨s, sizes, pools, hok, hleft, startPort_left_by_driver hok plainSettings d hleft⟩

/-- One size of buffer on two sockets. -/
theorem createPools_ok_iff_twoSockets :
    createPools plainPools { NumaState.init with sockets := ⟨[0, 1], by simp, by decide⟩ } [2176] =
      .ok [⟨ascii "mb_pool_0", 0, 2176⟩, ⟨ascii "mb_pool_1", 1, 2176⟩] :=
  (createPools_ok_iff plainPools _ [2176] _ rfl rfl (by decide)).mpr
    ⟨fun _ _ => rfl, by decide +kernel⟩

end UdxFastpath.Dpdk
