import UdxFastpath.Core.TapHandler
import UdxFastpath.Dpdk.FwdConfig

/-!
# Who uses a transmit buffer

`tx_buffer[port][queue]` is a plain structure: adding a packet and flushing are not
synchronised, so each of them should belong to one thread.  Nothing in the program
says which.  A call of `run_to_completion` on a stream uses

* the buffer of the stream's own port and queue, which it flushes;
* the buffer `[lports[verdict]][rx_queue]` for any port a verdict names,

so it uses buffers of **its own queue** only, and possibly those of all ports.  Two
lcores keep out of each other's way exactly when they never poll the same queue of
two ports.  The TAP thread always sends on queue 0, which the first lcore polls.

`Accesses` collects what the calls on a stream can touch, over all handlers and all
bursts; `oneOwner_iff` says when all buffers have one owner.
-/

namespace UdxFastpath.Dpdk

open ByteWindow Dealing

/-- What decides which thread uses which buffer: the forwarding ports, the number of queues a
port has in either direction, the number of forwarding lcores, the logical ports, and whether
the TAP thread is started. -/
structure Datapath where
  dm : DataPlaneManager
  fwdPortsIds : List ℕ
  ids_lt : ∀ p ∈ fwdPortsIds, p < RTE_MAX_ETHPORTS
  ports_lt : fwdPortsIds.length < 65536
  nbQ : ℕ
  nbQ_pos : 0 < nbQ
  nbFwdLcores : ℕ
  lcores_pos : 0 < nbFwdLcores
  lcores_lt : nbFwdLcores < 256
  topology : PortTopology
  lports : List ℕ
  lports_ne : lports ≠ []
  lports_le : lports.length ≤ RTE_MAX_ETHPORTS
  dpdkPortMac : List EtherAddr
  length_eq : dpdkPortMac.length = lports.length
  createTap : Bool

namespace Datapath

variable (d : Datapath)

/-- The forwarding configuration. -/
def config : FwdConfig := fwdConfigSetup (uniform d.fwdPortsIds d.nbQ d.nbFwdLcores d.topology)

/-- What `run_to_completion` reads, with a handler. -/
def env {σ : Type*} (pp : PacketProcessor σ) : Env σ where
  dm := d.dm
  lports := d.lports
  lports_le := d.lports_le
  packetProcessor := pp

/-- What the TAP thread reads, with a handler. -/
def tapEnv {σ : Type*} (tp : TapProcessor σ) : TapEnv σ where
  lports := d.lports
  lports_le := d.lports_le
  dpdkPortMac := d.dpdkPortMac
  length_eq := d.length_eq
  tapProcessor := tp

end Datapath

/-! ## Accesses -/

section Accesses

variable {σ : Type*} (d : Datapath)

/-- The buffers a call uses: unless nothing was received, the flushed one and those packets
are added to. -/
def callBuffers (pp : PacketProcessor σ) (fs : FwdStream) (burst : List Window) (s : σ) :
    List (ℕ × ℕ) :=
  if burst = [] then []
  else (fs.rxPort, fs.rxQueue) ::
    (runToCompletion (d.env pp) fs burst s).2.1.filterMap fun
      | .transmit _ verdict _ => some (d.lports.getD verdict 0, fs.rxQueue)
      | _ => none

/-- Some call on the stream uses the buffer: for some handler that returns valid verdicts and
some burst. -/
def Accesses (fs : FwdStream) (buf : ℕ × ℕ) : Prop :=
  ∃ (σ : Type) (pp : PacketProcessor σ) (burst : List Window) (s : σ),
    ReturnsValid pp d.lports.length ∧ buf ∈ callBuffers d pp fs burst s

/-- Lcore `c` uses the buffer: in a call on one of the streams it polls. -/
def LcoreAccesses (c : ℕ) (buf : ℕ × ℕ) : Prop :=
  ∃ range n fs, d.config.lcores[c]? = some range ∧ range.Polls n ∧
    d.config.streams[n]? = some fs ∧
    ∃ hlt : fs.rxPort < RTE_MAX_ETHPORTS, Accesses d ⟨fs.rxPort, fs.rxQueue, hlt⟩ buf

/-- The TAP thread uses the buffer: it is started, and in some run it sends on the buffer's
port. -/
def TapAccesses (buf : ℕ × ℕ) : Prop :=
  d.createTap = true ∧
    ∃ (σ : Type) (tp : TapProcessor σ) (frames : List TapFrame) (st : (ℕ → UInt8) × σ),
      ∃ acts ∈ tapHandler (d.tapEnv tp) frames st, ∃ lport bytes,
        .transmit lport bytes ∈ acts ∧ buf = (d.lports.getD lport 0, 0)

/-- **Every buffer has one owner**: no two lcores, and no lcore and the TAP thread, use the
same. -/
structure OneOwner : Prop where
  lcores : ∀ buf c c', LcoreAccesses d c buf → LcoreAccesses d c' buf → c = c'
  tap : ∀ buf c, LcoreAccesses d c buf → ¬ TapAccesses d buf

/-- A call keeps to the queue of its stream. -/
theorem queue_of_accesses {fs : FwdStream} {buf : ℕ × ℕ} (h : Accesses d fs buf) :
    buf.2 = fs.rxQueue := by
  obtain ⟨σ, pp, burst, s, -, hmem⟩ := h
  unfold callBuffers at hmem
  split at hmem
  · simp at hmem
  · rcases List.mem_cons.mp hmem with rfl | hmem
    · rfl
    · obtain ⟨e, -, hbuf⟩ := List.mem_filterMap.mp hmem
      cases e with
      | transmit i verdict bytes =>
          dsimp only at hbuf
          rw [← Option.some.inj hbuf]
      | _ => cases hbuf

/-- …and a verdict can take it to the buffer of any logical port. -/
theorem accesses_of_lt (fs : FwdStream) {k : ℕ} (hk : k < d.lports.length) :
    Accesses d fs (d.lports.getD k 0, fs.rxQueue) := by
  refine ⟨Unit, fun s b _ => (k, b, s), [udpFrame 80], (), fun _ _ _ => .inr (.inr hk), ?_⟩
  rw [callBuffers, if_neg (List.cons_ne_nil _ _)]
  refine List.mem_cons_of_mem _ (List.mem_filterMap.mpr ?_)
  have harp : ethProto (udpFrame 80) 0 ≠ htons PID_ETH_ARP := by decide
  have hlt := Nat.lt_of_lt_of_le hk d.lports_le
  have hne : k ≠ KERNEL ∧ k ≠ DROP := by
    have hmax : RTE_MAX_ETHPORTS = 32 := rfl
    have hkernel : KERNEL = 1000 := rfl
    have hdrop : DROP = 3000 := rfl
    omega
  have hstage := arpStage_of_not_arp d.dm fs 0 (udpFrame 80) harp
  -- whatever the filter did before, the verdict adds the packet to the port's buffer
  refine ⟨.transmit 0 k (filterStage d.dm 0 (udpFrame 80)).2.bytes, ?_, rfl⟩
  simp [runToCompletion, rtcLoop, Disposal.burstLoop, rtcPacket, Datapath.env, hstage, verdictStage,
    hne, txBuffer_of_lt 0 _ hlt]

end Accesses

/-! ## Streams and lcores -/

namespace Datapath

variable (d : Datapath)

/-- The number of streams. -/
def nbStreams : ℕ := d.fwdPortsIds.length * d.nbQ % 65536

/-- The number of lcores that are used. -/
def nbLcores : ℕ := min d.nbFwdLcores d.nbStreams

/-- Where the ranges of the lcores are cut. -/
def cut : ℕ → ℕ := dealt (d.nbStreams / d.nbLcores) (fewLcores d.nbStreams d.nbLcores)

theorem nbFwdStreams_config : d.config.nbFwdStreams = d.nbStreams :=
  nbFwdStreams_uniform d.topology d.nbQ_pos

theorem nbFwdLcores_config : d.config.nbFwdLcores = d.nbLcores := by
  rw [config, nbFwdLcores_uniform d.topology d.ports_lt d.lcores_lt, nbLcores]
  exact congrArg _ d.nbFwdStreams_config

theorem nbStreams_lt : d.nbStreams < 65536 := Nat.mod_lt _ (by decide)

section Streams

variable {d} (hN : 0 < d.nbStreams)

include hN

theorem nbLcores_pos : 0 < d.nbLcores := Nat.lt_min.mpr ⟨d.lcores_pos, hN⟩

theorem cut_strictMono : StrictMono d.cut :=
  dealt_strictMono (Nat.div_pos (Nat.min_le_right _ _) (nbLcores_pos hN))

theorem polls_iff (c n : ℕ) :
    (∃ range, d.config.lcores[c]? = some range ∧ range.Polls n) ↔
      c < d.nbLcores ∧ InPart d.cut c n := by
  rw [config, lcores_eq, ← config, nbFwdStreams_config, nbFwdLcores_config]
  exact polls_iff_part (nbLcores_pos hN) (Nat.min_le_right _ _) d.nbStreams_lt c n

/-- Every stream that is polled exists. -/
theorem lt_of_part {c n : ℕ} (hc : c < d.nbLcores) (hn : InPart d.cut c n) : n < d.nbStreams := by
  calc n < d.cut (c + 1) := hn.2
    _ ≤ d.cut d.nbLcores := (cut_strictMono hN).monotone hc
    _ = d.nbStreams := dealt_total (nbLcores_pos hN)

theorem ports_pos : 0 < d.fwdPortsIds.length := by
  refine Nat.pos_of_ne_zero fun hzero => ?_
  rw [nbStreams, hzero, Nat.zero_mul] at hN
  exact absurd hN (by decide)

omit hN in
/-- Stream `n` receives from one of the ports, and from queue `n / P`. -/
theorem streams_config {n : ℕ} (hn : n < d.nbStreams) :
    ∃ fs, d.config.streams[n]? = some fs ∧ fs.rxPort < RTE_MAX_ETHPORTS ∧
      fs.rxQueue = n / d.fwdPortsIds.length := by
  have hports := ports_pos (Nat.zero_lt_of_lt hn)
  have hdiv : n / d.fwdPortsIds.length < d.nbQ :=
    Nat.div_lt_of_lt_mul (Nat.lt_of_lt_of_le hn (Nat.mod_le _ _))
  have hport : n % d.fwdPortsIds.length < d.fwdPortsIds.length := Nat.mod_lt n hports
  refine ⟨_, streams_eq d.topology hports d.nbQ_pos ?_, ?_, Nat.mod_eq_of_lt hdiv⟩
  · exact lt_of_lt_of_eq hn d.nbFwdStreams_config.symm
  · simp only [streamAt, uniform, List.getD_eq_getElem _ _ hport]
    exact d.ids_lt _ (List.getElem_mem hport)

/-- All cuts between lcores are multiples of the number of ports exactly when… -/
theorem dvd_cut_iff :
    (∀ i, 0 < i → i < d.nbLcores → d.fwdPortsIds.length ∣ d.cut i) ↔
      d.nbLcores ≤ 1 ∨ d.fwdPortsIds.length = 1 ∨
        d.fwdPortsIds.length ∣ d.nbStreams / d.nbLcores ∧ d.nbStreams % d.nbLcores ≤ 1 := by
  have hmod := Nat.mod_lt d.nbStreams (nbLcores_pos hN)
  have hall : fewLcores d.nbStreams d.nbLcores + d.nbStreams % d.nbLcores = d.nbLcores :=
    Nat.sub_add_cancel hmod.le
  have hfew : 0 < fewLcores d.nbStreams d.nbLcores := Nat.sub_pos_of_lt hmod
  have hcuts := @dealt_dvd_iff (d.nbStreams / d.nbLcores) (fewLcores d.nbStreams d.nbLcores)
    d.fwdPortsIds.length (d.nbStreams % d.nbLcores) (.inl hfew)
  rwa [hall] at hcuts

/-- An lcore uses buffers of queues it polls… -/
theorem part_of_lcoreAccesses {c : ℕ} {buf : ℕ × ℕ} (h : LcoreAccesses d c buf) :
    c < d.nbLcores ∧ ∃ n, InPart d.cut c n ∧ n / d.fwdPortsIds.length = buf.2 := by
  obtain ⟨range, n, fs, hrange, hpolls, hfs, hlt, haccess⟩ := h
  obtain ⟨hc, hpart⟩ := (polls_iff hN c n).mp ⟨range, hrange, hpolls⟩
  obtain ⟨fs', hfs', -, hqueue⟩ := streams_config (lt_of_part hN hc hpart)
  obtain rfl := Option.some.inj (hfs.symm.trans hfs')
  exact ⟨hc, n, hpart, hqueue.symm.trans (queue_of_accesses d haccess).symm⟩

/-- …and of each such queue it can use the buffer of the first logical port. -/
theorem lcoreAccesses_of_part {c n : ℕ} (hc : c < d.nbLcores) (hn : InPart d.cut c n) :
    LcoreAccesses d c (d.lports.getD 0 0, n / d.fwdPortsIds.length) := by
  obtain ⟨range, hrange, hpolls⟩ := (polls_iff hN c n).mpr ⟨hc, hn⟩
  obtain ⟨fs, hfs, hlt, hqueue⟩ := streams_config (lt_of_part hN hc hn)
  refine ⟨range, n, fs, hrange, hpolls, hfs, hlt, ?_⟩
  rw [← hqueue]
  exact accesses_of_lt d ⟨fs.rxPort, fs.rxQueue, hlt⟩ (List.length_pos_of_ne_nil d.lports_ne)

/-- **Lcores keep apart exactly when no queue number is polled by two of them.** -/
theorem lcores_apart_iff :
    (∀ buf c c', LcoreAccesses d c buf → LcoreAccesses d c' buf → c = c') ↔
      GroupsWhole d.cut d.fwdPortsIds.length d.nbLcores := by
  constructor
  · intro h i hi j hj x y hx hy hqueue
    refine h _ i j (lcoreAccesses_of_part hN hi hx) ?_
    rw [hqueue]
    exact lcoreAccesses_of_part hN hj hy
  · intro h buf c c' haccess haccess'
    obtain ⟨hc, n, hn, hqueue⟩ := part_of_lcoreAccesses hN haccess
    obtain ⟨hc', n', hn', hqueue'⟩ := part_of_lcoreAccesses hN haccess'
    exact h c hc c' hc' n n' hn hn' (hqueue.trans hqueue'.symm)

end Streams

/-- Without streams no lcore uses anything. -/
theorem not_lcoreAccesses (hN : d.nbStreams = 0) (c : ℕ) (buf : ℕ × ℕ) :
    ¬ LcoreAccesses d c buf := by
  rintro ⟨range, n, fs, hrange, -⟩
  have hF : d.nbLcores = 0 := by rw [nbLcores, hN, Nat.min_zero]
  rw [config, lcores_eq, ← config, nbFwdStreams_config, nbFwdLcores_config, hN, hF] at hrange
  simp [setupFwdConfigOfEachLcore, assignStreams] at hrange

/-! ## The TAP thread -/

/-- The TAP thread can send on the first logical port, queue 0. -/
theorem tapAccesses_first (h : d.createTap = true) : TapAccesses d (d.lports.getD 0 0, 0) := by
  have htype : getEtherType (readFrame (fun _ => 0) udpTapFrame 0 (Nat.zero_le _)) ≠
      .l2EtherArp := by decide
  have hmac : 0 < d.dpdkPortMac.length := by
    rw [d.length_eq]
    exact List.length_pos_of_ne_nil d.lports_ne
  have hspecial : ¬ (0 = DROP ∨ 0 = KERNEL) := by decide
  refine ⟨h, Unit, fun s _ _ => (0, s), [udpTapFrame], (fun _ => 0, ()), _, List.mem_cons_self, 0,
    ((readFrame (fun _ => 0) udpTapFrame 0 (Nat.zero_le _)).store ETH_ALEN
      d.dpdkPortMac[0].toList).bytes, ?_, rfl⟩
  simp [tapPacket, htype, tapEnv, hspecial, List.getElem?_eq_getElem hmac, sendSinglePacket,
    RTE_MAX_ETHPORTS]

end Datapath

/-! ## One owner -/

section OneOwner

variable (d : Datapath)

/-- Where something is polled: the TAP thread is not started, and no cut between two lcores
divides the ports of one queue. -/
theorem oneOwner_iff_dvd_cut (hN : 0 < d.nbStreams) :
    OneOwner d ↔ d.createTap = false ∧
      ∀ i, 0 < i → i < d.nbLcores → d.fwdPortsIds.length ∣ d.cut i := by
  have hapart := (Datapath.lcores_apart_iff hN).trans
    (groupsWhole_iff (Datapath.cut_strictMono hN) (Datapath.ports_pos hN))
  constructor
  · intro h
    refine ⟨?_, hapart.mp h.lcores⟩
    by_contra htap
    rw [Bool.not_eq_false] at htap
    -- the first lcore polls the first stream, which is on queue 0
    have hzero : d.cut 0 = 0 := by simp [Datapath.cut, dealt]
    have hfirst := Datapath.cut_strictMono hN Nat.zero_lt_one
    have hpart : InPart d.cut 0 0 := ⟨hzero.le, Nat.lt_of_le_of_lt (Nat.zero_le _) hfirst⟩
    have hlcore := Datapath.lcoreAccesses_of_part hN (Datapath.nbLcores_pos hN) hpart
    rw [Nat.zero_div] at hlcore
    exact h.tap _ 0 hlcore (d.tapAccesses_first htap)
  · rintro ⟨htap, hdvd⟩
    refine ⟨hapart.mpr hdvd, fun buf c _ haccess => ?_⟩
    exact absurd haccess.1 (by simp [htap])

/-- **When every transmit buffer has one owner.**  The TAP thread is not started, or nothing is
polled; and at most one lcore is used, or there is one port, or every lcore's share of the
streams is a multiple of the number of ports and at most one stream is left over. -/
theorem oneOwner_iff :
    OneOwner d ↔
      (d.createTap = false ∨ d.nbStreams = 0) ∧
        (d.nbLcores ≤ 1 ∨ d.fwdPortsIds.length = 1 ∨
          d.fwdPortsIds.length ∣ d.nbStreams / d.nbLcores ∧ d.nbStreams % d.nbLcores ≤ 1) := by
  rcases Nat.eq_zero_or_pos d.nbStreams with hN | hN
  · have hF : d.nbLcores ≤ 1 := by rw [Datapath.nbLcores, hN, Nat.min_zero]; exact Nat.zero_le 1
    refine iff_of_true ⟨?_, ?_⟩ ⟨.inr hN, .inl hF⟩
    · exact fun buf c _ h => absurd h (d.not_lcoreAccesses hN c buf)
    · exact fun buf c h => absurd h (d.not_lcoreAccesses hN c buf)
  · rw [oneOwner_iff_dvd_cut d hN, Datapath.dvd_cut_iff hN, or_iff_left (Nat.pos_iff_ne_zero.mp hN)]

/-- The same in the deployer's terms, where the streams can be counted in 16 bits: the lcores
that are used divide the **queues** among themselves. -/
theorem oneOwner_iff_lcores_dvd (hports : d.fwdPortsIds ≠ [])
    (hlt : d.fwdPortsIds.length * d.nbQ < 65536) :
    OneOwner d ↔
      d.createTap = false ∧ (d.fwdPortsIds.length = 1 ∨ d.nbLcores ∣ d.nbQ) := by
  have hcount : d.nbStreams = d.fwdPortsIds.length * d.nbQ := Nat.mod_eq_of_lt hlt
  have hpos := List.length_pos_of_ne_nil hports
  have hN : 0 < d.nbStreams := hcount ▸ Nat.mul_pos hpos d.nbQ_pos
  rw [oneOwner_iff_dvd_cut d hN, Datapath.dvd_cut_iff hN, hcount]
  refine and_congr_right fun _ => ?_
  exact share_dvd_iff hpos (Datapath.nbLcores_pos hN)

end OneOwner

/-- Two ports with one queue each, polled by two lcores, without a TAP device. -/
def twoLcores : Datapath where
  dm := ⟨false, ∅, 2, default, [default, default]⟩
  fwdPortsIds := [0, 1]
  ids_lt := by decide
  ports_lt := by decide
  nbQ := 1
  nbQ_pos := Nat.one_pos
  nbFwdLcores := 2
  lcores_pos := Nat.two_pos
  lcores_lt := by decide
  topology := .loop
  lports := [0, 1]
  lports_ne := List.cons_ne_nil _ _
  lports_le := by decide
  dpdkPortMac := [default, default]
  length_eq := rfl
  createTap := false

/-- **Two lcores in one buffer.**  Lcore 0 polls port 0 and lcore 1 polls port 1, and a handler
that answers everything on logical port 0 makes both add to `tx_buffer[0][0]`.  On a single
lcore the TAP thread still does. -/
theorem twoLcores_share :
    LcoreAccesses twoLcores 0 (0, 0) ∧ LcoreAccesses twoLcores 1 (0, 0) ∧ ¬ OneOwner twoLcores ∧
      ¬ OneOwner { twoLcores with
        nbFwdLcores := 1
        lcores_pos := Nat.one_pos
        lcores_lt := by decide
        createTap := true } := by
  have hfirst : LcoreAccesses twoLcores 0 (0, 0) :=
    Datapath.lcoreAccesses_of_part (d := twoLcores) (n := 0) (by decide) (by decide)
      ⟨by decide, by decide⟩
  have hsecond : LcoreAccesses twoLcores 1 (0, 0) :=
    Datapath.lcoreAccesses_of_part (d := twoLcores) (n := 1) (by decide) (by decide)
      ⟨by decide, by decide⟩
  refine ⟨hfirst, hsecond, fun h => absurd (h.lcores _ _ _ hfirst hsecond) (by decide), fun h => ?_⟩
  exact absurd ((oneOwner_iff_dvd_cut _ (by decide)).mp h).1 (by decide)

end UdxFastpath.Dpdk
