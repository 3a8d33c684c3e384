import UdxFastpath.Core.Events

/-!
# CNDP run-to-completion

`run_to_completion` of `lib/core/cndp/cndp.cpp`: receive a burst, dispose of
every packet of it, then flush the transmit buffers of all logical ports.

Unlike its DPDK counterpart the body ends every branch with `continue` or
`break` out of the `switch`, so each iteration is **one** disposition
(`exists_endsIn_rtcPacket`), and linear use of the burst follows by the loop rule
alone.

The transmit buffers are `txbuff_t`s of the CNDP library; `BufferedSink` states
what is assumed of them.  `txbuff_add` is an effect of a `transmit` event
(`txbuffAdd`), and the loop at the end of the call is `drainAll`.
-/

namespace UdxFastpath.Cndp

open ByteWindow Disposal

/-- `jcfg_lport_t`: the id is all the loop uses. -/
structure JcfgLport where
  lpid : ℕ
  deriving DecidableEq, Repr

/-- The lport list of a parsed configuration.  `jcfg` numbers the lports
consecutively in list order. -/
structure JcfgInfo where
  lportList : List JcfgLport
  lpid_eq : ∀ (i : ℕ) (lport : JcfgLport), lportList[i]? = some lport → lport.lpid = i

/-- What the loop reads: the manager, the lport list, the receiving lport and the
registered handler. -/
structure Env (σ : Type*) where
  dm : DataPlaneManager
  jinfo : JcfgInfo
  lport : JcfgLport
  lport_lt : lport.lpid < jinfo.lportList.length
  packetProcessor : PacketProcessor σ

variable {σ S : Type*}

/-! ## The loop body -/

/-- The ARP branch. -/
def arpStage (env : Env σ) (i : ℕ) (b : Window) : List Event :=
  let r := env.dm.arpHandler b env.lport.lpid
  if r.1 = KERNEL then
    [.arpHandler i r.1, .tapWrite i (prependData r.2 4).bytes, .free i]
  else if r.1 = DROP then [.arpHandler i r.1, .free i]
  else [.arpHandler i r.1, .transmit i env.lport.lpid r.2.bytes]

/-- The branch of a filtered packet.  `ethhdr` is taken before the prefix is
prepended, so it still points at the frame afterwards. -/
def filteredStage (dm : DataPlaneManager) (i : ℕ) (b : Window) : List Event :=
  let c := prependData b PI_LEN
  -- the frame starts where the data started before the prefix
  let c := c.store (b.off - c.off) dm.tapMacAddr.toList
  [.tapWrite i c.bytes, .free i]

/-- The frame written for a `KERNEL` verdict.  Here `ethhdr` is taken after the
prefix was prepended, so it points at the prefix. -/
def kernelFrame (dm : DataPlaneManager) (b : Window) : Window :=
  (prependData b 4).store 0 dm.tapMacAddr.toList

/-- The packet processor and the `switch` on its verdict. -/
def verdictStage (env : Env σ) (i : ℕ) (b : Window) (s : σ) : List Event × σ :=
  let r := env.packetProcessor s b env.lport.lpid
  let disposition :=
    if r.1 = KERNEL then [.tapWrite i (kernelFrame env.dm r.2.1).bytes, .free i]
    else if r.1 = DROP then [.free i]
    else
      match env.jinfo.lportList[r.1]? with
      | some dstVerdict => [.transmit i dstVerdict.lpid r.2.1.bytes]
      | none => [.wild i r.1]
  (.packetProcessor i r.1 :: disposition, r.2.2)

/-- The packet is diverted to the kernel by the filter. -/
def Diverted (dm : DataPlaneManager) (b : Window) : Prop :=
  dm.fastPathFiltering = true ∧ dm.filterPacket (getPacketPortNumber b) = false

instance (dm : DataPlaneManager) (b : Window) : Decidable (Diverted dm b) :=
  inferInstanceAs (Decidable (_ ∧ _))

/-- One iteration of the loop. -/
def rtcPacket (env : Env σ) (i : ℕ) (b : Window) (s : σ) : List Event × σ :=
  if getEtherType b = .l2EtherArp then (arpStage env i b, s)
  else if Diverted env.dm b then (filteredStage env.dm i b, s)
  else verdictStage env i b s

/-! ## The call -/

/-- The effect of an event on the transmit buffers: `txbuff_add`. -/
def txbuffAdd (sink : BufferedSink ℕ S) (txbuff : ℕ → S) : Event → ℕ → S
  | .transmit i port _ => Function.update txbuff port (sink.add (txbuff port) i)
  | _ => txbuff

/-- One iteration with the transmit buffers; the loop is never left early. -/
def rtcBody (env : Env σ) (sink : BufferedSink ℕ S) (i : ℕ) (b : Window) (st : (ℕ → S) × σ) :
    List Event × Bool × (ℕ → S) × σ :=
  let r := rtcPacket env i b st.2
  (r.1, false, r.1.foldl (txbuffAdd sink) st.1, r.2)

/-- Flush the transmit buffer of lport `i` until it is empty. -/
def drainLport (jinfo : JcfgInfo) (sink : BufferedSink ℕ S) (txbuff : ℕ → S) (i : ℕ) : ℕ → S :=
  match jinfo.lportList[i]? with
  | some dst => Function.update txbuff dst.lpid (sink.drain (txbuff dst.lpid))
  | none => txbuff

/-- …for every lport of the list. -/
def drainAll (jinfo : JcfgInfo) (sink : BufferedSink ℕ S) (txbuff : ℕ → S) : ℕ → S :=
  (List.range jinfo.lportList.length).foldl (drainLport jinfo sink) txbuff

/-- What a call leaves behind. -/
structure Outcome (S σ : Type*) where
  ret : ℤ
  trace : List Event
  txbuff : ℕ → S
  app : σ

/-- `run_to_completion` on what `__rx_burst` returned; `none` stands for
`PKTDEV_ADMIN_STATE_DOWN`. -/
def runToCompletion (env : Env σ) (sink : BufferedSink ℕ S) (rx : Option (List Window))
    (txbuff : ℕ → S) (s : σ) : Outcome S σ :=
  match rx with
  | none => ⟨-1, [], txbuff, s⟩
  | some burst =>
      let r := burstLoop (rtcBody env sink) 0 burst (txbuff, s)
      ⟨burst.length, r.1, drainAll env.jinfo sink r.2.1, r.2.2⟩

/-! ## One iteration -/

section Iteration

variable (env : Env σ) (i : ℕ) (b : Window) (s : σ)

theorem item_of_mem_verdictStage {e : Event} (h : e ∈ (verdictStage env i b s).1) :
    e.item = i := by
  simp only [verdictStage, List.mem_cons] at h
  rcases h with rfl | h
  · rfl
  · split_ifs at h
    · simp only [List.mem_cons, List.not_mem_nil, or_false] at h
      rcases h with rfl | rfl <;> rfl
    · rw [List.mem_singleton.mp h, Event.item_free]
    · split at h <;> (rw [List.mem_singleton] at h; subst h; rfl)

theorem item_of_mem_rtcPacket {e : Event} (h : e ∈ (rtcPacket env i b s).1) : e.item = i := by
  rw [rtcPacket] at h
  split_ifs at h
  · simp only [arpStage] at h
    split_ifs at h <;> simp only [List.mem_cons, List.not_mem_nil, or_false] at h
    · rcases h with rfl | rfl | rfl <;> rfl
    · rcases h with rfl | rfl <;> rfl
    · rcases h with rfl | rfl <;> rfl
  · simp only [filteredStage, List.mem_cons, List.not_mem_nil, or_false] at h
    rcases h with rfl | rfl <;> rfl
  · exact item_of_mem_verdictStage env i b s h

/-- The ARP branch disposes of the frame once, whatever the responder said. -/
theorem exists_endsIn_arpStage : ∃ last, EndsIn (arpStage env i b) i last := by
  simp only [arpStage]
  split
  · exact ⟨.free i, rfl, rfl, [_, _], rfl, by simp⟩
  · split
    · exact ⟨.free i, rfl, rfl, [_], rfl, by simp⟩
    · exact ⟨.transmit i _ _, rfl, rfl, [_], rfl, by simp⟩

/-- A valid verdict disposes of the packet once. -/
theorem exists_endsIn_verdictStage
    (hvalid : ReturnsValid env.packetProcessor env.jinfo.lportList.length) :
    ∃ last, EndsIn (verdictStage env i b s).1 i last := by
  simp only [verdictStage]
  split
  · exact ⟨.free i, rfl, rfl, [_, _], rfl, by simp⟩
  · split
    · exact ⟨.free i, rfl, rfl, [_], rfl, by simp⟩
    · rename_i hkernel hdrop
      have hlt := ((hvalid s b env.lport.lpid).resolve_left hkernel).resolve_left hdrop
      rw [List.getElem?_eq_getElem hlt]
      exact ⟨.transmit i _ _, rfl, rfl, [_], rfl, by simp⟩

/-- **Every iteration is one disposition.** -/
theorem exists_endsIn_rtcPacket
    (hvalid : ReturnsValid env.packetProcessor env.jinfo.lportList.length) :
    ∃ last, EndsIn (rtcPacket env i b s).1 i last := by
  rw [rtcPacket]
  split
  · exact exists_endsIn_arpStage env i b
  · split
    · exact ⟨.free i, rfl, rfl, [_], rfl, by simp⟩
    · exact exists_endsIn_verdictStage env i b s hvalid

/-- Where an iteration may send its packet: an ARP answer back to the receiving
lport, anything else to the lport of its verdict. -/
theorem destination_of_mem_rtcPacket {j port : ℕ} {bytes : List UInt8}
    (h : Event.transmit j port bytes ∈ (rtcPacket env i b s).1) :
    if getEtherType b = .l2EtherArp then port = env.lport.lpid
    else ∃ verdict dst, Event.packetProcessor i verdict ∈ (rtcPacket env i b s).1 ∧
      env.jinfo.lportList[verdict]? = some dst ∧ port = dst.lpid := by
  by_cases harp : getEtherType b = .l2EtherArp
  · rw [if_pos harp]
    rw [rtcPacket, if_pos harp] at h
    simp only [arpStage] at h
    split_ifs at h <;> simp at h
    exact h.2.1
  · rw [if_neg harp]
    rw [rtcPacket, if_neg harp] at h ⊢
    split at h
    · simp [filteredStage] at h
    · rename_i hdiverted
      rw [if_neg hdiverted]
      refine ⟨(env.packetProcessor s b env.lport.lpid).1, ?_⟩
      simp only [verdictStage, List.mem_cons, reduceCtorEq, false_or] at h
      split_ifs at h with hkernel hdrop
      · simp at h
      · simp at h
      · split at h
        · rename_i dst hdst
          simp only [List.mem_singleton, Event.transmit.injEq] at h
          exact ⟨dst, List.mem_cons_self, hdst, h.2.1⟩
        · simp at h

end Iteration

/-! ## The transmit buffers -/

section Buffers

variable (env : Env σ) (sink : BufferedSink ℕ S)

/-- The transmit buffer of a port logs exactly the buffers sent to that port. -/
theorem log_foldl_txbuffAdd (evs : List Event) (port : ℕ) :
    ∀ txbuff : ℕ → S,
      sink.log (evs.foldl (txbuffAdd sink) txbuff port) =
        sink.log (txbuff port) ++ sentTo evs port := by
  induction evs with
  | nil => intro txbuff; simp
  | cons e rest ih =>
      intro txbuff
      rw [List.foldl_cons, ih]
      cases e with
      | transmit i p bytes =>
          by_cases hp : p = port
          · subst hp
            simp [txbuffAdd, sentTo]
          · simp [txbuffAdd, sentTo, hp, Function.update_of_ne (Ne.symm hp)]
      | _ => simp [txbuffAdd, sentTo]

/-- …and over the whole loop. -/
theorem log_burstLoop (burst : List Window) (port : ℕ) :
    ∀ (i : ℕ) (st : (ℕ → S) × σ),
      sink.log ((burstLoop (rtcBody env sink) i burst st).2.1 port) =
        sink.log (st.1 port) ++ sentTo (burstLoop (rtcBody env sink) i burst st).1 port := by
  induction burst with
  | nil => intro i st; simp [burstLoop]
  | cons b rest ih =>
      intro i st
      simp only [burstLoop, rtcBody, Bool.false_eq_true, if_false]
      rw [ih, log_foldl_txbuffAdd, sentTo_append, List.append_assoc]

/-- Draining the first `n` lports empties their buffers and logs nothing new. -/
theorem drain_range (jinfo : JcfgInfo) (txbuff : ℕ → S) :
    ∀ n ≤ jinfo.lportList.length,
      (∀ port < n, sink.pending ((List.range n).foldl (drainLport jinfo sink) txbuff port) = []) ∧
        ∀ port, sink.log ((List.range n).foldl (drainLport jinfo sink) txbuff port) =
          sink.log (txbuff port) := by
  intro n
  induction n with
  | zero => intro _; simp
  | succ n ih =>
      intro hn
      obtain ⟨hpending, hlog⟩ := ih (by omega)
      have hget : jinfo.lportList[n]? = some jinfo.lportList[n] := List.getElem?_eq_getElem hn
      have hlpid := jinfo.lpid_eq n _ hget
      have hstep : (List.range (n + 1)).foldl (drainLport jinfo sink) txbuff =
          Function.update ((List.range n).foldl (drainLport jinfo sink) txbuff) n
            (sink.drain ((List.range n).foldl (drainLport jinfo sink) txbuff n)) := by
        rw [List.range_succ, List.foldl_append, List.foldl_cons, List.foldl_nil, drainLport, hget]
        simp only [hlpid]
      -- lport `n` is drained, all others are as the first `n` rounds left them
      rw [hstep]
      refine ⟨fun port hport => ?_, fun port => ?_⟩
      · by_cases hp : port = n
        · subst hp
          rw [Function.update_self, sink.pending_drain]
        · rw [Function.update_of_ne hp]
          exact hpending port (by omega)
      · by_cases hp : port = n
        · subst hp
          rw [Function.update_self, sink.log_drain, hlog]
        · rw [Function.update_of_ne hp, hlog]

end Buffers

/-! ## The burst -/

section Burst

variable (env : Env σ) (sink : BufferedSink ℕ S)

theorem item_of_mem_rtcBody :
    ∀ i b (st : (ℕ → S) × σ), ∀ e ∈ (rtcBody env sink i b st).1, e.item = i :=
  fun i b st _ he => item_of_mem_rtcPacket env i b st.2 he

/-- The trace of a call is the trace of its loop. -/
theorem runToCompletion_trace (burst : List Window) (txbuff : ℕ → S) (s : σ) :
    (runToCompletion env sink (some burst) txbuff s).trace =
      (burstLoop (rtcBody env sink) 0 burst (txbuff, s)).1 := rfl

/-- Every packet of the burst goes through one iteration. -/
theorem exists_eventsOf_burstLoop (burst : List Window) (st : (ℕ → S) × σ) {i : ℕ} {b : Window}
    (hget : burst[i]? = some b) :
    ∃ s', eventsOf (burstLoop (rtcBody env sink) 0 burst st).1 i = (rtcPacket env i b s').1 := by
  have hall : Reached (fun _ : Window => False) burst i := fun _ _ _ _ => id
  obtain ⟨st', h⟩ := onItem_burstLoop_of_reached (item_of_mem_rtcBody env sink)
    (fun _ _ _ h => Bool.false_ne_true h) burst 0 i st hget hall
  rw [Nat.zero_add] at h
  exact ⟨st'.2, h⟩

/-- The buffers sent to one port leave in the order they were received. -/
theorem pairwise_sentTo_burstLoop
    (hvalid : ReturnsValid env.packetProcessor env.jinfo.lportList.length) (burst : List Window)
    (port : ℕ) :
    ∀ (i : ℕ) (st : (ℕ → S) × σ),
      (sentTo (burstLoop (rtcBody env sink) i burst st).1 port).Pairwise (· < ·) := by
  induction burst with
  | nil => intro i st; exact List.Pairwise.nil
  | cons b rest ih =>
      intro i st
      simp only [burstLoop, rtcBody, Bool.false_eq_true, if_false, sentTo_append]
      obtain ⟨last, hlast⟩ := exists_endsIn_rtcPacket env i b st.2 hvalid
      refine List.pairwise_append.mpr ⟨?_, ih _ _, fun j hj k hk => ?_⟩
      · rcases hlast.sentTo_eq port with h | h <;> simp [h]
      · -- what this iteration sends has index `i`, what the rest sends a larger one
        have hji : j = i := by
          rcases hlast.sentTo_eq port with h | h <;> simp [h] at hj
          exact hj
        obtain ⟨e, he, rfl⟩ := exists_item_of_mem_sentTo hk
        have := item_of_mem_burstLoop (item_of_mem_rtcBody env sink) rest (i + 1) _ he
        omega

/-- Every buffer of the burst is disposed of once and not used afterwards. -/
theorem usedLinearly_burstLoop
    (hvalid : ReturnsValid env.packetProcessor env.jinfo.lportList.length) (burst : List Window)
    (st : (ℕ → S) × σ) :
    UsedLinearly (burstLoop (rtcBody env sink) 0 burst st).1 burst.length := by
  have hlt : ∀ e ∈ (burstLoop (rtcBody env sink) 0 burst st).1, e.item < burst.length := by
    intro e he
    have := item_of_mem_burstLoop (item_of_mem_rtcBody env sink) burst 0 _ he
    omega
  refine (usedLinearly_iff hlt).mpr fun i hi => ?_
  obtain ⟨s', hevents⟩ := exists_eventsOf_burstLoop env sink burst st
    (List.getElem?_eq_getElem hi)
  obtain ⟨last, hlast⟩ := exists_endsIn_rtcPacket env i burst[i] s' hvalid
  exact (disposedOnce_iff_of_eventsOf hevents).mpr hlast.disposedOnce

/-- Where the loop sends a buffer: to an lport of the list, as its iteration says. -/
theorem destination_of_mem_burstLoop (burst : List Window) (st : (ℕ → S) × σ) {i port : ℕ}
    {b : Window} {bytes : List UInt8} (hget : burst[i]? = some b)
    (hmem : Event.transmit i port bytes ∈ (burstLoop (rtcBody env sink) 0 burst st).1) :
    port < env.jinfo.lportList.length ∧
      if getEtherType b = .l2EtherArp then port = env.lport.lpid
      else ∃ verdict dst,
        Event.packetProcessor i verdict ∈ (burstLoop (rtcBody env sink) 0 burst st).1 ∧
          env.jinfo.lportList[verdict]? = some dst ∧ port = dst.lpid := by
  obtain ⟨s', hevents⟩ := exists_eventsOf_burstLoop env sink burst st hget
  have hown : Event.transmit i port bytes ∈ (rtcPacket env i b s').1 := by
    rw [← hevents]
    exact (mem_onItem Event.item).mpr ⟨hmem, rfl⟩
  have hdest := destination_of_mem_rtcPacket env i b s' hown
  by_cases harp : getEtherType b = .l2EtherArp
  · rw [if_pos harp] at hdest ⊢
    exact ⟨hdest ▸ env.lport_lt, hdest⟩
  · rw [if_neg harp] at hdest ⊢
    obtain ⟨verdict, dst, hhanded, hdst, hport⟩ := hdest
    have hlt : dst.lpid < env.jinfo.lportList.length := by
      rw [env.jinfo.lpid_eq verdict dst hdst]
      exact (List.getElem?_eq_some_iff.mp hdst).1
    rw [← hevents] at hhanded
    exact ⟨hport ▸ hlt, verdict, dst, ((mem_onItem Event.item).mp hhanded).1, hdst, hport⟩

end Burst

/-- A transmit buffer whose flush hands everything to the device. -/
def directSink : BufferedSink ℕ (List ℕ × List ℕ) where
  add st a := (st.1, st.2 ++ [a])
  flush st := (st.1 ++ st.2, [])
  pending := Prod.snd
  emitted := Prod.fst
  add_log _ _ := (List.append_assoc ..).symm
  flush_log _ := List.append_nil _
  flush_progress _ h := List.length_pos_iff.mpr h

/-- One lport, no filter, TAP address `1.0.0.0`, and a handler that forwards
everything to lport `0`. -/
def forwardAll : Env Unit where
  dm := ⟨false, ∅, 1, default, [default]⟩
  jinfo := ⟨[⟨0⟩], fun i lport h => by
    rcases i with _ | i
    · exact congrArg JcfgLport.lpid (Option.some.inj h).symm
    · simp at h⟩
  lport := ⟨0⟩
  lport_lt := by decide
  packetProcessor := fun s b _ => (0, b, s)

theorem forwardAll_returnsValid :
    ReturnsValid forwardAll.packetProcessor forwardAll.jinfo.lportList.length :=
  fun _ _ _ => Or.inr (Or.inr Nat.zero_lt_one)

end UdxFastpath.Cndp
