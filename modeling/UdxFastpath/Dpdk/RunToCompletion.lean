import UdxFastpath.Core.Events

/-!
# DPDK run-to-completion

`run_to_completion` of `lib/core/dpdk/dpdk.cpp`: receive a burst and give every
packet of it to the ARP responder, the fast-path filter and the packet
processor, in that order.

The loop body is three stages, `arpStage`, `filterStage` and `verdictStage`, and
the source lets control fall from each into the next:

* after an ARP frame was written to the TAP or dropped, **and freed**, the same
  buffer goes on to the filter and the packet processor;
* after the filter sent a packet to the kernel, and freed it, it goes on too;
  the filter's second test, `protocol != UDP || protocol != TCP`, is true of
  every packet;
* after an ARP request was answered the loop is left with `break`, and the rest
  of the burst is never looked at.

`LinearBurst` names the bursts that are handled linearly in spite of this.
-/

namespace UdxFastpath.Dpdk

open ByteWindow Disposal

/-- The size of the port arrays `lports`, `tx_buffer` and the worker rings. -/
def RTE_MAX_ETHPORTS : ℕ := 32

/-- The receive side of a `struct fwd_stream`; a port id is an index below
`RTE_MAX_ETHPORTS`. -/
structure FwdStream where
  rxPort : ℕ
  rxQueue : ℕ
  rxPort_lt : rxPort < RTE_MAX_ETHPORTS

/-- What the loop reads besides its stream: the manager, the configured prefix of
the array `lports`, and the registered handler. -/
structure Env (σ : Type*) where
  dm : DataPlaneManager
  lports : List ℕ
  lports_le : lports.length ≤ RTE_MAX_ETHPORTS
  packetProcessor : PacketProcessor σ

variable {σ : Type*}

/-- `send_to_kernel`: aim the frame at the TAP device, write it there, free it. -/
def sendToKernel (dm : DataPlaneManager) (i : ℕ) (b : Window) : List Event × Window :=
  let b := b.store 0 dm.tapMacAddr.toList
  ([.tapWrite i b.bytes, .free i], b)

/-- `rte_eth_tx_buffer` on `tx_buffer[lports[verdict]][fs->rx_queue]`: an index
below `RTE_MAX_ETHPORTS` selects an entry of `lports`, a larger one leaves the
array. -/
def txBuffer (i verdict : ℕ) (b : Window) : List Event :=
  if verdict < RTE_MAX_ETHPORTS then [.transmit i verdict b.bytes] else [.wild i verdict]

/-! ## The loop body -/

/-- The ARP part of the body: its events, the packet after it, and whether the
loop is left. -/
def arpStage (dm : DataPlaneManager) (fs : FwdStream) (i : ℕ) (b : Window) :
    List Event × Window × Bool :=
  if ethProto b 0 = htons PID_ETH_ARP then
    let r := dm.arpHandler b fs.rxPort
    if r.1 = KERNEL then ([.arpHandler i r.1, .tapWrite i r.2.bytes, .free i], r.2, false)
    else if r.1 = DROP then ([.arpHandler i r.1, .free i], r.2, false)
    else (.arpHandler i r.1 :: txBuffer i r.1 r.2, r.2, true)
  else ([], b, false)

/-- The destination port the filter part computes: UDP or TCP, 20 bytes behind
the start of the IP header. -/
def filterPort (b : Window) : ℕ :=
  if ipProtocol b ETH_HLEN = IPPROTO_UDP then
    htons (l4Dest b (ETH_HLEN + DEFAULT_IPV4_HDR_LENGTH))
  else if ipProtocol b ETH_HLEN = IPPROTO_TCP then
    htons (l4Dest b (ETH_HLEN + DEFAULT_IPV4_HDR_LENGTH))
  else 0

/-- The fast-path filter part of the body: three tests, none of which leaves the
iteration. -/
def filterStage (dm : DataPlaneManager) (i : ℕ) (b : Window) : List Event × Window :=
  if dm.fastPathFiltering then
    let r₁ := if ethProto b 0 ≠ htons PID_ETH_IP then sendToKernel dm i b else ([], b)
    let b := r₁.2
    -- true of every protocol number, as written in the source
    let r₂ :=
      if ipProtocol b ETH_HLEN ≠ IPPROTO_UDP ∨ ipProtocol b ETH_HLEN ≠ IPPROTO_TCP then
        sendToKernel dm i b
      else ([], b)
    let b := r₂.2
    let r₃ := if dm.filterPacket (filterPort b) then sendToKernel dm i b else ([], b)
    (r₁.1 ++ r₂.1 ++ r₃.1, r₃.2)
  else ([], b)

/-- The packet processor and the dispatch on its verdict. -/
def verdictStage (env : Env σ) (fs : FwdStream) (i : ℕ) (b : Window) (s : σ) : List Event × σ :=
  let r := env.packetProcessor s b fs.rxPort
  let disposition :=
    if r.1 = KERNEL then (sendToKernel env.dm i r.2.1).1
    else if r.1 = DROP then [.free i]
    else txBuffer i r.1 r.2.1
  (.packetProcessor i r.1 :: disposition, r.2.2)

/-- One iteration: its events, whether the loop is left, and the handler's next
state. -/
def rtcPacket (env : Env σ) (fs : FwdStream) (i : ℕ) (b : Window) (s : σ) :
    List Event × Bool × σ :=
  let a := arpStage env.dm fs i b
  if a.2.2 then (a.1, true, s)
  else
    let f := filterStage env.dm i a.2.1
    let v := verdictStage env fs i f.2 s
    (a.1 ++ f.1 ++ v.1, false, v.2)

/-- The loop over the burst. -/
def rtcLoop (env : Env σ) (fs : FwdStream) (burst : List Window) (s : σ) : List Event × σ :=
  burstLoop (rtcPacket env fs) 0 burst s

/-- `run_to_completion` on the burst the receive call returned: the value it
returns and the trace of the loop.  The flush of the stream's own `tx_buffer`
in front of the loop concerns buffers of earlier calls only. -/
def runToCompletion (env : Env σ) (fs : FwdStream) (burst : List Window) (s : σ) :
    Bool × List Event × σ :=
  if burst = [] then (false, [], s) else (true, rtcLoop env fs burst s)

/-! ## The stages one by one -/

/-- An ARP request for the TAP address: the frame after which the loop breaks. -/
def Answered (dm : DataPlaneManager) (b : Window) : Prop :=
  ethProto b 0 = htons PID_ETH_ARP ∧ dm.AsksForTap b

instance (dm : DataPlaneManager) (b : Window) : Decidable (Answered dm b) :=
  inferInstanceAs (Decidable (_ ∧ _))

section Stages

variable (dm : DataPlaneManager) (env : Env σ) (fs : FwdStream) (i : ℕ) (b : Window) (s : σ)

theorem mem_sendToKernel_free : Event.free i ∈ (sendToKernel dm i b).1 := by
  simp [sendToKernel]

/-- All that `send_to_kernel` does. -/
theorem mem_sendToKernel_cases {e : Event} (h : e ∈ (sendToKernel dm i b).1) :
    (∃ bytes, e = .tapWrite i bytes) ∨ e = .free i := by
  simp only [sendToKernel, List.mem_cons, List.not_mem_nil, or_false] at h
  rcases h with rfl | rfl
  · exact .inl ⟨_, rfl⟩
  · exact .inr rfl

theorem item_of_mem_txBuffer {verdict : ℕ} {e : Event} (h : e ∈ txBuffer i verdict b) :
    e.item = i := by
  unfold txBuffer at h
  split at h <;> (rw [List.mem_singleton] at h; subst h; rfl)

/-- A configured index adds the packet to a `tx_buffer`. -/
theorem txBuffer_of_lt {verdict : ℕ} (h : verdict < RTE_MAX_ETHPORTS) :
    txBuffer i verdict b = [.transmit i verdict b.bytes] :=
  if_pos h

/-- A port id is neither of the two special verdicts. -/
theorem rxPort_ne : fs.rxPort ≠ KERNEL ∧ fs.rxPort ≠ DROP := by
  have := fs.rxPort_lt
  simp only [RTE_MAX_ETHPORTS, KERNEL, DROP] at *
  omega

variable {dm b} in
/-- The answered request: placed in the transmit buffer, and the loop is left. -/
theorem arpStage_of_answered (h : Answered dm b) :
    arpStage dm fs i b =
      ([.arpHandler i fs.rxPort,
          .transmit i fs.rxPort (dm.arpHandler b fs.rxPort).2.bytes],
        (dm.arpHandler b fs.rxPort).2, true) := by
  have hverdict := DataPlaneManager.arpHandler_of_asksForTap h.2 fs.rxPort
  rw [arpStage, if_pos h.1]
  simp only [hverdict, (rxPort_ne fs).1, (rxPort_ne fs).2, if_false,
    txBuffer_of_lt i _ fs.rxPort_lt]

theorem arpStage_of_not_arp (h : ethProto b 0 ≠ htons PID_ETH_ARP) :
    arpStage dm fs i b = ([], b, false) :=
  if_neg h

variable {dm b} in
/-- Every other ARP frame: freed, and the iteration goes on with it. -/
theorem arpStage_of_unanswered (harp : ethProto b 0 = htons PID_ETH_ARP)
    (hask : ¬ dm.AsksForTap b) :
    Event.free i ∈ (arpStage dm fs i b).1 ∧ (arpStage dm fs i b).2.2 = false := by
  rw [arpStage, if_pos harp]
  by_cases hreply : DataPlaneManager.IsArpReply b
  · simp [DataPlaneManager.arpHandler_of_isArpReply hreply]
  · simp [DataPlaneManager.arpHandler_of_neither hask hreply, show DROP ≠ KERNEL by decide]

/-- A frame that is not answered does not end the loop. -/
theorem arpStage_goes_on {dm : DataPlaneManager} {b : Window} (hanswered : ¬ Answered dm b) :
    (arpStage dm fs i b).2.2 = false := by
  by_cases harp : ethProto b 0 = htons PID_ETH_ARP
  · exact (arpStage_of_unanswered fs i harp fun hask => hanswered ⟨harp, hask⟩).2
  · rw [arpStage_of_not_arp dm fs i b harp]

/-- All that the ARP part does: the packet is handed over, or goes to the kernel, or is freed,
or is answered on the port it came from. -/
theorem mem_arpStage_cases {e : Event} (h : e ∈ (arpStage dm fs i b).1) :
    (∃ verdict, e = .arpHandler i verdict) ∨ (∃ bytes, e = .tapWrite i bytes) ∨ e = .free i ∨
      ∃ bytes, e = .transmit i fs.rxPort bytes := by
  by_cases hanswered : Answered dm b
  · rw [arpStage_of_answered fs i hanswered] at h
    simp only [List.mem_cons, List.not_mem_nil, or_false] at h
    rcases h with rfl | rfl
    · exact .inl ⟨_, rfl⟩
    · exact .inr (.inr (.inr ⟨_, rfl⟩))
  · by_cases harp : ethProto b 0 = htons PID_ETH_ARP
    · have hask : ¬ dm.AsksForTap b := fun hask => hanswered ⟨harp, hask⟩
      rw [arpStage, if_pos harp] at h
      by_cases hreply : DataPlaneManager.IsArpReply b
      · simp only [DataPlaneManager.arpHandler_of_isArpReply hreply, if_true, List.mem_cons,
          List.not_mem_nil, or_false] at h
        rcases h with rfl | rfl | rfl
        · exact .inl ⟨_, rfl⟩
        · exact .inr (.inl ⟨_, rfl⟩)
        · exact .inr (.inr (.inl rfl))
      · simp only [DataPlaneManager.arpHandler_of_neither hask hreply, if_true,
          show DROP ≠ KERNEL by decide, if_false, List.mem_cons, List.not_mem_nil, or_false] at h
        rcases h with rfl | rfl
        · exact .inl ⟨_, rfl⟩
        · exact .inr (.inr (.inl rfl))
    · rw [arpStage_of_not_arp dm fs i b harp] at h
      exact absurd h List.not_mem_nil

theorem item_of_mem_arpStage {e : Event} (h : e ∈ (arpStage dm fs i b).1) : e.item = i := by
  rcases mem_arpStage_cases dm fs i b h with ⟨_, rfl⟩ | ⟨_, rfl⟩ | rfl | ⟨_, rfl⟩ <;> rfl

variable {dm} in
/-- **The filter always sends to the kernel.**  Its second test holds of every
protocol number, since no number is both UDP and TCP. -/
theorem mem_filterStage_free (h : dm.fastPathFiltering = true) :
    Event.free i ∈ (filterStage dm i b).1 := by
  have htest : ∀ n : ℕ, n ≠ IPPROTO_UDP ∨ n ≠ IPPROTO_TCP := by
    intro n
    by_cases hn : n = IPPROTO_UDP
    · exact Or.inr (by rw [hn]; decide)
    · exact Or.inl hn
  rw [filterStage, if_pos h]
  simp only [if_pos (htest _), List.mem_append]
  exact Or.inl (Or.inr (mem_sendToKernel_free dm i _))

variable {dm} in
theorem filterStage_of_disabled (h : dm.fastPathFiltering = false) :
    filterStage dm i b = ([], b) := by
  rw [filterStage, if_neg (by simp [h])]

/-- All that the filter does is to send to the kernel, up to three times. -/
theorem mem_filterStage_cases {e : Event} (h : e ∈ (filterStage dm i b).1) :
    (∃ bytes, e = .tapWrite i bytes) ∨ e = .free i := by
  have hite : ∀ (p : Prop) [Decidable p] (c : Window),
      e ∈ (if p then sendToKernel dm i c else ([], c)).1 →
        (∃ bytes, e = .tapWrite i bytes) ∨ e = .free i := by
    intro p _ c hmem
    split at hmem
    · exact mem_sendToKernel_cases dm i c hmem
    · exact absurd hmem List.not_mem_nil
  unfold filterStage at h
  split at h
  · simp only [List.mem_append] at h
    rcases h with (h | h) | h <;> exact hite _ _ h
  · exact absurd h List.not_mem_nil

theorem item_of_mem_filterStage {e : Event} (h : e ∈ (filterStage dm i b).1) : e.item = i := by
  rcases mem_filterStage_cases dm i b h with ⟨_, rfl⟩ | rfl <;> rfl

theorem item_of_mem_verdictStage {e : Event} (h : e ∈ (verdictStage env fs i b s).1) :
    e.item = i := by
  simp only [verdictStage, List.mem_cons] at h
  rcases h with rfl | h
  · rfl
  · split at h
    · rcases mem_sendToKernel_cases env.dm i _ h with ⟨_, rfl⟩ | rfl <;> rfl
    · split at h
      · rw [List.mem_singleton] at h
        subst h
        rfl
      · exact item_of_mem_txBuffer i _ h

/-- A valid verdict disposes of the packet exactly once. -/
theorem disposedOnce_verdictStage (hvalid : ReturnsValid env.packetProcessor env.lports.length) :
    DisposedOnce (verdictStage env fs i b s).1 i := by
  rw [disposedOnce_iff_of_item fun e he => item_of_mem_verdictStage env fs i b s he]
  rcases hvalid s b fs.rxPort with hverdict | hverdict | hverdict
  · simp [verdictStage, hverdict, sendToKernel, NoUseAfterFree, Event.disposes, Event.frees,
      Event.transmits]
  · simp [verdictStage, hverdict, show DROP ≠ KERNEL by decide, NoUseAfterFree, Event.disposes,
      Event.frees, Event.transmits]
  · have hlt := Nat.lt_of_lt_of_le hverdict env.lports_le
    have hne : (env.packetProcessor s b fs.rxPort).1 ≠ KERNEL ∧
        (env.packetProcessor s b fs.rxPort).1 ≠ DROP := by
      simp only [RTE_MAX_ETHPORTS, KERNEL, DROP] at *
      omega
    simp [verdictStage, hne, txBuffer_of_lt i _ hlt, NoUseAfterFree, Event.disposes, Event.frees,
      Event.transmits]

end Stages

/-! ## One iteration -/

section Iteration

variable (env : Env σ) (fs : FwdStream) (i : ℕ) (b : Window) (s : σ)

theorem item_of_mem_rtcPacket {e : Event} (h : e ∈ (rtcPacket env fs i b s).1) : e.item = i := by
  unfold rtcPacket at h
  dsimp only at h
  split at h
  · exact item_of_mem_arpStage env.dm fs i b h
  · simp only [List.mem_append] at h
    rcases h with (h | h) | h
    · exact item_of_mem_arpStage env.dm fs i b h
    · exact item_of_mem_filterStage env.dm i _ h
    · exact item_of_mem_verdictStage env fs i _ s h

/-- The loop is left exactly after an answered request. -/
theorem rtcPacket_breaks_iff : (rtcPacket env fs i b s).2.1 = true ↔ Answered env.dm b := by
  by_cases hanswered : Answered env.dm b
  · simp [rtcPacket, arpStage_of_answered fs i hanswered, hanswered]
  · simp [rtcPacket, arpStage_goes_on fs i hanswered, hanswered]

/-- The iteration that goes on: all three stages, one after the other. -/
theorem rtcPacket_of_continue (h : (arpStage env.dm fs i b).2.2 = false) :
    (rtcPacket env fs i b s).1 =
      (arpStage env.dm fs i b).1 ++ (filterStage env.dm i (arpStage env.dm fs i b).2.1).1 ++
        (verdictStage env fs i (filterStage env.dm i (arpStage env.dm fs i b).2.1).2 s).1 := by
  simp [rtcPacket, h]

/-- A plain packet with the filter off: the verdict alone decides. -/
theorem rtcPacket_of_plain (harp : ethProto b 0 ≠ htons PID_ETH_ARP)
    (hfilter : env.dm.fastPathFiltering = false) :
    (rtcPacket env fs i b s).1 = (verdictStage env fs i b s).1 := by
  have harpStage := arpStage_of_not_arp env.dm fs i b harp
  rw [rtcPacket_of_continue env fs i b s (by rw [harpStage]), harpStage,
    filterStage_of_disabled i b hfilter]
  rfl

/-- The packet processor touches the buffer at the end of every iteration that is
not left early, so a free before it is a use after free. -/
theorem not_noUseAfterFree_rtcPacket (hgo : (arpStage env.dm fs i b).2.2 = false)
    (hfree : Event.free i ∈ (arpStage env.dm fs i b).1 ++
      (filterStage env.dm i (arpStage env.dm fs i b).2.1).1) :
    ¬ NoUseAfterFree Event.item Event.frees (rtcPacket env fs i b s).1 := by
  rw [rtcPacket_of_continue env fs i b s hgo]
  exact not_noUseAfterFree_append Event.item hfree rfl List.mem_cons_self rfl

/-- **One iteration is linear exactly when** the frame is an answered request, or
it is no ARP frame and the filter is off. -/
theorem disposedOnce_rtcPacket_iff
    (hvalid : ReturnsValid env.packetProcessor env.lports.length) :
    DisposedOnce (rtcPacket env fs i b s).1 i ↔
      Answered env.dm b ∨
        ethProto b 0 ≠ htons PID_ETH_ARP ∧ env.dm.fastPathFiltering = false := by
  rw [disposedOnce_iff_of_item fun e he => item_of_mem_rtcPacket env fs i b s he]
  by_cases harp : ethProto b 0 = htons PID_ETH_ARP
  · by_cases hask : env.dm.AsksForTap b
    · -- answered: one transmission, then the loop is left
      have hanswered : Answered env.dm b := ⟨harp, hask⟩
      simp [rtcPacket, arpStage_of_answered fs i hanswered, hanswered, NoUseAfterFree,
        Event.disposes, Event.frees, Event.transmits]
    · -- freed by the ARP part and handed over afterwards
      have hstage := arpStage_of_unanswered fs i harp hask
      have hbad := not_noUseAfterFree_rtcPacket env fs i b s hstage.2
        (List.mem_append_left _ hstage.1)
      simp [hbad, Answered, hask, harp]
  · have harpStage := arpStage_of_not_arp env.dm fs i b harp
    cases hfilter : env.dm.fastPathFiltering with
    | true =>
        -- freed by the filter and handed over afterwards
        have hbad := not_noUseAfterFree_rtcPacket env fs i b s (by rw [harpStage])
          (List.mem_append_right _ (mem_filterStage_free i _ hfilter))
        simp [hbad, Answered, harp]
    | false =>
        have hitem : ∀ e ∈ (verdictStage env fs i b s).1, e.item = i :=
          fun e he => item_of_mem_verdictStage env fs i b s he
        rw [rtcPacket_of_plain env fs i b s harp hfilter, ← disposedOnce_iff_of_item hitem]
        simp [disposedOnce_verdictStage env fs i b s hvalid, harp]

end Iteration

/-! ## The burst -/

section Burst

variable (env : Env σ) (fs : FwdStream)

theorem item_lt_of_mem_rtcLoop (burst : List Window) (s : σ) :
    ∀ e ∈ (rtcLoop env fs burst s).1, e.item < burst.length := by
  intro e he
  have := item_of_mem_burstLoop (fun i b s e => item_of_mem_rtcPacket env fs i b s) burst 0 s he
  omega

/-- A frame the loop reaches goes through one iteration. -/
theorem eventsOf_rtcLoop_of_reached (burst : List Window) (s : σ) {i : ℕ} {b : Window}
    (hget : burst[i]? = some b) (hreach : Reached (Answered env.dm) burst i) :
    ∃ s', eventsOf (rtcLoop env fs burst s).1 i = (rtcPacket env fs i b s').1 := by
  have h := onItem_burstLoop_of_reached (fun i b s e => item_of_mem_rtcPacket env fs i b s)
    (fun i b s => (rtcPacket_breaks_iff env fs i b s).mp) burst 0 i s hget hreach
  rwa [Nat.zero_add] at h

/-- A frame behind an answered request goes through none. -/
theorem eventsOf_rtcLoop_of_not_reached (burst : List Window) (s : σ) {i : ℕ}
    (hbroken : ¬ Reached (Answered env.dm) burst i) :
    eventsOf (rtcLoop env fs burst s).1 i = [] := by
  have h := onItem_burstLoop_of_not_reached (fun i b s e => item_of_mem_rtcPacket env fs i b s)
    (fun i b s => (rtcPacket_breaks_iff env fs i b s).mpr) burst 0 i s hbroken
  rwa [Nat.zero_add] at h

/-- The trace of a call is the trace of its loop; an empty burst has none. -/
theorem runToCompletion_trace (burst : List Window) (s : σ) :
    (runToCompletion env fs burst s).2.1 = (rtcLoop env fs burst s).1 := by
  rw [runToCompletion]
  split
  · rename_i h
    subst h
    rfl
  · rfl

end Burst

/-- The bursts that are handled linearly: only the last frame may be an ARP
frame, and then it is a request for the TAP address; every other frame needs the
filter to be off. -/
def LinearBurst (dm : DataPlaneManager) (burst : List Window) : Prop :=
  ∀ j b, burst[j]? = some b →
    if ethProto b 0 = htons PID_ETH_ARP then dm.AsksForTap b ∧ j + 1 = burst.length
    else dm.fastPathFiltering = false

section Burst

variable (env : Env σ) (fs : FwdStream)

/-- In a linear burst the loop reaches every frame. -/
theorem LinearBurst.reached {dm : DataPlaneManager} {burst : List Window}
    (h : LinearBurst dm burst) {j : ℕ} (hj : j < burst.length) : Reached (Answered dm) burst j := by
  intro j' hj' b' hget hanswered
  have hlast := h j' b' hget
  rw [if_pos hanswered.1] at hlast
  omega

/-- …so that every frame goes through one iteration. -/
theorem LinearBurst.exists_eventsOf {burst : List Window} (h : LinearBurst env.dm burst) (s : σ)
    {i : ℕ} {b : Window} (hget : burst[i]? = some b) :
    ∃ s', eventsOf (rtcLoop env fs burst s).1 i = (rtcPacket env fs i b s').1 := by
  have hi : i < burst.length := (List.getElem?_eq_some_iff.mp hget).1
  exact eventsOf_rtcLoop_of_reached env fs burst s hget (h.reached hi)

/-- Each frame of a linear burst is disposed of once. -/
theorem LinearBurst.disposedOnce {burst : List Window} (h : LinearBurst env.dm burst) (s : σ)
    (hvalid : ReturnsValid env.packetProcessor env.lports.length) {i : ℕ}
    (hi : i < burst.length) : DisposedOnce (rtcLoop env fs burst s).1 i := by
  have hget := List.getElem?_eq_getElem hi
  obtain ⟨s', hevents⟩ := h.exists_eventsOf env fs s hget
  have hframe := h i _ hget
  rw [disposedOnce_iff_of_eventsOf hevents, disposedOnce_rtcPacket_iff env fs i _ s' hvalid]
  by_cases harp : ethProto burst[i] 0 = htons PID_ETH_ARP
  · rw [if_pos harp] at hframe
    exact Or.inl ⟨harp, hframe.1⟩
  · rw [if_neg harp] at hframe
    exact Or.inr ⟨harp, hframe⟩

/-- No ARP frame of a linear burst reaches the packet processor. -/
theorem LinearBurst.not_handed {burst : List Window} (h : LinearBurst env.dm burst) (s : σ)
    {i : ℕ} {b : Window} (hget : burst[i]? = some b) (harp : ethProto b 0 = htons PID_ETH_ARP) :
    ¬ Handed (rtcLoop env fs burst s).1 i := by
  obtain ⟨s', hevents⟩ := h.exists_eventsOf env fs s hget
  have hframe := h i b hget
  rw [if_pos harp] at hframe
  rintro ⟨e, he, hhands⟩
  rw [hevents, rtcPacket, arpStage_of_answered fs i ⟨harp, hframe.1⟩] at he
  simp only [if_true, List.mem_cons, List.not_mem_nil, or_false] at he
  rcases he with rfl | rfl <;> simp [Event.hands] at hhands

/-- Conversely, a burst each frame of which is disposed of once is linear. -/
theorem linearBurst_of_disposedOnce {burst : List Window} {s : σ}
    (hvalid : ReturnsValid env.packetProcessor env.lports.length)
    (honce : ∀ i < burst.length, DisposedOnce (rtcLoop env fs burst s).1 i) :
    LinearBurst env.dm burst := by
  -- a frame behind a break would have no disposition at all
  have hreached : ∀ i < burst.length, Reached (Answered env.dm) burst i := by
    intro i hi
    by_contra hbroken
    have hnil := eventsOf_rtcLoop_of_not_reached env fs burst s hbroken
    exact not_disposedOnce_of_eventsOf_nil hnil (honce i hi)
  intro j b hget
  have hj : j < burst.length := (List.getElem?_eq_some_iff.mp hget).1
  obtain ⟨s', hevents⟩ := eventsOf_rtcLoop_of_reached env fs burst s hget (hreached j hj)
  have hdisposed := (disposedOnce_iff_of_eventsOf hevents).mp (honce j hj)
  rcases (disposedOnce_rtcPacket_iff env fs j b s' hvalid).mp hdisposed with h | h
  · rw [if_pos h.1]
    refine ⟨h.2, ?_⟩
    by_contra hmore
    exact hreached (j + 1) (by omega) j (by omega) b hget h
  · rw [if_neg h.1]
    exact h.2

/-- **Exactly the linear bursts are disposed of linearly.**  Every buffer of the
burst gets exactly one disposition, none is touched after it was freed and no ARP
frame reaches the packet processor, if and only if the burst is linear. -/
theorem runToCompletion_disposes_iff (burst : List Window) (s : σ)
    (hvalid : ReturnsValid env.packetProcessor env.lports.length) :
    (UsedLinearly (runToCompletion env fs burst s).2.1 burst.length ∧
        ∀ i b, burst[i]? = some b → ethProto b 0 = htons PID_ETH_ARP →
          ¬ Handed (runToCompletion env fs burst s).2.1 i) ↔
      LinearBurst env.dm burst := by
  rw [runToCompletion_trace, usedLinearly_iff (item_lt_of_mem_rtcLoop env fs burst s)]
  constructor
  · rintro ⟨honce, -⟩
    exact linearBurst_of_disposedOnce env fs hvalid honce
  · intro hlinear
    refine ⟨fun i hi => ?_, fun i b hget harp => ?_⟩
    · exact hlinear.disposedOnce env fs s hvalid hi
    · exact hlinear.not_handed env fs s hget harp

end Burst

/-! ## A burst the loop does not finish -/

/-- One logical port, no filter, TAP address `1.0.0.0`, and a handler that
forwards everything to port `0`. -/
def forwardAll : Env Unit where
  dm := ⟨false, ∅, 1, default, [default]⟩
  lports := [0]
  lports_le := by decide
  packetProcessor := fun s b _ => (0, b, s)

theorem forwardAll_returnsValid :
    ReturnsValid forwardAll.packetProcessor forwardAll.lports.length :=
  fun _ _ _ => Or.inr (Or.inr Nat.zero_lt_one)

/-- The stream of port `0`, queue `0`. -/
def stream₀ : FwdStream := ⟨0, 0, by decide⟩

/-- **An answered request strands the rest of the burst.**  A request for the TAP
address followed by a UDP packet: the second buffer is neither freed nor queued. -/
theorem runToCompletion_strands_burst :
    ReturnsValid forwardAll.packetProcessor forwardAll.lports.length ∧
      ¬ UsedLinearly
        (runToCompletion forwardAll stream₀ [arpFrame 1 1, udpFrame 2152] ()).2.1 2 :=
  ⟨forwardAll_returnsValid, by decide⟩

/-- The iff at a burst that is linear: a UDP packet, then a request for the TAP
address. -/
theorem runToCompletion_disposes_udp_then_arp :
    UsedLinearly (runToCompletion forwardAll stream₀ [udpFrame 2152, arpFrame 1 1] ()).2.1 2 :=
  ((runToCompletion_disposes_iff forwardAll stream₀ [udpFrame 2152, arpFrame 1 1] ()
    forwardAll_returnsValid).mpr (by
      intro j b hget
      rcases j with _ | _ | j
      · obtain rfl : udpFrame 2152 = b := Option.some.inj hget
        decide
      · obtain rfl : arpFrame 1 1 = b := Option.some.inj hget
        decide
      · simp at hget)).1

end UdxFastpath.Dpdk
