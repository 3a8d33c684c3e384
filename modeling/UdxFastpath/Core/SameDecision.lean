import UdxFastpath.Cndp.KernelFrame
import UdxFastpath.Core.Worker
import UdxFastpath.Dpdk.RunToCompletion

/-!
# Do the two models take the same decision?

Each backend has the dispatch of a packet written out twice, in `run_to_completion`
and in its worker.  What an iteration **decides** is read off its events: the one
packet it sends out, or nothing; and there is no decision where the events do not
make sense as one, because a freed buffer is used or an array is left.

`Cndp.Agrees` and `Dpdk.Agrees` say exactly for which packets the two loops of a
backend decide alike.  Where they part:

* a worker puts the **first** buffer of its array on the ring, so behind the first
  position the right port gets the wrong bytes;
* a worker ignores the filtering flag and drops what is for no fast-path port;
* a CNDP worker answers an ARP reply on the wire, a DPDK worker indexes its rings
  with `KERNEL`;
* CNDP `run_to_completion` diverts the fast-path ports when filtering is enabled, and
  aims a packet for the kernel at the TAP device four bytes too early;
* DPDK `run_to_completion` goes on with buffers it has freed.
-/

namespace UdxFastpath

open ByteWindow Disposal

/-! ## Decisions -/

/-- What becomes of a packet. -/
inductive Disposition
  | transmit (port : ℕ) (bytes : List UInt8)
  | tap (bytes : List UInt8)
  | drop
  deriving DecidableEq

/-- What an event sends out.  The first `pi` bytes of a TAP frame are its packet
information prefix. -/
def outward (pi : ℕ) : Event → Option Disposition
  | .transmit _ port bytes => some (.transmit port bytes)
  | .tapWrite _ bytes => some (.tap (bytes.drop pi))
  | _ => none

/-- The event leaves an array. -/
def Event.isWild : Event → Bool
  | wild _ _ => true
  | _ => false

/-- The decision an iteration took, if it took one. -/
def disposition (pi : ℕ) (evs : List Event) : Option Disposition :=
  if NoUseAfterFree Event.item Event.frees evs ∧ ∀ e ∈ evs, e.isWild = false then
    match evs.filterMap (outward pi) with
    | [] => some .drop
    | [d] => some d
    | _ => none
  else none

/-- Both loops took a decision, and it is the same. -/
def SameDecision (rtc worker : Option Disposition) : Prop := ∃ d, rtc = some d ∧ worker = some d

theorem sameDecision_some_iff (d d' : Disposition) :
    SameDecision (some d) (some d') ↔ d = d' := by
  constructor
  · rintro ⟨e, he, he'⟩
    rw [Option.some.inj he, Option.some.inj he']
  · rintro rfl
    exact ⟨d, rfl, rfl⟩

theorem not_sameDecision_none_left (worker : Option Disposition) : ¬ SameDecision none worker := by
  rintro ⟨d, hd, -⟩
  cases hd

theorem not_sameDecision_none_right (rtc : Option Disposition) : ¬ SameDecision rtc none := by
  rintro ⟨d, -, hd⟩
  cases hd

section Reading

variable (pi i v k : ℕ) (bytes : List UInt8)

/-- Asking somebody about a packet decides nothing yet: an event that neither sends,
frees nor goes astray can be left out. -/
theorem disposition_cons_of_silent {e : Event} (hout : outward pi e = none)
    (hfrees : e.frees = false) (hwild : e.isWild = false) (evs : List Event) :
    disposition pi (e :: evs) = disposition pi evs := by
  have hclean : NoUseAfterFree Event.item Event.frees (e :: evs) ↔
      NoUseAfterFree Event.item Event.frees evs := by
    simp [NoUseAfterFree, hfrees]
  have htame : (∀ e' ∈ e :: evs, e'.isWild = false) ↔ ∀ e' ∈ evs, e'.isWild = false := by
    simp [hwild]
  rw [disposition, disposition, List.filterMap_cons_none hout]
  simp only [hclean, htame]

@[simp] theorem disposition_cons_arpHandler (evs : List Event) :
    disposition pi (.arpHandler i v :: evs) = disposition pi evs :=
  disposition_cons_of_silent pi rfl rfl rfl evs

@[simp] theorem disposition_cons_packetProcessor (evs : List Event) :
    disposition pi (.packetProcessor i v :: evs) = disposition pi evs :=
  disposition_cons_of_silent pi rfl rfl rfl evs

@[simp] theorem disposition_tap :
    disposition pi [.tapWrite i bytes, .free i] = some (.tap (bytes.drop pi)) := by
  rw [disposition, if_pos (by simp [NoUseAfterFree, Event.frees, Event.isWild])]
  rfl

@[simp] theorem disposition_free : disposition pi [.free i] = some .drop := by
  rw [disposition, if_pos (by simp [NoUseAfterFree, Event.isWild])]
  rfl

@[simp] theorem disposition_transmit :
    disposition pi [.transmit i k bytes] = some (.transmit k bytes) := by
  rw [disposition, if_pos (by simp [NoUseAfterFree, Event.isWild])]
  rfl

/-- Leaving an array is no decision. -/
theorem disposition_of_wild {evs : List Event} (h : Event.wild i k ∈ evs) :
    disposition pi evs = none := by
  rw [disposition, if_neg]
  rintro ⟨-, hwild⟩
  exact absurd (hwild _ h) (by simp [Event.isWild])

/-- Using a freed buffer is no decision. -/
theorem disposition_of_useAfterFree {evs : List Event}
    (h : ¬ NoUseAfterFree Event.item Event.frees evs) : disposition pi evs = none := by
  rw [disposition, if_neg fun hcon => h hcon.1]

end Reading

/-! ## Comparing verdicts

The last stage of every loop dispatches on a verdict.  With `n` ports, `x` is what is
written to the TAP device and `y` what is transmitted. -/

/-- The dispatch on a verdict. -/
def dispatch (n verdict : ℕ) (x y : List UInt8) : Option Disposition :=
  if verdict = KERNEL then some (.tap x)
  else if verdict = DROP then some .drop
  else if verdict < n then some (.transmit verdict y)
  else none

/-- Two dispatches on the same verdict, the second over the smaller number of ports. -/
theorem sameDecision_dispatch_iff {m n verdict : ℕ} (hle : n ≤ m) (hm : m ≤ MAX_LPORTS)
    (x x' y y' : List UInt8) :
    SameDecision (dispatch m verdict x y) (dispatch n verdict x' y') ↔
      verdict = DROP ∨ (verdict = KERNEL ∧ x = x') ∨ (verdict < n ∧ y = y') := by
  -- the arithmetic that keeps port numbers and special verdicts apart
  have hports : MAX_LPORTS = 32 := rfl
  have hkernel : KERNEL = 1000 := rfl
  have hdrop : DROP = 3000 := rfl
  simp only [dispatch]
  split_ifs with h h' hlarge hsmall hsmall
  · rw [sameDecision_some_iff, Disposition.tap.injEq]
    refine ⟨fun heq => .inr (.inl ⟨h, heq⟩), ?_⟩
    rintro (hcon | ⟨-, heq⟩ | ⟨hcon, -⟩)
    · omega
    · exact heq
    · omega
  · simp [sameDecision_some_iff, h']
  · simp [sameDecision_some_iff, h, h', hsmall]
  · simp [not_sameDecision_none_right, h, h', hsmall]
  · omega
  · simp [not_sameDecision_none_left, h, h', hsmall]

/-- A frame for the TAP device against a dispatch. -/
theorem sameDecision_tap_dispatch_iff (n verdict : ℕ) (x x' y : List UInt8) :
    SameDecision (some (.tap x)) (dispatch n verdict x' y) ↔ verdict = KERNEL ∧ x = x' := by
  simp only [dispatch]
  split_ifs with h h' h''
  · simp [sameDecision_some_iff, h]
  · simp [sameDecision_some_iff, h]
  · simp [sameDecision_some_iff, h]
  · simp [not_sameDecision_none_right, h]

/-- A dispatch against a drop. -/
theorem sameDecision_dispatch_drop_iff (n verdict : ℕ) (x y : List UInt8) :
    SameDecision (dispatch n verdict x y) (some .drop) ↔ verdict = DROP := by
  simp only [dispatch]
  split_ifs with h h' h''
  · simp [sameDecision_some_iff, h, KERNEL, DROP]
  · simp [sameDecision_some_iff, h']
  · simp [sameDecision_some_iff, h']
  · simp [not_sameDecision_none_left, h']

/-! ## The worker's decision -/

section Worker

variable {σ : Type*} (env : WorkerEnv σ) (arpRing : ℕ → ℕ → ℕ) (lpid : ℕ) (bufs : ℕ → Window)
  (i : ℕ) (s : σ)

/-- What a worker decides for the packet at position `i`. -/
def workerDisposition : Option Disposition :=
  disposition 0 (workerPacket env arpRing lpid bufs i s).1

/-- The first buffer of the array holds the bytes of `g` once position `i` was left as
`g`. -/
def FirstIs (bufs : ℕ → Window) (i : ℕ) (g : Window) : Prop := i = 0 ∨ (bufs 0).bytes = g.bytes

theorem bytes_update_eq_iff (g : Window) :
    g.bytes = (Function.update bufs i g 0).bytes ↔ FirstIs bufs i g := by
  by_cases hi : i = 0
  · subst hi
    simp [FirstIs]
  · rw [Function.update_of_ne (Ne.symm hi), FirstIs, or_iff_right hi, eq_comm]

/-- Queueing decides for the ring, and for the bytes of the first buffer. -/
@[simp] theorem disposition_enqueueFirst (nRings k : ℕ) (first : Window) :
    disposition 0 (enqueueFirst nRings k first) =
      if k < nRings then some (.transmit k first.bytes) else none := by
  by_cases hk : k < nRings
  · rw [enqueueFirst_of_lt hk, disposition_transmit, if_pos hk]
  · rw [enqueueFirst, if_neg hk, if_neg hk]
    exact disposition_of_wild 0 0 k List.mem_cons_self

theorem workerDisposition_of_arp_sent {verdict : ℕ}
    (harp : ethProto (bufs i) 0 = htons PID_ETH_ARP)
    (hverdict : (env.dm.arpHandler (bufs i) lpid).1 = verdict) (hdrop : verdict ≠ DROP) :
    workerDisposition env arpRing lpid bufs i s =
      if arpRing lpid verdict < env.nRings then
        some (.transmit (arpRing lpid verdict)
          (Function.update bufs i (env.dm.arpHandler (bufs i) lpid).2 0).bytes)
      else none := by
  subst hverdict
  rw [workerDisposition, workerPacket_of_arp_sent _ _ _ _ _ _
    ((getEtherType_eq_arp_iff _).mpr harp) hdrop, disposition_cons_arpHandler,
    disposition_enqueueFirst]

theorem workerDisposition_of_arp_dropped (harp : ethProto (bufs i) 0 = htons PID_ETH_ARP)
    (hverdict : (env.dm.arpHandler (bufs i) lpid).1 = DROP) :
    workerDisposition env arpRing lpid bufs i s = some .drop := by
  rw [workerDisposition, workerPacket_of_arp_dropped _ _ _ _ _ _
    ((getEtherType_eq_arp_iff _).mpr harp) hverdict]
  rfl

variable (harp : ethProto (bufs i) 0 ≠ htons PID_ETH_ARP)

include harp

theorem workerDisposition_of_filtered
    (hport : (getPacketPortNumber (bufs i) : ℤ) ∉ env.dm.fastpathPorts) :
    workerDisposition env arpRing lpid bufs i s = some .drop := by
  rw [workerDisposition, workerPacket_of_filtered _ _ _ _ _ _
    (mt (getEtherType_eq_arp_iff _).mp harp) ((env.dm.filterPacket_eq_true_iff _).mpr hport)]
  rfl

/-- A packet for a fast-path port: the handler's verdict decides. -/
theorem workerDisposition_of_handed
    (hport : (getPacketPortNumber (bufs i) : ℤ) ∈ env.dm.fastpathPorts) :
    workerDisposition env arpRing lpid bufs i s =
      let r := env.packetProcessor s (bufs i) lpid
      dispatch env.nRings r.1 (r.2.1.store 0 env.dm.tapMacAddr.toList).bytes
        (Function.update bufs i r.2.1 0).bytes := by
  have htype := mt (getEtherType_eq_arp_iff (bufs i)).mp harp
  have hfilter := (env.dm.filterPacket_eq_false_iff _).mpr hport
  simp only [workerDisposition, dispatch]
  split
  · rename_i hkernel
    rw [workerPacket_of_kernel _ _ _ _ _ _ htype hfilter hkernel,
      disposition_cons_packetProcessor, disposition_tap, List.drop_zero]
  · rename_i hkernel
    split
    · rename_i hdrop
      rw [workerPacket_of_drop _ _ _ _ _ _ htype hfilter hdrop,
        disposition_cons_packetProcessor, disposition_free]
    · rename_i hdrop
      rw [workerPacket_of_port _ _ _ _ _ _ htype hfilter hkernel hdrop,
        disposition_cons_packetProcessor, disposition_enqueueFirst]

end Worker

/-! ## CNDP -/

namespace Cndp

variable {σ : Type*}

/-- A configuration both models can run: the ring arrays have an entry for every
lport. -/
structure Deployment (σ : Type*) where
  env : Env σ
  fits : env.jinfo.lportList.length ≤ MAX_LPORTS

/-- What the workers of a deployment read. -/
def Deployment.workerEnv (dep : Deployment σ) : WorkerEnv σ where
  dm := dep.env.dm
  nRings := dep.env.jinfo.lportList.length
  nRings_le := dep.fits
  packetProcessor := dep.env.packetProcessor

/-- The packet `run_to_completion` puts the prefix on when it writes to the TAP
device. -/
def prefixedPacket (env : Env σ) (b : Window) (s : σ) : Window :=
  if getEtherType b = .l2EtherArp ∨ Diverted env.dm b then b
  else (env.packetProcessor s b env.lport.lpid).2.1

/-- What `run_to_completion` decides for a packet. -/
def rtcDisposition (env : Env σ) (i : ℕ) (b : Window) (s : σ) : Option Disposition :=
  disposition (piLen (prefixedPacket env b s)) (rtcPacket env i b s).1

/-- **The packets CNDP decides alike in both models.**

* A request for the TAP address, if the first buffer of the worker's array holds the
  answer; an ARP frame that is dropped; never an ARP reply.
* A packet for no fast-path port, if the handler drops it.
* With filtering enabled, a packet for a fast-path port that the handler leaves alone
  and sends to the kernel.
* With filtering disabled, a packet the handler drops; one it sends to the kernel, if
  there is no prefix or it does not matter where the TAP address is put; one it
  sends to a configured lport, if the first buffer of the array holds it. -/
def Agrees (dep : Deployment σ) (bufs : ℕ → Window) (i : ℕ) (s : σ) : Prop :=
  let dm := dep.env.dm
  let b := bufs i
  if ethProto b 0 = htons PID_ETH_ARP then
    if dm.AsksForTap b then FirstIs bufs i (dm.arpHandler b dep.env.lport.lpid).2
    else ¬ DataPlaneManager.IsArpReply b
  else
    let r := dep.env.packetProcessor s b dep.env.lport.lpid
    if (getPacketPortNumber b : ℤ) ∉ dm.fastpathPorts then r.1 = DROP
    else if dm.fastPathFiltering then
      r.1 = KERNEL ∧
        (b.store 0 dm.tapMacAddr.toList).bytes = (r.2.1.store 0 dm.tapMacAddr.toList).bytes
    else
      r.1 = DROP ∨ (r.1 = KERNEL ∧ (r.2.1.off < PI_LEN ∨ AimedAlike dm.tapMacAddr r.2.1)) ∨
        (r.1 < dep.env.jinfo.lportList.length ∧ FirstIs bufs i r.2.1)

/-! ### The decision of `run_to_completion` -/

section Rtc

variable (env : Env σ) (i : ℕ) (b : Window) (s : σ)

theorem rtcDisposition_of_arp (harp : ethProto b 0 = htons PID_ETH_ARP) :
    rtcDisposition env i b s =
      let r := env.dm.arpHandler b env.lport.lpid
      if r.1 = KERNEL then
        some (.tap ((prependData r.2 4).bytes.drop (piLen (prefixedPacket env b s))))
      else if r.1 = DROP then some .drop
      else some (.transmit env.lport.lpid r.2.bytes) := by
  rw [rtcDisposition, rtcPacket, if_pos ((getEtherType_eq_arp_iff b).mpr harp)]
  simp only [arpStage]
  split
  · rw [disposition_cons_arpHandler, disposition_tap]
  · split
    · rw [disposition_cons_arpHandler, disposition_free]
    · rw [disposition_cons_arpHandler, disposition_transmit]

theorem rtcDisposition_of_diverted (harp : ethProto b 0 ≠ htons PID_ETH_ARP)
    (hdiverted : Diverted env.dm b) :
    rtcDisposition env i b s = some (.tap (b.store 0 env.dm.tapMacAddr.toList).bytes) := by
  rw [rtcDisposition, rtcPacket, if_neg (mt (getEtherType_eq_arp_iff b).mp harp),
    if_pos hdiverted, prefixedPacket, if_pos (.inr hdiverted)]
  simp only [filteredStage]
  rw [disposition_tap, filtered_bytes]

/-- A packet that is handed over: the handler's verdict decides. -/
theorem rtcDisposition_of_handed (harp : ethProto b 0 ≠ htons PID_ETH_ARP)
    (hdiverted : ¬ Diverted env.dm b) :
    rtcDisposition env i b s =
      let r := env.packetProcessor s b env.lport.lpid
      dispatch env.jinfo.lportList.length r.1 ((kernelFrame env.dm r.2.1).bytes.drop (piLen r.2.1))
        r.2.1.bytes := by
  have htype := mt (getEtherType_eq_arp_iff b).mp harp
  have hpacket : prefixedPacket env b s = (env.packetProcessor s b env.lport.lpid).2.1 :=
    if_neg (by rintro (h | h); exacts [htype h, hdiverted h])
  rw [rtcDisposition, rtcPacket, if_neg htype, if_neg hdiverted, hpacket]
  simp only [verdictStage, dispatch]
  split
  · rw [disposition_cons_packetProcessor, disposition_tap]
  · split
    · rw [disposition_cons_packetProcessor, disposition_free]
    · split
      · rename_i dst hdst
        obtain ⟨hlt, -⟩ := List.getElem?_eq_some_iff.mp hdst
        rw [if_pos hlt, disposition_cons_packetProcessor, disposition_transmit,
          env.jinfo.lpid_eq _ _ hdst]
      · rename_i hnone
        rw [if_neg (by simpa using hnone)]
        exact disposition_of_wild _ i _ (List.mem_cons_of_mem _ List.mem_cons_self)

end Rtc

/-! ### The comparison -/

section Comparison

variable (dep : Deployment σ) (bufs : ℕ → Window) (i : ℕ) (s : σ)

/-- What `worker_thread` decides for the packet at position `i`. -/
def workerThreadDisposition : Option Disposition :=
  disposition 0 (workerThread dep.workerEnv dep.env.lport.lpid bufs i s).1

theorem workerThreadDisposition_eq :
    workerThreadDisposition dep bufs i s =
      workerDisposition dep.workerEnv arpRing dep.env.lport.lpid bufs i s := rfl

theorem sameDecision_iff_of_arp (harp : ethProto (bufs i) 0 = htons PID_ETH_ARP) :
    SameDecision (rtcDisposition dep.env i (bufs i) s) (workerThreadDisposition dep bufs i s) ↔
      Agrees dep bufs i s := by
  have hlt : dep.env.lport.lpid < dep.workerEnv.nRings := dep.env.lport_lt
  have hne := dep.workerEnv.ne_special hlt
  simp only [Agrees, harp, if_true]
  rw [rtcDisposition_of_arp _ _ _ _ harp]
  by_cases hask : dep.env.dm.AsksForTap (bufs i)
  · have hverdict := DataPlaneManager.arpHandler_of_asksForTap hask dep.env.lport.lpid
    rw [workerThreadDisposition_eq,
      workerDisposition_of_arp_sent dep.workerEnv arpRing _ bufs i s harp hverdict hne.2]
    simp only [hverdict, hne.1, hne.2, if_false, arpRing, hlt, if_true, hask]
    rw [sameDecision_some_iff, Disposition.transmit.injEq, ← bytes_update_eq_iff]
    exact and_iff_right rfl
  · rw [if_neg hask]
    by_cases hreply : DataPlaneManager.IsArpReply (bufs i)
    · have hverdict : (dep.env.dm.arpHandler (bufs i) dep.env.lport.lpid).1 = KERNEL :=
        DataPlaneManager.arpHandler_of_isArpReply hreply _
      rw [workerThreadDisposition_eq,
        workerDisposition_of_arp_sent dep.workerEnv arpRing _ bufs i s harp hverdict (by decide)]
      simp only [hverdict, if_true, arpRing, hlt, sameDecision_some_iff, reduceCtorEq, hreply,
        not_true_eq_false]
    · have hnone := DataPlaneManager.arpHandler_of_neither hask hreply dep.env.lport.lpid
      have hverdict : (dep.env.dm.arpHandler (bufs i) dep.env.lport.lpid).1 = DROP := by rw [hnone]
      rw [workerThreadDisposition_eq,
        workerDisposition_of_arp_dropped dep.workerEnv arpRing _ bufs i s harp hverdict]
      simp only [hverdict, show ¬ DROP = KERNEL by decide, if_false, if_true,
        sameDecision_some_iff, hreply, not_false_eq_true]

theorem sameDecision_iff_of_not_arp (harp : ethProto (bufs i) 0 ≠ htons PID_ETH_ARP) :
    SameDecision (rtcDisposition dep.env i (bufs i) s) (workerThreadDisposition dep bufs i s) ↔
      Agrees dep bufs i s := by
  simp only [Agrees, harp, if_false]
  rw [workerThreadDisposition_eq]
  by_cases hport : (getPacketPortNumber (bufs i) : ℤ) ∈ dep.env.dm.fastpathPorts
  · rw [workerDisposition_of_handed _ _ _ _ _ _ harp hport]
    simp only [hport, not_true_eq_false, if_false]
    cases hflag : dep.env.dm.fastPathFiltering with
    | true =>
        -- the filter diverts just the packets the worker hands over
        have hdiverted : Diverted dep.env.dm (bufs i) :=
          ⟨hflag, (dep.env.dm.filterPacket_eq_false_iff _).mpr hport⟩
        rw [rtcDisposition_of_diverted _ _ _ _ harp hdiverted, if_pos rfl]
        exact sameDecision_tap_dispatch_iff _ _ _ _ _
    | false =>
        have hdiverted : ¬ Diverted dep.env.dm (bufs i) := fun h => by simp [h.1] at hflag
        rw [rtcDisposition_of_handed _ _ _ _ harp hdiverted, if_neg Bool.false_ne_true]
        refine (sameDecision_dispatch_iff le_rfl dep.fits _ _ _ _).trans ?_
        exact or_congr Iff.rfl (or_congr
          (and_congr_right fun _ => kernelFrame_bytes_eq_iff _ _)
          (and_congr_right fun _ => bytes_update_eq_iff _ _ _))
  · have hdiverted : ¬ Diverted dep.env.dm (bufs i) := fun h =>
      hport ((dep.env.dm.filterPacket_eq_false_iff _).mp h.2)
    rw [workerDisposition_of_filtered _ _ _ _ _ _ harp hport,
      rtcDisposition_of_handed _ _ _ _ harp hdiverted]
    simp only [hport, not_false_eq_true, if_true]
    exact sameDecision_dispatch_drop_iff _ _ _ _

/-- Whatever the filtering flag, the models part over a packet for no fast-path port
that the handler does not drop. -/
theorem not_sameDecision_of_unlisted (harp : ethProto (bufs i) 0 ≠ htons PID_ETH_ARP)
    (hport : (getPacketPortNumber (bufs i) : ℤ) ∉ dep.env.dm.fastpathPorts)
    (hverdict : (dep.env.packetProcessor s (bufs i) dep.env.lport.lpid).1 ≠ DROP) :
    ¬ SameDecision (rtcDisposition dep.env i (bufs i) s)
        (workerThreadDisposition dep bufs i s) := by
  rw [sameDecision_iff_of_not_arp dep bufs i s harp]
  simp only [Agrees, harp, if_false, hport, not_false_eq_true, if_true]
  exact hverdict

end Comparison

end Cndp

/-! ## DPDK -/

namespace Dpdk

variable {σ : Type*}

/-- A configuration both models can run, and the stream a packet is received on.  Both
loops are asked about the same receiving port, which `run_to_completion` takes from the
stream and the worker from the number of the ring; and the tx ring a worker picks
stands for the port with its index. -/
structure Deployment (σ : Type*) where
  env : Env σ
  fs : FwdStream
  nbFwdStreams : ℕ
  fits : nbFwdStreams ≤ MAX_LPORTS
  rxPort_lt : fs.rxPort < nbFwdStreams

/-- What the workers of a deployment read. -/
def Deployment.workerEnv (dep : Deployment σ) : WorkerEnv σ where
  dm := dep.env.dm
  nRings := dep.nbFwdStreams
  nRings_le := dep.fits
  packetProcessor := dep.env.packetProcessor

/-- What `run_to_completion` decides for a packet.  DPDK writes no prefix. -/
def rtcDisposition (env : Env σ) (fs : FwdStream) (i : ℕ) (b : Window) (s : σ) :
    Option Disposition :=
  disposition 0 (rtcPacket env fs i b s).1

/-- **The packets DPDK decides alike in both models.**

* A request for the TAP address, if the first buffer of the worker's array holds the
  answer; no other ARP frame.
* Nothing else while filtering is enabled.
* A packet for no fast-path port, if the handler drops it.
* A packet for a fast-path port that the handler drops or sends to the kernel, or that
  it sends to a configured port while the first buffer of the array holds it. -/
def Agrees (dep : Deployment σ) (bufs : ℕ → Window) (i : ℕ) (s : σ) : Prop :=
  let dm := dep.env.dm
  let b := bufs i
  if ethProto b 0 = htons PID_ETH_ARP then
    dm.AsksForTap b ∧ FirstIs bufs i (dm.arpHandler b dep.fs.rxPort).2
  else
    let r := dep.env.packetProcessor s b dep.fs.rxPort
    dm.fastPathFiltering = false ∧
      if (getPacketPortNumber b : ℤ) ∉ dm.fastpathPorts then r.1 = DROP
      else r.1 = DROP ∨ r.1 = KERNEL ∨ (r.1 < dep.nbFwdStreams ∧ FirstIs bufs i r.2.1)

section Rtc

variable (env : Env σ) (fs : FwdStream) (i : ℕ) (b : Window) (s : σ)

theorem rtcDisposition_of_answered (h : Answered env.dm b) :
    rtcDisposition env fs i b s =
      some (.transmit fs.rxPort (env.dm.arpHandler b fs.rxPort).2.bytes) := by
  rw [rtcDisposition, rtcPacket, arpStage_of_answered fs i h]
  simp only [if_true, disposition_cons_arpHandler, disposition_transmit]

/-- An iteration that frees its buffer before the handler is called decides nothing. -/
theorem rtcDisposition_of_free
    (h : Event.free i ∈ (arpStage env.dm fs i b).1 ++
      (filterStage env.dm i (arpStage env.dm fs i b).2.1).1)
    (hgoes : (arpStage env.dm fs i b).2.2 = false) : rtcDisposition env fs i b s = none := by
  rw [rtcDisposition]
  exact disposition_of_useAfterFree 0 (not_noUseAfterFree_rtcPacket env fs i b s hgoes h)

theorem rtcDisposition_of_handed (harp : ethProto b 0 ≠ htons PID_ETH_ARP)
    (hflag : env.dm.fastPathFiltering = false) :
    rtcDisposition env fs i b s =
      let r := env.packetProcessor s b fs.rxPort
      dispatch RTE_MAX_ETHPORTS r.1 (r.2.1.store 0 env.dm.tapMacAddr.toList).bytes
        r.2.1.bytes := by
  rw [rtcDisposition, rtcPacket, arpStage_of_not_arp _ _ _ _ harp]
  simp only [filterStage_of_disabled i b hflag, verdictStage, dispatch, Bool.false_eq_true,
    if_false, List.nil_append, disposition_cons_packetProcessor]
  split
  · exact disposition_tap 0 i _
  · split
    · exact disposition_free 0 i
    · split
      · rename_i hlt
        rw [txBuffer_of_lt _ _ hlt]
        exact disposition_transmit 0 i _ _
      · rename_i hlt
        rw [txBuffer, if_neg hlt]
        exact disposition_of_wild 0 i _ List.mem_cons_self

end Rtc

section Comparison

variable (dep : Deployment σ) (bufs : ℕ → Window) (i : ℕ) (s : σ)

/-- What `fnworker_dpdk` decides for the packet at position `i`. -/
def fnworkerDisposition : Option Disposition :=
  disposition 0 (fnworkerDpdk dep.workerEnv dep.fs.rxPort bufs i s).1

theorem fnworkerDisposition_eq :
    fnworkerDisposition dep bufs i s =
      workerDisposition dep.workerEnv arpRing dep.fs.rxPort bufs i s := rfl

theorem sameDecision_iff_of_arp (harp : ethProto (bufs i) 0 = htons PID_ETH_ARP) :
    SameDecision (rtcDisposition dep.env dep.fs i (bufs i) s) (fnworkerDisposition dep bufs i s) ↔
      Agrees dep bufs i s := by
  have hlt : dep.fs.rxPort < dep.workerEnv.nRings := dep.rxPort_lt
  have hne := dep.workerEnv.ne_special hlt
  simp only [Agrees, harp, if_true]
  by_cases hask : dep.env.dm.AsksForTap (bufs i)
  · have hverdict := DataPlaneManager.arpHandler_of_asksForTap hask dep.fs.rxPort
    rw [rtcDisposition_of_answered _ _ _ _ _ ⟨harp, hask⟩, fnworkerDisposition_eq,
      workerDisposition_of_arp_sent dep.workerEnv arpRing _ bufs i s harp hverdict hne.2]
    simp only [arpRing, hlt, if_true, hask, true_and]
    rw [sameDecision_some_iff, Disposition.transmit.injEq, ← bytes_update_eq_iff]
    exact and_iff_right rfl
  · obtain ⟨hfree, hgoes⟩ := arpStage_of_unanswered dep.fs i harp hask
    rw [rtcDisposition_of_free _ _ _ _ _ (List.mem_append_left _ hfree) hgoes]
    exact iff_of_false (not_sameDecision_none_left _) fun h => hask h.1

theorem sameDecision_iff_of_not_arp (harp : ethProto (bufs i) 0 ≠ htons PID_ETH_ARP) :
    SameDecision (rtcDisposition dep.env dep.fs i (bufs i) s) (fnworkerDisposition dep bufs i s) ↔
      Agrees dep bufs i s := by
  simp only [Agrees, harp, if_false]
  cases hflag : dep.env.dm.fastPathFiltering with
  | true =>
      have harpStage := arpStage_of_not_arp dep.env.dm dep.fs i (bufs i) harp
      have hfree := mem_filterStage_free i (bufs i) hflag
      rw [rtcDisposition_of_free _ _ _ _ _ (by rw [harpStage]; exact hfree) (by rw [harpStage])]
      exact iff_of_false (not_sameDecision_none_left _) fun h => Bool.noConfusion h.1
  | false =>
      rw [rtcDisposition_of_handed _ _ _ _ _ harp hflag, fnworkerDisposition_eq]
      simp only [true_and]
      by_cases hport : (getPacketPortNumber (bufs i) : ℤ) ∈ dep.env.dm.fastpathPorts
      · rw [workerDisposition_of_handed _ _ _ _ _ _ harp hport, if_neg (not_not.mpr hport)]
        refine (sameDecision_dispatch_iff dep.fits le_rfl _ _ _ _).trans ?_
        exact or_congr Iff.rfl (or_congr (and_iff_left rfl)
          (and_congr_right fun _ => bytes_update_eq_iff _ _ _))
      · rw [workerDisposition_of_filtered _ _ _ _ _ _ harp hport, if_pos hport]
        exact sameDecision_dispatch_drop_iff _ _ _ _

/-- The same for DPDK. -/
theorem not_sameDecision_of_unlisted (harp : ethProto (bufs i) 0 ≠ htons PID_ETH_ARP)
    (hport : (getPacketPortNumber (bufs i) : ℤ) ∉ dep.env.dm.fastpathPorts)
    (hverdict : (dep.env.packetProcessor s (bufs i) dep.fs.rxPort).1 ≠ DROP) :
    ¬ SameDecision (rtcDisposition dep.env dep.fs i (bufs i) s)
        (fnworkerDisposition dep bufs i s) := by
  rw [sameDecision_iff_of_not_arp dep bufs i s harp]
  simp only [Agrees, harp, if_false, hport, not_false_eq_true, if_true]
  exact fun h => hverdict h.2

end Comparison

end Dpdk

/-! ## Both backends -/

/-- One port, no filter, no fast-path ports: CNDP. -/
def Cndp.forwardDeployment : Cndp.Deployment Unit := ⟨Cndp.forwardAll, one_le_maxLports⟩

/-- One port, no filter, no fast-path ports: DPDK. -/
def Dpdk.forwardDeployment : Dpdk.Deployment Unit :=
  ⟨Dpdk.forwardAll, Dpdk.stream₀, 1, one_le_maxLports, Nat.zero_lt_one⟩

end UdxFastpath
