import UdxFastpath.Cndp.RunToCompletion
import UdxFastpath.Dpdk.RunToCompletion

/-!
# The documented verdicts

`core.h` documents what a registered handler may return: `KERNEL`, `DEFAULT`,
`DROP`, `BROADCAST`, or the number of a logical port, all of them one `int`.
`DocumentedVerdict n` is that list for `n` configured ports, with the `code` each
is returned as, and `Performed` is the action the comment next to it promises.

Both `run_to_completion` loops dispatch with a `switch` that knows `KERNEL` and
`DROP` and takes **everything else for a port number**.  So

* `DEFAULT` and `BROADCAST` index the lport array at 2000 and 4000, which only a
  very large configuration has, and then mean the port of that number;
* a port is served unless its number is that of one of the two special verdicts.

DPDK arrays have 32 entries, so there both remarks are about nothing: ports are
served and `DEFAULT` and `BROADCAST` leave the array.
-/

namespace UdxFastpath

open ByteWindow

/-- Send the packet out on the interface it came from. -/
def DEFAULT : ℕ := 2000

/-- Send the packet out on all interfaces. -/
def BROADCAST : ℕ := 4000

/-- A verdict a handler may return, with `n` logical ports configured. -/
inductive DocumentedVerdict (n : ℕ)
  | kernel
  | default
  | drop
  | broadcast
  | port (p : Fin n)

/-- The `int` that is returned. -/
def DocumentedVerdict.code {n : ℕ} : DocumentedVerdict n → ℕ
  | .kernel => KERNEL
  | .default => DEFAULT
  | .drop => DROP
  | .broadcast => BROADCAST
  | .port p => p

/-- **The documented action.**  `Performed i recv g v evs`: for buffer `i`, received on
the logical port `recv` and left as `g` by the handler, the events `evs` are what the
verdict `v` promises, and no array is left. -/
def Performed {n : ℕ} (i recv : ℕ) (g : Window) : DocumentedVerdict n → List Event → Prop
  | .kernel, evs => ∃ bytes, evs = [.tapWrite i bytes, .free i]
  | .default, evs => evs = [.transmit i recv g.bytes]
  | .drop, evs => evs = [.free i]
  | .broadcast, evs => (∀ q < n, .transmit i q g.bytes ∈ evs) ∧ ∀ k, .wild i k ∉ evs
  | .port p, evs => evs = [.transmit i p g.bytes]

/-- What an iteration does once it has the handler's verdict. -/
def afterVerdict (evs : List Event) : List Event := (evs.dropWhile fun e => !e.hands).tail

/-- **The verdict is honoured**: the iteration asks the handler, performs the action,
and does nothing else to the packet. -/
def Honoured {n : ℕ} (i recv : ℕ) (g : Window) (v : DocumentedVerdict n) (evs : List Event) :
    Prop :=
  evs = .packetProcessor i v.code :: afterVerdict evs ∧ Performed i recv g v (afterVerdict evs)

/-- What comes before the handler is asked does not matter to what comes after. -/
theorem afterVerdict_append {pre disp : List Event} {i code : ℕ}
    (hpre : ∀ e ∈ pre, e.hands = false) :
    afterVerdict (pre ++ .packetProcessor i code :: disp) = disp := by
  rw [afterVerdict, List.dropWhile_append_of_pos fun e he => by simp [hpre e he],
    List.dropWhile_cons_of_neg (by simp [Event.hands]), List.tail_cons]

/-- …and the iteration did nothing else exactly when nothing came before. -/
theorem honoured_append_iff {n : ℕ} {pre disp : List Event} {i recv : ℕ} {g : Window}
    {v : DocumentedVerdict n} (hpre : ∀ e ∈ pre, e.hands = false) :
    Honoured i recv g v (pre ++ .packetProcessor i v.code :: disp) ↔
      pre = [] ∧ Performed i recv g v disp := by
  rw [Honoured, afterVerdict_append hpre, List.append_left_eq_self]

/-- One transmission is no broadcast to more than one port. -/
theorem not_performed_broadcast_transmit {n i recv k : ℕ} {g : Window} {bytes : List UInt8}
    (h : 1 < n) :
    ¬ Performed i recv g (.broadcast : DocumentedVerdict n) [.transmit i k bytes] := by
  rintro ⟨hall, -⟩
  have h0 : 0 = k := by have := hall 0 (by omega); simp at this; exact this.1
  have h1 : 1 = k := by have := hall 1 h; simp at this; exact this.1
  omega

/-! ## CNDP -/

namespace Cndp

/-- The verdicts the CNDP `switch` serves, on the lport `lpid`. -/
def Serves {n : ℕ} (lpid : ℕ) : DocumentedVerdict n → Prop
  | .kernel => True
  | .default => lpid = DEFAULT
  | .drop => True
  | .broadcast => False
  | .port p => (p : ℕ) ≠ KERNEL ∧ (p : ℕ) ≠ DROP

variable {σ : Type*} (env : Env σ) (i : ℕ) {b : Window} {s : σ}

/-- The packet reaches the handler, which returns `code`. -/
structure ReturnsCode (b : Window) (s : σ) (code : ℕ) : Prop where
  not_arp : getEtherType b ≠ .l2EtherArp
  not_diverted : ¬ Diverted env.dm b
  verdict : (env.packetProcessor s b env.lport.lpid).1 = code

/-- What the `switch` does with a code that is not `KERNEL` or `DROP`. -/
theorem dispatch_of_lt {code : ℕ} (hcode : (env.packetProcessor s b env.lport.lpid).1 = code)
    (hkernel : code ≠ KERNEL) (hdrop : code ≠ DROP) (hlt : code < env.jinfo.lportList.length) :
    (verdictStage env i b s).1 =
      [.packetProcessor i code, .transmit i code
        (env.packetProcessor s b env.lport.lpid).2.1.bytes] := by
  have hget := List.getElem?_eq_getElem hlt
  simp only [verdictStage, hcode, hkernel, hdrop, if_false, hget, env.jinfo.lpid_eq code _ hget]

theorem dispatch_of_ge {code : ℕ} (hcode : (env.packetProcessor s b env.lport.lpid).1 = code)
    (hkernel : code ≠ KERNEL) (hdrop : code ≠ DROP) (hge : env.jinfo.lportList.length ≤ code) :
    (verdictStage env i b s).1 = [.packetProcessor i code, .wild i code] := by
  have hget : env.jinfo.lportList[code]? = none := List.getElem?_eq_none hge
  simp only [verdictStage, hcode, hkernel, hdrop, if_false, hget]

theorem dispatch_of_kernel (hcode : (env.packetProcessor s b env.lport.lpid).1 = KERNEL) :
    (verdictStage env i b s).1 =
      [.packetProcessor i KERNEL, .tapWrite i (kernelFrame env.dm
        (env.packetProcessor s b env.lport.lpid).2.1).bytes, .free i] := by
  simp only [verdictStage, hcode, if_true]

theorem dispatch_of_drop (hcode : (env.packetProcessor s b env.lport.lpid).1 = DROP) :
    (verdictStage env i b s).1 = [.packetProcessor i DROP, .free i] := by
  simp only [verdictStage, hcode, if_true, show DROP ≠ KERNEL by decide, if_false]

/-- The `switch` performs exactly the verdicts it serves. -/
theorem performed_iff (v : DocumentedVerdict env.jinfo.lportList.length)
    (hcode : (env.packetProcessor s b env.lport.lpid).1 = v.code) :
    ∃ disp, (verdictStage env i b s).1 = .packetProcessor i v.code :: disp ∧
      (Performed i env.lport.lpid (env.packetProcessor s b env.lport.lpid).2.1 v disp ↔
        Serves env.lport.lpid v) := by
  have hlpid := env.lport_lt
  cases v with
  | kernel => exact ⟨_, dispatch_of_kernel env i hcode, by simp [Performed, Serves]⟩
  | drop => exact ⟨_, dispatch_of_drop env i hcode, by simp [Performed, Serves]⟩
  | default =>
      -- port 2000 if there is one
      have hcode' : (env.packetProcessor s b env.lport.lpid).1 = DEFAULT := hcode
      by_cases hlt : DEFAULT < env.jinfo.lportList.length
      · have hstage := dispatch_of_lt env i hcode' (by decide) (by decide) hlt
        refine ⟨_, hstage, ?_⟩
        simp [Performed, Serves, eq_comm]
      · have hstage := dispatch_of_ge env i hcode' (by decide) (by decide) (by omega)
        refine ⟨_, hstage, ?_⟩
        simp only [Performed, Serves, List.cons.injEq, reduceCtorEq, false_and, false_iff]
        omega
  | broadcast =>
      have hcode' : (env.packetProcessor s b env.lport.lpid).1 = BROADCAST := hcode
      have hserves : ¬ Serves env.lport.lpid
        (.broadcast : DocumentedVerdict env.jinfo.lportList.length) := id
      by_cases hlt : BROADCAST < env.jinfo.lportList.length
      · have hstage := dispatch_of_lt env i hcode' (by decide) (by decide) hlt
        refine ⟨_, hstage, ?_⟩
        rw [iff_false_right hserves]
        exact not_performed_broadcast_transmit (Nat.lt_trans (by decide) hlt)
      · have hstage := dispatch_of_ge env i hcode' (by decide) (by decide) (by omega)
        refine ⟨_, hstage, ?_⟩
        rw [iff_false_right hserves]
        exact fun h => h.2 _ List.mem_cons_self
  | port p =>
      by_cases hkernel : (p : ℕ) = KERNEL
      · have hcode' := hcode.trans hkernel
        have hstage := dispatch_of_kernel env i hcode'
        refine ⟨_, hstage.trans (by rw [DocumentedVerdict.code, hkernel]), ?_⟩
        simp [Performed, Serves, hkernel]
      · by_cases hdrop : (p : ℕ) = DROP
        · have hcode' := hcode.trans hdrop
          have hstage := dispatch_of_drop env i hcode'
          refine ⟨_, hstage.trans (by rw [DocumentedVerdict.code, hdrop]), ?_⟩
          simp [Performed, Serves, hdrop]
        · refine ⟨_, dispatch_of_lt env i hcode hkernel hdrop p.isLt, ?_⟩
          simp [Performed, Serves, DocumentedVerdict.code, hkernel, hdrop]

/-- CNDP honours exactly the verdicts it serves. -/
theorem honoured_rtcPacket_iff (v : DocumentedVerdict env.jinfo.lportList.length)
    (h : ReturnsCode env b s v.code) :
    Honoured i env.lport.lpid (env.packetProcessor s b env.lport.lpid).2.1 v
        (rtcPacket env i b s).1 ↔
      Serves env.lport.lpid v := by
  obtain ⟨disp, hstage, hperformed⟩ := performed_iff env i v h.verdict
  have hevents : (rtcPacket env i b s).1 = [] ++ .packetProcessor i v.code :: disp := by
    rw [rtcPacket, if_neg h.not_arp, if_neg h.not_diverted, hstage, List.nil_append]
  rw [hevents, honoured_append_iff (by simp), hperformed]
  exact and_iff_right rfl

end Cndp

/-! ## DPDK -/

namespace Dpdk

/-- The verdicts the DPDK `switch` serves. -/
def Serves {n : ℕ} : DocumentedVerdict n → Prop
  | .kernel => True
  | .default => False
  | .drop => True
  | .broadcast => False
  | .port _ => True

variable {σ : Type*} (env : Env σ) (fs : FwdStream) (i recv : ℕ) {b : Window} {s : σ}

/-- The packet as the handler gets it. -/
def handedPacket (b : Window) : Window :=
  (filterStage env.dm i (arpStage env.dm fs i b).2.1).2

/-- The packet reaches the handler, which returns `code`: the iteration is not left
before. -/
structure ReturnsCode (b : Window) (s : σ) (code : ℕ) : Prop where
  not_answered : ¬ Answered env.dm b
  verdict : (env.packetProcessor s (handedPacket env fs i b) fs.rxPort).1 = code

theorem dispatch_of_kernel (hcode : (env.packetProcessor s b fs.rxPort).1 = KERNEL) :
    (verdictStage env fs i b s).1 =
      [.packetProcessor i KERNEL, .tapWrite i ((env.packetProcessor s b fs.rxPort).2.1.store 0
        env.dm.tapMacAddr.toList).bytes, .free i] := by
  simp only [verdictStage, hcode, if_true, sendToKernel]

theorem dispatch_of_drop (hcode : (env.packetProcessor s b fs.rxPort).1 = DROP) :
    (verdictStage env fs i b s).1 = [.packetProcessor i DROP, .free i] := by
  simp only [verdictStage, hcode, if_true, show DROP ≠ KERNEL by decide, if_false]

theorem dispatch_of_port {code : ℕ} (hcode : (env.packetProcessor s b fs.rxPort).1 = code)
    (hkernel : code ≠ KERNEL) (hdrop : code ≠ DROP) :
    (verdictStage env fs i b s).1 =
      .packetProcessor i code :: txBuffer i code (env.packetProcessor s b fs.rxPort).2.1 := by
  simp only [verdictStage, hcode, hkernel, hdrop, if_false]

/-- The `switch` performs exactly the verdicts it serves. -/
theorem performed_iff (v : DocumentedVerdict env.lports.length)
    (hcode : (env.packetProcessor s b fs.rxPort).1 = v.code) :
    ∃ disp, (verdictStage env fs i b s).1 = .packetProcessor i v.code :: disp ∧
      (Performed i recv (env.packetProcessor s b fs.rxPort).2.1 v disp ↔ Serves v) := by
  cases v with
  | kernel => exact ⟨_, dispatch_of_kernel env fs i hcode, by simp [Performed, Serves]⟩
  | drop => exact ⟨_, dispatch_of_drop env fs i hcode, by simp [Performed, Serves]⟩
  | default =>
      have hcode' : (env.packetProcessor s b fs.rxPort).1 = DEFAULT := hcode
      have hstage := dispatch_of_port env fs i hcode' (by decide) (by decide)
      -- 2000 is past the end of `lports`
      rw [txBuffer, if_neg (by decide)] at hstage
      exact ⟨_, hstage, by simp [Performed, Serves]⟩
  | broadcast =>
      have hcode' : (env.packetProcessor s b fs.rxPort).1 = BROADCAST := hcode
      have hstage := dispatch_of_port env fs i hcode' (by decide) (by decide)
      rw [txBuffer, if_neg (by decide)] at hstage
      exact ⟨_, hstage, by simp [Performed, Serves]⟩
  | port p =>
      have hlt : (p : ℕ) < RTE_MAX_ETHPORTS := Nat.lt_of_lt_of_le p.isLt env.lports_le
      have hne : (p : ℕ) ≠ KERNEL ∧ (p : ℕ) ≠ DROP := by
        simp only [RTE_MAX_ETHPORTS, KERNEL, DROP] at *
        omega
      have hstage := dispatch_of_port env fs i hcode hne.1 hne.2
      rw [DocumentedVerdict.code, txBuffer_of_lt i _ hlt] at hstage
      exact ⟨_, hstage, by simp [Performed, Serves]⟩

/-! ### The whole iteration -/

theorem hands_of_mem_arpStage (dm : DataPlaneManager) (b : Window) :
    ∀ e ∈ (arpStage dm fs i b).1, e.hands = false := by
  intro e he
  rcases mem_arpStage_cases dm fs i b he with ⟨_, rfl⟩ | ⟨_, rfl⟩ | rfl | ⟨_, rfl⟩ <;> rfl

theorem hands_of_mem_filterStage (dm : DataPlaneManager) (b : Window) :
    ∀ e ∈ (filterStage dm i b).1, e.hands = false := by
  intro e he
  rcases mem_filterStage_cases dm i b he with ⟨_, rfl⟩ | rfl <;> rfl

/-- The handler is the first to touch a packet exactly when it is no ARP frame and the
filter is off. -/
theorem before_handler_eq_nil_iff (dm : DataPlaneManager) (h : ¬ Answered dm b) :
    (arpStage dm fs i b).1 ++ (filterStage dm i (arpStage dm fs i b).2.1).1 = [] ↔
      ethProto b 0 ≠ htons PID_ETH_ARP ∧ dm.fastPathFiltering = false := by
  rw [List.append_eq_nil_iff]
  by_cases harp : ethProto b 0 = htons PID_ETH_ARP
  · -- the ARP part has freed the frame
    have hfree := (arpStage_of_unanswered fs i harp fun hask => h ⟨harp, hask⟩).1
    simp [harp, List.ne_nil_of_mem hfree]
  · have hstage := arpStage_of_not_arp dm fs i b harp
    cases hfilter : dm.fastPathFiltering with
    | true =>
        -- the filter has freed it
        have hfree := mem_filterStage_free i (arpStage dm fs i b).2.1 hfilter
        simp [List.ne_nil_of_mem hfree]
    | false =>
        rw [filterStage_of_disabled i _ hfilter, hstage]
        simp [harp]

/-- DPDK performs exactly the verdicts it serves, and it honours them, as the one thing
it does to the packet, exactly when the packet is no ARP frame and the filter is
off. -/
theorem honoured_rtcPacket_iff (v : DocumentedVerdict env.lports.length)
    (h : ReturnsCode env fs i b s v.code) :
    (Performed i recv (env.packetProcessor s (handedPacket env fs i b) fs.rxPort).2.1 v
        (afterVerdict (rtcPacket env fs i b s).1) ↔ Serves v) ∧
      (Honoured i recv (env.packetProcessor s (handedPacket env fs i b) fs.rxPort).2.1 v
          (rtcPacket env fs i b s).1 ↔
        Serves v ∧ ethProto b 0 ≠ htons PID_ETH_ARP ∧ env.dm.fastPathFiltering = false) := by
  obtain ⟨disp, hstage, hperformed⟩ := performed_iff env fs i recv v h.verdict
  have hgo := arpStage_goes_on fs i h.not_answered
  have hpre : ∀ e ∈ (arpStage env.dm fs i b).1 ++
      (filterStage env.dm i (arpStage env.dm fs i b).2.1).1, e.hands = false := by
    intro e he
    rcases List.mem_append.mp he with he | he
    · exact hands_of_mem_arpStage fs i env.dm b e he
    · exact hands_of_mem_filterStage i env.dm _ e he
  rw [rtcPacket_of_continue env fs i b s hgo, show (verdictStage env fs i (filterStage env.dm i
    (arpStage env.dm fs i b).2.1).2 s).1 = _ from hstage, afterVerdict_append hpre,
    honoured_append_iff hpre, before_handler_eq_nil_iff fs i env.dm h.not_answered, hperformed]
  exact ⟨Iff.rfl, and_comm⟩

end Dpdk

/-! ## Both loops -/

section Both

variable {σ τ : Type*} (cndp : Cndp.Env σ) (dpdk : Dpdk.Env τ) (fs : Dpdk.FwdStream)
  (i j recv : ℕ) {b d : Window} {s : σ} {t : τ}

end Both

/-- One lport, no filter, and a handler that sends everything back where it came
from. -/
def Cndp.reflectAll : Cndp.Env Unit :=
  { Cndp.forwardAll with packetProcessor := fun s b _ => (DEFAULT, b, s) }

/-- …and the same for DPDK. -/
def Dpdk.reflectAll : Dpdk.Env Unit :=
  { Dpdk.forwardAll with packetProcessor := fun s b _ => (DEFAULT, b, s) }

end UdxFastpath
