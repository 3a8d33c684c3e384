import UdxFastpath.Core.Manager
import UdxFastpath.Foundation.Disposal

/-!
# What a packet loop does to a buffer

The four packet loops (run-to-completion and worker, CNDP and DPDK) take the
same few actions on the buffers of a burst.  A loop is modelled by the trace of
these actions, buffers named by their index in the burst array, so that "which
buffer" is the question the C code answers and not one the model answers for it.

`wild` records an access through an array entry nobody configured.  What happens
then is outside the program; a buffer it happens to has no disposition.

The registered `packet_processor` is an arbitrary function: it may keep state,
rewrite the packet and return any verdict.  `ReturnsValid n` is the promise made
of it wherever a promise is made: `KERNEL`, `DROP`, or an index below `n`.
-/

namespace UdxFastpath

open ByteWindow Disposal

/-- An action of a packet loop on the buffer with index `i`. -/
inductive Event
  | arpHandler (i verdict : ℕ)
  | packetProcessor (i verdict : ℕ)
  | tapWrite (i : ℕ) (bytes : List UInt8)
  | free (i : ℕ)
  | transmit (i port : ℕ) (bytes : List UInt8)
  | wild (i index : ℕ)
  deriving DecidableEq

namespace Event

/-- The buffer an event is about. -/
def item : Event → ℕ
  | arpHandler i _ => i
  | packetProcessor i _ => i
  | tapWrite i _ => i
  | free i => i
  | transmit i _ _ => i
  | wild i _ => i

/-- The events that return a buffer to its pool. -/
def frees : Event → Bool
  | free _ => true
  | _ => false

/-- The events that hand a buffer to the transmit side of a port. -/
def transmits : Event → Bool
  | transmit _ _ _ => true
  | _ => false

/-- The final dispositions of a buffer. -/
def disposes (e : Event) : Bool := e.frees || e.transmits

/-- The events that pass a buffer to the registered packet processor. -/
def hands : Event → Bool
  | packetProcessor _ _ => true
  | _ => false

/-- The events that write a buffer to the TAP device. -/
def taps : Event → Bool
  | tapWrite _ _ => true
  | _ => false

section Constructors

variable (i v : ℕ) (bytes : List UInt8)

@[simp] theorem item_arpHandler : (arpHandler i v).item = i := rfl
@[simp] theorem item_packetProcessor : (packetProcessor i v).item = i := rfl
@[simp] theorem item_tapWrite : (tapWrite i bytes).item = i := rfl
@[simp] theorem item_free : (free i).item = i := rfl
@[simp] theorem item_transmit : (transmit i v bytes).item = i := rfl
@[simp] theorem item_wild : (wild i v).item = i := rfl

@[simp] theorem disposes_arpHandler : (arpHandler i v).disposes = false := rfl
@[simp] theorem disposes_packetProcessor : (packetProcessor i v).disposes = false := rfl
@[simp] theorem disposes_tapWrite : (tapWrite i bytes).disposes = false := rfl
@[simp] theorem disposes_free : (free i).disposes = true := rfl
@[simp] theorem disposes_transmit : (transmit i v bytes).disposes = true := rfl

end Constructors

/-- What frees a buffer disposes of it. -/
theorem frees_eq_false_of_disposes {e : Event} (h : e.disposes = false) : e.frees = false := by
  cases e <;> simp_all [frees]

end Event

/-- The sub-trace of buffer `i`. -/
abbrev eventsOf (tr : List Event) (i : ℕ) : List Event := onItem Event.item tr i

/-- Buffer `i` was passed to the packet processor. -/
def Handed (tr : List Event) (i : ℕ) : Prop := ∃ e ∈ eventsOf tr i, e.hands = true

/-- Buffer `i` was written to the TAP device. -/
def Tapped (tr : List Event) (i : ℕ) : Prop := ∃ e ∈ eventsOf tr i, e.taps = true

instance (tr : List Event) (i : ℕ) : Decidable (Handed tr i) :=
  inferInstanceAs (Decidable (∃ e ∈ _, _))

instance (tr : List Event) (i : ℕ) : Decidable (Tapped tr i) :=
  inferInstanceAs (Decidable (∃ e ∈ _, _))

/-- **Linear use of one buffer**: exactly one final disposition, and nothing
happens to it once it is freed. -/
def DisposedOnce (tr : List Event) (i : ℕ) : Prop :=
  occurrences Event.item Event.disposes tr i = 1 ∧
    NoUseAfterFree Event.item Event.frees (eventsOf tr i)

instance (tr : List Event) (i : ℕ) : Decidable (DisposedOnce tr i) :=
  inferInstanceAs (Decidable (_ ∧ _))

/-- On a trace about one buffer the sub-trace is the trace. -/
theorem disposedOnce_iff_of_item {tr : List Event} {i : ℕ} (h : ∀ e ∈ tr, e.item = i) :
    DisposedOnce tr i ↔
      tr.countP Event.disposes = 1 ∧ NoUseAfterFree Event.item Event.frees tr := by
  have hself : onItem Event.item tr i = tr := onItem_eq_self Event.item h
  rw [DisposedOnce, occurrences, eventsOf, hself]

/-- A buffer is disposed of by a long trace exactly as it is by the part of it
that is about the buffer. -/
theorem disposedOnce_iff_of_eventsOf {tr evs : List Event} {i : ℕ} (h : eventsOf tr i = evs) :
    DisposedOnce tr i ↔ DisposedOnce evs i := by
  have hitem : ∀ e ∈ evs, e.item = i := by
    intro e he
    rw [← h] at he
    exact ((mem_onItem Event.item).mp he).2
  rw [disposedOnce_iff_of_item hitem, ← h]
  exact Iff.rfl

/-- No event, no disposition. -/
theorem not_disposedOnce_of_eventsOf_nil {tr : List Event} {i : ℕ} (h : eventsOf tr i = []) :
    ¬ DisposedOnce tr i := by
  rw [disposedOnce_iff_of_eventsOf h]
  rintro ⟨hcount, -⟩
  simp [occurrences] at hcount

/-- An iteration that **ends in** its one disposition: everything before `last` is
about buffer `i` and disposes of nothing. -/
def EndsIn (evs : List Event) (i : ℕ) (last : Event) : Prop :=
  last.item = i ∧ last.disposes = true ∧
    ∃ pre, evs = pre ++ [last] ∧ ∀ e ∈ pre, e.item = i ∧ e.disposes = false

/-- Such an iteration disposes of its buffer once, and the free, if it is one, is
the last thing that happens. -/
theorem EndsIn.disposedOnce {evs : List Event} {i : ℕ} {last : Event} (h : EndsIn evs i last) :
    DisposedOnce evs i := by
  obtain ⟨hitem, hlast, pre, rfl, hpre⟩ := h
  have hall : ∀ e ∈ pre ++ [last], e.item = i := by
    intro e he
    rcases List.mem_append.mp he with he | he
    · exact (hpre e he).1
    · rw [List.mem_singleton.mp he, hitem]
  have hnone : pre.countP Event.disposes = 0 :=
    List.countP_eq_zero.mpr fun e he => by simp [(hpre e he).2]
  -- nothing in front of `last` frees, so nothing can come after a free
  have hnofree : ∀ e ∈ pre, e.frees = false := fun e he =>
    Event.frees_eq_false_of_disposes (hpre e he).2
  rw [disposedOnce_iff_of_item hall, List.countP_append, hnone]
  refine ⟨by simp [hlast], List.pairwise_append.mpr ⟨?_, List.pairwise_singleton _ _, ?_⟩⟩
  · exact List.pairwise_of_forall_mem_list fun e he e' _ hfree => by simp [hnofree e he] at hfree
  · intro e he e' _ hfree
    simp [hnofree e he] at hfree

/-- The buffers handed to the transmit side of `port`, in order. -/
def sentTo (tr : List Event) (port : ℕ) : List ℕ :=
  tr.filterMap fun
    | .transmit i p _ => if p = port then some i else none
    | _ => none

@[simp] theorem sentTo_nil (port : ℕ) : sentTo [] port = [] := rfl

@[simp] theorem sentTo_append (tr tr' : List Event) (port : ℕ) :
    sentTo (tr ++ tr') port = sentTo tr port ++ sentTo tr' port :=
  List.filterMap_append ..

/-- What is sent was the subject of an event. -/
theorem exists_item_of_mem_sentTo {tr : List Event} {port i : ℕ} (h : i ∈ sentTo tr port) :
    ∃ e ∈ tr, e.item = i := by
  obtain ⟨e, he, hsome⟩ := List.mem_filterMap.mp h
  refine ⟨e, he, ?_⟩
  cases e with
  | transmit i' p bytes =>
      dsimp only at hsome
      split at hsome
      · exact Option.some.inj hsome
      · cases hsome
  | _ => cases hsome

/-- An iteration sends its own buffer, at most once. -/
theorem EndsIn.sentTo_eq {evs : List Event} {i : ℕ} {last : Event} (h : EndsIn evs i last)
    (port : ℕ) : sentTo evs port = [] ∨ sentTo evs port = [i] := by
  obtain ⟨hitem, -, pre, rfl, hpre⟩ := h
  have hnone : sentTo pre port = [] := by
    refine List.filterMap_eq_nil_iff.mpr fun e he => ?_
    have hno := (hpre e he).2
    cases e with
    | transmit i' p bytes => simp at hno
    | _ => rfl
  rw [sentTo_append, hnone, List.nil_append]
  cases last with
  | transmit i' p bytes =>
      have hi : i' = i := hitem
      subst hi
      by_cases hp : p = port <;> simp [sentTo, hp]
  | _ => simp [sentTo]

/-- A burst of `n` buffers is **used linearly**: each is disposed of exactly once
and none is touched after it was freed. -/
def UsedLinearly (tr : List Event) (n : ℕ) : Prop :=
  (∀ i < n, occurrences Event.item Event.disposes tr i = 1) ∧
    NoUseAfterFree Event.item Event.frees tr

instance (tr : List Event) (n : ℕ) : Decidable (UsedLinearly tr n) :=
  inferInstanceAs (Decidable (_ ∧ _))

/-- Linear use of a burst is linear use of each buffer. -/
theorem usedLinearly_iff {tr : List Event} {n : ℕ} (h : ∀ e ∈ tr, e.item < n) :
    UsedLinearly tr n ↔ ∀ i < n, DisposedOnce tr i := by
  rw [UsedLinearly, noUseAfterFree_iff_onItem]
  constructor
  · rintro ⟨honce, hclean⟩ i hi
    exact ⟨honce i hi, hclean i⟩
  · intro hdisposed
    refine ⟨fun i hi => (hdisposed i hi).1, fun i => ?_⟩
    by_cases hi : i < n
    · exact (hdisposed i hi).2
    · rw [onItem_eq_nil Event.item fun e he => by have := h e he; omega]
      exact noUseAfterFree_nil ..

/-! ## The registered packet processor -/

/-- A registered `packet_processor`: from its own state, the packet and the
receiving port to a verdict, the packet as it leaves it, and its next state. -/
abbrev PacketProcessor (σ : Type*) := σ → Window → ℕ → ℕ × Window × σ

/-- Every verdict is `KERNEL`, `DROP` or an index below `n`. -/
def ReturnsValid {σ : Type*} (pp : PacketProcessor σ) (n : ℕ) : Prop :=
  ∀ s b port, (pp s b port).1 = KERNEL ∨ (pp s b port).1 = DROP ∨ (pp s b port).1 < n

/-- The packet after `PrependData` by a caller that ignores its result: a packet
without the headroom stays as it is. -/
def prependData (b : Window) (n : ℕ) : Window := (b.prepend n).getD b

end UdxFastpath
