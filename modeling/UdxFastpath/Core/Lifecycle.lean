import UdxFastpath.Core.Loader
import UdxFastpath.Foundation.Conservation

/-!
# Starting and stopping

The flags `STARTED` and `QUIT` of `DataPlaneManager`, the thread that starts the
datapath and then waits, and the TAP handler thread, which waits for the start and
then reads the TAP device.  Their steps, and calls of `stop_datapath_core` from
anywhere, are interleaved in any order.

Both flags have the wrong polarity.  `is_started` holds while `STARTED` has its
**initial** value, and `stop_datapath_core` assigns to `QUIT` the value it has
anyway.  So

* nothing ever stops running,
* the datapath counts as started until it starts,
* the TAP handler reads frames exactly if it came too early, and if it comes after
  the start it waits forever.

A thread sees the flags as they were last assigned.
-/

namespace UdxFastpath

open Conservation

/-! ## The flags -/

/-- `STARTED` and `QUIT`, with their initial values. -/
structure Flags where
  started : ℤ := 0
  quit : ℤ := 0
  deriving DecidableEq, Repr

namespace Flags

/-- `is_running`. -/
def isRunning (flags : Flags) : Bool := flags.quit == 0

/-- `is_started`. -/
def isStarted (flags : Flags) : Bool := flags.started == 0

/-- `stop_datapath_core`. -/
def stopDatapathCore (flags : Flags) : Flags := { flags with quit := 0 }

end Flags

/-! ## The threads -/

/-- Where the thread is that calls `start_datapath_core`.  Only DPDK has something to prepare
between the start of the TAP handler and the wait loop. -/
inductive MainPhase
  | idle
  | initialising (datapath : Datapath)
  | preparing
  | waiting (datapath : Datapath)
  | exited
  deriving DecidableEq, Repr

/-- Where the TAP handler thread is: in its start loop, or in its read loop. -/
inductive TapPhase
  | absent
  | polling
  | reading
  | ended
  deriving DecidableEq, Repr

/-- A state of the process, with what the contract has to know of the past. -/
structure Life where
  flags : Flags := {}
  main : MainPhase := .idle
  tap : TapPhase := .absent
  /-- `stop_datapath_core` was called. -/
  stopCalled : Bool := false
  /-- The datapath set `STARTED`. -/
  startedSet : Bool := false
  /-- The TAP handler looked at `is_started` before that. -/
  lookedBefore : Bool := false
  /-- The TAP handler looked at `is_started` after that. -/
  lookedAfter : Bool := false
  /-- The number of frames it read from the TAP device before that. -/
  framesBefore : ℕ := 0
  deriving DecidableEq, Repr

/-- How the initialisation of a datapath ends: in an error exit, or in an exception. -/
inductive Initialised
  | done
  | failed
  | aborted
  deriving DecidableEq, Repr

inductive LifeAction
  | callStart
  | initialise (result : Initialised)
  | prepare (prepared : Bool)
  | poll (input : ℤ)
  | callStop
  | look
  | tapRead (readLen : ℤ)
  deriving DecidableEq, Repr

namespace Life

/-- The process is over, and its threads with it. -/
def exit (s : Life) : Life := { s with main := .exited, tap := .ended }

/-- The start of the datapath returns.  The handle of the TAP handler thread is destroyed without
having been joined, and that ends the process. -/
def leave (s : Life) : Life := if s.tap = .absent then { s with main := .idle } else s.exit

/-- `start_datapath_core` is called. -/
def callStart (dm : Loaded) (s : Life) : Life :=
  if s.main = .idle then
    match startDatapathCore dm with
    | some .dpdk => { s with main := .initialising .dpdk }
    | some .cndp => { s with main := .initialising .cndp }
    -- `start_afpacket_datapath` is empty
    | some .afpacket => s
    | none => s
  else s

/-- The TAP handler thread is started. -/
def spawn (dm : Loaded) (s : Life) : Life :=
  if dm.createTap then { s with tap := .polling } else s

/-- The datapath is initialised, up to the start of the TAP handler. -/
def initialise (dm : Loaded) (s : Life) (result : Initialised) : Life :=
  match s.main, result with
  | .initialising .dpdk, .done => { s.spawn dm with main := .preparing }
  | .initialising .cndp, .done => { s.spawn dm with main := .waiting .cndp }
  | .initialising .cndp, .failed => { s with main := .idle }
  | .initialising _, _ => s.exit
  | _, _ => s

/-- `STARTED = 1`. -/
def setStarted (s : Life) : Life :=
  { s with flags := { s.flags with started := 1 }, startedSet := true }

/-- DPDK creates its workers, starts forwarding and reaches one of its two wait loops; only the
one without statistics sets `STARTED`. -/
def prepare (statsPeriod : ℕ) (s : Life) (prepared : Bool) : Life :=
  if s.main = .preparing then
    if prepared then
      if statsPeriod = 0 then { s.setStarted with main := .waiting .dpdk }
      else { s with main := .waiting .dpdk }
    else s.exit
  else s

/-- One turn of the wait loop.  The one with statistics does not look at the standard input. -/
def poll (statsPeriod : ℕ) (s : Life) (input : ℤ) : Life :=
  match s.main with
  | .waiting datapath =>
      if s.flags.isRunning then
        if datapath = .dpdk ∧ statsPeriod ≠ 0 then s
        else if 0 ≤ input then s.leave else s
      else s.leave
  | _ => s

/-- `stop_datapath_core` is called. -/
def callStop (s : Life) : Life :=
  if s.main = .exited then s
  else { s with flags := s.flags.stopDatapathCore, stopCalled := true }

/-- `while (!is_started()) sleep(1)`, one turn. -/
def look (s : Life) : Life :=
  if s.tap = .polling then
    { s with
      tap := if s.flags.isStarted then .reading else .polling
      lookedBefore := s.lookedBefore || !s.startedSet
      lookedAfter := s.lookedAfter || s.startedSet }
  else s

/-- `while ((read_len = read(..)) > 0 && is_running())`, one turn. -/
def tapRead (s : Life) (readLen : ℤ) : Life :=
  if s.tap = .reading then
    { s with
      tap := if 0 < readLen ∧ s.flags.isRunning then .reading else .ended
      framesBefore := s.framesBefore + if 0 < readLen ∧ !s.startedSet then 1 else 0 }
  else s

/-- One step of one of the threads. -/
def step (dm : Loaded) (statsPeriod : ℕ) (s : Life) : LifeAction → Life
  | .callStart => s.callStart dm
  | .initialise result => s.initialise dm result
  | .prepare prepared => s.prepare statsPeriod prepared
  | .poll input => s.poll statsPeriod input
  | .callStop => s.callStop
  | .look => s.look
  | .tapRead readLen => s.tapRead readLen

/-- The states reached from the initial one, by any interleaving. -/
def Reached (dm : Loaded) (statsPeriod : ℕ) (s : Life) : Prop :=
  Reaches (step dm statsPeriod) (fun _ _ => True) {} s

/-! ## The contract -/

/-- What the flags are for. -/
structure Lawful (s : Life) : Prop where
  /-- Once `stop_datapath_core` was called, `is_running` is false. -/
  stopped : s.stopCalled = true → s.flags.isRunning = false
  /-- `is_started` is true exactly after the datapath set `STARTED`. -/
  started : s.flags.isStarted = true ↔ s.startedSet = true
  /-- The TAP handler read nothing before that. -/
  reads : s.framesBefore = 0
  /-- The TAP handler is not still waiting although it looked after that. -/
  waits : s.lookedAfter = true → s.tap ≠ .polling

/-! ## What the flags do -/

theorem main_spawn (s : Life) (dm : Loaded) : (s.spawn dm).main = s.main := by
  unfold spawn
  split <;> rfl

/-- The invariant of a process whose flags have the wrong polarity. -/
structure Inverted (s : Life) : Prop where
  quit : s.flags.quit = 0
  started : s.flags.started = if s.startedSet then 1 else 0
  reading : s.tap = .reading → s.lookedBefore = true
  frames : 0 < s.framesBefore → s.lookedBefore = true
  after : s.lookedAfter = true → s.startedSet = true
  late : s.lookedAfter = true → s.tap = .polling ∨ s.main = .exited

theorem inverted_init : Inverted {} where
  quit := rfl
  started := rfl
  reading := fun h => by cases h
  frames := fun h => absurd h (Nat.lt_irrefl 0)
  after := fun h => by cases h
  late := fun h => by cases h

namespace Inverted

variable {s : Life}

theorem isRunning_eq (h : Inverted s) : s.flags.isRunning = true := by
  rw [Flags.isRunning, h.quit]
  rfl

/-- `is_started` says the opposite. -/
theorem isStarted_eq (h : Inverted s) : s.flags.isStarted = !s.startedSet := by
  rw [Flags.isStarted, h.started]
  cases s.startedSet <;> rfl

theorem exit (h : Inverted s) : Inverted s.exit where
  quit := h.quit
  started := h.started
  reading := fun hreading => by cases hreading
  frames := h.frames
  after := h.after
  late := fun _ => .inr rfl

/-- The starting thread moves on, but not out of the process. -/
theorem move (h : Inverted s) (hlive : s.main ≠ .exited) (phase : MainPhase) :
    Inverted { s with main := phase } where
  quit := h.quit
  started := h.started
  reading := h.reading
  frames := h.frames
  after := h.after
  late := fun hlate => .inl ((h.late hlate).resolve_right hlive)

theorem leave (h : Inverted s) (hlive : s.main ≠ .exited) : Inverted s.leave := by
  unfold Life.leave
  split
  · exact h.move hlive .idle
  · exact h.exit

theorem callStart (h : Inverted s) (dm : Loaded) : Inverted (s.callStart dm) := by
  unfold Life.callStart
  split
  · rename_i hidle
    have hlive : s.main ≠ .exited := by
      rw [hidle]
      decide
    split
    · exact h.move hlive _
    · exact h.move hlive _
    · exact h
    · exact h
  · exact h

/-- A TAP handler thread that is just started is in its start loop. -/
theorem spawn (h : Inverted s) (dm : Loaded) : Inverted (s.spawn dm) := by
  unfold Life.spawn
  split
  · refine ⟨h.quit, h.started, fun hreading => ?_, h.frames, h.after, fun _ => .inl rfl⟩
    cases hreading
  · exact h

theorem initialise (h : Inverted s) (dm : Loaded) (result : Initialised) :
    Inverted (s.initialise dm result) := by
  unfold Life.initialise
  split
  · rename_i hmain
    refine (h.spawn dm).move ?_ _
    rw [main_spawn, hmain]
    decide
  · rename_i hmain
    refine (h.spawn dm).move ?_ _
    rw [main_spawn, hmain]
    decide
  · rename_i hmain
    refine h.move ?_ _
    rw [hmain]
    decide
  · exact h.exit
  · exact h

theorem setStarted (h : Inverted s) : Inverted s.setStarted where
  quit := h.quit
  started := rfl
  reading := h.reading
  frames := h.frames
  after := fun _ => rfl
  late := h.late

theorem prepare (h : Inverted s) (statsPeriod : ℕ) (prepared : Bool) :
    Inverted (s.prepare statsPeriod prepared) := by
  unfold Life.prepare
  split
  · rename_i hmain
    have hlive : s.main ≠ .exited := by
      rw [hmain]
      decide
    split
    · split
      · exact h.setStarted.move hlive _
      · exact h.move hlive _
    · exact h.exit
  · exact h

theorem poll (h : Inverted s) (statsPeriod : ℕ) (input : ℤ) :
    Inverted (s.poll statsPeriod input) := by
  unfold Life.poll
  split
  · rename_i datapath hmain
    have hlive : s.main ≠ .exited := by
      rw [hmain]
      exact fun hcon => by cases hcon
    rw [if_pos h.isRunning_eq]
    split
    · exact h
    · split
      · exact h.leave hlive
      · exact h
  · exact h

theorem callStop (h : Inverted s) : Inverted s.callStop := by
  unfold Life.callStop
  split
  · exact h
  · exact ⟨rfl, h.started, h.reading, h.frames, h.after, h.late⟩

/-- The look that lets the TAP handler through comes before the start; one that comes after it
leaves it in its loop. -/
theorem look (h : Inverted s) : Inverted s.look := by
  unfold Life.look
  split
  · rename_i hpolling
    rw [h.isStarted_eq]
    cases hset : s.startedSet with
    | false =>
        have hnever : s.lookedAfter ≠ true := by
          intro hafter
          rw [h.after hafter] at hset
          cases hset
        refine ⟨h.quit, ?_, fun _ => ?_, fun _ => ?_, fun hafter => ?_, fun hafter => ?_⟩
        · rw [h.started, hset]
        · rw [Bool.not_false, Bool.or_true]
        · rw [Bool.not_false, Bool.or_true]
        · rw [Bool.or_false] at hafter
          exact absurd hafter hnever
        · rw [Bool.or_false] at hafter
          exact absurd hafter hnever
    | true =>
        refine ⟨h.quit, ?_, fun hreading => ?_, fun hframes => ?_, fun _ => rfl, fun _ => .inl rfl⟩
        · rw [h.started, hset]
        · cases hreading
        · rw [h.frames hframes, Bool.true_or]
  · exact h

/-- Whoever reads was let through. -/
theorem tapRead (h : Inverted s) (readLen : ℤ) : Inverted (s.tapRead readLen) := by
  unfold Life.tapRead
  split
  · rename_i hreading
    have hbefore := h.reading hreading
    refine ⟨h.quit, h.started, fun _ => hbefore, fun _ => hbefore, h.after, fun hlate => ?_⟩
    rcases h.late hlate with hpolling | hexited
    · rw [hreading] at hpolling
      cases hpolling
    · exact .inr hexited
  · exact h

/-- Every step of every thread. -/
theorem step (h : Inverted s) (dm : Loaded) (statsPeriod : ℕ) (action : LifeAction) :
    Inverted (s.step dm statsPeriod action) := by
  cases action with
  | callStart => exact h.callStart dm
  | initialise result => exact h.initialise dm result
  | prepare prepared => exact h.prepare statsPeriod prepared
  | poll input => exact h.poll statsPeriod input
  | callStop => exact h.callStop
  | look => exact h.look
  | tapRead readLen => exact h.tapRead readLen

theorem of_reached {dm : Loaded} {statsPeriod : ℕ} (hreach : Reached dm statsPeriod s) :
    Inverted s :=
  hreach.invariant inverted_init fun _ action h _ => h.step dm statsPeriod action

end Inverted

/-- **The flags are inverted in every state of every run.**  The process counts as running
whether it was stopped or not, and as started exactly until it starts.  The TAP handler is in its
read loop, and has read a frame before the start, only if it looked too early; if it looked after
the start it is waiting for as long as the process lives.  No state is lawful. -/
theorem flags_inverted {dm : Loaded} {statsPeriod : ℕ} {s : Life}
    (hreach : Reached dm statsPeriod s) :
    ¬ Lawful s ∧
      s.flags.isRunning = true ∧
      (s.flags.isStarted = true ↔ s.startedSet = false) ∧
      (s.tap = .reading ∨ 0 < s.framesBefore → s.lookedBefore = true) ∧
      (s.lookedAfter = true → s.tap = .polling ∨ s.main = .exited) := by
  have h := Inverted.of_reached hreach
  have hstarted : s.flags.isStarted = true ↔ s.startedSet = false := by
    rw [h.isStarted_eq, Bool.not_eq_true']
  refine ⟨fun hlawful => ?_, h.isRunning_eq, hstarted, fun hread => ?_, h.late⟩
  · have hcon : s.startedSet = false ↔ s.startedSet = true := hstarted.symm.trans hlawful.started
    cases hset : s.startedSet with
    | false => exact Bool.false_ne_true (hset.symm.trans (hcon.mp hset))
    | true => exact Bool.false_ne_true ((hcon.mpr hset).symm.trans hset)
  · rcases hread with hreading | hframes
    · exact h.reading hreading
    · exact h.frames hframes

/-! ## Runs -/

/-- A DPDK datapath with a TAP device. -/
def withTap : Loaded := { api := API_VALUE_DPDK, createTap := true }

/-- The state after a run. -/
def after (run : List LifeAction) : Life := run.foldl (step withTap 0) {}

theorem reached_after (run : List LifeAction) : Reached withTap 0 (after run) := by
  induction run using List.reverseRecOn with
  | nil => exact .start
  | append_singleton run action ih =>
      rw [after, List.foldl_concat]
      exact .next action ih trivial

/-- The TAP handler looks once the datapath has started. -/
def lateRun : List LifeAction := [.callStart, .initialise .done, .prepare true, .look, .look]

/-- …and it is still waiting. -/
theorem flags_inverted_lateRun :
    (after lateRun).tap = .polling ∧ ¬ Lawful (after lateRun) ∧
      (after lateRun).flags.isRunning = true ∧
      ((after lateRun).flags.isStarted = true ↔ (after lateRun).startedSet = false) := by
  have h := flags_inverted (reached_after lateRun)
  exact ⟨by decide, h.1, h.2.1, h.2.2.1⟩

/-- The TAP handler reads a frame while the ports are not yet forwarding; the datapath is
started, and stopped. -/
def earlyRun : List LifeAction :=
  [.callStart, .initialise .done, .look, .tapRead 60, .prepare true, .callStop, .poll (-1)]

/-- **Each part of the contract fails**: the stopped process is running, the started datapath is
not started, a frame was read too early, and a TAP handler that looks late waits. -/
theorem earlyRun_lateRun_unlawful :
    Reached withTap 0 (after earlyRun) ∧ Reached withTap 0 (after lateRun) ∧
      ((after earlyRun).stopCalled = true ∧ (after earlyRun).flags.isRunning = true) ∧
      ((after earlyRun).startedSet = true ∧ (after earlyRun).flags.isStarted = false) ∧
      (after earlyRun).framesBefore = 1 ∧
      ((after lateRun).lookedAfter = true ∧ (after lateRun).tap = .polling) ∧
      ¬ Lawful (after earlyRun) ∧ ¬ Lawful (after lateRun) := by
  refine ⟨reached_after _, reached_after _, by decide, by decide, by decide, by decide, ?_, ?_⟩
  · intro h
    exact absurd h.reads (by decide)
  · intro h
    exact absurd rfl (h.waits (by decide))

end Life

end UdxFastpath
