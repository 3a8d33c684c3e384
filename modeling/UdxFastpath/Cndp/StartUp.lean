import UdxFastpath.Cndp.LcoreGroups
import UdxFastpath.Core.RangeLists
import UdxFastpath.Foundation.Barrier

/-!
# How the CNDP datapath starts

`start_cndp_datapath` has `parse_args` create one thread for every forwarding thread of
the configuration, sets up the workers, and meets the forwarding threads at a barrier
for as many parties as the configuration has threads.  Only then do they touch a port:

* `parse_args` creates the barrier before the threads, and a thread goes to the barrier
  first (`rx_tx_thread`);
* the main thread comes to it last, after the rings have been created;
* `setup_worker_threads` keeps the worker threads in a vector of its own, and returns.
  A `std::thread` that is destroyed while it can still be joined ends the process, and
  the handle of the TAP thread is another one.

The steps of the threads are interleaved in any order.

* `Starting.Proper`: the invariant, kept by every step.
* `polls_after_setup`: what the barrier is for.
* `forwarding_can_start`: there is no deadlock before it opens.
* `forwarding_starts_iff`: when forwarding starts at all.
-/

namespace UdxFastpath.Cndp

open Barriers ByteStrings EarlyExit OrderedObject

/-! ## The threads -/

/-- The parties of the barrier. -/
inductive Party
  | main
  | fwd (i : ℕ)
  deriving DecidableEq, Repr

/-- What the start depends on: `jcfg_num_threads` and the forwarding threads among them, the
model, the worker cores and `create_tap`. -/
structure StartConfig where
  nbThreads : ℕ
  nbFwd : ℕ
  masterWorker : Bool
  workerCores : Except Stop (List ℤ)
  createTap : Bool

/-- Where the main thread is: in `parse_args`, in `setup_worker_threads`, at the barrier, in the
wait loop, or back from `start_cndp_datapath`. -/
inductive MainAt
  | parsing
  | setup
  | barrier
  | looping
  | returned
  deriving DecidableEq, Repr

/-- The process. -/
structure Starting where
  main : MainAt
  created : ℕ
  workers : ℕ
  crowd : Crowd Party
  tapJoinable : Bool
  terminated : Bool

/-- A step of a thread, with the results of the calls it makes. -/
inductive StartAction
  | createThread (created : Bool)
  | parsed (ok : Bool)
  | createWorker
  | leaveSetup
  | arrive (party : Party)
  | pass (party : Party)
  | leaveLoop
  deriving DecidableEq, Repr

namespace Starting

/-- The process enters `parse_args`; the barrier is for all threads of the configuration. -/
def init (c : StartConfig) : Starting where
  main := .parsing
  created := 0
  workers := 0
  crowd := Crowd.gather Party c.nbThreads
  tapJoinable := false
  terminated := false

/-- `thread_create` in `process_callback`, for the next forwarding thread. -/
def createThread (c : StartConfig) (s : Starting) (created : Bool) : Starting :=
  if s.main = .parsing ∧ s.created < c.nbFwd then
    if created then { s with created := s.created + 1 } else { s with main := .returned }
  else s

/-- `parse_args` comes to its end. -/
def parsed (c : StartConfig) (s : Starting) (ok : Bool) : Starting :=
  if s.main = .parsing ∧ s.created = c.nbFwd then
    if !ok then { s with main := .returned }
    else if c.masterWorker then { s with main := .setup }
    else { s with main := .barrier }
  else s

/-- `workers[i] = thread(worker_thread, worker_cores[i])`. -/
def createWorker (c : StartConfig) (s : Starting) : Starting :=
  if s.main = .setup then
    match c.workerCores with
    | .ok cores => if s.workers < cores.length then { s with workers := s.workers + 1 } else s
    | .error _ => s
  else s

/-- `setup_worker_threads` returns and `workers` is destroyed.  What is thrown on the way is
caught by nobody. -/
def leaveSetup (c : StartConfig) (s : Starting) : Starting :=
  if s.main = .setup then
    match c.workerCores with
    | .ok cores =>
        if s.workers = cores.length then
          if 0 < s.workers then { s with terminated := true } else { s with main := .barrier }
        else s
    | .error _ => { s with terminated := true }
  else s

/-- The party has come to its call of `pthread_barrier_wait`, if it is not past it. -/
def there (s : Starting) : Party → Bool
  | .main => s.main == .barrier
  | .fwd i => decide (i < s.created)

/-- The party calls `pthread_barrier_wait`. -/
def arrive (s : Starting) (party : Party) : Starting :=
  if s.there party = true ∧ s.crowd.visit party = .ahead then
    { s with crowd := s.crowd.arrive party }
  else s

/-- `pthread_barrier_wait` returns.  The main thread then creates the TAP handler thread. -/
def pass (c : StartConfig) (s : Starting) (party : Party) : Starting :=
  if s.crowd.mayPass party then
    match party with
    | .main =>
        { s with crowd := s.crowd.pass .main, main := .looping, tapJoinable := c.createTap }
    | .fwd i => { s with crowd := s.crowd.pass (.fwd i) }
  else s

/-- The wait loop ends, `start_cndp_datapath` returns and `tap_handler_thread` is destroyed. -/
def leaveLoop (s : Starting) : Starting :=
  if s.main = .looping then
    if s.tapJoinable then { s with terminated := true } else { s with main := .returned }
  else s

/-- One step; none is left when the process has been terminated. -/
def step (c : StartConfig) (s : Starting) (a : StartAction) : Starting :=
  if s.terminated then s
  else
    match a with
    | .createThread created => s.createThread c created
    | .parsed ok => s.parsed c ok
    | .createWorker => s.createWorker c
    | .leaveSetup => s.leaveSetup c
    | .arrive party => s.arrive party
    | .pass party => s.pass c party
    | .leaveLoop => s.leaveLoop

/-- A run from the beginning. -/
def after (c : StartConfig) (run : List StartAction) : Starting := run.foldl (step c) (init c)

/-- The forwarding thread `i` is past the barrier, on its way to its ports. -/
def Polls (s : Starting) (i : ℕ) : Prop := s.crowd.visit (.fwd i) = .past

end Starting

/-! ## What holds in every run -/

/-- The parties of a configuration. -/
def StartConfig.parties (c : StartConfig) : Finset Party :=
  insert .main ((Finset.range c.nbFwd).image .fwd)

/-- The configuration has one thread more than forwarding threads, as generated ones do. -/
def StartConfig.Counted (c : StartConfig) : Prop := c.nbThreads = c.nbFwd + 1

/-- The process does not survive `setup_worker_threads`. -/
def StartConfig.EndsInSetup (c : StartConfig) : Prop :=
  c.masterWorker = true ∧ c.workerCores ≠ .ok []

/-- The invariant of a start. -/
structure Starting.Proper (c : StartConfig) (s : Starting) : Prop where
  sound : s.crowd.Sound c.parties
  created_le : s.created ≤ c.nbFwd
  created : ∀ i, s.crowd.visit (.fwd i) ≠ .ahead → i < s.created
  idle : c.workerCores = .ok [] → s.workers = 0
  early : s.main = .parsing ∨ s.main = .setup → s.crowd.visit .main = .ahead
  setup : s.main = .setup → c.masterWorker = true ∧ s.created = c.nbFwd
  late : s.main = .barrier ∨ s.crowd.visit .main ≠ .ahead → s.created = c.nbFwd ∧ ¬ c.EndsInSetup
  looping : s.main = .looping → s.crowd.visit .main ≠ .ahead

namespace Starting

variable {c : StartConfig} {s : Starting}

theorem mem_parties {c : StartConfig} {party : Party} :
    party ∈ c.parties ↔ party = .main ∨ ∃ i < c.nbFwd, party = .fwd i := by
  simp [StartConfig.parties, eq_comm]

theorem card_parties (c : StartConfig) : c.parties.card = c.nbFwd + 1 := by
  have hnot : Party.main ∉ (Finset.range c.nbFwd).image Party.fwd := by simp
  rw [StartConfig.parties, Finset.card_insert_of_notMem hnot,
    Finset.card_image_of_injective _ fun i j h => by cases h; rfl, Finset.card_range]

theorem mem_parties_fwd {i : ℕ} (h : i < c.nbFwd) : .fwd i ∈ c.parties :=
  mem_parties.mpr (.inr ⟨i, h, rfl⟩)

theorem mem_parties_main (c : StartConfig) : .main ∈ c.parties := mem_parties.mpr (.inl rfl)

theorem proper_init (hc : c.Counted) : Proper c (init c) := by
  have hsound : (Crowd.gather Party c.parties.card).Sound c.parties :=
    Crowd.sound_gather ⟨.main, mem_parties_main c⟩
  rw [card_parties, ← hc] at hsound
  exact {
    sound := hsound
    created_le := Nat.zero_le _
    created := fun i hi => absurd rfl hi
    idle := fun _ => rfl
    early := fun _ => rfl
    setup := nofun
    late := by
      rintro (h | h)
      · cases h
      · exact absurd rfl h
    looping := nofun }

/-! ## One step -/

theorem Proper.createThread (h : Proper c s) (created : Bool) :
    Proper c (s.createThread c created) := by
  unfold Starting.createThread
  split
  · rename_i hguard
    obtain ⟨hmain, hlt⟩ := hguard
    have hahead := h.early (.inl hmain)
    split
    · exact { h with
        created_le := hlt
        created := fun i hi => Nat.lt_succ_of_lt (h.created i hi)
        setup := fun hsetup => by
          rw [show s.main = .setup from hsetup] at hmain
          cases hmain
        late := by
          rintro (hbarrier | hvisit)
          · rw [show s.main = .barrier from hbarrier] at hmain
            cases hmain
          · exact absurd hahead hvisit }
    · exact { h with
        early := by rintro (hearly | hearly) <;> cases hearly
        setup := nofun
        late := by
          rintro (hbarrier | hvisit)
          · cases hbarrier
          · exact absurd hahead hvisit
        looping := nofun }
  · exact h

theorem Proper.parsed (h : Proper c s) (ok : Bool) : Proper c (s.parsed c ok) := by
  unfold Starting.parsed
  split
  · rename_i hguard
    obtain ⟨hmain, hall⟩ := hguard
    have hahead := h.early (.inl hmain)
    split
    · exact { h with
        early := fun _ => hahead
        setup := nofun
        late := by
          rintro (hbarrier | hvisit)
          · cases hbarrier
          · exact absurd hahead hvisit
        looping := nofun }
    · split
      · rename_i hworkers
        exact { h with
          early := fun _ => hahead
          setup := fun _ => ⟨hworkers, hall⟩
          late := by
            rintro (hbarrier | hvisit)
            · cases hbarrier
            · exact absurd hahead hvisit
          looping := nofun }
      · rename_i hworkers
        exact { h with
          early := fun _ => hahead
          setup := nofun
          late := fun _ => ⟨hall, fun hends => hworkers hends.1⟩
          looping := nofun }
  · exact h

theorem Proper.createWorker (h : Proper c s) : Proper c (s.createWorker c) := by
  unfold Starting.createWorker
  split
  · split
    · rename_i cores hcores
      split
      · rename_i hlt
        refine { h with idle := fun hidle => ?_ }
        rw [hcores] at hidle
        cases hidle
        exact absurd hlt (Nat.not_lt_zero _)
      · exact h
    · exact h
  · exact h

/-- **`setup_worker_threads` returns only when there are no worker threads.** -/
theorem Proper.leaveSetup (h : Proper c s) : Proper c (s.leaveSetup c) := by
  unfold Starting.leaveSetup
  split
  · rename_i hmain
    split
    · rename_i cores hcores
      split
      · rename_i hall
        split
        · exact { h with }
        · rename_i hnone
          have hempty : cores = [] := by
            rw [hall] at hnone
            exact List.eq_nil_of_length_eq_zero (Nat.eq_zero_of_not_pos hnone)
          subst hempty
          exact { h with
            early := fun _ => h.early (.inr hmain)
            setup := nofun
            late := fun _ => ⟨(h.setup hmain).2, fun hends => hends.2 hcores⟩
            looping := nofun }
      · exact h
    · exact { h with }
  · exact h

theorem Proper.arrive (h : Proper c s) (party : Party) : Proper c (s.arrive party) := by
  unfold Starting.arrive
  split
  · rename_i hguard
    obtain ⟨hthere, hahead⟩ := hguard
    cases party with
    | main =>
        have hmain : s.main = .barrier := by simpa [there] using hthere
        exact { h with
          sound := h.sound.arrive (mem_parties_main c) hahead
          created := fun i hi => h.created i (by simpa using hi)
          early := by
            rintro (hearly | hearly) <;>
              rw [show s.main = _ from hearly] at hmain <;> cases hmain
          late := fun _ => h.late (.inl hmain)
          looping := fun _ => by simp }
    | fwd i =>
        have hcreated : i < s.created := by simpa [there] using hthere
        exact { h with
          sound := h.sound.arrive (mem_parties_fwd (hcreated.trans_le h.created_le)) hahead
          created := fun j hj => by
            by_cases hji : j = i
            · exact hji ▸ hcreated
            · exact h.created j (by simpa [hji] using hj)
          early := fun hearly => by simpa using h.early hearly
          late := fun hlate => h.late (by simpa using hlate)
          looping := fun hlooping => by simpa using h.looping hlooping }
  · exact h

theorem Proper.pass (h : Proper c s) (party : Party) : Proper c (s.pass c party) := by
  unfold Starting.pass
  split
  · rename_i hmay
    have hnot : s.crowd.visit party ≠ .ahead := by
      obtain ⟨_, hwaiting, -⟩ := Crowd.mayPass_iff.mp hmay
      rw [hwaiting]
      nofun
    cases party with
    | main =>
        exact { h with
          sound := h.sound.pass hmay
          created := fun i hi => h.created i (by simpa using hi)
          early := by rintro (hearly | hearly) <;> cases hearly
          setup := nofun
          late := fun _ => h.late (.inr hnot)
          looping := fun _ => by simp }
    | fwd i =>
        exact { h with
          sound := h.sound.pass hmay
          created := fun j hj => by
            by_cases hji : j = i
            · exact hji ▸ h.created i hnot
            · exact h.created j (by simpa [hji] using hj)
          early := fun hearly => by simpa using h.early hearly
          late := fun hlate => h.late (by simpa using hlate)
          looping := fun hlooping => by simpa using h.looping hlooping }
  · exact h

theorem Proper.leaveLoop (h : Proper c s) : Proper c s.leaveLoop := by
  unfold Starting.leaveLoop
  split
  · rename_i hmain
    have hvisit := h.looping hmain
    split
    · exact { h with }
    · exact { h with
        early := by rintro (hearly | hearly) <;> cases hearly
        setup := nofun
        late := fun _ => h.late (.inr hvisit)
        looping := nofun }
  · exact h

/-- Every step keeps the invariant. -/
theorem Proper.step (h : Proper c s) (a : StartAction) : Proper c (step c s a) := by
  unfold Starting.step
  split
  · exact h
  · cases a with
    | createThread created => exact h.createThread created
    | parsed ok => exact h.parsed ok
    | createWorker => exact h.createWorker
    | leaveSetup => exact h.leaveSetup
    | arrive party => exact h.arrive party
    | pass party => exact h.pass party
    | leaveLoop => exact h.leaveLoop

/-- So does every run. -/
theorem Proper.foldl (h : Proper c s) (run : List StartAction) :
    Proper c (run.foldl (Starting.step c) s) := by
  induction run generalizing s with
  | nil => exact h
  | cons a run ih => exact ih (h.step a)

theorem proper_after (hc : c.Counted) (run : List StartAction) : Proper c (after c run) :=
  (proper_init hc).foldl run

/-- A forwarding thread past the barrier has all others and the main thread behind it. -/
theorem Proper.polls (h : Proper c s) {i : ℕ} (hpolls : s.Polls i) :
    i < c.nbFwd ∧ s.created = c.nbFwd ∧ ¬ c.EndsInSetup ∧
      ∀ party ∈ c.parties, s.crowd.visit party ≠ .ahead := by
  have hall := fun party hparty => h.sound.all_arrived (j := party) hpolls hparty
  obtain ⟨hcreated, hsurvives⟩ := h.late (.inr (hall .main (mem_parties_main c)))
  refine ⟨?_, hcreated, hsurvives, hall⟩
  rw [← hcreated]
  refine h.created i ?_
  rw [show s.crowd.visit (.fwd i) = .past from hpolls]
  nofun

/-! ## Progress -/

/-- The start can still succeed. -/
structure Alive (c : StartConfig) (s : Starting) : Prop where
  proper : Proper c s
  running : s.terminated = false
  inside : s.main ≠ .returned

/-- What the main thread has before it. -/
def MainAt.toGo : MainAt → ℕ
  | .parsing => 2
  | .setup => 1
  | _ => 0

/-- What the threads have before them. -/
def toGo (c : StartConfig) (s : Starting) : ℕ :=
  (c.nbFwd - s.created) + MainAt.toGo s.main + s.crowd.toGo c.parties

/-- Some forwarding thread is not past the barrier. -/
def Unfinished (c : StartConfig) (s : Starting) : Prop := ∃ i < c.nbFwd, ¬ s.Polls i

theorem step_of_running (h : s.terminated = false) (a : StartAction) :
    step c s a =
      match a with
      | .createThread created => s.createThread c created
      | .parsed ok => s.parsed c ok
      | .createWorker => s.createWorker c
      | .leaveSetup => s.leaveSetup c
      | .arrive party => s.arrive party
      | .pass party => s.pass c party
      | .leaveLoop => s.leaveLoop := by
  unfold step
  rw [if_neg (by rw [h]; exact Bool.false_ne_true)]

/-- In `parse_args` the main thread creates the next thread or comes to the end. -/
theorem Alive.progress_parsing (h : Alive c s) (hmain : s.main = .parsing) :
    ∃ a, Alive c (step c s a) ∧ toGo c (step c s a) < toGo c s := by
  rcases h.proper.created_le.lt_or_eq with hlt | hall
  · have hstep : step c s (.createThread true) = { s with created := s.created + 1 } := by
      rw [step_of_running h.running]
      simp [Starting.createThread, hmain, hlt]
    refine ⟨_, ⟨h.proper.step (.createThread true), ?_, ?_⟩, ?_⟩
    · rw [hstep]
      exact h.running
    · rw [hstep]
      exact h.inside
    · rw [hstep]
      show c.nbFwd - (s.created + 1) + MainAt.toGo s.main + s.crowd.toGo c.parties <
        c.nbFwd - s.created + MainAt.toGo s.main + s.crowd.toGo c.parties
      omega
  · by_cases hworkers : c.masterWorker = true
    · have hstep : step c s (.parsed true) = { s with main := .setup } := by
        rw [step_of_running h.running]
        simp [Starting.parsed, hmain, hall, hworkers]
      refine ⟨_, ⟨h.proper.step (.parsed true), ?_, ?_⟩, ?_⟩
      · rw [hstep]
        exact h.running
      · rw [hstep]
        nofun
      · rw [hstep]
        simp [toGo, hmain, MainAt.toGo]
    · have hstep : step c s (.parsed true) = { s with main := .barrier } := by
        rw [step_of_running h.running]
        simp [Starting.parsed, hmain, hall, hworkers]
      refine ⟨_, ⟨h.proper.step (.parsed true), ?_, ?_⟩, ?_⟩
      · rw [hstep]
        exact h.running
      · rw [hstep]
        nofun
      · rw [hstep]
        simp [toGo, hmain, MainAt.toGo]

/-- Without workers the main thread comes out of `setup_worker_threads`. -/
theorem Alive.progress_setup (h : Alive c s) (hsurvives : ¬ c.EndsInSetup)
    (hmain : s.main = .setup) : ∃ a, Alive c (step c s a) ∧ toGo c (step c s a) < toGo c s := by
  have hcores : c.workerCores = .ok [] := by
    by_contra hne
    exact hsurvives ⟨(h.proper.setup hmain).1, hne⟩
  have hstep : step c s .leaveSetup = { s with main := .barrier } := by
    rw [step_of_running h.running]
    simp [Starting.leaveSetup, hmain, hcores, h.proper.idle hcores]
  refine ⟨_, ⟨h.proper.step .leaveSetup, ?_, ?_⟩, ?_⟩
  · rw [hstep]
    exact h.running
  · rw [hstep]
    nofun
  · rw [hstep]
    simp [toGo, hmain, MainAt.toGo]

/-- A party that has come to the barrier arrives there. -/
theorem Alive.progress_arrive (h : Alive c s) {party : Party} (hparty : party ∈ c.parties)
    (hthere : s.there party = true) (hahead : s.crowd.visit party = .ahead) :
    ∃ a, Alive c (step c s a) ∧ toGo c (step c s a) < toGo c s := by
  have hstep : step c s (.arrive party) = { s with crowd := s.crowd.arrive party } := by
    rw [step_of_running h.running]
    exact if_pos ⟨hthere, hahead⟩
  refine ⟨_, ⟨h.proper.step (.arrive party), ?_, ?_⟩, ?_⟩
  · rw [hstep]
    exact h.running
  · rw [hstep]
    exact h.inside
  · rw [hstep]
    exact Nat.add_lt_add_left (Crowd.toGo_arrive_lt hparty hahead) _

/-- When all have arrived, a forwarding thread that waits goes on. -/
theorem Alive.progress_pass (h : Alive c s) {i : ℕ} (hi : i < c.nbFwd) (hnot : ¬ s.Polls i)
    (hall : ∀ party ∈ c.parties, s.crowd.visit party ≠ .ahead) :
    ∃ a, Alive c (step c s a) ∧ toGo c (step c s a) < toGo c s := by
  have hmay : s.crowd.mayPass (.fwd i) = true := by
    cases hvisit : s.crowd.visit (.fwd i) with
    | ahead => exact absurd hvisit (hall _ (mem_parties_fwd hi))
    | waiting t => exact h.proper.sound.mayPass hall hvisit
    | past => exact absurd hvisit hnot
  have hstep : step c s (.pass (.fwd i)) = { s with crowd := s.crowd.pass (.fwd i) } := by
    rw [step_of_running h.running]
    exact if_pos hmay
  refine ⟨_, ⟨h.proper.step (.pass (.fwd i)), ?_, ?_⟩, ?_⟩
  · rw [hstep]
    exact h.running
  · rw [hstep]
    exact h.inside
  · rw [hstep]
    exact Nat.add_lt_add_left (Crowd.toGo_pass_lt (mem_parties_fwd hi) hmay) _

/-- When the main thread has arrived, the forwarding threads arrive, and then go on. -/
theorem Alive.progress_fwd (h : Alive c s) (hmore : Unfinished c s)
    (hmain : s.crowd.visit .main ≠ .ahead) :
    ∃ a, Alive c (step c s a) ∧ toGo c (step c s a) < toGo c s := by
  have hcreated := (h.proper.late (.inr hmain)).1
  by_cases hall : ∀ i < c.nbFwd, s.crowd.visit (.fwd i) ≠ .ahead
  · obtain ⟨i, hi, hnot⟩ := hmore
    refine h.progress_pass hi hnot fun party hparty => ?_
    rcases mem_parties.mp hparty with rfl | ⟨j, hj, rfl⟩
    · exact hmain
    · exact hall j hj
  · push Not at hall
    obtain ⟨i, hi, hvisit⟩ := hall
    refine h.progress_arrive (mem_parties_fwd hi) ?_ hvisit
    simpa [there, hcreated] using hi

/-- **As long as the start can succeed, some thread gets closer to it.** -/
theorem Alive.progress (h : Alive c s) (hsurvives : ¬ c.EndsInSetup) (hmore : Unfinished c s) :
    ∃ a, Alive c (step c s a) ∧ toGo c (step c s a) < toGo c s := by
  cases hmain : s.main with
  | parsing => exact h.progress_parsing hmain
  | setup => exact h.progress_setup hsurvives hmain
  | barrier =>
      by_cases hahead : s.crowd.visit .main = .ahead
      · exact h.progress_arrive (mem_parties_main c) (by simp [there, hmain]) hahead
      · exact h.progress_fwd hmore hahead
  | looping => exact h.progress_fwd hmore (h.proper.looping hmain)
  | returned => exact absurd hmain h.inside

/-- So all forwarding threads can get past the barrier. -/
theorem Alive.finish (hsurvives : ¬ c.EndsInSetup) :
    ∀ (n : ℕ) {s : Starting}, Alive c s → toGo c s = n →
      ∃ more : List StartAction, ∀ i < c.nbFwd, (more.foldl (step c) s).Polls i := by
  intro n
  induction n using Nat.strong_induction_on with
  | _ n ih =>
    intro s h hn
    by_cases hmore : Unfinished c s
    · obtain ⟨a, halive, hlt⟩ := h.progress hsurvives hmore
      obtain ⟨more, hdone⟩ := ih _ (hn ▸ hlt) halive rfl
      exact ⟨a :: more, hdone⟩
    · refine ⟨[], fun i hi => ?_⟩
      by_contra hnot
      exact hmore ⟨i, hi, hnot⟩

end Starting

/-! ## The start of a generated configuration -/

/-- The start with a generated configuration, the model and the entries of `worker-cores`. -/
def startConfig (out : CndpConfiguration) (masterWorker : Bool) (items : List JsonValue)
    (createTap : Bool) : StartConfig where
  nbThreads := out.threads.entries.length
  nbFwd := out.fwdThreads.length
  masterWorker := masterWorker
  workerCores := workerCores items
  createTap := createTap

theorem endsInSetup_startConfig_iff {out : CndpConfiguration} {masterWorker : Bool}
    {items : List JsonValue} {createTap : Bool} :
    ¬ (startConfig out masterWorker items createTap).EndsInSetup ↔
      (masterWorker = true → workerCores items = .ok []) := by
  simp [StartConfig.EndsInSetup, startConfig]

section Generated

variable (getMacAddress : JsonString → EtherAddr) (params : DatapathParams)
  (out : CndpConfiguration) (masterWorker : Bool) (items : List JsonValue) (createTap : Bool)
  (hout : getCndpConfiguration getMacAddress params = some out)

include hout

/-- There is a forwarding thread for every lport. -/
theorem nbFwd_startConfig :
    (startConfig out masterWorker items createTap).nbFwd = params.nbLports := by
  have hclosed := closedConfiguration_of_getCndpConfiguration getMacAddress params out hout
  exact hclosed.threads_lports.trans hclosed.lports_queues

/-- The barrier counts the main thread with the forwarding threads. -/
theorem counted_startConfig : (startConfig out masterWorker items createTap).Counted := by
  have hconverts : params.Converts := by
    rw [← getCndpConfiguration_isSome_iff getMacAddress, hout]
    rfl
  rw [StartConfig.Counted, nbFwd_startConfig getMacAddress params out _ _ _ hout]
  rw [getCndpConfiguration, if_pos hconverts] at hout
  obtain rfl := Option.some.inj hout
  show (getThreadTemplate params.toConfiguration).entries.length = params.nbLports + 1
  rw [entries_threads, List.length_append, List.length_map, length_arranged]
  rfl

omit hout in
/-- Two forwarding threads, and no workers. -/
theorem exists_startConfig_sharedLcore :
    ∃ out, getCndpConfiguration (fun _ => default) sharedLcore = some out ∧
      startConfig out false [] true = ⟨3, 2, false, .ok [], true⟩ := by
  have hsome : (getCndpConfiguration (fun _ => default) sharedLcore).isSome :=
    (getCndpConfiguration_isSome_iff _ _).mpr (by decide)
  obtain ⟨out, hout⟩ := Option.isSome_iff_exists.mp hsome
  have hnbFwd : (startConfig out false [] true).nbFwd = 2 :=
    (nbFwd_startConfig _ _ out _ _ _ hout).trans (by decide)
  have hcounted : (startConfig out false [] true).nbThreads = _ :=
    counted_startConfig _ _ out _ _ _ hout
  rw [hnbFwd] at hcounted
  refine ⟨out, hout, ?_⟩
  rw [StartConfig.mk.injEq]
  exact ⟨hcounted, hnbFwd, rfl, rfl, rfl⟩

/-- **No forwarding thread touches a port before the start is over.**  In every interleaving, a
forwarding thread past the barrier finds all forwarding threads created, all of them and the main
thread at the barrier, and the main thread out of `setup_worker_threads`. -/
theorem polls_after_setup (run : List StartAction) (i : ℕ)
    (hpolls : (Starting.after (startConfig out masterWorker items createTap) run).Polls i) :
    i < params.nbLports ∧
      (Starting.after (startConfig out masterWorker items createTap) run).created =
        params.nbLports ∧
      (∀ party : Party, party = .main ∨ (∃ j < params.nbLports, party = .fwd j) →
        (Starting.after (startConfig out masterWorker items createTap) run).crowd.visit party ≠
          .ahead) ∧
      (masterWorker = true → workerCores items = .ok []) := by
  have hnbFwd := nbFwd_startConfig getMacAddress params out masterWorker items createTap hout
  have hproper := Starting.proper_after
    (counted_startConfig getMacAddress params out masterWorker items createTap hout) run
  obtain ⟨hi, hcreated, hsurvives, hall⟩ := hproper.polls hpolls
  rw [hnbFwd] at hi hcreated
  refine ⟨hi, hcreated, fun party hparty => hall party ?_, endsInSetup_startConfig_iff.mp hsurvives⟩
  rw [Starting.mem_parties, hnbFwd]
  exact hparty

omit hout in
theorem polls_after_setup_sharedLcore :
    ∃ out, getCndpConfiguration (fun _ => default) sharedLcore = some out ∧
      (Starting.after (startConfig out false [] true)
        [.createThread true, .arrive (.fwd 0), .createThread true, .parsed true, .arrive (.fwd 1),
          .arrive .main, .pass (.fwd 1)]).created = 2 := by
  obtain ⟨out, hout, hconfig⟩ := exists_startConfig_sharedLcore
  refine ⟨out, hout, ?_⟩
  refine (polls_after_setup _ sharedLcore out _ _ _ hout _ 1 ?_).2.1
  rw [hconfig]
  rfl

/-- **Forwarding starts in the run-to-completion model, or without worker cores.**  The workers
of the other model do not survive the function that creates them. -/
theorem forwarding_starts_iff :
    (∃ run i, (Starting.after (startConfig out masterWorker items createTap) run).Polls i) ↔
      0 < params.nbLports ∧ (masterWorker = true → workerCores items = .ok []) := by
  have hnbFwd := nbFwd_startConfig getMacAddress params out masterWorker items createTap hout
  have hcounted := counted_startConfig getMacAddress params out masterWorker items createTap hout
  constructor
  · rintro ⟨run, i, hpolls⟩
    obtain ⟨hi, -, hsurvives, -⟩ := (Starting.proper_after hcounted run).polls hpolls
    rw [hnbFwd] at hi
    exact ⟨Nat.zero_lt_of_lt hi, endsInSetup_startConfig_iff.mp hsurvives⟩
  · rintro ⟨hpos, hworkers⟩
    obtain ⟨run, hdone⟩ := Starting.Alive.finish (endsInSetup_startConfig_iff.mpr hworkers) _
      ⟨Starting.proper_init hcounted, rfl, nofun⟩ rfl
    refine ⟨run, 0, hdone 0 ?_⟩
    rwa [hnbFwd]

omit hout in
theorem forwarding_starts_iff_sharedLcore :
    ∃ out, getCndpConfiguration (fun _ => default) sharedLcore = some out ∧
      ¬ ∃ run i, (Starting.after (startConfig out true [.int 2] true) run).Polls i := by
  obtain ⟨out, hout, -⟩ := exists_startConfig_sharedLcore
  refine ⟨out, hout, fun hstarts => ?_⟩
  have hworkers := ((forwarding_starts_iff _ _ out _ _ _ hout).mp hstarts).2 rfl
  exact absurd hworkers nofun

end Generated

end UdxFastpath.Cndp
