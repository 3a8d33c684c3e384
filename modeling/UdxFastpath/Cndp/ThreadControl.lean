import UdxFastpath.Cndp.Cleanup
import UdxFastpath.Foundation.OutputTraces

/-!
# Stopping and starting threads

Unless the option `no-metrics` is set, which it is in a generated configuration, the
process takes the commands `/stop` and `/start` over a socket, for one thread or for all.
A command sets flags, one thread after the other, and is answered with the list of the
threads; the forwarding threads look at their flag in front of every poll.  Several
clients may be served at the same time.

* `fwdThreadCtl_cases`: the answer lists the threads whose flags are set, and no thread
  of type `main` is among them.
* `stopped_after_answer`: when a `/stop` has been answered, each thread it lists polls at
  most once more, unless it is started again.
* `polls_in_turn`: a thread that is not stopped polls its lports in turn, and with
  `no-metrics` none is stopped.
* `left_for_good`: a thread that has left its loop never polls again, whatever it is told,
  and waits for ever for a flag that nobody sets.
-/

namespace UdxFastpath.Cndp

open ByteStrings OutputTraces

/-! ## The command -/

/-- A thread, with its name. -/
structure NamedThd extends JcfgThd where
  name : List UInt8

/-- `strcasecmp(s, t) == 0`. -/
def sameIgnoringCase (s t : List UInt8) : Bool := s.map tolower == t.map tolower

/-- `struct thread_arg`, with the flags that have been set and the text for the client. -/
structure ThreadArg where
  pause : Bool
  first : Bool
  writes : List (ℕ × Bool)
  reply : List UInt8

/-- What is appended for a thread. -/
def threadStatus (name : List UInt8) (pause : Bool) : List UInt8 :=
  ascii "\x7b\"name\":\"" ++ name ++ ascii "\",\"status\":\"" ++
    (if pause then ascii "paused" else ascii "running") ++ ascii "\"\x7d"

section Command

variable (threads : List NamedThd)

def isMain (t : ℕ) : Bool :=
  (threads[t]?).any fun thd => sameIgnoringCase thd.threadType (ascii "main")

def nameOf (t : ℕ) : List UInt8 := ((threads[t]?).map NamedThd.name).getD []

/-- `pause_thread`. -/
def pauseThread (ta : ThreadArg) (t : ℕ) : ThreadArg :=
  if isMain threads t then ta
  else
    { ta with
      first := false
      writes := ta.writes ++ [(t, ta.pause)]
      reply := ta.reply ++ (if ta.first then [] else ascii ",") ++
        threadStatus (nameOf threads t) ta.pause }

/-- `fwd_thread_ctl`: the flags it sets, in order, and the answer. -/
def fwdThreadCtl (cmd : List UInt8) (params : Option (List UInt8)) :
    List (ℕ × Bool) × List UInt8 :=
  match params with
  | none =>
      ([], ascii "\"error\":\"Command requires thread name (or 'all') as a parameter\"")
  | some name =>
      let pause :=
        if sameIgnoringCase cmd (ascii "/start") then some false
        else if sameIgnoringCase cmd (ascii "/stop") then some true
        else none
      match pause with
      | none => ([], ascii "\"error\":\"Invalid command\"")
      | some pause =>
          let ta : ThreadArg := ⟨pause, true, [], ascii "\"threads\":["⟩
          if sameIgnoringCase name (ascii "all") then
            let ta := (List.range threads.length).foldl (pauseThread threads) ta
            (ta.writes, ta.reply ++ ascii "]")
          else
            match threads.findIdx? fun thd => thd.name == name with
            | some t =>
                let ta := pauseThread threads ta t
                (ta.writes, ta.reply ++ ascii "]")
            | none => ([], ascii "\"error\":\"Thread '" ++ name ++ ascii "' not found\"")

end Command

/-! ## The threads -/

/-- `thread_quit_state`. -/
inductive ThreadQuitState
  | run
  | quit
  | done
  deriving DecidableEq, Repr

/-- Where a thread is: about to test its flags for its `k`-th lport, about to poll it, behind
the loop, or at its end. -/
inductive LoopAt
  | testing (k : ℕ)
  | polling (k : ℕ)
  | left
  | ended
  deriving DecidableEq, Repr

/-- The option, the flags, the threads and what is still to be done for the clients. -/
structure Control where
  noMetrics : Bool
  pause : ℕ → Bool
  quit : ℕ → ThreadQuitState
  place : ℕ → LoopAt
  requests : ℕ → Option (List (ℕ × Bool) × List UInt8)

/-- A step of a thread, with the results of its calls, or of the service of a client. -/
inductive ControlAction
  | look (t : ℕ)
  | poll (t : ℕ) (ok : Bool)
  | finish (t : ℕ)
  | request (client : ℕ) (cmd : List UInt8) (params : Option (List UInt8))
  | serve (client : ℕ)
  deriving DecidableEq, Repr

/-- What can be seen of a step. -/
inductive ControlEvent
  | polled (t k : ℕ)
  | requested (client : ℕ) (cmd : List UInt8) (params : Option (List UInt8))
  | wrote (t : ℕ) (pause : Bool)
  | answered (client : ℕ) (text : List UInt8)
  deriving DecidableEq, Repr

section Threads

variable (threads : List NamedThd)

/-- `lport_cnt`. -/
def lportCnt (t : ℕ) : ℕ := ((threads[t]?).map fun thd => thd.lports.length).getD 0

/-- The next round of `foreach_thd_lport`, or the first of the next time around. -/
def nextLport (t k : ℕ) : ℕ := (k + 1) % lportCnt threads t

/-- All is zero at the beginning.  The threads without lports have left, and so have those that do
not forward and those that could not be made `ready` for it. -/
def Control.init (noMetrics : Bool) (ready : ℕ → Bool) : Control where
  noMetrics := noMetrics
  pause _ := false
  quit _ := .run
  place t :=
    if isMain threads t ∨ lportCnt threads t = 0 ∨ ready t = false then .left else .testing 0
  requests _ := none

namespace Control

/-- The tests of `quit` and `pause` in `thread_func`. -/
def look (s : Control) (t : ℕ) : Control :=
  match s.place t with
  | .testing k =>
      if s.quit t = .quit then { s with place := Function.update s.place t .left }
      else if s.pause t then
        { s with place := Function.update s.place t (.testing (nextLport threads t k)) }
      else { s with place := Function.update s.place t (.polling k) }
  | _ => s

/-- The call of the model, and of `idlemgr_process` behind it. -/
def poll (s : Control) (t : ℕ) (ok : Bool) : Control × Option ControlEvent :=
  match s.place t with
  | .polling k =>
      let place := if ok then .testing (nextLport threads t k) else .left
      ({ s with place := Function.update s.place t place }, some (.polled t k))
  | _ => (s, none)

/-- The end of `thread_func`. -/
def finish (s : Control) (t : ℕ) : Control :=
  if s.place t = .left ∧ s.quit t = .quit then
    { s with
      place := Function.update s.place t .ended
      quit := Function.update s.quit t .done }
  else s

/-- A client that is not being served sends a command, if there is a socket: `parse_args` calls
`enable_uds_info` unless `no_metrics` is set. -/
def request (s : Control) (client : ℕ) (cmd : List UInt8) (params : Option (List UInt8)) :
    Control × Option ControlEvent :=
  if s.noMetrics then (s, none)
  else
    match s.requests client with
    | some _ => (s, none)
    | none =>
        ({ s with
            requests :=
              Function.update s.requests client (some (fwdThreadCtl threads cmd params)) },
          some (.requested client cmd params))

/-- The next flag is set for the client, or the answer is sent. -/
def serve (s : Control) (client : ℕ) : Control × Option ControlEvent :=
  match s.requests client with
  | none => (s, none)
  | some ([], text) =>
      ({ s with requests := Function.update s.requests client none }, some (.answered client text))
  | some ((t, pause) :: writes, text) =>
      ({ s with
          pause := Function.update s.pause t pause
          requests := Function.update s.requests client (some (writes, text)) },
        some (.wrote t pause))

/-- One step. -/
def step (s : Control) : ControlAction → Control × Option ControlEvent
  | .look t => (s.look threads t, none)
  | .poll t ok => s.poll threads t ok
  | .finish t => (s.finish t, none)
  | .request client cmd params => s.request threads client cmd params
  | .serve client => s.serve client

end Control

end Threads

/-! ## The answer -/

section Answer

theorem intercalate_cons {α : Type*} (sep x : List α) (xs : List (List α)) :
    sep.intercalate (x :: xs) = x ++ xs.flatMap (sep ++ ·) := by
  induction xs generalizing x with
  | nil => simp [List.intercalate]
  | cons y ys ih =>
      have hcons : sep.intercalate (x :: y :: ys) = x ++ sep ++ sep.intercalate (y :: ys) := by
        simp [List.intercalate]
      rw [hcons, ih, List.flatMap_cons]
      simp

variable (threads : List NamedThd)

/-- The statuses of threads, with commas in between. -/
def statuses (pause : Bool) (ts : List ℕ) : List UInt8 :=
  (ascii ",").intercalate (ts.map fun t => threadStatus (nameOf threads t) pause)

/-- Behind the first thread every status has a comma in front. -/
theorem foldl_pauseThread_behind (ts : List ℕ) (ta : ThreadArg) (h : ta.first = false) :
    let ta' := ts.foldl (pauseThread threads) ta
    ta'.writes = ta.writes ++ (ts.filter fun t => !isMain threads t).map (·, ta.pause) ∧
      ta'.reply = ta.reply ++ (ts.filter fun t => !isMain threads t).flatMap fun t =>
        ascii "," ++ threadStatus (nameOf threads t) ta.pause := by
  induction ts generalizing ta with
  | nil => simp
  | cons t ts ih =>
      rw [List.foldl_cons]
      cases hmain : isMain threads t with
      | true =>
          have hskip : pauseThread threads ta t = ta := if_pos hmain
          simpa [hskip, hmain] using ih ta h
      | false =>
          have hset : pauseThread threads ta t =
              ⟨ta.pause, false, ta.writes ++ [(t, ta.pause)],
                ta.reply ++ ascii "," ++ threadStatus (nameOf threads t) ta.pause⟩ := by
            rw [pauseThread, hmain, h]
            rfl
          have hrest := ih ⟨ta.pause, false, ta.writes ++ [(t, ta.pause)],
            ta.reply ++ ascii "," ++ threadStatus (nameOf threads t) ta.pause⟩ rfl
          simpa [hset, hmain] using hrest

theorem foldl_pauseThread (ts : List ℕ) (pause : Bool) (text : List UInt8) :
    let ta := ts.foldl (pauseThread threads) ⟨pause, true, [], text⟩
    ta.writes = (ts.filter fun t => !isMain threads t).map (·, pause) ∧
      ta.reply = text ++ statuses threads pause (ts.filter fun t => !isMain threads t) := by
  induction ts with
  | nil => simp [statuses, List.intercalate]
  | cons t ts ih =>
      rw [List.foldl_cons]
      cases hmain : isMain threads t with
      | true =>
          have hskip : pauseThread threads ⟨pause, true, [], text⟩ t = ⟨pause, true, [], text⟩ :=
            if_pos hmain
          simpa [hskip, hmain] using ih
      | false =>
          have hset : pauseThread threads ⟨pause, true, [], text⟩ t =
              ⟨pause, false, [(t, pause)], text ++ threadStatus (nameOf threads t) pause⟩ := by
            rw [pauseThread, hmain]
            simp
          have hrest := foldl_pauseThread_behind threads ts
            ⟨pause, false, [(t, pause)], text ++ threadStatus (nameOf threads t) pause⟩ rfl
          rw [hset]
          refine ⟨hrest.1.trans ?_, hrest.2.trans ?_⟩
          · simp [hmain]
          · simp [hmain, statuses, intercalate_cons, List.flatMap_map]

/-- The threads a parameter stands for. -/
def addressed (name : List UInt8) : List ℕ :=
  if sameIgnoringCase name (ascii "all") then List.range threads.length
  else (threads.findIdx? fun thd => thd.name == name).toList

/-- **The answer to a command** lists the threads whose flags are set, which are those it stands
for as far as they are not of type `main`; or it is an error, and no flag is set. -/
theorem fwdThreadCtl_cases (cmd : List UInt8) (params : Option (List UInt8)) :
    (∃ pause name ts, params = some name ∧
        ts = (addressed threads name).filter (fun t => !isMain threads t) ∧
        fwdThreadCtl threads cmd params = (ts.map (·, pause),
          ascii "\"threads\":[" ++ statuses threads pause ts ++ ascii "]")) ∨
      (fwdThreadCtl threads cmd params).1 = [] := by
  cases params with
  | none => exact .inr rfl
  | some name =>
      generalize hpause : (if sameIgnoringCase cmd (ascii "/start") then some false
        else if sameIgnoringCase cmd (ascii "/stop") then some true else none) = pause
      simp only [fwdThreadCtl, hpause]
      cases pause with
      | none => exact .inr rfl
      | some pause =>
          dsimp only
          split_ifs with hall
          · have haddressed : addressed threads name = List.range threads.length := if_pos hall
            obtain ⟨hwrites, hreply⟩ := foldl_pauseThread threads (List.range threads.length) pause
              (ascii "\"threads\":[")
            refine .inl ⟨pause, name, _, rfl, rfl, ?_⟩
            rw [haddressed, hwrites, hreply]
          · cases hfind : threads.findIdx? fun thd => thd.name == name with
            | none => exact .inr rfl
            | some t =>
                have haddressed : addressed threads name = [t] := by
                  rw [addressed, if_neg hall, hfind]
                  rfl
                obtain ⟨hwrites, hreply⟩ := foldl_pauseThread threads [t] pause
                  (ascii "\"threads\":[")
                rw [List.foldl_cons, List.foldl_nil] at hwrites hreply
                refine .inl ⟨pause, name, _, rfl, rfl, ?_⟩
                rw [haddressed]
                dsimp only
                rw [hwrites, hreply]

end Answer

/-! ## Runs -/

section Runs

variable {threads : List NamedThd} {s : Control} {a : ControlAction} {t : ℕ}

/-- The lport a poll of a thread is for. -/
def pollOf (t : ℕ) : ControlEvent → Option ℕ
  | .polled t' k => if t' = t then some k else none
  | _ => none

/-- The polls of a thread, in order. -/
def pollsOf (t : ℕ) (events : List ControlEvent) : List ℕ := events.filterMap (pollOf t)

/-- The value a flag is set to. -/
def writeOf (t : ℕ) : ControlEvent → Option Bool
  | .wrote t' pause => if t' = t then some pause else none
  | _ => none

/-! ### Single steps -/

/-- What a step can do to a thread. -/
inductive ThreadMoves (threads : List NamedThd) (s : Control) (t : ℕ) (place' : LoopAt) :
    Option ControlEvent → Prop
  | stays (e : Option ControlEvent) (after : place' = s.place t)
      (unseen : ∀ e' ∈ e, pollOf t e' = none) : ThreadMoves threads s t place' e
  | leaves (k : ℕ) (before : s.place t = .testing k) (told : s.quit t = .quit)
      (after : place' = .left) : ThreadMoves threads s t place' none
  | skips (k : ℕ) (before : s.place t = .testing k) (told : s.pause t = true)
      (after : place' = .testing (nextLport threads t k)) : ThreadMoves threads s t place' none
  | passes (k : ℕ) (before : s.place t = .testing k) (untold : s.pause t = false)
      (after : place' = .polling k) : ThreadMoves threads s t place' none
  | polls (k : ℕ) (ok : Bool) (before : s.place t = .polling k)
      (after : place' = if ok then .testing (nextLport threads t k) else .left) :
      ThreadMoves threads s t place' (some (.polled t k))
  | ends (before : s.place t = .left) (told : s.quit t = .quit) (after : place' = .ended) :
      ThreadMoves threads s t place' none

theorem look_moves (t' : ℕ) : ThreadMoves threads s t ((s.look threads t').place t) none := by
  cases hplace : s.place t' with
  | testing k =>
      by_cases ht : t = t'
      · subst ht
        by_cases hquit : s.quit t = .quit
        · exact .leaves k hplace hquit (by simp [Control.look, hplace, hquit])
        · cases hpause : s.pause t with
          | true => exact .skips k hplace hpause (by simp [Control.look, hplace, hquit, hpause])
          | false => exact .passes k hplace hpause (by simp [Control.look, hplace, hquit, hpause])
      · refine .stays _ ?_ nofun
        rw [Control.look, hplace]
        dsimp only
        split_ifs <;> exact Function.update_of_ne ht ..
  | polling k => exact .stays _ (by rw [Control.look, hplace]) nofun
  | left => exact .stays _ (by rw [Control.look, hplace]) nofun
  | ended => exact .stays _ (by rw [Control.look, hplace]) nofun

theorem poll_moves (t' : ℕ) (ok : Bool) :
    ThreadMoves threads s t ((s.poll threads t' ok).1.place t) (s.poll threads t' ok).2 := by
  cases hplace : s.place t' with
  | polling k =>
      by_cases ht : t = t'
      · subst ht
        rw [Control.poll, hplace]
        exact .polls k ok hplace (Function.update_self ..)
      · rw [Control.poll, hplace]
        refine .stays _ (Function.update_of_ne ht ..) fun e he => ?_
        obtain rfl := Option.some.inj he
        exact if_neg (Ne.symm ht)
  | testing k => exact .stays _ (by rw [Control.poll, hplace]) (by rw [Control.poll, hplace]; nofun)
  | left => exact .stays _ (by rw [Control.poll, hplace]) (by rw [Control.poll, hplace]; nofun)
  | ended => exact .stays _ (by rw [Control.poll, hplace]) (by rw [Control.poll, hplace]; nofun)

theorem finish_moves (t' : ℕ) : ThreadMoves threads s t ((s.finish t').place t) none := by
  unfold Control.finish
  split_ifs with hdone
  · by_cases ht : t = t'
    · subst ht
      exact .ends hdone.1 hdone.2 (Function.update_self ..)
    · exact .stays _ (Function.update_of_ne ht ..) nofun
  · exact .stays _ rfl nofun

/-- A command is not taken, or the client is served from now on. -/
theorem request_cases (threads : List NamedThd) (s : Control) (client : ℕ) (cmd : List UInt8)
    (params : Option (List UInt8)) :
    s.request threads client cmd params = (s, none) ∨
      (s.noMetrics = false ∧ s.requests client = none ∧ s.request threads client cmd params =
        ({ s with
            requests :=
              Function.update s.requests client (some (fwdThreadCtl threads cmd params)) },
          some (.requested client cmd params))) := by
  unfold Control.request
  cases hsocket : s.noMetrics with
  | true => exact .inl (if_pos rfl)
  | false =>
      rw [if_neg Bool.false_ne_true]
      cases hclient : s.requests client with
      | none => exact .inr ⟨rfl, rfl, rfl⟩
      | some r => exact .inl rfl

/-- **What a step does to a thread.** -/
theorem step_moves :
    ThreadMoves threads s t ((s.step threads a).1.place t) (s.step threads a).2 := by
  cases a with
  | look t' => exact look_moves t'
  | poll t' ok => exact poll_moves t' ok
  | finish t' => exact finish_moves t'
  | request client cmd params =>
      show ThreadMoves threads s t ((s.request threads client cmd params).1.place t)
        (s.request threads client cmd params).2
      rcases request_cases threads s client cmd params with heq | ⟨-, -, heq⟩
      · rw [heq]
        exact .stays _ rfl nofun
      · rw [heq]
        refine .stays _ rfl fun e he => ?_
        obtain rfl := Option.some.inj he
        rfl
  | serve client =>
      refine .stays _ ?_ ?_ <;> rcases hclient : s.requests client with _ | ⟨_ | ⟨w, ws⟩, text⟩ <;>
        simp [Control.step, Control.serve, hclient, pollOf]

/-- A flag has the value it is set to. -/
theorem pause_step :
    (s.step threads a).1.pause t = ((s.step threads a).2.bind (writeOf t)).getD (s.pause t) := by
  cases a with
  | look t' =>
      have hsame : (s.look threads t').pause = s.pause := by
        unfold Control.look
        split
        · split_ifs <;> rfl
        · rfl
      exact congrFun hsame t
  | poll t' ok =>
      show (s.poll threads t' ok).1.pause t = _
      cases hplace : s.place t' <;> simp [Control.step, Control.poll, hplace, writeOf]
  | finish t' =>
      show (s.finish t').pause t = _
      unfold Control.finish
      split_ifs <;> rfl
  | request client cmd params =>
      show (s.request threads client cmd params).1.pause t =
        ((s.request threads client cmd params).2.bind (writeOf t)).getD (s.pause t)
      rcases request_cases threads s client cmd params with heq | ⟨-, -, heq⟩
      · rw [heq]
        rfl
      · rw [heq]
        rfl
  | serve client =>
      rcases hclient : s.requests client with _ | ⟨_ | ⟨⟨t', pause⟩, ws⟩, text⟩
      · simp [Control.step, Control.serve, hclient]
      · simp [Control.step, Control.serve, hclient, writeOf]
      · by_cases ht : t' = t
        · subst ht
          simp [Control.step, Control.serve, hclient, writeOf]
        · have hother : (s.serve client).1.pause t = s.pause t := by
            rw [Control.serve, hclient]
            exact Function.update_of_ne (Ne.symm ht) ..
          simp [Control.step, Control.serve, hclient, writeOf, ht, ← hother]

/-- Nobody tells a thread to quit. -/
theorem quit_step (h : ∀ t, s.quit t = .run) : ∀ t, (s.step threads a).1.quit t = .run := by
  intro t
  cases a with
  | look t' =>
      have hsame : (s.look threads t').quit = s.quit := by
        unfold Control.look
        split
        · split_ifs <;> rfl
        · rfl
      exact (congrFun hsame t).trans (h t)
  | poll t' ok =>
      show (s.poll threads t' ok).1.quit t = .run
      cases hplace : s.place t' <;> simp [Control.poll, hplace, h t]
  | finish t' =>
      have hnot : ¬ (s.place t' = .left ∧ s.quit t' = .quit) := by
        rw [h t']
        nofun
      show (s.finish t').quit t = .run
      rw [Control.finish, if_neg hnot]
      exact h t
  | request client cmd params =>
      show (s.request threads client cmd params).1.quit t = .run
      rcases request_cases threads s client cmd params with heq | ⟨-, -, heq⟩
      · rw [heq]
        exact h t
      · rw [heq]
        exact h t
  | serve client =>
      show (s.serve client).1.quit t = .run
      rcases hclient : s.requests client with _ | ⟨_ | ⟨w, ws⟩, text⟩ <;>
        simp [Control.serve, hclient, h t]

/-! ### Stopping -/

/-- One poll, if the flags have been tested already. -/
def LoopAt.inFlight : LoopAt → ℕ
  | .polling _ => 1
  | _ => 0

/-- While a thread is told to pause, a poll is taken from those in flight. -/
theorem ThreadMoves.inFlight {place' : LoopAt} {e : Option ControlEvent}
    (h : ThreadMoves threads s t place' e) (hpause : s.pause t = true) :
    e.toList.countP (fun e => (pollOf t e).isSome) + place'.inFlight ≤ (s.place t).inFlight := by
  cases h with
  | stays _ after unseen =>
      have hnone : e.toList.countP (fun e => (pollOf t e).isSome) = 0 := by
        refine List.countP_eq_zero.mpr fun e' he => ?_
        rw [unseen e' (Option.mem_toList.mp he)]
        exact Bool.false_ne_true
      rw [hnone, after, Nat.zero_add]
  | leaves k before told after =>
      rw [after]
      exact Nat.zero_le _
  | skips k before told after =>
      rw [after]
      exact Nat.zero_le _
  | passes k before untold after => exact absurd (hpause.symm.trans untold) Bool.true_eq_false.mp
  | polls k ok before after =>
      rw [before, after]
      cases ok <;> simp [pollOf, LoopAt.inFlight]
  | ends before told after =>
      rw [after]
      exact Nat.zero_le _

/-- A flag stays as it is unless it is set to the other value. -/
theorem pause_step_of_ne {pause : Bool} (hpause : s.pause t = pause)
    (hnot : ∀ e ∈ (s.step threads a).2, e ≠ .wrote t (!pause)) :
    (s.step threads a).1.pause t = pause := by
  rw [pause_step]
  cases he : (s.step threads a).2 with
  | none => exact hpause
  | some e =>
      cases e with
      | wrote t' pause' =>
          by_cases ht : t' = t
          · subst ht
            have hsame : pause' = pause := by
              by_contra hne
              exact hnot _ he (by rw [Bool.eq_not_of_ne hne])
            simp [writeOf, hsame]
          · simp [writeOf, ht, hpause]
      | polled t' k => exact hpause
      | requested client cmd params => exact hpause
      | answered client text => exact hpause

/-- **A thread that is told to pause polls at most once more.** -/
theorem polls_while_stopped (hpause : s.pause t = true) {run : List ControlAction}
    (hnot : ∀ e ∈ trace (Control.step threads) s run, e ≠ .wrote t false) :
    (pollsOf t (trace (Control.step threads) s run)).length ≤ 1 := by
  have hbudget : (trace (Control.step threads) s run).countP (fun e => (pollOf t e).isSome) +
      ((after (Control.step threads) s run).place t).inFlight ≤ (s.place t).inFlight :=
    countP_trace_add_le (fun s : Control => s.pause t = true)
      (fun e : ControlEvent => e ≠ .wrote t false) _ (fun s : Control => (s.place t).inFlight)
      (fun s a hs he => ⟨pause_step_of_ne hs he, step_moves.inFlight hs⟩) hpause hnot
  have hone : (s.place t).inFlight ≤ 1 := by
    cases s.place t <;> simp [LoopAt.inFlight]
  rw [pollsOf, List.length_filterMap_eq_countP]
  omega

/-- A client is being served, and the thread has been told to pause or will be. -/
def Serving (s : Control) (client t : ℕ) (text : List UInt8) : Prop :=
  ∃ writes, s.requests client = some (writes, text) ∧ ((t, true) ∈ writes ∨ s.pause t = true)

theorem requests_step_of_ne {client client' : ℕ} (h : client ≠ client') :
    (s.serve client').1.requests client = s.requests client := by
  rcases hclient : s.requests client' with _ | ⟨_ | ⟨w, ws⟩, text⟩ <;>
    simp [Control.serve, hclient, Function.update_of_ne h]

/-- While a client is being served its list gets shorter, until it is answered. -/
theorem Serving.step {client : ℕ} {text : List UInt8} (h : Serving s client t text)
    (hnot : ∀ e ∈ (s.step threads a).2, e ≠ .wrote t false)
    (hanswer : ∀ text', (s.step threads a).2 ≠ some (.answered client text')) :
    Serving (s.step threads a).1 client t text := by
  obtain ⟨writes, hrequest, htold⟩ := h
  have hkept : s.pause t = true → (s.step threads a).1.pause t = true :=
    fun hpause => pause_step_of_ne hpause hnot
  cases a with
  | look t' =>
      have hsame : (s.look threads t').requests = s.requests := by
        unfold Control.look
        split
        · split_ifs <;> rfl
        · rfl
      exact ⟨writes, (congrFun hsame client).trans hrequest, htold.imp_right hkept⟩
  | poll t' ok =>
      have hsame : (s.poll threads t' ok).1.requests = s.requests := by
        cases hplace : s.place t' <;> simp [Control.poll, hplace]
      exact ⟨writes, (congrFun hsame client).trans hrequest, htold.imp_right hkept⟩
  | finish t' =>
      have hsame : (s.finish t').requests = s.requests := by
        unfold Control.finish
        split_ifs <;> rfl
      exact ⟨writes, (congrFun hsame client).trans hrequest, htold.imp_right hkept⟩
  | request client' cmd params =>
      refine ⟨writes, ?_, htold.imp_right hkept⟩
      show (s.request threads client' cmd params).1.requests client = _
      rcases request_cases threads s client' cmd params with heq | ⟨-, hfree, heq⟩
      · rw [heq]
        exact hrequest
      · have hclient : client ≠ client' := by
          rintro rfl
          rw [hrequest] at hfree
          cases hfree
        rw [heq]
        exact (Function.update_of_ne hclient ..).trans hrequest
  | serve client' =>
      by_cases hclient : client = client'
      · subst hclient
        cases writes with
        | nil =>
            refine absurd ?_ (hanswer text)
            show (s.serve client).2 = _
            rw [Control.serve, hrequest]
        | cons w writes =>
            obtain ⟨t', pause⟩ := w
            refine ⟨writes, ?_, ?_⟩
            · show (s.serve client).1.requests client = _
              rw [Control.serve, hrequest]
              exact Function.update_self ..
            · rw [List.mem_cons] at htold
              obtain (hhead | htail) | hpause := htold
              · -- the flag is set in this very step
                obtain ⟨rfl, rfl⟩ := Prod.mk.inj hhead
                refine .inr ?_
                show (s.serve client).1.pause t = true
                rw [Control.serve, hrequest]
                exact Function.update_self ..
              · exact .inl htail
              · exact .inr (hkept hpause)
      · exact ⟨writes, (requests_step_of_ne hclient).trans hrequest, htold.imp_right hkept⟩

/-- When it is answered the thread has been told. -/
theorem Serving.answered {client : ℕ} {text text' : List UInt8} (h : Serving s client t text)
    (hanswer : (s.step threads a).2 = some (.answered client text')) :
    text' = text ∧ (s.step threads a).1.pause t = true := by
  obtain ⟨writes, hrequest, htold⟩ := h
  cases a with
  | look t' => cases hanswer
  | finish t' => cases hanswer
  | poll t' ok =>
      cases hplace : s.place t' <;> simp [Control.step, Control.poll, hplace] at hanswer
  | request client' cmd params =>
      rcases request_cases threads s client' cmd params with heq | ⟨-, -, heq⟩ <;>
        simp [Control.step, heq] at hanswer
  | serve client' =>
      rcases hclient : s.requests client' with _ | ⟨_ | ⟨w, ws⟩, text''⟩
      · simp [Control.step, Control.serve, hclient] at hanswer
      · simp only [Control.step, Control.serve, hclient, Option.some.injEq,
          ControlEvent.answered.injEq] at hanswer ⊢
        obtain ⟨rfl, rfl⟩ := hanswer
        obtain ⟨rfl, rfl⟩ := Prod.mk.inj (Option.some.inj (hrequest.symm.trans hclient))
        exact ⟨rfl, htold.resolve_left (List.not_mem_nil)⟩
      · simp [Control.step, Control.serve, hclient] at hanswer

/-- A client that has sent a command is being served. -/
theorem requests_of_requested {client : ℕ} {cmd : List UInt8} {params : Option (List UInt8)}
    (h : (s.step threads a).2 = some (.requested client cmd params)) :
    (s.step threads a).1.requests client = some (fwdThreadCtl threads cmd params) := by
  cases a with
  | look t' => cases h
  | finish t' => cases h
  | poll t' ok =>
      cases hplace : s.place t' <;> simp [Control.step, Control.poll, hplace] at h
  | request client' cmd' params' =>
      rcases request_cases threads s client' cmd' params' with heq | ⟨-, -, heq⟩
      · simp [Control.step, heq] at h
      · simp only [Control.step, heq, Option.some.injEq, ControlEvent.requested.injEq] at h ⊢
        obtain ⟨rfl, rfl, rfl⟩ := h
        exact Function.update_self ..
  | serve client' =>
      rcases hclient : s.requests client' with _ | ⟨_ | ⟨w, ws⟩, text⟩ <;>
        simp [Control.step, Control.serve, hclient] at h

/-- **When a `/stop` has been answered**, each thread it has told polls at most once more, unless
it is told to go on. -/
theorem stopped_after_answer {run : List ControlAction} {pre mid post : List ControlEvent}
    {client : ℕ} {cmd text : List UInt8} {params : Option (List UInt8)}
    (h : trace (Control.step threads) s run =
      pre ++ .requested client cmd params :: (mid ++ .answered client text :: post))
    (hfirst : ∀ text', .answered client text' ∉ mid)
    (htold : (t, true) ∈ (fwdThreadCtl threads cmd params).1)
    (hnot : ∀ e ∈ mid ++ post, e ≠ .wrote t false) :
    text = (fwdThreadCtl threads cmd params).2 ∧ (pollsOf t post).length ≤ 1 := by
  obtain ⟨run₁, a, run₂, rfl, -, hrequest, hrest⟩ := trace_eq_append_cons h
  obtain ⟨run₃, a', run₄, rfl, rfl, hanswer, rfl⟩ := trace_eq_append_cons hrest
  rw [List.forall_mem_append] at hnot
  have hserving : Serving ((after (Control.step threads) s run₁).step threads a).1 client t
      (fwdThreadCtl threads cmd params).2 :=
    ⟨_, requests_of_requested hrequest, .inl htold⟩
  -- until the answer the client is being served
  have hmid := after_induction (fun s => Serving s client t (fwdThreadCtl threads cmd params).2)
    (fun e => e ≠ .wrote t false ∧ ∀ text', e ≠ .answered client text')
    (fun s a hs he => hs.step (fun e hmem => (he e hmem).1)
      fun text' htext => (he _ htext).2 text' rfl) hserving
    (fun e hmem => ⟨hnot.1 e hmem, fun text' htext => hfirst text' (htext ▸ hmem)⟩)
  obtain ⟨htext, hpause⟩ := hmid.answered hanswer
  exact ⟨htext, polls_while_stopped hpause hnot.2⟩

/-! ### Polling -/

theorem pollsOf_cons_step (run : List ControlAction) :
    pollsOf t (trace (Control.step threads) s (a :: run)) =
      pollsOf t (s.step threads a).2.toList ++
        pollsOf t (trace (Control.step threads) (s.step threads a).1 run) := by
  rw [trace, pollsOf, List.filterMap_append]
  rfl

theorem pollsOf_toList_of_unseen {e : Option ControlEvent} (h : ∀ e' ∈ e, pollOf t e' = none) :
    pollsOf t e.toList = [] :=
  List.filterMap_eq_nil_iff.mpr fun e' he => h e' (Option.mem_toList.mp he)

/-- A thread behind its loop that is not told to quit stays there. -/
theorem ThreadMoves.of_left {place' : LoopAt} {e : Option ControlEvent}
    (h : ThreadMoves threads s t place' e) (hquit : s.quit t = .run) (hleft : s.place t = .left) :
    place' = .left ∧ ∀ e' ∈ e, pollOf t e' = none := by
  cases h with
  | stays _ after unseen => exact ⟨after.trans hleft, unseen⟩
  | leaves k before told => exact absurd (before.symm.trans hleft) nofun
  | skips k before told => exact absurd (before.symm.trans hleft) nofun
  | passes k before untold => exact absurd (before.symm.trans hleft) nofun
  | polls k ok before => exact absurd (before.symm.trans hleft) nofun
  | ends before told => exact absurd (told.symm.trans hquit) nofun

/-- **A thread that has left its loop** never polls again, and waits for ever. -/
theorem left_for_good (hquit : ∀ t, s.quit t = .run) (hleft : s.place t = .left)
    (run : List ControlAction) :
    pollsOf t (trace (Control.step threads) s run) = [] ∧
      (after (Control.step threads) s run).place t = .left := by
  induction run generalizing s with
  | nil => exact ⟨rfl, hleft⟩
  | cons a run ih =>
      obtain ⟨hplace, hunseen⟩ := (step_moves (a := a)).of_left (hquit t) hleft
      obtain ⟨hpolls, hafter⟩ := ih (quit_step hquit) hplace
      exact ⟨by rw [pollsOf_cons_step, pollsOf_toList_of_unseen hunseen, hpolls]; rfl, hafter⟩

/-- A thread in its loop that is not told anything polls the lport at hand, and nothing else. -/
theorem ThreadMoves.of_running {place' : LoopAt} {e : Option ControlEvent} {k : ℕ}
    (h : ThreadMoves threads s t place' e) (hquit : s.quit t = .run) (hpause : s.pause t = false)
    (hplace : s.place t = .testing k ∨ s.place t = .polling k) :
    ((∀ e' ∈ e, pollOf t e' = none) ∧ (place' = .testing k ∨ place' = .polling k)) ∨
      (e = some (.polled t k) ∧
        (place' = .testing (nextLport threads t k) ∨ place' = .left)) := by
  cases h with
  | stays _ after unseen => exact .inl ⟨unseen, after ▸ hplace⟩
  | leaves k' before told => exact absurd (told.symm.trans hquit) nofun
  | skips k' before told => exact absurd (told.symm.trans hpause) Bool.true_eq_false.mp
  | passes k' before untold after =>
      obtain hk | hk := hplace
      · obtain rfl := LoopAt.testing.inj (before.symm.trans hk)
        exact .inl ⟨nofun, .inr after⟩
      · exact absurd (before.symm.trans hk) nofun
  | polls k' ok before after =>
      obtain hk | hk := hplace
      · exact absurd (before.symm.trans hk) nofun
      · obtain rfl := LoopAt.polling.inj (before.symm.trans hk)
        refine .inr ⟨rfl, ?_⟩
        cases ok with
        | true => exact .inl after
        | false => exact .inr after
  | ends before told => exact absurd (told.symm.trans hquit) nofun

/-- A thread that is not stopped polls in turn, beginning with the lport at hand. -/
theorem polls_in_turn_from {run : List ControlAction} :
    ∀ {s : Control} {j : ℕ}, (s.place t = .testing (j % lportCnt threads t) ∨
        s.place t = .polling (j % lportCnt threads t)) → s.pause t = false →
      (∀ t, s.quit t = .run) →
      (∀ e ∈ trace (Control.step threads) s run, e ≠ .wrote t true) →
      ∃ m, pollsOf t (trace (Control.step threads) s run) =
        (List.range' j m).map (· % lportCnt threads t) := by
  induction run with
  | nil => exact fun _ _ _ _ => ⟨0, rfl⟩
  | cons a run ih =>
      intro s j hplace hpause hquit hnot
      rw [trace, List.forall_mem_append] at hnot
      obtain ⟨hnow, hlater⟩ := hnot
      have hquit' : ∀ t, (s.step threads a).1.quit t = .run := quit_step hquit
      have hpause' : (s.step threads a).1.pause t = false :=
        pause_step_of_ne hpause fun e he => hnow e (Option.mem_toList.mpr he)
      rw [pollsOf_cons_step]
      obtain ⟨hunseen, hplace'⟩ | ⟨hpolled, hplace'⟩ :=
        (step_moves (a := a)).of_running (hquit t) hpause hplace
      · obtain ⟨m, hpolls⟩ := ih hplace' hpause' hquit' hlater
        exact ⟨m, by rw [pollsOf_toList_of_unseen hunseen, hpolls]; rfl⟩
      · have hfirst : pollsOf t (s.step threads a).2.toList = [j % lportCnt threads t] := by
          rw [hpolled]
          simp [pollsOf, pollOf]
        obtain hnext | hleft := hplace'
        · rw [nextLport, Nat.mod_add_mod] at hnext
          obtain ⟨m, hpolls⟩ := ih (.inl hnext) hpause' hquit' hlater
          exact ⟨m + 1, by rw [hfirst, hpolls]; rfl⟩
        · exact ⟨1, by rw [hfirst, (left_for_good hquit' hleft run).1]; rfl⟩

/-- There is no socket, and nobody is being served. -/
def Control.Silent (s : Control) : Prop :=
  s.noMetrics = true ∧ ∀ client, s.requests client = none

/-- Without a socket it stays that way, and nothing is seen but polls. -/
theorem Control.Silent.step (h : s.Silent) :
    (s.step threads a).1.Silent ∧ ∀ e ∈ (s.step threads a).2, ∃ t k, e = .polled t k := by
  obtain ⟨hsocket, hnone⟩ := h
  cases a with
  | look t' =>
      have hsame : (s.look threads t').noMetrics = s.noMetrics ∧
          (s.look threads t').requests = s.requests := by
        unfold Control.look
        split
        · split_ifs <;> exact ⟨rfl, rfl⟩
        · exact ⟨rfl, rfl⟩
      exact ⟨⟨hsame.1.trans hsocket, fun client => (congrFun hsame.2 client).trans (hnone client)⟩,
        nofun⟩
  | poll t' ok =>
      show (s.poll threads t' ok).1.Silent ∧ ∀ e ∈ (s.poll threads t' ok).2, ∃ t k, e = .polled t k
      unfold Control.poll
      split
      · exact ⟨⟨hsocket, hnone⟩, fun e he => ⟨_, _, (Option.some.inj he).symm⟩⟩
      · exact ⟨⟨hsocket, hnone⟩, nofun⟩
  | finish t' =>
      refine ⟨?_, nofun⟩
      show (s.finish t').Silent
      unfold Control.finish
      split_ifs <;> exact ⟨hsocket, hnone⟩
  | request client cmd params =>
      show (s.request threads client cmd params).1.Silent ∧
        ∀ e ∈ (s.request threads client cmd params).2, ∃ t k, e = .polled t k
      rw [Control.request, if_pos hsocket]
      exact ⟨⟨hsocket, hnone⟩, nofun⟩
  | serve client =>
      show (s.serve client).1.Silent ∧ ∀ e ∈ (s.serve client).2, ∃ t k, e = .polled t k
      rw [Control.serve, hnone client]
      exact ⟨⟨hsocket, hnone⟩, nofun⟩

theorem Control.Silent.trace {run : List ControlAction} :
    ∀ {s : Control}, s.Silent →
      ∀ e ∈ trace (Control.step threads) s run, ∃ t k, e = .polled t k := by
  induction run with
  | nil => exact fun _ _ he => absurd he List.not_mem_nil
  | cons a run ih =>
      intro s hsilent
      obtain ⟨hsilent', hpolled⟩ := hsilent.step (a := a)
      rw [OutputTraces.trace, List.forall_mem_append]
      exact ⟨fun e he => hpolled e (Option.mem_toList.mp he), ih hsilent'⟩

/-- **The lports are polled in turn**: of a thread that has not been stopped, the `i`-th poll is
for the lport with the number `i` modulo their number.  With `no-metrics` no thread is ever
stopped. -/
theorem polls_in_turn (threads : List NamedThd) (noMetrics : Bool) (ready : ℕ → Bool) (t : ℕ)
    (run : List ControlAction)
    (hnot : noMetrics = false → ∀ e ∈ trace (Control.step threads)
      (Control.init threads noMetrics ready) run, e ≠ .wrote t true) :
    ∃ m, pollsOf t (trace (Control.step threads) (Control.init threads noMetrics ready) run) =
      (List.range m).map (· % lportCnt threads t) := by
  have hquit : ∀ t, (Control.init threads noMetrics ready).quit t = .run := fun _ => rfl
  by_cases hleft : isMain threads t ∨ lportCnt threads t = 0 ∨ ready t = false
  · exact ⟨0, (left_for_good hquit (if_pos hleft) run).1⟩
  · have hplace : (Control.init threads noMetrics ready).place t =
        .testing (0 % lportCnt threads t) := by
      rw [Nat.zero_mod]
      exact if_neg hleft
    have hnever : ∀ e ∈ trace (Control.step threads) (Control.init threads noMetrics ready) run,
        e ≠ .wrote t true := by
      cases noMetrics with
      | false => exact hnot rfl
      | true =>
          intro e he
          have hsilent : (Control.init threads true ready).Silent := ⟨rfl, fun _ => rfl⟩
          obtain ⟨t', k, rfl⟩ := hsilent.trace e he
          exact nofun
    obtain ⟨m, hpolls⟩ := polls_in_turn_from (.inl hplace) rfl hquit hnever
    exact ⟨m, by rw [hpolls, List.range_eq_range']⟩

end Runs

/-! ## Two forwarding threads -/

/-- The main thread and two that forward, with two lports each. -/
def twoForwarders : List NamedThd :=
  [⟨⟨ascii "main", []⟩, ascii "main"⟩, ⟨⟨ascii "fwd", [0, 1]⟩, ascii "fwd:0"⟩,
    ⟨⟨ascii "fwd", [2, 3]⟩, ascii "fwd:1"⟩]

def allReady : Control := Control.init twoForwarders false fun _ => true

/-- The poll that has been let through before the stop comes after the answer. -/
theorem stopped_after_answer_all :
    let text := ascii ("\"threads\":[\x7b\"name\":\"fwd:0\",\"status\":\"paused\"\x7d," ++
      "\x7b\"name\":\"fwd:1\",\"status\":\"paused\"\x7d]")
    trace (Control.step twoForwarders) allReady [.look 1, .request 5 (ascii "/stop")
        (some (ascii "ALL")), .serve 5, .serve 5, .serve 5, .poll 1 true, .look 1] =
      [.requested 5 (ascii "/stop") (some (ascii "ALL")), .wrote 1 true, .wrote 2 true,
        .answered 5 text, .polled 1 0] ∧
      text = (fwdThreadCtl twoForwarders (ascii "/stop") (some (ascii "ALL"))).2 ∧
        (pollsOf 1 [.polled 1 0]).length ≤ 1 := by
  intro text
  have htrace : trace (Control.step twoForwarders) allReady [.look 1, .request 5 (ascii "/stop")
      (some (ascii "ALL")), .serve 5, .serve 5, .serve 5, .poll 1 true, .look 1] =
      [.requested 5 (ascii "/stop") (some (ascii "ALL")), .wrote 1 true, .wrote 2 true,
        .answered 5 text, .polled 1 0] := by decide +kernel
  have hsplit := htrace.trans (show _ = [] ++ .requested 5 (ascii "/stop") (some (ascii "ALL")) ::
    ([.wrote 1 true, .wrote 2 true] ++ .answered 5 text :: [.polled 1 0]) from rfl)
  exact ⟨htrace, stopped_after_answer hsplit (by simp) (by decide +kernel) (by simp)⟩

theorem polls_in_turn_twice :
    ∃ m, pollsOf 1 (trace (Control.step twoForwarders) allReady [.look 1, .poll 1 true, .look 1,
      .look 2, .poll 1 true, .poll 2 false, .look 1, .poll 1 true]) =
        (List.range m).map (· % lportCnt twoForwarders 1) :=
  polls_in_turn twoForwarders false (fun _ => true) 1 _ (fun _ => by decide +kernel)

end UdxFastpath.Cndp
