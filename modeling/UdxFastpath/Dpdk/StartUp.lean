import UdxFastpath.Dpdk.PortLifecycle

/-!
# Starting the ports

`start_port` marks a port as being handled, goes through the steps of its configuration
and starts the device.  Most failures mark the port as stopped again before they give
up; four of them do not (`LeftInBetween`): the port cannot be isolated, it has no
hairpin queues, its configuration cannot be read back, or there is no memory pool on the
socket of its receive queues.

* `attemptPort_ok_iff`, `attemptPort_handling_iff`: when the configuration goes through
  and when the port is left in between, in terms of what the driver answers.
* `startPort_port`: what a call does to every port.  The ports up to the first failure
  are attempted, those behind it are not.
* `startPort_handling_iff`: which port a call leaves in between.
* `startUp_launches_iff`: when the process comes up forwarding.
* `unplugged_run`: after that, the removal of a device changes nothing, and the exit
  leaves every port started.
-/

namespace UdxFastpath.Dpdk

open EarlyExit

/-! ## One port -/

section Port

variable (g : PortSettings) (d : Driver) (pi socketId : ℕ) (p : Port)

/-- The driver goes along with everything under `need_reconfig`. -/
structure Reconfigures : Prop where
  isolate : g.flowIsolateAll = true → d.flowIsolate pi = 0
  capability : 0 < g.nbHairpinq → d.hairpinCapabilityGet pi = 0
  configure : ethDevConfigureMp g d pi = 0
  conf : d.devConfGet pi = 0

/-- The driver goes along with everything under `need_reconfig_queues`. -/
structure QueuesSetUp : Prop where
  tx : ∀ qi ∈ List.range g.nbTxq, d.txQueueSetup pi qi = 0
  pool : 0 < g.nbRxq → d.mbufPoolFind (rxSocket g pi socketId) = true
  rx : ∀ qi ∈ List.range g.nbRxq, d.rxQueueSetup pi qi = 0
  txHairpin : ∀ qi ∈ List.range' g.nbTxq g.nbHairpinq, d.txHairpinQueueSetup pi qi = 0
  rxHairpin : ∀ qi ∈ List.range' g.nbRxq g.nbHairpinq, d.rxHairpinQueueSetup pi qi = 0

/-- The driver goes along with all that is due on the port. -/
structure Ready : Prop where
  port : p.needReconfig = true → Reconfigures g d pi
  queues : p.needReconfigQueues = true → g.isProcPrimary = true → QueuesSetUp g d pi p.socketId

/-- The failures at which the source returns without setting the port back. -/
inductive LeftInBetween : Prop
  | isolate (due : p.needReconfig = true) (on : g.flowIsolateAll = true)
      (failed : d.flowIsolate pi ≠ 0)
  | capability (due : p.needReconfig = true)
      (isolate : g.flowIsolateAll = true → d.flowIsolate pi = 0) (on : 0 < g.nbHairpinq)
      (failed : d.hairpinCapabilityGet pi ≠ 0)
  | conf (due : p.needReconfig = true) (isolate : g.flowIsolateAll = true → d.flowIsolate pi = 0)
      (capability : 0 < g.nbHairpinq → d.hairpinCapabilityGet pi = 0)
      (configure : ethDevConfigureMp g d pi = 0) (failed : d.devConfGet pi ≠ 0)
  | pool (port : p.needReconfig = true → Reconfigures g d pi)
      (due : p.needReconfigQueues = true) (primary : g.isProcPrimary = true)
      (tx : ∀ qi ∈ List.range g.nbTxq, d.txQueueSetup pi qi = 0) (on : 0 < g.nbRxq)
      (failed : d.mbufPoolFind (rxSocket g pi p.socketId) = false)

/-- The port after everything due on it has been done. -/
def Port.configured (p : Port) : Port :=
  { p with
    status := .handling
    needReconfig := false
    needReconfigQueues := p.needReconfigQueues && !g.isProcPrimary }

variable {g d pi p}

@[simp] theorem setBackToStopped_of_handling (h : p.status = .handling) :
    p.setBackToStopped.status = .stopped := by
  unfold Port.setBackToStopped
  rw [if_pos h]

/-- The part under `need_reconfig` goes through, leaves the port in between, or sets it back. -/
theorem reconfigurePort_cases (g : PortSettings) (d : Driver) (pi : ℕ) (p : Port) :
    (reconfigurePort g d pi { p with status := .handling } =
          .ok { p with status := .handling, needReconfig := false } ∧
        (p.needReconfig = true → Reconfigures g d pi)) ∨
      (∃ p', reconfigurePort g d pi { p with status := .handling } = .error p' ∧
        p'.status = .handling ∧ LeftInBetween g d pi p ∧ ¬ Ready g d pi p) ∨
      ∃ p', reconfigurePort g d pi { p with status := .handling } = .error p' ∧
        p'.status = .stopped ∧ ¬ LeftInBetween g d pi p ∧ ¬ Ready g d pi p := by
  unfold reconfigurePort
  by_cases hdue : p.needReconfig = true
  · rw [if_neg (by rw [hdue]; decide)]
    dsimp only
    by_cases hisolate : g.flowIsolateAll = true ∧ d.flowIsolate pi ≠ 0
    · rw [if_pos hisolate]
      refine .inr (.inl ⟨_, rfl, rfl, .isolate hdue hisolate.1 hisolate.2, fun hready => ?_⟩)
      exact hisolate.2 ((hready.port hdue).isolate hisolate.1)
    · rw [if_neg hisolate]
      by_cases hcapability : 0 < g.nbHairpinq ∧ d.hairpinCapabilityGet pi ≠ 0
      · rw [if_pos hcapability]
        refine .inr (.inl ⟨_, rfl, rfl, .capability hdue ?_ hcapability.1 hcapability.2,
          fun hready => ?_⟩)
        · simpa using hisolate
        · exact hcapability.2 ((hready.port hdue).capability hcapability.1)
      · rw [if_neg hcapability]
        by_cases hconfigure : ethDevConfigureMp g d pi = 0
        · rw [if_neg (not_not.mpr hconfigure)]
          by_cases hconf : d.devConfGet pi = 0
          · rw [if_neg (not_not.mpr hconf)]
            refine .inl ⟨rfl, fun _ => ⟨?_, ?_, hconfigure, hconf⟩⟩
            · simpa using hisolate
            · simpa using hcapability
          · rw [if_pos hconf]
            refine .inr (.inl ⟨_, rfl, rfl, .conf hdue ?_ ?_ hconfigure hconf, fun hready => ?_⟩)
            · simpa using hisolate
            · simpa using hcapability
            · exact hconf (hready.port hdue).conf
        · rw [if_pos hconfigure]
          refine .inr (.inr ⟨_, rfl, ?_, fun hleft => ?_, fun hready => ?_⟩)
          · exact setBackToStopped_of_handling
              (p := { p with status := .handling, needReconfig := false }) rfl
          · cases hleft with
            | isolate _ on failed => exact hisolate ⟨on, failed⟩
            | capability _ _ on failed => exact hcapability ⟨on, failed⟩
            | conf _ _ _ configure _ => exact hconfigure configure
            | pool port _ _ _ _ _ => exact hconfigure (port hdue).configure
          · exact hconfigure (hready.port hdue).configure
  · rw [Bool.not_eq_true] at hdue
    rw [if_pos hdue]
    refine .inl ⟨?_, fun hdue' => ?_⟩
    · rw [hdue]
    · rw [hdue] at hdue'
      cases hdue'

/-- A loop over queues goes through, or fails its port at the first queue that does. -/
theorem setupQueueLoop_eq (setup : ℕ → ℤ) (queues : List ℕ) :
    setupQueueLoop setup queues p =
      if ∀ qi ∈ queues, setup qi = 0 then .ok p else .error p.queueFailed := by
  unfold setupQueueLoop
  exact foldlM_check Port.queueFailed queues p

/-- The loop over receive queues fails for want of a pool before anything else. -/
theorem setupRxQueueLoop_eq (queues : List ℕ) :
    setupRxQueueLoop g d pi queues p =
      if queues ≠ [] ∧ d.mbufPoolFind (rxSocket g pi p.socketId) = false then .error p
      else if ∀ qi ∈ queues, d.rxQueueSetup pi qi = 0 then .ok p
      else .error p.queueFailed := by
  unfold setupRxQueueLoop
  induction queues with
  | nil => simp
  | cons qi rest ih =>
      rw [List.foldlM_cons]
      by_cases hpool : d.mbufPoolFind (rxSocket g pi p.socketId) = false
      · rw [if_pos hpool, error_bind, if_pos ⟨List.cons_ne_nil _ _, hpool⟩]
      · have hno : ∀ l : List ℕ, ¬ (l ≠ [] ∧ d.mbufPoolFind (rxSocket g pi p.socketId) = false) :=
          fun l h => hpool h.2
        rw [if_neg hpool, if_neg (hno _)]
        by_cases hqi : d.rxQueueSetup pi qi = 0
        · rw [if_pos hqi, ok_bind, ih, if_neg (hno _)]
          simp [hqi]
        · rw [if_neg hqi, error_bind]
          simp [hqi]

theorem queueFailed_status (h : p.status = .handling) : p.queueFailed.status = .stopped :=
  setBackToStopped_of_handling h

/-- The part under `need_reconfig_queues` goes through, leaves the port in between, or sets it
back. -/
theorem reconfigureQueues_cases (g : PortSettings) (d : Driver) (pi : ℕ) (p : Port)
    (h : p.status = .handling) :
    (reconfigureQueues g d pi p =
          .ok { p with needReconfigQueues := p.needReconfigQueues && !g.isProcPrimary } ∧
        (p.needReconfigQueues = true → g.isProcPrimary = true → QueuesSetUp g d pi p.socketId)) ∨
      (∃ p', reconfigureQueues g d pi p = .error p' ∧ p'.status = .handling ∧
        p.needReconfigQueues = true ∧ g.isProcPrimary = true ∧
        (∀ qi ∈ List.range g.nbTxq, d.txQueueSetup pi qi = 0) ∧ 0 < g.nbRxq ∧
        d.mbufPoolFind (rxSocket g pi p.socketId) = false) ∨
      ∃ p', reconfigureQueues g d pi p = .error p' ∧ p'.status = .stopped ∧
        p.needReconfigQueues = true ∧ g.isProcPrimary = true ∧ ¬ QueuesSetUp g d pi p.socketId ∧
        ((∀ qi ∈ List.range g.nbTxq, d.txQueueSetup pi qi = 0) → 0 < g.nbRxq →
          d.mbufPoolFind (rxSocket g pi p.socketId) = true) := by
  unfold reconfigureQueues
  by_cases hdue : p.needReconfigQueues = true ∧ g.isProcPrimary = true
  · obtain ⟨hqueues, hprimary⟩ := hdue
    rw [if_neg (by rw [hqueues, hprimary]; decide), setupQueueLoop_eq]
    by_cases htx : ∀ qi ∈ List.range g.nbTxq, d.txQueueSetup pi qi = 0
    · rw [if_pos htx, ok_bind, setupRxQueueLoop_eq]
      by_cases hpool : 0 < g.nbRxq ∧ d.mbufPoolFind (rxSocket g pi p.socketId) = false
      · rw [if_pos ⟨by simpa using hpool.1.ne', hpool.2⟩, error_bind]
        exact .inr (.inl ⟨_, rfl, h, hqueues, hprimary, htx, hpool⟩)
      · rw [if_neg fun hno => hpool ⟨Nat.pos_of_ne_zero (by simpa using hno.1), hno.2⟩]
        have hpool' : 0 < g.nbRxq → d.mbufPoolFind (rxSocket g pi p.socketId) = true := by
          simpa using hpool
        by_cases hrx : ∀ qi ∈ List.range g.nbRxq, d.rxQueueSetup pi qi = 0
        · rw [if_pos hrx, ok_bind, setupQueueLoop_eq]
          by_cases htxHairpin : ∀ qi ∈ List.range' g.nbTxq g.nbHairpinq,
              d.txHairpinQueueSetup pi qi = 0
          · rw [if_pos htxHairpin, ok_bind, setupQueueLoop_eq]
            by_cases hrxHairpin : ∀ qi ∈ List.range' g.nbRxq g.nbHairpinq,
                d.rxHairpinQueueSetup pi qi = 0
            · rw [if_pos hrxHairpin, hqueues, hprimary]
              exact .inl ⟨rfl, fun _ _ => ⟨htx, hpool', hrx, htxHairpin, hrxHairpin⟩⟩
            · rw [if_neg hrxHairpin]
              exact .inr (.inr ⟨_, rfl, queueFailed_status h, hqueues, hprimary,
                fun hset => hrxHairpin hset.rxHairpin, fun _ => hpool'⟩)
          · rw [if_neg htxHairpin, error_bind]
            exact .inr (.inr ⟨_, rfl, queueFailed_status h, hqueues, hprimary,
              fun hset => htxHairpin hset.txHairpin, fun _ => hpool'⟩)
        · rw [if_neg hrx, error_bind]
          exact .inr (.inr ⟨_, rfl, queueFailed_status h, hqueues, hprimary,
            fun hset => hrx hset.rx, fun _ => hpool'⟩)
    · rw [if_neg htx, error_bind]
      exact .inr (.inr ⟨_, rfl, queueFailed_status h, hqueues, hprimary,
        fun hset => htx hset.tx, fun htx' => absurd htx' htx⟩)
  · have hskip : p.needReconfigQueues = false ∨ g.isProcPrimary = false := by
      rwa [Classical.not_and_iff_not_or_not, Bool.not_eq_true, Bool.not_eq_true] at hdue
    rw [if_pos hskip]
    refine .inl ⟨?_, fun hqueues hprimary => absurd ⟨hqueues, hprimary⟩ hdue⟩
    rcases hskip with hskip | hskip
    · rw [hskip, Bool.false_and, ← hskip]
    · rw [hskip, Bool.not_false, Bool.and_true]

/-- **What `start_port` makes of a port**: it is ready and configured, or the failure leaves it in
between, or the failure sets it back. -/
theorem attemptPort_cases (g : PortSettings) (d : Driver) (pi : ℕ) (p : Port) :
    (attemptPort g d pi p = .ok (p.configured g) ∧ Ready g d pi p ∧ ¬ LeftInBetween g d pi p) ∨
      (∃ p', attemptPort g d pi p = .error p' ∧ p'.status = .handling ∧ LeftInBetween g d pi p ∧
        ¬ Ready g d pi p) ∨
      ∃ p', attemptPort g d pi p = .error p' ∧ p'.status = .stopped ∧
        ¬ LeftInBetween g d pi p ∧ ¬ Ready g d pi p := by
  unfold attemptPort
  rcases reconfigurePort_cases g d pi p with ⟨hok, hport⟩ | ⟨p', herror, h⟩ | ⟨p', herror, h⟩
  · -- what is left between is then left for want of a pool
    have hpool : LeftInBetween g d pi p → p.needReconfigQueues = true ∧ g.isProcPrimary = true ∧
        (∀ qi ∈ List.range g.nbTxq, d.txQueueSetup pi qi = 0) ∧ 0 < g.nbRxq ∧
        d.mbufPoolFind (rxSocket g pi p.socketId) = false := by
      intro hleft
      cases hleft with
      | isolate due on failed => exact absurd ((hport due).isolate on) failed
      | capability due _ on failed => exact absurd ((hport due).capability on) failed
      | conf due _ _ _ failed => exact absurd (hport due).conf failed
      | pool _ due primary tx on failed => exact ⟨due, primary, tx, on, failed⟩
    rw [hok, ok_bind]
    rcases reconfigureQueues_cases g d pi { p with status := .handling, needReconfig := false }
        rfl with
      ⟨hok', hqueues⟩ | ⟨p', herror, hstatus, hdue, hprimary, htx, hon, hnone⟩ |
        ⟨p', herror, hstatus, hdue, hprimary, hnot, hsome⟩
    · rw [hok']
      refine .inl ⟨rfl, ⟨hport, hqueues⟩, fun hleft => ?_⟩
      obtain ⟨hdue, hprimary, -, hon, hnone⟩ := hpool hleft
      have hfound := (hqueues hdue hprimary).pool hon
      rw [show rxSocket g pi _ = rxSocket g pi p.socketId from rfl, hnone] at hfound
      cases hfound
    · refine .inr (.inl ⟨p', herror, hstatus, .pool hport hdue hprimary htx hon hnone,
        fun hready => ?_⟩)
      have hfound := (hready.queues hdue hprimary).pool hon
      rw [show rxSocket g pi _ = rxSocket g pi p.socketId from rfl, hnone] at hfound
      cases hfound
    · refine .inr (.inr ⟨p', herror, hstatus, fun hleft => ?_,
        fun hready => hnot (hready.queues hdue hprimary)⟩)
      obtain ⟨-, -, htx, hon, hnone⟩ := hpool hleft
      have hfound := hsome htx hon
      rw [show rxSocket g pi _ = rxSocket g pi p.socketId from rfl, hnone] at hfound
      cases hfound
  · exact .inr (.inl ⟨p', by rw [herror, error_bind], h⟩)
  · exact .inr (.inr ⟨p', by rw [herror, error_bind], h⟩)

/-- The configuration goes through exactly when the driver goes along. -/
theorem attemptPort_ok_iff {p' : Port} :
    attemptPort g d pi p = .ok p' ↔ Ready g d pi p ∧ p' = p.configured g := by
  rcases attemptPort_cases g d pi p with ⟨hok, hready, -⟩ | ⟨q, herror, -, -, hready⟩ |
    ⟨q, herror, -, -, hready⟩
  · rw [hok, Except.ok.injEq, and_iff_right hready, eq_comm]
  · rw [herror]
    simp [hready]
  · rw [herror]
    simp [hready]

/-- A failure leaves the port in between exactly at one of the four failures. -/
theorem attemptPort_handling_iff :
    (∃ p', attemptPort g d pi p = .error p' ∧ p'.status = .handling) ↔ LeftInBetween g d pi p := by
  rcases attemptPort_cases g d pi p with ⟨hok, -, hleft⟩ | ⟨q, herror, hstatus, hleft, -⟩ |
    ⟨q, herror, hstatus, hleft, -⟩
  · rw [hok]
    simp [hleft]
  · exact iff_of_true ⟨q, herror, hstatus⟩ hleft
  · rw [herror]
    simp [hleft, hstatus]

end Port

/-! ## The loop over the ports -/

section Loop

variable (g : PortSettings) (d : Driver) (pid : ℕ)

/-- What a round makes of a port. -/
def attempted (pi : ℕ) (p : Port) : Port :=
  if Chosen pid pi ∧ p.status = .stopped then
    match attemptPort g d pi p with
    | .error p' => p'
    | .ok p' => startDevice g d pi p'
  else p

/-- The loop ends at the port `pi`. -/
def Stops (s : Ports) (pi : ℕ) : Prop :=
  Chosen pid pi ∧ (s.port pi).status = .stopped ∧ ¬ Ready g d pi (s.port pi)

/-- The device of the port `pi` is started. -/
def starts (s : Ports) (pi : ℕ) : Bool :=
  decide (Chosen pid pi) && (s.port pi).status == .stopped && !decide (ethDevStartMp g d pi < 0)

/-- The ports of a list are rewritten. -/
def Ports.mapPorts (s : Ports) (l : List ℕ) (f : ℕ → Port → Port) : Ports :=
  { s with port := fun pi => if pi ∈ l then f pi (s.port pi) else s.port pi }

variable {g d pid}

theorem Ports.mapPorts_nil (s : Ports) (f : ℕ → Port → Port) : s.mapPorts [] f = s := by
  unfold mapPorts
  simp

/-- Rewriting the first port and then the others is rewriting all. -/
theorem Ports.setPort_mapPorts {s : Ports} {a : ℕ} {l : List ℕ} {f : ℕ → Port → Port}
    (ha : a ∉ l) : (s.setPort a (f a (s.port a))).mapPorts l f = s.mapPorts (a :: l) f := by
  unfold mapPorts setPort
  congr 1
  funext pi
  by_cases hpi : pi = a
  · subst hpi
    simp [ha]
  · simp [hpi]

/-- A round in one line. -/
theorem startOne_eq (g : PortSettings) (d : Driver) (pid : ℕ) (r : Ports × List ℕ) (pi : ℕ) :
    (Stops g d pid r.1 pi ∧ startOne g d pid r pi =
        .error (r.1.setPort pi (attempted g d pid pi (r.1.port pi)))) ∨
      (¬ Stops g d pid r.1 pi ∧ startOne g d pid r pi =
        .ok (r.1.setPort pi (attempted g d pid pi (r.1.port pi)),
          if starts g d pid r.1 pi then r.2 ++ [pi] else r.2)) := by
  unfold startOne
  by_cases hchosen : Chosen pid pi
  · by_cases hstopped : (r.1.port pi).status = .stopped
    · rw [if_neg (not_not.mpr hchosen), if_neg (not_not.mpr hstopped), attempted,
        if_pos (show Chosen pid pi ∧ (r.1.port pi).status = .stopped from ⟨hchosen, hstopped⟩)]
      cases hattempt : attemptPort g d pi (r.1.port pi) with
      | error p =>
          refine .inl ⟨⟨hchosen, hstopped, fun hready => ?_⟩, rfl⟩
          have hok := attemptPort_ok_iff.mpr ⟨hready, rfl⟩
          rw [hattempt] at hok
          cases hok
      | ok p =>
          refine .inr ⟨fun hstops => hstops.2.2 (attemptPort_ok_iff.mp hattempt).1, ?_⟩
          by_cases hstart : ethDevStartMp g d pi < 0
          · simp [starts, hstart]
          · simp [starts, hstart, hchosen, hstopped]
    · right
      rw [if_neg (not_not.mpr hchosen), if_pos hstopped, attempted,
        if_neg (show ¬ (Chosen pid pi ∧ (r.1.port pi).status = .stopped) from
          fun h => hstopped h.2)]
      refine ⟨fun h => hstopped h.2.1, ?_⟩
      simp [Ports.setPort, starts, hstopped]
  · right
    rw [if_pos hchosen, attempted,
      if_neg (show ¬ (Chosen pid pi ∧ (r.1.port pi).status = .stopped) from fun h => hchosen h.1)]
    refine ⟨fun h => hchosen h.1, ?_⟩
    simp [Ports.setPort, starts, hchosen]

/-- The loop attempts the ports up to the first it ends at, each once. -/
theorem startLoop_cases (g : PortSettings) (d : Driver) (pid : ℕ) (l : List ℕ) :
    ∀ r : Ports × List ℕ, l.Nodup →
    (∃ pre q post, l = pre ++ q :: post ∧ (∀ x ∈ pre, ¬ Stops g d pid r.1 x) ∧
        Stops g d pid r.1 q ∧
        l.foldlM (startOne g d pid) r =
          .error (r.1.mapPorts (pre ++ [q]) (attempted g d pid))) ∨
      ((∀ x ∈ l, ¬ Stops g d pid r.1 x) ∧
        l.foldlM (startOne g d pid) r =
          .ok (r.1.mapPorts l (attempted g d pid), r.2 ++ l.filter (starts g d pid r.1))) := by
  induction l with
  | nil =>
      intro r _
      refine .inr ⟨fun x hx => absurd hx List.not_mem_nil, ?_⟩
      rw [Ports.mapPorts_nil]
      simp
  | cons a rest ih =>
      intro r hnodup
      obtain ⟨ha, hrest⟩ := List.nodup_cons.mp hnodup
      rw [List.foldlM_cons]
      rcases startOne_eq g d pid r a with ⟨hstops, heq⟩ | ⟨hgoes, heq⟩
      · left
        refine ⟨[], a, rest, rfl, fun x hx => absurd hx List.not_mem_nil, hstops, ?_⟩
        rw [heq, error_bind, List.nil_append, ← Ports.setPort_mapPorts List.not_mem_nil,
          Ports.mapPorts_nil]
      · rw [heq, ok_bind]
        -- the first round has not touched the ports still to come
        have hport : ∀ x ∈ rest, (r.1.setPort a (attempted g d pid a (r.1.port a))).port x =
            r.1.port x := by
          intro x hx
          exact setPort_port_of_ne _ _ (fun hxa => ha (hxa ▸ hx))
        have hstops : ∀ x ∈ rest,
            (Stops g d pid (r.1.setPort a (attempted g d pid a (r.1.port a))) x ↔
              Stops g d pid r.1 x) := by
          intro x hx
          unfold Stops
          rw [hport x hx]
        rcases ih (r.1.setPort a (attempted g d pid a (r.1.port a)),
            if starts g d pid r.1 a then r.2 ++ [a] else r.2) hrest with
          ⟨pre, q, post, hl, hpre, hq, hloop⟩ | ⟨hall, hloop⟩
        · left
          have hmem : ∀ x ∈ pre, x ∈ rest := fun x hx => hl ▸ List.mem_append_left _ hx
          have hqmem : q ∈ rest := hl ▸ List.mem_append_right _ List.mem_cons_self
          refine ⟨a :: pre, q, post, by rw [hl]; rfl, ?_, (hstops q hqmem).mp hq, ?_⟩
          · intro x hx
            rcases List.mem_cons.mp hx with rfl | hx
            · exact hgoes
            · exact fun h => hpre x hx ((hstops x (hmem x hx)).mpr h)
          · have hnot : a ∉ pre ++ [q] := by
              intro hmem'
              rcases List.mem_append.mp hmem' with hx | hx
              · exact ha (hmem a hx)
              · rw [List.mem_singleton.mp hx] at ha
                exact ha hqmem
            rw [hloop, Ports.setPort_mapPorts hnot]
            rfl
        · right
          constructor
          · intro x hx
            rcases List.mem_cons.mp hx with rfl | hx
            · exact hgoes
            · exact fun h => hall x hx ((hstops x hx).mpr h)
          · have hfilter : rest.filter
                (starts g d pid (r.1.setPort a (attempted g d pid a (r.1.port a)))) =
                  rest.filter (starts g d pid r.1) := by
              apply List.filter_congr
              intro x hx
              unfold starts
              rw [hport x hx]
            rw [hloop, Ports.setPort_mapPorts ha, hfilter, List.filter_cons]
            by_cases hstart : starts g d pid r.1 a = true
            · simp [hstart]
            · simp [hstart]

/-- The start of the device takes a configured port out of the state in between. -/
theorem startDevice_configured (pi : ℕ) (p : Port) :
    startDevice g d pi (p.configured g) =
      { p.configured g with
        status := if ethDevStartMp g d pi < 0 then .stopped else .started } := by
  unfold startDevice Port.setBackToStopped
  rw [if_pos (show (p.configured g).status = .handling from rfl),
    if_pos (show (p.configured g).status = .handling from rfl)]
  split <;> rfl

theorem attempted_ready {pi : ℕ} {p : Port} (hchosen : Chosen pid pi)
    (hstopped : p.status = .stopped) (hready : Ready g d pi p) :
    attempted g d pid pi p =
      { p.configured g with
        status := if ethDevStartMp g d pi < 0 then .stopped else .started } := by
  unfold attempted
  rw [if_pos ⟨hchosen, hstopped⟩, attemptPort_ok_iff.mpr ⟨hready, rfl⟩]
  exact startDevice_configured pi p

/-- A round leaves a port in between exactly at one of the four failures. -/
theorem attempted_handling_iff {pi : ℕ} {p : Port} (hp : p.status ≠ .handling) :
    (attempted g d pid pi p).status = .handling ↔
      Chosen pid pi ∧ p.status = .stopped ∧ LeftInBetween g d pi p := by
  by_cases hdue : Chosen pid pi ∧ p.status = .stopped
  · rw [← and_assoc, and_iff_right hdue, ← attemptPort_handling_iff, attempted, if_pos hdue]
    rcases attemptPort_cases g d pi p with ⟨hok, -⟩ | ⟨p', herror, hstatus, -⟩ |
      ⟨p', herror, hstatus, -⟩
    · rw [hok]
      dsimp only
      rw [startDevice_configured]
      split <;> simp
    · rw [herror]
      simp [hstatus]
    · rw [herror]
      simp [hstatus]
  · rw [attempted, if_neg hdue]
    exact iff_of_false hp fun h => hdue ⟨h.1, h.2.1⟩

theorem LeftInBetween.not_ready {pi : ℕ} {p : Port} (h : LeftInBetween g d pi p) :
    ¬ Ready g d pi p := by
  rcases attemptPort_cases g d pi p with ⟨-, -, hno⟩ | ⟨-, -, -, -, hno⟩ | ⟨-, -, -, -, hno⟩
  · exact absurd h hno
  · exact hno
  · exact hno

end Loop

/-! ## The call -/

section Call

variable {g : PortSettings} {d : Driver} {pid : ℕ} {s : Ports}

theorem forM_error {ε α : Type} {f : α → Except ε Unit} {e : ε} :
    ∀ l : List α, l.forM f = .error e → ∃ a ∈ l, f a = .error e := by
  intro l
  induction l with
  | nil =>
      intro h
      cases h
  | cons a rest ih =>
      intro h
      rw [List.forM_eq_forM, List.forM_cons] at h
      rcases bind_eq_error_iff.mp h with h | ⟨-, -, h⟩
      · exact ⟨a, List.mem_cons_self, h⟩
      · obtain ⟨a', ha', h'⟩ := ih h
        exact ⟨a', List.mem_cons_of_mem _ ha', h'⟩

theorem bindPeers_error {bind : ℕ → ℤ} {peers : Except ℕ (List ℕ)} {rc : ℤ}
    (h : bindPeers s bind peers = .error rc) : rc < 0 := by
  unfold bindPeers at h
  split at h
  · cases h
    omega
  · obtain ⟨peer, -, h⟩ := forM_error _ h
    split at h
    · cases h
      decide
    · cases h

/-- A hairpin that cannot be bound is reported. -/
theorem bindHairpins_error {pl : List ℕ} {rc : ℤ} (h : bindHairpins d s pl = .error rc) :
    rc < 0 := by
  obtain ⟨pi, -, h⟩ := forM_error _ h
  rcases bind_eq_error_iff.mp h with h | ⟨-, -, h⟩
  · exact bindPeers_error h
  · exact bindPeers_error h

/-- The hairpins of the ports that a call has started are bound, if there are any. -/
def HairpinsBound (g : PortSettings) (d : Driver) (s : Ports) (pl : List ℕ) : Prop :=
  g.hairpinMode % 16 = 0 ∨ bindHairpins d s pl = .ok ()

/-- **`start_port` in closed form.**  It attempts the ports up to the first that it ends at and
returns -1, or all of them. -/
theorem startPort_cases (hvalid : portIdIsInvalid s pid = false) (hnodup : s.attached.Nodup) :
    (∃ pre q post, s.attached = pre ++ q :: post ∧ (∀ x ∈ pre, ¬ Stops g d pid s x) ∧
        Stops g d pid s q ∧
        startPort g d pid s = (-1, s.mapPorts (pre ++ [q]) (attempted g d pid))) ∨
      ((∀ x ∈ s.attached, ¬ Stops g d pid s x) ∧
        (startPort g d pid s).2 = s.mapPorts s.attached (attempted g d pid) ∧
        ((startPort g d pid s).1 = 0 ↔
          HairpinsBound g d (s.mapPorts s.attached (attempted g d pid))
            (s.attached.filter (starts g d pid s)))) := by
  unfold startPort HairpinsBound
  rw [hvalid, if_neg Bool.false_ne_true]
  rcases startLoop_cases g d pid s.attached (s, []) hnodup with
    ⟨pre, q, post, hl, hpre, hq, hloop⟩ | ⟨hall, hloop⟩
  · exact .inl ⟨pre, q, post, hl, hpre, hq, by rw [hloop]⟩
  · refine .inr ⟨hall, ?_⟩
    rw [hloop, List.nil_append]
    dsimp only
    by_cases hmode : g.hairpinMode % 16 = 0
    · rw [if_pos hmode]
      exact ⟨rfl, iff_of_true rfl (.inl hmode)⟩
    · rw [if_neg hmode]
      cases hbind : bindHairpins d (s.mapPorts s.attached (attempted g d pid))
          (s.attached.filter (starts g d pid s)) with
      | ok _ => exact ⟨rfl, iff_of_true rfl (.inr rfl)⟩
      | error rc =>
          have hneg := bindHairpins_error hbind
          refine ⟨rfl, iff_of_false hneg.ne ?_⟩
          rintro (hzero | hok)
          · exact hmode hzero
          · cases hok

end Call

/-- **Which port a call of `start_port` leaves in between.**  It is a chosen port that was
stopped, one of the four silent failures meets it, and the call gets to it: the configuration of
every chosen stopped port in front of it goes through. -/
theorem startPort_handling_iff (g : PortSettings) (d : Driver) (pid : ℕ) (s : Ports) (q : ℕ)
    (hvalid : portIdIsInvalid s pid = false) (hnodup : s.attached.Nodup)
    (hq : (s.port q).status ≠ .handling) :
    ((startPort g d pid s).2.port q).status = .handling ↔
      Chosen pid q ∧ (s.port q).status = .stopped ∧ LeftInBetween g d q (s.port q) ∧
        ∃ pre post, s.attached = pre ++ q :: post ∧
          ∀ x ∈ pre, Chosen pid x → (s.port x).status = .stopped → Ready g d x (s.port x) := by
  have hgoes : ∀ x, ¬ Stops g d pid s x ↔
      (Chosen pid x → (s.port x).status = .stopped → Ready g d x (s.port x)) := by
    intro x
    unfold Stops
    simp only [not_and, not_not]
  constructor
  · intro h
    rcases startPort_cases (g := g) (d := d) hvalid hnodup with
      ⟨pre, q', post, hl, hpre, hq', heq⟩ | ⟨hall, heq, -⟩
    · rw [heq] at h
      by_cases hmem : q ∈ pre ++ [q']
      · have hleft : (attempted g d pid q (s.port q)).status = .handling := by
          simpa only [Ports.mapPorts, if_pos hmem] using h
        obtain ⟨hchosen, hstopped, hleft⟩ := (attempted_handling_iff hq).mp hleft
        refine ⟨hchosen, hstopped, hleft, ?_⟩
        rcases List.mem_append.mp hmem with hq'' | hq''
        · exact absurd ⟨hchosen, hstopped, hleft.not_ready⟩ (hpre q hq'')
        · obtain rfl := List.mem_singleton.mp hq''
          exact ⟨pre, post, hl, fun x hx => (hgoes x).mp (hpre x hx)⟩
      · refine absurd ?_ hq
        simpa only [Ports.mapPorts, if_neg hmem] using h
    · rw [heq] at h
      by_cases hmem : q ∈ s.attached
      · have hleft : (attempted g d pid q (s.port q)).status = .handling := by
          simpa only [Ports.mapPorts, if_pos hmem] using h
        obtain ⟨hchosen, hstopped, hleft⟩ := (attempted_handling_iff hq).mp hleft
        exact absurd ⟨hchosen, hstopped, hleft.not_ready⟩ (hall q hmem)
      · refine absurd ?_ hq
        simpa only [Ports.mapPorts, if_neg hmem] using h
  · rintro ⟨hchosen, hstopped, hleft, pre, post, hl, hpre⟩
    have hstops : Stops g d pid s q := ⟨hchosen, hstopped, hleft.not_ready⟩
    have hmem : q ∈ s.attached := hl ▸ List.mem_append_right _ List.mem_cons_self
    rcases startPort_cases (g := g) (d := d) hvalid hnodup with
      ⟨pre', q', post', hl', hpre', hq', heq⟩ | ⟨hall, -⟩
    · have hreached : q ∈ pre' ++ [q'] := by
        rcases List.append_eq_append_iff.mp (hl.symm.trans hl') with
          ⟨more, hmore, htail⟩ | ⟨more, hmore, htail⟩
        · cases more with
          | nil =>
              obtain rfl := (List.cons.inj htail).1
              exact List.mem_append_right _ List.mem_cons_self
          | cons a more =>
              obtain rfl := (List.cons.inj htail).1
              rw [hmore]
              simp
        · cases more with
          | nil =>
              obtain rfl := (List.cons.inj htail).1
              exact List.mem_append_right _ List.mem_cons_self
          | cons a more =>
              obtain rfl := (List.cons.inj htail).1
              have hbefore : q' ∈ pre := by
                rw [hmore]
                simp
              exact absurd hq' ((hgoes q').mpr (hpre q' hbefore))
      rw [heq]
      simp only [Ports.mapPorts, if_pos hreached]
      exact (attempted_handling_iff hq).mpr ⟨hchosen, hstopped, hleft⟩
    · exact absurd hstops (hall q hmem)

/-- Without a memory pool the first of two ports is left in between. -/
theorem startPort_handling_iff_noPool :
    ((startPort plainSettings { willingDriver with mbufPoolFind := fun _ => false } RTE_PORT_ALL
      (initialPorts [0, 1] fun _ => 0)).2.port 0).status = .handling :=
  (startPort_handling_iff plainSettings { willingDriver with mbufPoolFind := fun _ => false }
    RTE_PORT_ALL (initialPorts [0, 1] fun _ => 0) 0 rfl (by decide) (by decide)).mpr
    ⟨chosen_all 0, rfl, .pool (fun _ => ⟨fun _ => rfl, fun _ => rfl, rfl, rfl⟩) rfl rfl
      (fun _ _ => rfl) Nat.two_pos rfl, [], [1], rfl, fun x hx => absurd hx List.not_mem_nil⟩

/-! ## Coming up -/

section ComingUp

variable (g : PortSettings) (d : Driver) (ids : List ℕ) (socketId : ℕ → ℕ)

/-- The ports once all of them have been configured and the devices started, or not. -/
def portsUp : Ports :=
  (initialPorts ids socketId).mapPorts ids fun pi p =>
    { p.configured g with status := if ethDevStartMp g d pi < 0 then .stopped else .started }

/-- The ports whose device has been started. -/
def devicesUp : List ℕ := ids.filter fun pi => !decide (ethDevStartMp g d pi < 0)

/-- Every port is ready. -/
def AllReady : Prop := ∀ pi ∈ ids, Ready g d pi ((initialPorts ids socketId).port pi)

variable {g d ids socketId}

theorem stops_initialPorts {pi : ℕ} :
    Stops g d RTE_PORT_ALL (initialPorts ids socketId) pi ↔
      ¬ Ready g d pi ((initialPorts ids socketId).port pi) := by
  unfold Stops
  rw [and_iff_right (chosen_all pi), and_iff_right
    (show ((initialPorts ids socketId).port pi).status = .stopped from rfl)]

/-- `start_port` on all ports, at start-up. -/
theorem startPort_initialPorts (g : PortSettings) (d : Driver) (socketId : ℕ → ℕ)
    (hids : ids.Nodup) :
    (¬ AllReady g d ids socketId ∧
        (startPort g d RTE_PORT_ALL (initialPorts ids socketId)).1 ≠ 0) ∨
      (AllReady g d ids socketId ∧
        (startPort g d RTE_PORT_ALL (initialPorts ids socketId)).2 = portsUp g d ids socketId ∧
        ((startPort g d RTE_PORT_ALL (initialPorts ids socketId)).1 = 0 ↔
          HairpinsBound g d (portsUp g d ids socketId) (devicesUp g d ids))) := by
  have hvalid : portIdIsInvalid (initialPorts ids socketId) RTE_PORT_ALL = false := rfl
  rcases startPort_cases (g := g) (d := d) hvalid hids with
    ⟨pre, q, post, hl, -, hq, heq⟩ | ⟨hall, hports, hrc⟩
  · refine .inl ⟨fun hready => stops_initialPorts.mp hq (hready q ?_), ?_⟩
    · rw [show ids = _ from hl]
      exact List.mem_append_right _ List.mem_cons_self
    · rw [heq]
      exact Int.neg_ne_zero.mpr Int.one_ne_zero
  · have hready : AllReady g d ids socketId := fun pi hpi =>
      not_not.mp fun h => hall pi hpi (stops_initialPorts.mpr h)
    have hup : (initialPorts ids socketId).mapPorts ids (attempted g d RTE_PORT_ALL) =
        portsUp g d ids socketId := by
      unfold portsUp Ports.mapPorts
      congr 1
      funext pi
      by_cases hpi : pi ∈ ids
      · rw [if_pos hpi, if_pos hpi, attempted_ready (chosen_all pi) rfl (hready pi hpi)]
      · rw [if_neg hpi, if_neg hpi]
    have hdevices : ids.filter (starts g d RTE_PORT_ALL (initialPorts ids socketId)) =
        devicesUp g d ids := by
      apply List.filter_congr
      intro pi _
      simp [starts, initialPorts]
    refine .inr ⟨hready, hports.trans hup, ?_⟩
    rw [hrc, show (initialPorts ids socketId).attached = ids from rfl, hup, hdevices]

theorem allPortsStarted_portsUp :
    allPortsStarted (portsUp g d ids socketId) = true ↔ ∀ pi ∈ ids, 0 ≤ ethDevStartMp g d pi := by
  unfold allPortsStarted
  rw [List.all_eq_true]
  refine forall₂_congr fun pi hpi => ?_
  have hport : (portsUp g d ids socketId).port pi =
      { ((initialPorts ids socketId).port pi).configured g with
        status := if ethDevStartMp g d pi < 0 then .stopped else .started } := by
    unfold portsUp Ports.mapPorts
    exact if_pos hpi
  rw [hport]
  by_cases hstart : ethDevStartMp g d pi < 0
  · simp [hstart, Port.configured, initialPorts, not_le.mpr hstart]
  · simp [hstart, not_lt.mp hstart]

theorem startPacketForwarding_ok_iff {s : Ports} :
    (∃ s', startPacketForwarding g s = .ok s') ↔ 0 < g.nbRxq ∧ 0 < g.nbTxq := by
  unfold startPacketForwarding
  by_cases hqueues : g.nbRxq = 0 ∨ g.nbTxq = 0
  · rw [if_pos hqueues]
    refine iff_of_false ?_ (by omega)
    rintro ⟨s', h⟩
    cases h
  · rw [if_neg hqueues]
    refine iff_of_true ?_ (by omega)
    split_ifs
    · exact ⟨_, rfl⟩
    · exact ⟨_, rfl⟩
    · exact ⟨_, rfl⟩

theorem startPacketForwarding_launches_iff {s : Ports} (hdown : s.launched = false) :
    (∃ s', startPacketForwarding g s = .ok s' ∧ s'.launched = true) ↔
      0 < g.nbRxq ∧ 0 < g.nbTxq ∧ allPortsStarted s = true ∧
        pktFwdSharedRxqCheck g.sharing (fwdConfigSetup (s.fwdGlobals g)) = true := by
  have hidle : ∀ s', (Except.ok s : Except Ports Ports) = .ok s' → ¬ s'.launched = true := by
    rintro _ ⟨⟩
    rw [hdown]
    exact Bool.false_ne_true
  unfold startPacketForwarding
  by_cases hqueues : g.nbRxq = 0 ∨ g.nbTxq = 0
  · rw [if_pos hqueues]
    refine iff_of_false ?_ (by omega)
    rintro ⟨s', h, -⟩
    cases h
  · rw [if_neg hqueues, ← and_assoc, and_iff_right (show 0 < g.nbRxq ∧ 0 < g.nbTxq by omega)]
    by_cases hall : allPortsStarted s = false
    · rw [if_pos hall]
      refine iff_of_false (fun ⟨s', h, hup⟩ => hidle s' h hup) ?_
      rw [hall]
      exact fun h => Bool.false_ne_true h.1
    · rw [if_neg hall]
      by_cases hcheck : pktFwdSharedRxqCheck g.sharing (fwdConfigSetup (s.fwdGlobals g)) = false
      · rw [if_pos hcheck]
        refine iff_of_false (fun ⟨s', h, hup⟩ => hidle s' h hup) ?_
        rw [hcheck]
        exact fun h => Bool.false_ne_true h.2
      · rw [if_neg hcheck]
        exact iff_of_true ⟨_, rfl, rfl⟩ ⟨by simpa using hall, by simpa using hcheck⟩

/-- Either the process ends at `start_port`, or it gets to the forwarding with the ports up. -/
theorem startUp_cases (g : PortSettings) (d : Driver) (socketId : ℕ → ℕ) (hids : ids.Nodup) :
    (¬ (AllReady g d ids socketId ∧
          HairpinsBound g d (portsUp g d ids socketId) (devicesUp g d ids)) ∧
        ∃ s, startUp g d (initialPorts ids socketId) = .error s) ∨
      (AllReady g d ids socketId ∧
        HairpinsBound g d (portsUp g d ids socketId) (devicesUp g d ids) ∧
        startUp g d (initialPorts ids socketId) =
          startPacketForwarding g (portsUp g d ids socketId)) := by
  unfold startUp
  dsimp only
  rcases startPort_initialPorts g d socketId hids with
    ⟨hnot, hrc⟩ | ⟨hready, hports, hrc⟩
  · rw [if_pos hrc]
    exact .inl ⟨fun h => hnot h.1, _, rfl⟩
  · by_cases hbound : HairpinsBound g d (portsUp g d ids socketId) (devicesUp g d ids)
    · rw [if_neg (not_not.mpr (hrc.mpr hbound)), hports]
      exact .inr ⟨hready, hbound, rfl⟩
    · rw [if_pos fun hzero => hbound (hrc.mp hzero)]
      exact .inl ⟨fun h => hbound h.2, _, rfl⟩

end ComingUp

/-- **When the process comes up.**  It exits when some port is not ready, or a hairpin cannot be
bound, or there are no queues; it comes up forwarding when moreover every device has been started
and the check of shared queues passes; and otherwise it comes up and forwards nothing. -/
theorem startUp_launches_iff (g : PortSettings) (d : Driver) (ids : List ℕ) (socketId : ℕ → ℕ)
    (hids : ids.Nodup) :
    ((∃ s, startUp g d (initialPorts ids socketId) = .ok s) ↔
        0 < g.nbRxq ∧ 0 < g.nbTxq ∧ AllReady g d ids socketId ∧
          HairpinsBound g d (portsUp g d ids socketId) (devicesUp g d ids)) ∧
      ((∃ s, startUp g d (initialPorts ids socketId) = .ok s ∧ s.launched = true) ↔
        0 < g.nbRxq ∧ 0 < g.nbTxq ∧ AllReady g d ids socketId ∧
          HairpinsBound g d (portsUp g d ids socketId) (devicesUp g d ids) ∧
          (∀ pi ∈ ids, 0 ≤ ethDevStartMp g d pi) ∧
          pktFwdSharedRxqCheck g.sharing
            (fwdConfigSetup ((initialPorts ids socketId).fwdGlobals g)) = true) := by
  rcases startUp_cases g d socketId hids with
    ⟨hnot, s, heq⟩ | ⟨hready, hbound, heq⟩
  · rw [heq]
    constructor
    · refine iff_of_false ?_ fun h => hnot h.2.2
      rintro ⟨s', h⟩
      cases h
    · refine iff_of_false ?_ fun h => hnot ⟨h.2.2.1, h.2.2.2.1⟩
      rintro ⟨s', h, -⟩
      cases h
  · rw [heq, startPacketForwarding_ok_iff, startPacketForwarding_launches_iff rfl,
      allPortsStarted_portsUp]
    constructor
    · rw [and_iff_left (show _ ∧ _ from ⟨hready, hbound⟩)]
    · rw [and_iff_right hready, and_iff_right hbound]
      rfl

/-- Two ports come up forwarding with a willing driver. -/
theorem startUp_launches_iff_willing :
    ∃ s, startUp plainSettings willingDriver (initialPorts [0, 1] fun _ => 0) = .ok s ∧
      s.launched = true :=
  (startUp_launches_iff plainSettings willingDriver [0, 1] (fun _ => 0) (by decide)).2.mpr
    ⟨Nat.two_pos, Nat.two_pos,
      fun pi _ => ⟨fun _ => ⟨fun _ => rfl, fun _ => rfl, rfl, rfl⟩, fun _ _ =>
        ⟨fun _ _ => rfl, fun _ => rfl, fun _ _ => rfl, fun _ _ => rfl, fun _ _ => rfl⟩⟩,
      .inl rfl, fun _ _ => le_rfl, rfl⟩

/-! ## Staying up -/

/-- Every attached port is started and in the forwarding configuration, and no other port is
there or among the known ones. -/
structure AllForwarding (s : Ports) : Prop where
  started : ∀ pi ∈ s.attached, (s.port pi).status = .started
  forwarding : ∀ pi ∈ s.attached, pi ∈ s.fwdPortsIds
  known : ∀ pi ∈ s.portsIds, pi ∈ s.attached
  attached : ∀ pi ∈ s.fwdPortsIds, pi ∈ s.attached

section StayingUp

variable {g : PortSettings} {d : Driver} {s : Ports} {pid pi : ℕ}

theorem AllForwarding.launched (h : AllForwarding s) (b : Bool) :
    AllForwarding { s with launched := b } :=
  ⟨h.started, h.forwarding, h.known, h.attached⟩

theorem AllForwarding.portIsForwarding (h : AllForwarding s) (hpi : pi ∈ s.attached) :
    portIsForwarding s pi ≠ 0 := by
  unfold Dpdk.portIsForwarding
  rw [portIdIsInvalid_of_mem hpi, if_neg Bool.false_ne_true, if_pos (h.forwarding pi hpi)]
  decide

/-- A loop that does nothing at any of its ports does nothing. -/
theorem foldl_eq_self {σ α : Type} {f : σ → α → σ} {s : σ} (l : List α)
    (h : ∀ a ∈ l, f s a = s) : l.foldl f s = s :=
  List.foldlRecOn (motive := fun s' => s' = s) l f rfl fun s' hs' a ha => by rw [hs', h a ha]

theorem AllForwarding.stopPort (h : AllForwarding s) : stopPort g d pid s = s := by
  unfold Dpdk.stopPort
  split
  · rfl
  · apply foldl_eq_self
    intro pi hpi
    unfold stopOne
    rw [if_pos (h.portIsForwarding hpi), ite_self]

theorem AllForwarding.removeInvalidPorts (h : AllForwarding s) : removeInvalidPorts s = s := by
  have hvalid : ∀ {l : List ℕ}, (∀ pi ∈ l, pi ∈ s.attached) →
      l.filter (fun pi => !portIdIsInvalid s pi) = l := by
    intro l hl
    apply List.filter_eq_self.mpr
    intro pi hpi
    rw [portIdIsInvalid_of_mem (hl pi hpi)]
    rfl
  unfold Dpdk.removeInvalidPorts
  rw [hvalid h.known, hvalid h.attached]

theorem AllForwarding.closePort (h : AllForwarding s) : closePort g d pid s = s := by
  unfold Dpdk.closePort
  split
  · rfl
  · rw [foldl_eq_self, h.removeInvalidPorts]
    intro pi hpi
    unfold closeOne
    rw [if_pos (h.portIsForwarding hpi), ite_self]

theorem AllForwarding.detachDevice (h : AllForwarding s) : detachDevice d pi s = s := by
  unfold Dpdk.detachDevice
  split
  · rfl
  · rename_i hall
    -- a device that is given up has no port here
    have hnone : siblings d s pi = [] := by
      rw [List.eq_nil_iff_forall_not_mem]
      intro a ha
      apply hall
      refine List.any_eq_true.mpr ⟨a, ha, ?_⟩
      have hmem : a ∈ s.attached := by
        simpa using (List.mem_filter.mp ha).2
      rw [h.started a hmem]
      rfl
    rw [hnone]
    dsimp only [List.filter_nil, List.foldl_nil]
    rw [h.removeInvalidPorts, ite_self]

theorem AllForwarding.takeAway (h : AllForwarding s) : takeAway g d pi s = s := by
  unfold Dpdk.takeAway
  dsimp only
  rw [h.stopPort, h.closePort, h.detachDevice, ite_self]

theorem AllForwarding.pmdTestExit (h : AllForwarding s) :
    pmdTestExit g d s = { s with launched := false } := by
  have h' : AllForwarding (stopPacketForwarding s) := h.launched false
  unfold Dpdk.pmdTestExit
  dsimp only
  rw [foldl_eq_self (s := stopPacketForwarding s) _ fun _ _ => h'.stopPort,
    foldl_eq_self _ fun _ _ => h'.closePort]
  rfl

/-- What it takes to launch, apart from the ports. -/
structure CanLaunch (g : PortSettings) (s : Ports) : Prop where
  rxq : 0 < g.nbRxq
  txq : 0 < g.nbTxq
  check : pktFwdSharedRxqCheck g.sharing (fwdConfigSetup (s.fwdGlobals g)) = true

theorem AllForwarding.startPacketForwarding (h : AllForwarding s) (hcan : CanLaunch g s) :
    startPacketForwarding g s = .ok { s with launched := true } := by
  have hall : allPortsStarted s = true := by
    unfold allPortsStarted
    rw [List.all_eq_true]
    intro pi hpi
    rw [h.started pi hpi]
    rfl
  unfold Dpdk.startPacketForwarding
  have hrxq := hcan.rxq
  have htxq := hcan.txq
  rw [if_neg (by omega), if_neg (by rw [hall]; decide), if_neg (by rw [hcan.check]; decide)]

/-- The callback takes the forwarding down and launches it again. -/
theorem AllForwarding.rmvPortCallback (h : AllForwarding s) (hcan : CanLaunch g s)
    (hup : s.launched = true) : rmvPortCallback g d pi s = .ok s := by
  have h' : AllForwarding (stopPacketForwarding s) := h.launched false
  have hcan' : CanLaunch g (stopPacketForwarding s) := ⟨hcan.rxq, hcan.txq, hcan.check⟩
  unfold Dpdk.rmvPortCallback
  by_cases hpi : pi ∈ s.attached
  · rw [if_neg (not_not.mpr hpi), if_pos (h.portIsForwarding hpi), h'.takeAway,
      h'.startPacketForwarding hcan']
    unfold stopPacketForwarding
    dsimp only
    rw [← hup]
  · rw [if_pos hpi]

/-- A process that comes up forwarding has every port started and can launch again. -/
theorem allForwarding_of_startUp {ids : List ℕ} {socketId : ℕ → ℕ} (hids : ids.Nodup)
    (hs : startUp g d (initialPorts ids socketId) = .ok s) (hup : s.launched = true) :
    AllForwarding s ∧ CanLaunch g s ∧ s.attached = ids := by
  rcases startUp_cases g d socketId hids with
    ⟨-, s', heq⟩ | ⟨-, -, heq⟩
  · rw [heq] at hs
    cases hs
  · rw [heq] at hs
    obtain ⟨hrxq, htxq, hall, hcheck⟩ :=
      (startPacketForwarding_launches_iff (g := g) (s := portsUp g d ids socketId) rfl).mp
        ⟨s, hs, hup⟩
    have hs' : s = { portsUp g d ids socketId with launched := true } := by
      rcases startPacketForwarding_cases g (portsUp g d ids socketId) with hsame | ⟨-, hlaunched⟩
      · rw [hs] at hsame
        rw [show s = portsUp g d ids socketId from hsame] at hup
        cases hup
      · rw [hs] at hlaunched
        exact hlaunched
    subst hs'
    refine ⟨⟨?_, fun _ h => h, fun _ h => h, fun _ h => h⟩, ⟨hrxq, htxq, hcheck⟩, rfl⟩
    intro pi hpi
    have hstart := allPortsStarted_portsUp.mp hall pi hpi
    have hpi' : pi ∈ ids := hpi
    simp [portsUp, Ports.mapPorts, hpi', not_lt.mpr hstart]

/-- A run of removals stays where it is. -/
theorem AllForwarding.run_removals (h : AllForwarding s) (hcan : CanLaunch g s)
    (hup : s.launched = true) (rest : List PortCall) (removals : List (ℕ × Driver)) :
    run g (removals.map (fun r => .rmvPortCallback r.1 r.2) ++ rest) s = run g rest s := by
  induction removals with
  | nil => rfl
  | cons r removals ih =>
      rw [List.map_cons, List.cons_append, run, PortCall.step, h.rmvPortCallback hcan hup]
      exact ih

end StayingUp

/-- **Unplugging changes nothing.**  Once the process has come up forwarding, any number of
removals of ports, in any order and with any answers of the driver, leave everything as it is: the
ports attached, started and in the forwarding configuration and the forwarding running.  The exit
then takes the forwarding down and leaves the ports started. -/
theorem unplugged_run (g : PortSettings) (d : Driver) (ids : List ℕ) (socketId : ℕ → ℕ)
    (hids : ids.Nodup) (s : Ports) (hs : startUp g d (initialPorts ids socketId) = .ok s)
    (hup : s.launched = true) (removals : List (ℕ × Driver)) (d' : Driver) :
    run g (removals.map fun r => .rmvPortCallback r.1 r.2) s = s ∧
      (∀ pi ∈ ids, (s.port pi).status = .started) ∧
      run g (removals.map (fun r => .rmvPortCallback r.1 r.2) ++ [.pmdTestExit d']) s =
        { s with launched := false } := by
  obtain ⟨h, hcan, hattached⟩ := allForwarding_of_startUp hids hs hup
  refine ⟨?_, fun pi hpi => h.started pi (hattached ▸ hpi), ?_⟩
  · have hrun := h.run_removals hcan hup [] removals
    rwa [List.append_nil] at hrun
  · rw [h.run_removals hcan hup, run, PortCall.step, h.pmdTestExit]
    rfl

/-- Both ports are unplugged, one of them twice. -/
theorem unplugged_run_twice :
    ∃ s, startUp plainSettings willingDriver (initialPorts [0, 1] fun _ => 0) = .ok s ∧
      run plainSettings ([(0, willingDriver), (1, willingDriver), (0, willingDriver)].map
        fun r => .rmvPortCallback r.1 r.2) s = s :=
  ⟨_, rfl, (unplugged_run plainSettings willingDriver [0, 1] (fun _ => 0) (by decide) _ rfl rfl
    [(0, willingDriver), (1, willingDriver), (0, willingDriver)] willingDriver).1⟩

end UdxFastpath.Dpdk
