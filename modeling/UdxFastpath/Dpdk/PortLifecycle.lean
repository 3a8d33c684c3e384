import UdxFastpath.Dpdk.Ports
import Mathlib.Data.List.Basic

/-!
# What becomes of a port

`stop_port`, `close_port` and `reset_port` skip every port that is in the forwarding
configuration, whether or not the forwarding is running, `start_port` skips every port
that is not stopped, and `detach_device` gives up at a port that is neither stopped nor
closed.  Nothing takes a port out of the forwarding configuration but the removal of
ports that are gone.  So a forwarding port that is started, or that was left in between,
is out of reach of every call:

* `heldPort_run`: in every run of calls, whatever the driver answers, it stays attached,
  in the forwarding configuration and as it is.
* `stuckPort_never_launches`: one port left in between keeps the forwarding down for
  good.

A call is taken through its rounds: what every round keeps, the loop keeps
(`List.foldlRecOn`, `EarlyExit.foldlM_ok`), and what every call keeps, the run keeps
(`run_keeps`).
-/

namespace UdxFastpath.Dpdk

open EarlyExit

/-! ## Small facts -/

section Facts

variable {s : Ports} {p : ℕ}

@[simp] theorem setPort_attached (s : Ports) (pi : ℕ) (r : Port) :
    (s.setPort pi r).attached = s.attached := rfl

@[simp] theorem setPort_fwdPortsIds (s : Ports) (pi : ℕ) (r : Port) :
    (s.setPort pi r).fwdPortsIds = s.fwdPortsIds := rfl

@[simp] theorem setPort_portsIds (s : Ports) (pi : ℕ) (r : Port) :
    (s.setPort pi r).portsIds = s.portsIds := rfl

@[simp] theorem setPort_launched (s : Ports) (pi : ℕ) (r : Port) :
    (s.setPort pi r).launched = s.launched := rfl

@[simp] theorem setPort_port_self (s : Ports) (pi : ℕ) (r : Port) :
    (s.setPort pi r).port pi = r := Function.update_self ..

@[simp] theorem setPort_port_of_ne (s : Ports) {pi : ℕ} (r : Port) (h : p ≠ pi) :
    (s.setPort pi r).port p = s.port p := Function.update_of_ne h ..

@[simp] theorem chosen_all (pi : ℕ) : Chosen RTE_PORT_ALL pi := .inr rfl

theorem portIdIsInvalid_of_mem (h : p ∈ s.attached) : portIdIsInvalid s p = false := by
  simp [portIdIsInvalid, h]

/-- What the driver has not released is attached as before. -/
theorem mem_release {pi : ℕ} : p ∈ (s.release pi).attached ↔ p ∈ s.attached ∧ p ≠ pi := by
  simp [Ports.release]

end Facts

/-! ## What a round of `start_port` can do -/

section Start

variable {g : PortSettings} {d : Driver} {pid : ℕ}

/-- A round leaves everything as it is, or takes up a stopped port, and fails on it or not. -/
theorem startOne_cases (g : PortSettings) (d : Driver) (pid : ℕ) (r : Ports × List ℕ) (pi : ℕ) :
    startOne g d pid r pi = .ok r ∨
      Chosen pid pi ∧ (r.1.port pi).status = .stopped ∧
        ((∃ p, attemptPort g d pi (r.1.port pi) = .error p ∧
            startOne g d pid r pi = .error (r.1.setPort pi p)) ∨
          ∃ p, attemptPort g d pi (r.1.port pi) = .ok p ∧
            startOne g d pid r pi = .ok (r.1.setPort pi (startDevice g d pi p),
              if ethDevStartMp g d pi < 0 then r.2 else r.2 ++ [pi])) := by
  unfold startOne
  by_cases hchosen : Chosen pid pi
  · by_cases hstopped : (r.1.port pi).status = .stopped
    · right
      rw [if_neg (not_not.mpr hchosen), if_neg (not_not.mpr hstopped)]
      refine ⟨hchosen, hstopped, ?_⟩
      cases hattempt : attemptPort g d pi (r.1.port pi) with
      | error p => exact .inl ⟨p, rfl, rfl⟩
      | ok p => exact .inr ⟨p, rfl, rfl⟩
    · left
      rw [if_neg (not_not.mpr hchosen), if_pos hstopped]
  · left
    rw [if_pos hchosen]

/-- What overwriting a stopped port keeps, `start_port` keeps. -/
theorem startPort_keeps {P : Ports → Prop}
    (h : ∀ s pi r, P s → (s.port pi).status = .stopped → P (s.setPort pi r)) (s : Ports)
    (hs : P s) : P (startPort g d pid s).2 := by
  have hround : ∀ (r : Ports × List ℕ) (pi : ℕ) (r' : Ports × List ℕ), P r.1 →
      startOne g d pid r pi = .ok r' → P r'.1 := by
    intro r pi r' hr hok
    rcases startOne_cases g d pid r pi with
      heq | ⟨-, hstopped, ⟨p, -, heq⟩ | ⟨p, -, heq⟩⟩ <;> rw [heq] at hok
    · cases hok
      exact hr
    · cases hok
    · cases hok
      exact h r.1 pi _ hr hstopped
  unfold startPort
  split
  · exact hs
  · split
    · rename_i s' hloop
      obtain ⟨r, hr, pi, -, herror⟩ := foldlM_error_of (P := fun r : Ports × List ℕ => P r.1)
        hround s.attached (s, []) hs hloop
      rcases startOne_cases g d pid r pi with
        heq | ⟨-, hstopped, ⟨p, -, heq⟩ | ⟨p, -, heq⟩⟩ <;> rw [heq] at herror
      · cases herror
      · cases herror
        exact h r.1 pi p hr hstopped
      · cases herror
    · rename_i s' pl hloop
      have hs' : P s' := foldlM_ok (P := fun r : Ports × List ℕ => P r.1) hround s.attached
        (s, []) (s', pl) hs hloop
      split
      · exact hs'
      · split <;> exact hs'

end Start

/-! ## A port nobody can reach -/

/-- The port `p` is attached, in the forwarding configuration, and as `q` says. -/
structure Held (s : Ports) (p : ℕ) (q : Port) : Prop where
  attached : p ∈ s.attached
  forwarding : p ∈ s.fwdPortsIds
  port : s.port p = q

/-- Started, or left in between. -/
def Port.Busy (q : Port) : Prop := q.status = .started ∨ q.status = .handling

section Held

variable {g : PortSettings} {d : Driver} {s : Ports} {p pid pi : ℕ} {q : Port}

theorem Port.Busy.ne_stopped (h : q.Busy) : q.status ≠ .stopped := by
  rcases h with h | h <;> rw [h] <;> decide

theorem Port.Busy.ne_closed (h : q.Busy) : q.status ≠ .closed := by
  rcases h with h | h <;> rw [h] <;> decide

theorem Held.portIsForwarding (h : Held s p q) : portIsForwarding s p = 1 := by
  unfold Dpdk.portIsForwarding
  rw [portIdIsInvalid_of_mem h.attached, if_neg Bool.false_ne_true, if_pos h.forwarding]

theorem Held.setPort (h : Held s p q) (hne : p ≠ pi) (r : Port) : Held (s.setPort pi r) p q := by
  constructor
  · exact h.attached
  · exact h.forwarding
  · rw [setPort_port_of_ne s r hne, h.port]

theorem Held.release (h : Held s p q) (hne : p ≠ pi) : Held (s.release pi) p q := by
  constructor
  · exact mem_release.mpr ⟨h.attached, hne⟩
  · exact h.forwarding
  · exact (h.setPort hne _).port

theorem Held.removeInvalidPorts (h : Held s p q) : Held (removeInvalidPorts s) p q := by
  constructor
  · exact h.attached
  · unfold Dpdk.removeInvalidPorts
    rw [List.mem_filter, portIdIsInvalid_of_mem h.attached]
    exact ⟨h.forwarding, rfl⟩
  · exact h.port

/-- `start_port` passes by a port that is not stopped. -/
theorem Held.startPort (hq : q.Busy) (h : Held s p q) : Held (startPort g d pid s).2 p q := by
  refine startPort_keeps (P := fun s => Held s p q) ?_ s h
  intro s pi r h hstopped
  apply h.setPort
  rintro rfl
  rw [h.port] at hstopped
  exact hq.ne_stopped hstopped

/-- A loop over ports that passes by the forwarding ones. -/
theorem Held.stopOne (h : Held s p q) : Held (stopOne g d pid s pi) p q := by
  unfold Dpdk.stopOne
  split
  · exact h
  · split
    · exact h
    · rename_i hforwarding
      have hne : p ≠ pi := by
        rintro rfl
        exact hforwarding (by rw [h.portIsForwarding]; decide)
      split
      · exact h
      · split
        · exact h.setPort hne _
        · split <;> exact h.setPort hne _

theorem Held.stopPort (h : Held s p q) : Held (stopPort g d pid s) p q := by
  unfold Dpdk.stopPort
  split
  · exact h
  · exact List.foldlRecOn (motive := fun s => Held s p q) s.attached _ h fun _ h' _ _ => h'.stopOne

theorem Held.closeOne (h : Held s p q) : Held (closeOne g d pid s pi) p q := by
  unfold Dpdk.closeOne
  split
  · exact h
  · split
    · exact h
    · rename_i hforwarding
      have hne : p ≠ pi := by
        rintro rfl
        exact hforwarding (by rw [h.portIsForwarding]; decide)
      split
      · exact h
      · split
        · exact h.release hne
        · exact h

theorem Held.closePort (h : Held s p q) : Held (closePort g d pid s) p q := by
  unfold Dpdk.closePort
  split
  · exact h
  · apply Held.removeInvalidPorts
    exact List.foldlRecOn (motive := fun s => Held s p q) s.attached _ h fun _ h' _ _ => h'.closeOne

theorem Held.resetOne (h : Held s p q) : Held (resetOne g d pid s pi) p q := by
  unfold Dpdk.resetOne
  split
  · exact h
  · split
    · exact h
    · rename_i hforwarding
      have hne : p ≠ pi := by
        rintro rfl
        exact hforwarding (by rw [h.portIsForwarding]; decide)
      split
      · exact h.setPort hne _
      · exact h

theorem Held.resetPort (h : Held s p q) : Held (resetPort g d pid s) p q := by
  unfold Dpdk.resetPort
  split
  · exact h
  · split
    · exact h
    · exact List.foldlRecOn (motive := fun s => Held s p q) s.attached _ h
        fun _ h' _ _ => h'.resetOne

/-- A device with a port that is started or in between is not detached. -/
theorem Held.detachDevice (hq : q.Busy) (h : Held s p q) : Held (detachDevice d pi s) p q := by
  unfold Dpdk.detachDevice
  split
  · exact h
  · rename_i hall
    have hne : ∀ a ∈ (siblings d s pi).filter d.released, p ≠ a := by
      rintro a ha rfl
      apply hall
      refine List.any_eq_true.mpr ⟨p, List.mem_of_mem_filter ha, ?_⟩
      rw [h.port, Bool.and_eq_true, bne_iff_ne, bne_iff_ne]
      exact ⟨hq.ne_closed, hq.ne_stopped⟩
    have h' : Held (((siblings d s pi).filter d.released).foldl Ports.release s) p q :=
      List.foldlRecOn (motive := fun s => Held s p q) _ _ h fun _ h' a ha => h'.release (hne a ha)
    dsimp only
    split
    · exact h'
    · exact h'.removeInvalidPorts

theorem Held.detachPortDevice (hq : q.Busy) (h : Held s p q) :
    Held (detachPortDevice d pi s) p q := by
  unfold Dpdk.detachPortDevice
  split
  · exact h
  · split
    · exact h
    · split
      · exact h
      · exact h.detachDevice hq

theorem Held.launched (h : Held s p q) (b : Bool) : Held { s with launched := b } p q :=
  ⟨h.attached, h.forwarding, h.port⟩

theorem Held.takeAway (hq : q.Busy) (h : Held s p q) : Held (takeAway g d pid s) p q := by
  unfold Dpdk.takeAway
  dsimp only
  split
  · exact h.stopPort
  · exact h.stopPort.closePort.detachDevice hq

theorem Held.pmdTestExit (h : Held s p q) : Held (pmdTestExit g d s) p q := by
  unfold Dpdk.pmdTestExit
  dsimp only
  apply List.foldlRecOn (motive := fun s => Held s p q)
  · apply List.foldlRecOn (motive := fun s => Held s p q)
    · exact h.launched false
    · exact fun _ h' _ _ => h'.stopPort
  · exact fun _ h' _ _ => h'.closePort

end Held

/-! ## Runs -/

/-- The ports at the end of a call, which may be the end of the process. -/
def ended : Except Ports Ports → Ports
  | .error s => s
  | .ok s => s

section Runs

variable {g : PortSettings} {d : Driver} {s : Ports} {p : ℕ} {q : Port}

/-- What every call keeps, a run keeps. -/
theorem run_keeps {P : Ports → Prop}
    (h : ∀ (s : Ports) (call : PortCall), P s → P (ended (call.step g s)))
    (calls : List PortCall) : ∀ s, P s → P (run g calls s) := by
  induction calls with
  | nil => exact fun s hs => hs
  | cons call calls ih =>
      intro s hs
      have hended := h s call hs
      unfold run
      split
      · rename_i s' hstep
        rw [hstep] at hended
        exact hended
      · rename_i s' hstep
        rw [hstep] at hended
        exact ih s' hended

/-- `start_packet_forwarding` leaves everything as it is, or launches when all ports are
started. -/
theorem startPacketForwarding_cases (g : PortSettings) (s : Ports) :
    ended (startPacketForwarding g s) = s ∨
      allPortsStarted s = true ∧
        ended (startPacketForwarding g s) = { s with launched := true } := by
  unfold startPacketForwarding
  split
  · exact .inl rfl
  · split
    · exact .inl rfl
    · rename_i hall
      split
      · exact .inl rfl
      · rw [Bool.not_eq_false] at hall
        exact .inr ⟨hall, rfl⟩

/-- So does the callback for a removed port, apart from what it takes away. -/
theorem rmvPortCallback_cases (g : PortSettings) (d : Driver) (portId : ℕ) (s : Ports) :
    rmvPortCallback g d portId s = .ok s ∨
      rmvPortCallback g d portId s = .ok (takeAway g d portId s) ∨
        rmvPortCallback g d portId s =
          startPacketForwarding g (takeAway g d portId (stopPacketForwarding s)) := by
  unfold rmvPortCallback
  split
  · exact .inl rfl
  · split
    · exact .inr (.inr rfl)
    · exact .inr (.inl rfl)

theorem Held.startPacketForwarding (h : Held s p q) :
    Held (ended (startPacketForwarding g s)) p q := by
  rcases startPacketForwarding_cases g s with heq | ⟨-, heq⟩
  · rw [heq]
    exact h
  · rw [heq]
    exact h.launched true

/-- No call reaches a held port. -/
theorem Held.step (hq : q.Busy) (call : PortCall) (h : Held s p q) :
    Held (ended (call.step g s)) p q := by
  cases call with
  | startPort pid d => exact h.startPort hq
  | stopPort pid d => exact h.stopPort
  | closePort pid d => exact h.closePort
  | resetPort pid d => exact h.resetPort
  | detachPortDevice portId d => exact h.detachPortDevice hq
  | startPacketForwarding => exact h.startPacketForwarding
  | stopPacketForwarding => exact h.launched false
  | rmvPortCallback portId d =>
      show Held (ended (Dpdk.rmvPortCallback g d portId s)) p q
      rcases rmvPortCallback_cases g d portId s with heq | heq | heq <;> rw [heq]
      · exact h
      · exact h.takeAway hq
      · exact ((h.launched false).takeAway hq).startPacketForwarding
  | pmdTestExit d => exact h.pmdTestExit

end Runs

/-- **A forwarding port that is started, or left in between, is out of reach.**  Whatever is
called afterwards, in any order and with any answers of the driver, it stays attached, in the
forwarding configuration and exactly as it is. -/
theorem heldPort_run (g : PortSettings) (calls : List PortCall) (s : Ports) (p : ℕ)
    (hattached : p ∈ s.attached) (hforwarding : p ∈ s.fwdPortsIds)
    (hbusy : (s.port p).status = .started ∨ (s.port p).status = .handling) :
    p ∈ (run g calls s).attached ∧ p ∈ (run g calls s).fwdPortsIds ∧
      (run g calls s).port p = s.port p := by
  have h := run_keeps (g := g) (P := fun s' => Held s' p (s.port p))
    (fun s' call h => h.step hbusy call) calls s ⟨hattached, hforwarding, rfl⟩
  exact ⟨h.attached, h.forwarding, h.port⟩

/-- One forwarding port in a state. -/
def onePort (status : PortStatus) (launched : Bool) : Ports where
  attached := [0]
  port := fun _ => ⟨status, false, false, false, 0⟩
  portsIds := [0]
  fwdPortsIds := [0]
  launched := launched

/-- Unplugged, at the exit of the process and in between, a started port is as it was. -/
theorem heldPort_run_onePort :
    0 ∈ (run plainSettings [.rmvPortCallback 0 willingDriver, .stopPort RTE_PORT_ALL willingDriver,
        .pmdTestExit willingDriver] (onePort .started true)).attached ∧
      0 ∈ (run plainSettings [.rmvPortCallback 0 willingDriver,
        .stopPort RTE_PORT_ALL willingDriver, .pmdTestExit willingDriver]
        (onePort .started true)).fwdPortsIds ∧
      (run plainSettings [.rmvPortCallback 0 willingDriver, .stopPort RTE_PORT_ALL willingDriver,
        .pmdTestExit willingDriver] (onePort .started true)).port 0 =
          (onePort .started true).port 0 :=
  heldPort_run plainSettings _ (onePort .started true) 0 List.mem_cons_self List.mem_cons_self
    (.inl rfl)

/-! ## A port left in between -/

section Launched

variable {g : PortSettings} {d : Driver} {s : Ports} {pid pi : ℕ}

/-- Starting ports launches nothing… -/
theorem startPort_launched : (startPort g d pid s).2.launched = s.launched :=
  startPort_keeps (P := fun s' => s'.launched = s.launched) (fun _ _ _ h _ => h) s rfl

theorem foldl_launched {f : Ports → ℕ → Ports} (h : ∀ s pi, (f s pi).launched = s.launched)
    (l : List ℕ) (s : Ports) : (l.foldl f s).launched = s.launched :=
  List.foldlRecOn (motive := fun s' => s'.launched = s.launched) l f rfl
    fun s' h' pi _ => (h s' pi).trans h'

/-- …and neither does taking them down. -/
theorem stopPort_launched : (stopPort g d pid s).launched = s.launched := by
  unfold stopPort
  split
  · rfl
  · apply foldl_launched
    intro s pi
    unfold stopOne
    split_ifs <;> rfl

theorem closePort_launched : (closePort g d pid s).launched = s.launched := by
  unfold closePort
  split
  · rfl
  · apply foldl_launched
    intro s pi
    unfold closeOne
    split_ifs <;> rfl

theorem resetPort_launched : (resetPort g d pid s).launched = s.launched := by
  unfold resetPort
  split_ifs
  · rfl
  · rfl
  · apply foldl_launched
    intro s pi
    unfold resetOne
    split_ifs <;> rfl

theorem detachDevice_launched : (detachDevice d pi s).launched = s.launched := by
  have hreleased : (((siblings d s pi).filter d.released).foldl Ports.release s).launched =
      s.launched :=
    foldl_launched (f := Ports.release) (fun _ _ => rfl) _ _
  unfold detachDevice
  dsimp only
  split_ifs
  · rfl
  · exact hreleased
  · exact hreleased

theorem detachPortDevice_launched : (detachPortDevice d pi s).launched = s.launched := by
  unfold detachPortDevice
  split_ifs
  · rfl
  · rfl
  · rfl
  · exact detachDevice_launched

theorem takeAway_launched : (takeAway g d pid s).launched = s.launched := by
  unfold takeAway
  dsimp only
  split
  · exact stopPort_launched
  · rw [detachDevice_launched, closePort_launched, stopPort_launched]

theorem pmdTestExit_launched : (pmdTestExit g d s).launched = false := by
  unfold pmdTestExit
  dsimp only
  rw [foldl_launched fun _ _ => closePort_launched, foldl_launched fun _ _ => stopPort_launched]
  rfl

/-- The forwarding is not running, and the port `p` keeps it that way. -/
structure Stuck (s : Ports) (p : ℕ) (q : Port) : Prop where
  held : Held s p q
  down : s.launched = false

/-- With a port left in between not all ports are started. -/
theorem Held.not_allPortsStarted {p : ℕ} {q : Port} (h : Held s p q) (hq : q.status = .handling)
    (hmember : q.memberFlag = false) : allPortsStarted s = false := by
  rw [← Bool.not_eq_true]
  intro hall
  unfold allPortsStarted at hall
  rw [List.all_eq_true] at hall
  have hp := hall p h.attached
  rw [h.port, hq, hmember] at hp
  cases hp

theorem Stuck.startPacketForwarding {p : ℕ} {q : Port} (h : Stuck s p q)
    (hq : q.status = .handling) (hmember : q.memberFlag = false) :
    (ended (startPacketForwarding g s)).launched = false := by
  rcases startPacketForwarding_cases g s with heq | ⟨hall, -⟩
  · rw [heq]
    exact h.down
  · rw [h.held.not_allPortsStarted hq hmember] at hall
    cases hall

/-- No call launches the forwarding past a port left in between. -/
theorem Stuck.step {p : ℕ} {q : Port} (hq : q.status = .handling) (hmember : q.memberFlag = false)
    (call : PortCall) (h : Stuck s p q) : Stuck (ended (call.step g s)) p q := by
  refine ⟨h.held.step (.inr hq) call, ?_⟩
  cases call with
  | startPort pid d => exact startPort_launched.trans h.down
  | stopPort pid d => exact stopPort_launched.trans h.down
  | closePort pid d => exact closePort_launched.trans h.down
  | resetPort pid d => exact resetPort_launched.trans h.down
  | detachPortDevice portId d => exact detachPortDevice_launched.trans h.down
  | startPacketForwarding => exact h.startPacketForwarding hq hmember
  | stopPacketForwarding => rfl
  | rmvPortCallback portId d =>
      show (ended (Dpdk.rmvPortCallback g d portId s)).launched = false
      rcases rmvPortCallback_cases g d portId s with heq | heq | heq <;> rw [heq]
      · exact h.down
      · exact takeAway_launched.trans h.down
      · have haway : Stuck (takeAway g d portId (Dpdk.stopPacketForwarding s)) p q :=
          ⟨(h.held.launched false).takeAway (.inr hq), takeAway_launched⟩
        exact haway.startPacketForwarding hq hmember
  | pmdTestExit d => exact pmdTestExit_launched

end Launched

/-- **One port left in between keeps the forwarding down for good**: with a forwarding port in
`RTE_PORT_HANDLING` that is no bonding member, no run of calls launches the forwarding. -/
theorem stuckPort_never_launches (g : PortSettings) (calls : List PortCall) (s : Ports) (p : ℕ)
    (hattached : p ∈ s.attached) (hforwarding : p ∈ s.fwdPortsIds)
    (hstatus : (s.port p).status = .handling) (hmember : (s.port p).memberFlag = false)
    (hdown : s.launched = false) : (run g calls s).launched = false := by
  have h := run_keeps (g := g) (P := fun s' => Stuck s' p (s.port p))
    (fun s' call h => h.step hstatus hmember call) calls s ⟨⟨hattached, hforwarding, rfl⟩, hdown⟩
  exact h.down

/-- Stopping, resetting, unplugging and starting all ports again do not help. -/
theorem stuckPort_never_launches_onePort :
    (run plainSettings [.stopPort RTE_PORT_ALL willingDriver, .resetPort 0 willingDriver,
        .rmvPortCallback 0 willingDriver, .startPort RTE_PORT_ALL willingDriver,
        .startPacketForwarding] (onePort .handling false)).launched = false :=
  stuckPort_never_launches plainSettings _ (onePort .handling false) 0 List.mem_cons_self
    List.mem_cons_self rfl rfl rfl

end UdxFastpath.Dpdk
