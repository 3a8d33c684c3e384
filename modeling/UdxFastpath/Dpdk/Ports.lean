import UdxFastpath.Dpdk.SharedRxq
import UdxFastpath.Foundation.EarlyExit
import Mathlib.Logic.Function.Basic

/-!
# Ports and what is done with them

The part of `lib/core/dpdk/dpdk.cpp` that starts, stops, closes, resets and detaches
ports, launches the forwarding and takes it down again: `start_port`, `stop_port`,
`close_port`, `reset_port`, `detach_port_device`, `start_packet_forwarding`,
`stop_packet_forwarding`, `rmv_port_callback` and `pmd_test_exit`.

What the driver answers is not in this repository.  A call takes all answers it may get
as a `Driver`, a function for each kind of request; no call makes the same request
twice.  A port the driver has released, on `rte_eth_dev_close` or `rte_dev_remove`, is
no longer among the attached ones, and the event it raises then,
`RTE_ETH_EVENT_DESTROY`, has `eth_event_callback` mark the port as closed.

* A port is **chosen** by a call for its own id or for `RTE_PORT_ALL`.
* `attemptPort` is what `start_port` does with a port up to the start of the device;
  its error is the port as the `return -1` of the source leaves it.
* `PortCall` lists the calls; `run` makes them in order, until one ends the process.
-/

namespace UdxFastpath.Dpdk

/-! ## State -/

/-- `RTE_PORT_*`. -/
inductive PortStatus
  | stopped
  | started
  | closed
  | handling
  deriving DecidableEq, Repr

/-- What is kept in a `struct rte_port` about its way through the states. -/
structure Port where
  status : PortStatus
  memberFlag : Bool
  needReconfig : Bool
  needReconfigQueues : Bool
  socketId : ℕ
  deriving DecidableEq, Repr

/-- The globals: the ports `RTE_ETH_FOREACH_DEV` goes through, `ports`, the used prefixes of
`ports_ids` and `fwd_ports_ids`, and whether the forwarding has been launched. -/
structure Ports where
  attached : List ℕ
  port : ℕ → Port
  portsIds : List ℕ
  fwdPortsIds : List ℕ
  launched : Bool

/-- The settings the calls read, all of them fixed before the first call. -/
structure PortSettings where
  nbRxq : ℕ
  nbTxq : ℕ
  nbHairpinq : ℕ
  hairpinMode : ℕ
  flowIsolateAll : Bool
  numaSupport : Bool
  rxringNuma : ℕ → ℕ
  isProcPrimary : Bool
  nbFwdLcores : ℕ
  portTopology : PortTopology
  procId : ℕ
  numProcs : ℕ
  sharing : Sharing

/-- What a driver answers during one call: return codes, by port, by port and queue, or by port
and peer; the peers of a port on either side, where the error `e` is the return code `-(e + 1)`;
whether there is a memory pool on a socket; the ports of the device a port is on; and which of
them are released. -/
structure Driver where
  flowIsolate : ℕ → ℤ
  hairpinCapabilityGet : ℕ → ℤ
  devConfigure : ℕ → ℤ
  devConfGet : ℕ → ℤ
  txQueueSetup : ℕ → ℕ → ℤ
  rxQueueSetup : ℕ → ℕ → ℤ
  txHairpinQueueSetup : ℕ → ℕ → ℤ
  rxHairpinQueueSetup : ℕ → ℕ → ℤ
  mbufPoolFind : ℕ → Bool
  devStart : ℕ → ℤ
  devStop : ℕ → ℤ
  hairpinTxPeers : ℕ → Except ℕ (List ℕ)
  hairpinRxPeers : ℕ → Except ℕ (List ℕ)
  hairpinBind : ℕ → ℕ → ℤ
  devClose : ℕ → Bool
  devReset : ℕ → ℤ
  devInfoGet : ℕ → ℤ
  devicePorts : ℕ → List ℕ
  devRemove : ℕ → ℤ
  released : ℕ → Bool

/-- `RTE_PORT_ALL`. -/
def RTE_PORT_ALL : ℕ := 65535

/-- `NUMA_NO_CONFIG`. -/
def NUMA_NO_CONFIG : ℕ := 255

/-- A call for `pid` is about the port `pi`. -/
def Chosen (pid pi : ℕ) : Prop := pid = pi ∨ pid = RTE_PORT_ALL

instance (pid pi : ℕ) : Decidable (Chosen pid pi) :=
  inferInstanceAs (Decidable (pid = pi ∨ pid = RTE_PORT_ALL))

/-- One port of the table is overwritten. -/
def Ports.setPort (s : Ports) (pi : ℕ) (p : Port) : Ports :=
  { s with port := Function.update s.port pi p }

/-! ## What is asked about ports -/

/-- `port_id_is_invalid`. -/
def portIdIsInvalid (s : Ports) (portId : ℕ) : Bool :=
  portId != RTE_PORT_ALL && !s.attached.contains portId

/-- `port_is_forwarding`. -/
def portIsForwarding (s : Ports) (portId : ℕ) : ℤ :=
  if portIdIsInvalid s portId then -1 else if portId ∈ s.fwdPortsIds then 1 else 0

/-- `port_is_started`. -/
def portIsStarted (s : Ports) (portId : ℕ) : Bool :=
  !portIdIsInvalid s portId && (s.port portId).status == .started

/-- `port_is_stopped`. -/
def portIsStopped (s : Ports) (portId : ℕ) : Bool :=
  (s.port portId).status == .stopped || (s.port portId).memberFlag

/-- `all_ports_stopped`. -/
def allPortsStopped (s : Ports) : Bool := s.attached.all (portIsStopped s)

/-- `all_ports_started`. -/
def allPortsStarted (s : Ports) : Bool :=
  s.attached.all fun pi => (s.port pi).status == .started || (s.port pi).memberFlag

/-! ## Starting -/

section Start

variable (g : PortSettings) (d : Driver)

/-- What every reported failure does first: back to stopped, if the port is in between. -/
def Port.setBackToStopped (p : Port) : Port :=
  if p.status = .handling then { p with status := .stopped } else p

/-- `eth_dev_configure_mp`. -/
def ethDevConfigureMp (pi : ℕ) : ℤ := if g.isProcPrimary then d.devConfigure pi else 0

/-- `eth_dev_start_mp`. -/
def ethDevStartMp (pi : ℕ) : ℤ := if g.isProcPrimary then d.devStart pi else 0

/-- `eth_dev_stop_mp`. -/
def ethDevStopMp (pi : ℕ) : ℤ := if g.isProcPrimary then d.devStop pi else 0

/-- The part of `start_port` under `need_reconfig`. -/
def reconfigurePort (pi : ℕ) (p : Port) : Except Port Port :=
  if p.needReconfig = false then .ok p
  else
    let p := { p with needReconfig := false }
    if g.flowIsolateAll = true ∧ d.flowIsolate pi ≠ 0 then .error p
    else if 0 < g.nbHairpinq ∧ d.hairpinCapabilityGet pi ≠ 0 then .error p
    else if ethDevConfigureMp g d pi ≠ 0 then
      .error { p.setBackToStopped with needReconfig := true }
    else if d.devConfGet pi ≠ 0 then .error p
    else .ok p

/-- What a queue that cannot be set up does to its port. -/
def Port.queueFailed (p : Port) : Port :=
  { p.setBackToStopped with needReconfigQueues := true }

/-- A loop over queues to set up. -/
def setupQueueLoop (setup : ℕ → ℤ) (queues : List ℕ) (p : Port) : Except Port Port :=
  queues.foldlM (fun p qi => if setup qi = 0 then .ok p else .error p.queueFailed) p

/-- The socket whose memory pool a receive queue takes. -/
def rxSocket (pi socketId : ℕ) : ℕ :=
  if g.numaSupport = true ∧ g.rxringNuma pi ≠ NUMA_NO_CONFIG then g.rxringNuma pi else socketId

/-- The loop over receive queues, which also looks for the memory pool of each. -/
def setupRxQueueLoop (pi : ℕ) (queues : List ℕ) (p : Port) : Except Port Port :=
  queues.foldlM (fun p qi =>
    if d.mbufPoolFind (rxSocket g pi p.socketId) = false then .error p
    else if d.rxQueueSetup pi qi = 0 then .ok p
    else .error p.queueFailed) p

/-- The part of `start_port` under `need_reconfig_queues`; its last two loops are
`setup_hairpin_queues`. -/
def reconfigureQueues (pi : ℕ) (p : Port) : Except Port Port :=
  if p.needReconfigQueues = false ∨ g.isProcPrimary = false then .ok p
  else do
    let p ← setupQueueLoop (d.txQueueSetup pi) (List.range g.nbTxq)
      { p with needReconfigQueues := false }
    let p ← setupRxQueueLoop g d pi (List.range g.nbRxq) p
    let p ← setupQueueLoop (d.txHairpinQueueSetup pi) (List.range' g.nbTxq g.nbHairpinq) p
    setupQueueLoop (d.rxHairpinQueueSetup pi) (List.range' g.nbRxq g.nbHairpinq) p

/-- What `start_port` does with a stopped port before it starts the device. -/
def attemptPort (pi : ℕ) (p : Port) : Except Port Port := do
  let p ← reconfigurePort g d pi { p with status := .handling }
  reconfigureQueues g d pi p

/-- The start of the device. -/
def startDevice (pi : ℕ) (p : Port) : Port :=
  if ethDevStartMp g d pi < 0 then p.setBackToStopped
  else if p.status = .handling then { p with status := .started } else p

/-- A round of the loop of `start_port`, with the list `pl` of ports it has started. -/
def startOne (pid : ℕ) (r : Ports × List ℕ) (pi : ℕ) : Except Ports (Ports × List ℕ) :=
  if ¬ Chosen pid pi then .ok r
  else if (r.1.port pi).status ≠ .stopped then .ok r
  else
    match attemptPort g d pi (r.1.port pi) with
    | .error p => .error (r.1.setPort pi p)
    | .ok p =>
        .ok (r.1.setPort pi (startDevice g d pi p),
          if ethDevStartMp g d pi < 0 then r.2 else r.2 ++ [pi])

/-- The inner loop over the peers of a port. -/
def bindPeers (s : Ports) (bind : ℕ → ℤ) : Except ℕ (List ℕ) → Except ℤ Unit
  | .error e => .error (-(e + 1))
  | .ok peerPl =>
      peerPl.forM fun peer =>
        if portIsStarted s peer = true ∧ bind peer < 0 then .error (-1) else .ok ()

/-- The loop of `start_port` that binds the hairpins of the ports it has started. -/
def bindHairpins (s : Ports) (pl : List ℕ) : Except ℤ Unit :=
  pl.forM fun pi => do
    bindPeers s (fun peer => d.hairpinBind pi peer) (d.hairpinTxPeers pi)
    bindPeers s (fun peer => d.hairpinBind peer pi) (d.hairpinRxPeers pi)

/-- `start_port`: the return value and the ports. -/
def startPort (pid : ℕ) (s : Ports) : ℤ × Ports :=
  if portIdIsInvalid s pid then (0, s)
  else
    match s.attached.foldlM (startOne g d pid) (s, []) with
    | .error s => (-1, s)
    | .ok (s, pl) =>
        if g.hairpinMode % 16 = 0 then (0, s)
        else
          match bindHairpins d s pl with
          | .error rc => (rc, s)
          | .ok () => (0, s)

end Start

/-! ## Stopping, closing, resetting, detaching -/

section Down

variable (g : PortSettings) (d : Driver)

/-- A round of the loop of `stop_port`. -/
def stopOne (pid : ℕ) (s : Ports) (pi : ℕ) : Ports :=
  if ¬ Chosen pid pi then s
  else if portIsForwarding s pi ≠ 0 then s
  else if (s.port pi).status ≠ .started then s
  else
    let p := s.port pi
    if g.hairpinMode % 16 ≠ 0 ∧ (d.hairpinRxPeers pi).isOk = false then
      s.setPort pi { p with status := .handling }
    else if ethDevStopMp g d pi ≠ 0 then s.setPort pi { p with status := .started }
    else s.setPort pi { p with status := .stopped }

/-- `stop_port`. -/
def stopPort (pid : ℕ) (s : Ports) : Ports :=
  if portIdIsInvalid s pid then s else s.attached.foldl (stopOne g d pid) s

/-- The driver releases a port and `eth_event_callback` is told. -/
def Ports.release (s : Ports) (pi : ℕ) : Ports :=
  { s.setPort pi { s.port pi with status := .closed } with
    attached := s.attached.filter (· ≠ pi) }

/-- `remove_invalid_ports`. -/
def removeInvalidPorts (s : Ports) : Ports :=
  { s with
    portsIds := s.portsIds.filter fun pi => !portIdIsInvalid s pi
    fwdPortsIds := s.fwdPortsIds.filter fun pi => !portIdIsInvalid s pi }

/-- A round of the loop of `close_port`. -/
def closeOne (pid : ℕ) (s : Ports) (pi : ℕ) : Ports :=
  if ¬ Chosen pid pi then s
  else if portIsForwarding s pi ≠ 0 then s
  else if (s.port pi).status = .closed then s
  else if g.isProcPrimary = true ∧ d.devClose pi = true then s.release pi
  else s

/-- `close_port`. -/
def closePort (pid : ℕ) (s : Ports) : Ports :=
  if portIdIsInvalid s pid then s
  else removeInvalidPorts (s.attached.foldl (closeOne g d pid) s)

/-- A round of the loop of `reset_port`. -/
def resetOne (pid : ℕ) (s : Ports) (pi : ℕ) : Ports :=
  if ¬ Chosen pid pi then s
  else if portIsForwarding s pi ≠ 0 then s
  else if g.isProcPrimary = true ∧ d.devReset pi = 0 then
    s.setPort pi { s.port pi with needReconfig := true, needReconfigQueues := true }
  else s

/-- `reset_port`. -/
def resetPort (pid : ℕ) (s : Ports) : Ports :=
  if portIdIsInvalid s pid then s
  else if (pid = RTE_PORT_ALL ∧ allPortsStopped s = false) ∨
      (pid ≠ RTE_PORT_ALL ∧ portIsStopped s pid = false) then s
  else s.attached.foldl (resetOne g d pid) s

/-- The ports of the device that the port `pi` is on. -/
def siblings (s : Ports) (pi : ℕ) : List ℕ := (d.devicePorts pi).filter (· ∈ s.attached)

/-- `detach_device`, for the device of the port `pi`. -/
def detachDevice (pi : ℕ) (s : Ports) : Ports :=
  if (siblings d s pi).any fun sibling =>
      (s.port sibling).status != .closed && (s.port sibling).status != .stopped then s
  else
    let s' := ((siblings d s pi).filter d.released).foldl Ports.release s
    if d.devRemove pi < 0 then s' else removeInvalidPorts s'

/-- `detach_port_device`. -/
def detachPortDevice (pi : ℕ) (s : Ports) : Ports :=
  if portIdIsInvalid s pi then s
  else if (s.port pi).status ≠ .closed ∧ (s.port pi).status ≠ .stopped then s
  else if d.devInfoGet pi ≠ 0 then s
  else detachDevice d pi s

end Down

/-! ## Forwarding -/

section Forwarding

variable (g : PortSettings) (d : Driver)

/-- The globals `fwd_config_setup` reads. -/
def Ports.fwdGlobals (s : Ports) : FwdGlobals :=
  { fwdPortsIds := s.fwdPortsIds
    nbPorts := s.portsIds.length
    nbRxq := g.nbRxq
    nbTxq := g.nbTxq
    nbFwdLcores := g.nbFwdLcores
    portTopology := g.portTopology
    procId := g.procId
    numProcs := g.numProcs }

/-- `start_packet_forwarding`; its error is `rte_exit`. -/
def startPacketForwarding (s : Ports) : Except Ports Ports :=
  if g.nbRxq = 0 ∨ g.nbTxq = 0 then .error s
  else if allPortsStarted s = false then .ok s
  else if pktFwdSharedRxqCheck g.sharing (fwdConfigSetup (s.fwdGlobals g)) = false then .ok s
  else .ok { s with launched := true }

/-- `stop_packet_forwarding`. -/
def stopPacketForwarding (s : Ports) : Ports := { s with launched := false }

/-- What `rmv_port_callback` does between taking the forwarding down and launching it again. -/
def takeAway (portId : ℕ) (s : Ports) : Ports :=
  let s := stopPort g d portId s
  if d.devInfoGet portId ≠ 0 then s else detachDevice d portId (closePort g d portId s)

/-- `rmv_port_callback`. -/
def rmvPortCallback (portId : ℕ) (s : Ports) : Except Ports Ports :=
  if portId ∉ s.attached then .ok s
  else if portIsForwarding s portId ≠ 0 then
    startPacketForwarding g (takeAway g d portId (stopPacketForwarding s))
  else .ok (takeAway g d portId s)

/-- `pmd_test_exit`. -/
def pmdTestExit (s : Ports) : Ports :=
  let s := stopPacketForwarding s
  let s := s.attached.foldl (fun s ptId => stopPort g d ptId s) s
  s.attached.foldl (fun s ptId => closePort g d ptId s) s

end Forwarding

/-! ## Runs -/

/-- The calls, with the answers of the driver. -/
inductive PortCall
  | startPort (pid : ℕ) (d : Driver)
  | stopPort (pid : ℕ) (d : Driver)
  | closePort (pid : ℕ) (d : Driver)
  | resetPort (pid : ℕ) (d : Driver)
  | detachPortDevice (portId : ℕ) (d : Driver)
  | startPacketForwarding
  | stopPacketForwarding
  | rmvPortCallback (portId : ℕ) (d : Driver)
  | pmdTestExit (d : Driver)

/-- One call; an error is the end of the process. -/
def PortCall.step (g : PortSettings) (s : Ports) : PortCall → Except Ports Ports
  | .startPort pid d => .ok (Dpdk.startPort g d pid s).2
  | .stopPort pid d => .ok (Dpdk.stopPort g d pid s)
  | .closePort pid d => .ok (Dpdk.closePort g d pid s)
  | .resetPort pid d => .ok (Dpdk.resetPort g d pid s)
  | .detachPortDevice portId d => .ok (Dpdk.detachPortDevice d portId s)
  | .startPacketForwarding => Dpdk.startPacketForwarding g s
  | .stopPacketForwarding => .ok (Dpdk.stopPacketForwarding s)
  | .rmvPortCallback portId d => Dpdk.rmvPortCallback g d portId s
  | .pmdTestExit d => .ok (Dpdk.pmdTestExit g d s)

/-- The ports a run leaves behind, at its end or where the process ended. -/
def run (g : PortSettings) : List PortCall → Ports → Ports
  | [], s => s
  | call :: calls, s =>
      match call.step g s with
      | .error s' => s'
      | .ok s' => run g calls s'

/-! ## Start-up -/

/-- The ports as `init_port`, `set_def_fwd_config` and `init_config` leave them. -/
def initialPorts (ids : List ℕ) (socketId : ℕ → ℕ) : Ports :=
  { attached := ids
    port := fun pi => ⟨.stopped, false, true, true, socketId pi⟩
    portsIds := ids
    fwdPortsIds := ids
    launched := false }

/-- The part of `start_dpdk_datapath` from `start_port` to `start_packet_forwarding`; an error
is `rte_exit`. -/
def startUp (g : PortSettings) (d : Driver) (s : Ports) : Except Ports Ports :=
  let r := startPort g d RTE_PORT_ALL s
  if r.1 ≠ 0 then .error r.2 else startPacketForwarding g r.2

/-- Two queues on every port and two lcores, without hairpins and without sharing. -/
def plainSettings : PortSettings where
  nbRxq := 2
  nbTxq := 2
  nbHairpinq := 0
  hairpinMode := 0
  flowIsolateAll := false
  numaSupport := true
  rxringNuma := fun _ => NUMA_NO_CONFIG
  isProcPrimary := true
  nbFwdLcores := 2
  portTopology := .loop
  procId := 0
  numProcs := 1
  sharing := ⟨0, fun _ => ⟨false, 0, 0, 0⟩⟩

/-- A driver that goes along with everything. -/
def willingDriver : Driver where
  flowIsolate := fun _ => 0
  hairpinCapabilityGet := fun _ => 0
  devConfigure := fun _ => 0
  devConfGet := fun _ => 0
  txQueueSetup := fun _ _ => 0
  rxQueueSetup := fun _ _ => 0
  txHairpinQueueSetup := fun _ _ => 0
  rxHairpinQueueSetup := fun _ _ => 0
  mbufPoolFind := fun _ => true
  devStart := fun _ => 0
  devStop := fun _ => 0
  hairpinTxPeers := fun _ => .ok []
  hairpinRxPeers := fun _ => .ok []
  hairpinBind := fun _ _ => 0
  devClose := fun _ => true
  devReset := fun _ => 0
  devInfoGet := fun _ => 0
  devicePorts := fun pi => [pi]
  devRemove := fun _ => 0
  released := fun _ => true

end UdxFastpath.Dpdk
