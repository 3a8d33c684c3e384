import UdxFastpath.Core.Loader
import UdxFastpath.Foundation.Words
import Mathlib.Algebra.Order.Ring.Nat

/-!
# The command line for DPDK

`count_args` writes the section `dpdk-datapath-params` into one string and
`create_eal_params` cuts it into words again, after `start_dpdk_datapath` has counted
them.  What stands in the string is written with a blank behind every part, so the words
are those of the parts (`countArgs_eq`).

Two things go wrong on the way.  The key under which the options for several processes
are looked up lacks a letter, and the number of cores is that of the members of the
logical ports instead of that of their queues.  `reflectsConfiguration_iff` says when
neither matters.
-/

namespace UdxFastpath.Dpdk

open ByteStrings Words

/-! ## Keys -/

def LCORE_RELATED_OPTIONS_TAG : List UInt8 := ascii "lcore-related-options"
def MEMORY_REALTED_OPTIONS_TAG : List UInt8 := ascii "memory-related-options"
def DEVICE_RELATED_OPTIONS_TAG : List UInt8 := ascii "device-related-options"
def MULTI_PROCESS_RELATED_OPTIONS_TAG : List UInt8 := ascii "multiprocessing-related-option"
def DEBUGGIN_RELATED_OPTIONS_TAG : List UInt8 := ascii "debugging-options"
def QUEUES_AND_MBUF_OPTIONS_TAG : List UInt8 := ascii "queues-and-mbuf-options"
def MP_ALLOC_TAG : List UInt8 := ascii "mp-alloc"
def MBUF_SIZE_TAG : List UInt8 := ascii "mbuf-size"
def TOTAL_NUM_MBUS_TAG : List UInt8 := ascii "total-num-mbufs"
def MBCACHE_TAG : List UInt8 := ascii "mbcache"
def MAX_PKT_LEN_TAG : List UInt8 := ascii "max-pkt-len"
def BURST_TAG : List UInt8 := ascii "burst"
def NUM_RX_TX_DESC_TAG : List UInt8 := ascii "num-rx-tx-descriptor"
def NB_CORES_TAG : List UInt8 := ascii "nb-cores"
def NB_PORTS_TAG : List UInt8 := ascii "nb-ports"
def LPORTS_TAG : List UInt8 := ascii "lports"
def RX_TX_QUEUE_INFO_TAG : List UInt8 := ascii "rx-tx-queues-info"
def MAIN_LCORE_TAG : List UInt8 := ascii "main-lcore"

/-- The key of the options for several processes, as the shipped template has it. -/
def multiprocessingKey : List UInt8 := ascii "multiprocessing-related-options"

/-- The keys of `dpdk-datapath-params` in the shipped template. -/
def templateKeys : List (List UInt8) :=
  [MAIN_LCORE_TAG, LCORE_RELATED_OPTIONS_TAG, MEMORY_REALTED_OPTIONS_TAG,
    DEVICE_RELATED_OPTIONS_TAG, multiprocessingKey, DEBUGGIN_RELATED_OPTIONS_TAG,
    QUEUES_AND_MBUF_OPTIONS_TAG, LPORTS_TAG]

/-! ## The string and its words -/

section Functions

variable (showDouble : Rat → List UInt8)

/-- `config[tag].asString()`. -/
def textAt (config : JsonValue) (tag : List UInt8) : Option (List UInt8) := do
  let v ← config.get tag
  v.asString showDouble

/-- One of the six options that are passed on if they are there: `"--tag=value "`. -/
def passOn (queues : JsonValue) (tag : List UInt8) : Option (List UInt8) := do
  if ← queues.isMember tag then
    let text ← textAt showDouble queues tag
    return ascii "--" ++ tag ++ ascii "=" ++ text ++ ascii " "
  else return []

/-- `--rxd` and `--txd`, for a positive number of descriptors. -/
def passDescriptors (queues : JsonValue) : Option (List UInt8) := do
  let v ← queues.get NUM_RX_TX_DESC_TAG
  let n ← v.asInt64
  if n > 0 then
    let text ← v.asString showDouble
    return ascii "--rxd=" ++ text ++ ascii " " ++ (ascii "--txd=" ++ text ++ ascii " ")
  else return []

/-- The loop over `lports`, with `num_ports` and `num_cores`. -/
def countLports : List JsonValue → ℕ × ℕ → ℕ × ℕ
  | [], counts => counts
  | lport :: rest, (numPorts, numCores) => countLports rest (numPorts + 1, numCores + lport.size)

/-- `count_args`; an accessor that does not fit throws. -/
def countArgs (config : JsonValue) : Option (List UInt8) := do
  let lcore ← textAt showDouble config LCORE_RELATED_OPTIONS_TAG
  let memory ← textAt showDouble config MEMORY_REALTED_OPTIONS_TAG
  let device ← textAt showDouble config DEVICE_RELATED_OPTIONS_TAG
  let multiProcess ← textAt showDouble config MULTI_PROCESS_RELATED_OPTIONS_TAG
  let debuggin ← textAt showDouble config DEBUGGIN_RELATED_OPTIONS_TAG
  let queues ← config.get QUEUES_AND_MBUF_OPTIONS_TAG
  let mpAlloc ← passOn showDouble queues MP_ALLOC_TAG
  let mbufSize ← passOn showDouble queues MBUF_SIZE_TAG
  let totalNumMbufs ← passOn showDouble queues TOTAL_NUM_MBUS_TAG
  let mbcache ← passOn showDouble queues MBCACHE_TAG
  let maxPktLen ← passOn showDouble queues MAX_PKT_LEN_TAG
  let burst ← passOn showDouble queues BURST_TAG
  let descriptors ← passDescriptors showDouble queues
  let lports ← config.get LPORTS_TAG
  let (numPorts, numCores) := countLports lports.children (0, 0)
  return ascii "./APPNAME " ++ lcore ++ ascii " " ++ memory ++ ascii " " ++ device ++ ascii " " ++
    multiProcess ++ ascii " " ++ debuggin ++ ascii " -- " ++
    (mpAlloc ++ mbufSize ++ totalNumMbufs ++ mbcache ++ maxPktLen ++ burst ++ descriptors) ++
    (ascii "--" ++ NB_CORES_TAG ++ ascii "=" ++ decimal numCores ++ ascii " ") ++
    (ascii "--" ++ NB_PORTS_TAG ++ ascii "=" ++ decimal numPorts ++ ascii " ") ++
    (ascii "--rxq=" ++ decimal numCores ++ ascii " ") ++
    (ascii "--txq=" ++ decimal numCores ++ ascii " ")

/-- `create_eal_params`: an array of `argc` entries, filled with the words; there is none when
they do not fit in. -/
def createEalParams (str : List UInt8) (argc : ℕ) : Option (List (Option (List UInt8))) :=
  let tokens := words isSpace str
  if tokens.length ≤ argc then
    some (tokens.map some ++ List.replicate (argc - tokens.length) none)
  else none

/-- The first lines of `start_dpdk_datapath`: `argc` and `argv`. -/
def ealArguments (config : JsonValue) : Option (ℕ × List (Option (List UInt8))) := do
  let args ← countArgs showDouble config
  let argc := (words isSpace args).length
  let argv ← createEalParams args argc
  return (argc, argv)

end Functions

/-! ## What the command line should be -/

/-- The options that are passed on if they are there, in the order of the command line. -/
def queueTags : List (List UInt8) :=
  [MP_ALLOC_TAG, MBUF_SIZE_TAG, TOTAL_NUM_MBUS_TAG, MBCACHE_TAG, MAX_PKT_LEN_TAG, BURST_TAG]

/-- The section on queues and buffers. -/
def queuesOf (config : JsonValue) : JsonValue :=
  (config.find QUEUES_AND_MBUF_OPTIONS_TAG).getD .null

/-- The logical ports. -/
def lportsOf (config : JsonValue) : List JsonValue :=
  ((config.find LPORTS_TAG).getD .null).children

/-- The number of queues of a logical port: the entries under `rx-tx-queues-info`. -/
def queueEntries (lport : JsonValue) : ℕ := ((lport.find RX_TX_QUEUE_INFO_TAG).getD .null).size

section Specification

variable (showDouble : Rat → List UInt8) (config : JsonValue)

/-- The text of a member; none is the empty text. -/
def optionText (tag : List UInt8) : List UInt8 :=
  ((config.find tag).bind (·.asString showDouble)).getD []

/-- `--tag=value` for each option that is there. -/
def passedOn (tags : List (List UInt8)) : List (List UInt8) :=
  tags.flatMap fun tag =>
    if (config.find tag).isSome then
      [ascii "--" ++ tag ++ ascii "=" ++ optionText showDouble config tag]
    else []

/-- `--rxd=n` and `--txd=n`. -/
def descriptorOptions : List (List UInt8) :=
  if 0 < ((config.find NUM_RX_TX_DESC_TAG).bind JsonValue.asInt64).getD 0 then
    [ascii "--rxd=" ++ optionText showDouble config NUM_RX_TX_DESC_TAG,
      ascii "--txd=" ++ optionText showDouble config NUM_RX_TX_DESC_TAG]
  else []

/-- The options that follow `--`, for the numbers of cores, ports and queues. -/
def testpmdOptions (nbCores nbPorts rxq txq : ℕ) : List (List UInt8) :=
  passedOn showDouble (queuesOf config) queueTags ++
    descriptorOptions showDouble (queuesOf config) ++
    [ascii "--nb-cores=" ++ decimal nbCores, ascii "--nb-ports=" ++ decimal nbPorts,
      ascii "--rxq=" ++ decimal rxq, ascii "--txq=" ++ decimal txq]

/-- The command line: the program, the words of the five options with those for several
processes as given, and what follows `--`. -/
def commandLine (multiProcess : List UInt8) (nbCores nbPorts rxq txq : ℕ) : List (List UInt8) :=
  [ascii "./APPNAME"] ++ words isSpace (optionText showDouble config LCORE_RELATED_OPTIONS_TAG) ++
    words isSpace (optionText showDouble config MEMORY_REALTED_OPTIONS_TAG) ++
    words isSpace (optionText showDouble config DEVICE_RELATED_OPTIONS_TAG) ++
    words isSpace multiProcess ++
    words isSpace (optionText showDouble config DEBUGGIN_RELATED_OPTIONS_TAG) ++ [ascii "--"] ++
    (testpmdOptions showDouble config nbCores nbPorts rxq txq).flatMap (words isSpace)

/-- **The command line reflects the configuration**: `argc` is its length, and it has the words
of all options, as many cores as there are queues and as many ports as there are logical
ports. -/
structure ReflectsConfiguration (argc : ℕ) (argv : List (Option (List UInt8))) : Prop where
  length : argc = argv.length
  words : ∃ rxq txq, argv = (commandLine showDouble config
    (optionText showDouble config multiprocessingKey)
    ((lportsOf config).map queueEntries).sum (lportsOf config).length rxq txq).map some

/-- The configuration is an object with keys of the template only. -/
def UsesTemplateKeys : Prop :=
  ∃ members, config = .object members ∧ ∀ m ∈ members, m.1 ∈ templateKeys

/-- The values are of the types `count_args` converts them from. -/
structure Convertible : Prop where
  texts : ∀ tag ∈ [LCORE_RELATED_OPTIONS_TAG, MEMORY_REALTED_OPTIONS_TAG,
    DEVICE_RELATED_OPTIONS_TAG, DEBUGGIN_RELATED_OPTIONS_TAG],
      ∀ v, config.find tag = some v → (v.asString showDouble).isSome
  queues : (queuesOf config).members.isSome
  options : ∀ tag ∈ queueTags, ∀ v, (queuesOf config).find tag = some v →
    (v.asString showDouble).isSome
  descriptors : ∀ v, (queuesOf config).find NUM_RX_TX_DESC_TAG = some v → v.asInt64.isSome

end Specification

/-! ## What it is -/

section Command

variable {showDouble : Rat → List UInt8} {config : JsonValue} {tag text : List UInt8}

theorem ascii_blank : ascii " " = [32] := by decide

/-- The text of a member is what can be converted. -/
theorem textAt_eq_some_iff :
    textAt showDouble config tag = some text ↔ config.members.isSome ∧
      (∀ v, config.find tag = some v → (v.asString showDouble).isSome) ∧
        optionText showDouble config tag = text := by
  cases hmembers : config.members with
  | none => simp [textAt, JsonValue.get, hmembers]
  | some members =>
      rw [textAt, JsonValue.get_eq hmembers, optionText]
      cases hfind : config.find tag with
      | none => simp [JsonValue.asString]
      | some v => cases htext : v.asString showDouble <;> simp [htext]

/-- An option is passed on with a blank behind it. -/
theorem passOn_eq_some_iff :
    passOn showDouble config tag = some text ↔ config.members.isSome ∧
      (∀ v, config.find tag = some v → (v.asString showDouble).isSome) ∧
        spaced 32 (passedOn showDouble config [tag]) = text := by
  cases hmembers : config.members with
  | none => simp [passOn, JsonValue.isMember, hmembers]
  | some members =>
      rw [passOn, JsonValue.isMember_eq hmembers, textAt, JsonValue.get_eq hmembers]
      cases hfind : config.find tag with
      | none => simp [passedOn, spaced, hfind]
      | some v =>
          cases htext : v.asString showDouble <;>
            simp [passedOn, optionText, spaced, hfind, htext, ascii_blank]

/-- A number can be written. -/
theorem asString_isSome_of_asInt64 {v : JsonValue} (h : v.asInt64.isSome) :
    (v.asString showDouble).isSome := by
  cases v with
  | int n => cases n <;> rfl
  | null => rfl
  | boolean b => rfl
  | real q => rfl
  | string bytes => cases h
  | array items => cases h
  | object members => cases h

theorem passDescriptors_eq_some_iff :
    passDescriptors showDouble config = some text ↔ config.members.isSome ∧
      (∀ v, config.find NUM_RX_TX_DESC_TAG = some v → v.asInt64.isSome) ∧
        spaced 32 (descriptorOptions showDouble config) = text := by
  cases hmembers : config.members with
  | none => simp [passDescriptors, JsonValue.get, hmembers]
  | some members =>
      rw [passDescriptors, JsonValue.get_eq hmembers, descriptorOptions, optionText]
      cases hfind : config.find NUM_RX_TX_DESC_TAG with
      | none => simp [JsonValue.asInt64, spaced]
      | some v =>
          cases hn : v.asInt64 with
          | none => simp [hn]
          | some n =>
              have hsome : (v.asString showDouble).isSome :=
                asString_isSome_of_asInt64 (Option.isSome_of_eq_some hn)
              obtain ⟨written, hwritten⟩ := Option.isSome_iff_exists.mp hsome
              by_cases hpos : 0 < n
              · simp [hn, hwritten, hpos, spaced, ascii_blank]
              · simp [hn, hpos, spaced]

/-- The loop counts members. -/
theorem countLports_eq (lports : List JsonValue) (counts : ℕ × ℕ) :
    countLports lports counts =
      (counts.1 + lports.length, counts.2 + (lports.map JsonValue.size).sum) := by
  induction lports generalizing counts with
  | nil => rfl
  | cons lport rest ih =>
      rw [countLports, ih, List.length_cons, List.map_cons, List.sum_cons]
      ext <;> simp <;> omega

/-- The key with a letter missing is not one of the template's. -/
theorem find_multiProcess_eq_none (h : UsesTemplateKeys config) :
    config.find MULTI_PROCESS_RELATED_OPTIONS_TAG = none := by
  obtain ⟨members, rfl, hkeys⟩ := h
  refine List.lookup_eq_none_iff.mpr fun m hm => ?_
  have hnot : MULTI_PROCESS_RELATED_OPTIONS_TAG ∉ templateKeys := by decide +kernel
  exact bne_iff_ne.mpr fun heq => hnot (heq ▸ hkeys m hm)

variable (config) in
/-- The number of members of the logical ports: what `count_args` takes for the number of
cores. -/
def memberCount : ℕ := ((lportsOf config).map JsonValue.size).sum

variable (showDouble config) in
/-- The parts of the string `count_args` writes. -/
def parts : List (List UInt8) :=
  [ascii "./APPNAME", optionText showDouble config LCORE_RELATED_OPTIONS_TAG,
    optionText showDouble config MEMORY_REALTED_OPTIONS_TAG,
    optionText showDouble config DEVICE_RELATED_OPTIONS_TAG, [],
    optionText showDouble config DEBUGGIN_RELATED_OPTIONS_TAG, ascii "--"] ++
    testpmdOptions showDouble config (memberCount config) (lportsOf config).length
      (memberCount config) (memberCount config)

/-- `count_args` throws unless the values can be converted. -/
theorem convertible_of_countArgs (h : countArgs showDouble config = some text) :
    Convertible showDouble config := by
  rw [countArgs] at h
  obtain ⟨lcore, hlcore, h⟩ := Option.bind_eq_some_iff.mp h
  obtain ⟨memory, hmemory, h⟩ := Option.bind_eq_some_iff.mp h
  obtain ⟨device, hdevice, h⟩ := Option.bind_eq_some_iff.mp h
  obtain ⟨multiProcess, -, h⟩ := Option.bind_eq_some_iff.mp h
  obtain ⟨debuggin, hdebuggin, h⟩ := Option.bind_eq_some_iff.mp h
  obtain ⟨queues, hqueues, h⟩ := Option.bind_eq_some_iff.mp h
  obtain ⟨mpAlloc, hmpAlloc, h⟩ := Option.bind_eq_some_iff.mp h
  obtain ⟨mbufSize, hmbufSize, h⟩ := Option.bind_eq_some_iff.mp h
  obtain ⟨totalNumMbufs, htotalNumMbufs, h⟩ := Option.bind_eq_some_iff.mp h
  obtain ⟨mbcache, hmbcache, h⟩ := Option.bind_eq_some_iff.mp h
  obtain ⟨maxPktLen, hmaxPktLen, h⟩ := Option.bind_eq_some_iff.mp h
  obtain ⟨burst, hburst, h⟩ := Option.bind_eq_some_iff.mp h
  obtain ⟨descriptors, hdescriptors, -⟩ := Option.bind_eq_some_iff.mp h
  obtain ⟨hmembers, hlcore, -⟩ := textAt_eq_some_iff.mp hlcore
  obtain ⟨members, hmembers⟩ := Option.isSome_iff_exists.mp hmembers
  rw [JsonValue.get_eq hmembers, Option.some_inj] at hqueues
  change queuesOf config = queues at hqueues
  subst hqueues
  constructor
  · simp only [List.forall_mem_cons]
    exact ⟨hlcore, (textAt_eq_some_iff.mp hmemory).2.1, (textAt_eq_some_iff.mp hdevice).2.1,
      (textAt_eq_some_iff.mp hdebuggin).2.1, List.forall_mem_nil _⟩
  · exact (passOn_eq_some_iff.mp hmpAlloc).1
  · simp only [queueTags, List.forall_mem_cons]
    exact ⟨(passOn_eq_some_iff.mp hmpAlloc).2.1, (passOn_eq_some_iff.mp hmbufSize).2.1,
      (passOn_eq_some_iff.mp htotalNumMbufs).2.1, (passOn_eq_some_iff.mp hmbcache).2.1,
      (passOn_eq_some_iff.mp hmaxPktLen).2.1, (passOn_eq_some_iff.mp hburst).2.1,
      List.forall_mem_nil _⟩
  · exact (passDescriptors_eq_some_iff.mp hdescriptors).2.1

/-- **The string of `count_args`**: the parts with a blank behind each, and nothing where the
options for several processes should be. -/
theorem countArgs_eq (hkeys : UsesTemplateKeys config) (h : Convertible showDouble config) :
    countArgs showDouble config = some (spaced 32 (parts showDouble config)) := by
  have hmissing := find_multiProcess_eq_none hkeys
  obtain ⟨members, hconfig, -⟩ := hkeys
  have hmembers : config.members = some members := by rw [hconfig]; rfl
  have hsome : config.members.isSome := Option.isSome_of_eq_some hmembers
  have htext : ∀ tag ∈ [LCORE_RELATED_OPTIONS_TAG, MEMORY_REALTED_OPTIONS_TAG,
      DEVICE_RELATED_OPTIONS_TAG, DEBUGGIN_RELATED_OPTIONS_TAG],
      textAt showDouble config tag = some (optionText showDouble config tag) :=
    fun tag htag => textAt_eq_some_iff.mpr ⟨hsome, h.texts tag htag, rfl⟩
  have hpass : ∀ tag ∈ queueTags, passOn showDouble (queuesOf config) tag =
      some (spaced 32 (passedOn showDouble (queuesOf config) [tag])) :=
    fun tag htag => passOn_eq_some_iff.mpr ⟨h.queues, h.options tag htag, rfl⟩
  have hdescriptors : passDescriptors showDouble (queuesOf config) =
      some (spaced 32 (descriptorOptions showDouble (queuesOf config))) :=
    passDescriptors_eq_some_iff.mpr ⟨h.queues, h.descriptors, rfl⟩
  have hmulti : textAt showDouble config MULTI_PROCESS_RELATED_OPTIONS_TAG = some [] := by
    rw [textAt, JsonValue.get_eq hmembers, hmissing]
    rfl
  have hqueues : config.get QUEUES_AND_MBUF_OPTIONS_TAG = some (queuesOf config) :=
    JsonValue.get_eq hmembers
  have hlports : config.get LPORTS_TAG = some ((config.find LPORTS_TAG).getD .null) :=
    JsonValue.get_eq hmembers
  simp only [List.forall_mem_cons, queueTags] at htext hpass
  obtain ⟨hlcore, hmemory, hdevice, hdebuggin, -⟩ := htext
  obtain ⟨h1, h2, h3, h4, h5, h6, -⟩ := hpass
  -- the blanks of the string are those behind the parts
  have hname : ascii "./APPNAME " = ascii "./APPNAME" ++ [32] := by decide
  have hdashes : ascii " -- " = [32] ++ ascii "--" ++ [32] := by decide
  have hcores : ascii "--" ++ NB_CORES_TAG ++ ascii "=" = ascii "--nb-cores=" := by decide
  have hports : ascii "--" ++ NB_PORTS_TAG ++ ascii "=" = ascii "--nb-ports=" := by decide
  rw [countArgs]
  simp only [hlcore, hmemory, hdevice, hmulti, hdebuggin, hqueues, h1, h2, h3, h4, h5, h6,
    hdescriptors, hlports, countLports_eq, Option.bind_eq_bind, Option.bind_some]
  rw [hname, ascii_blank, hdashes, hcores, hports]
  simp [parts, memberCount, spaced, testpmdOptions, passedOn, queueTags, lportsOf]

/-- The arguments are built if the values can be converted: the words of the parts. -/
theorem ealArguments_eq_some_iff (hkeys : UsesTemplateKeys config) {argc : ℕ}
    {argv : List (Option (List UInt8))} :
    ealArguments showDouble config = some (argc, argv) ↔ Convertible showDouble config ∧
      argc = ((parts showDouble config).flatMap (words isSpace)).length ∧
        argv = ((parts showDouble config).flatMap (words isSpace)).map some := by
  have hwords := words_spaced isSpace (show isSpace 32 = true from rfl) (parts showDouble config)
  constructor
  · intro hargs
    obtain ⟨text, htext, hargs⟩ := Option.bind_eq_some_iff.mp hargs
    have hconvertible := convertible_of_countArgs htext
    rw [countArgs_eq hkeys hconvertible, Option.some_inj] at htext
    subst htext
    refine ⟨hconvertible, ?_⟩
    simpa [createEalParams, hwords, eq_comm] using hargs
  · rintro ⟨hconvertible, rfl, rfl⟩
    simp [ealArguments, countArgs_eq hkeys hconvertible, createEalParams, hwords]

/-- An option with a number is one word. -/
theorem words_number (front : List UInt8) (n : ℕ) (hne : front ≠ [])
    (hfront : front.any isSpace = false) :
    words isSpace (front ++ decimal n) = [front ++ decimal n] := by
  refine words_of_any_eq_false isSpace (by simp [hne]) ?_
  rw [List.any_append, hfront, Bool.false_or, List.any_eq_false]
  -- a digit is not white space
  intro x hx hspace
  have hdigit := toNat_mem_decimal hx
  simp only [isSpace, Bool.or_eq_true, Bool.and_eq_true, beq_iff_eq, decide_eq_true_eq] at hspace
  obtain rfl | ⟨-, hle⟩ := hspace
  · exact absurd hdigit.1 (by decide)
  · exact absurd (hdigit.1.trans (UInt8.le_iff_toNat_le.mp hle)) (by decide)

/-- The command line is the same but for the words of the options for several processes and the
last four. -/
theorem exists_commandLine_eq (showDouble : Rat → List UInt8) (config : JsonValue) :
    ∃ front back, ∀ multiProcess nbCores nbPorts rxq txq,
      commandLine showDouble config multiProcess nbCores nbPorts rxq txq =
        front ++ words isSpace multiProcess ++ back ++
          [ascii "--nb-cores=" ++ decimal nbCores, ascii "--nb-ports=" ++ decimal nbPorts,
            ascii "--rxq=" ++ decimal rxq, ascii "--txq=" ++ decimal txq] := by
  refine ⟨[ascii "./APPNAME"] ++
      words isSpace (optionText showDouble config LCORE_RELATED_OPTIONS_TAG) ++
      words isSpace (optionText showDouble config MEMORY_REALTED_OPTIONS_TAG) ++
      words isSpace (optionText showDouble config DEVICE_RELATED_OPTIONS_TAG),
    words isSpace (optionText showDouble config DEBUGGIN_RELATED_OPTIONS_TAG) ++ [ascii "--"] ++
      (passedOn showDouble (queuesOf config) queueTags ++
        descriptorOptions showDouble (queuesOf config)).flatMap (words isSpace), ?_⟩
  intro multiProcess nbCores nbPorts rxq txq
  have hcores := words_number (ascii "--nb-cores=") nbCores (by decide) (by decide)
  have hports := words_number (ascii "--nb-ports=") nbPorts (by decide) (by decide)
  have hrxq := words_number (ascii "--rxq=") rxq (by decide) (by decide)
  have htxq := words_number (ascii "--txq=") txq (by decide) (by decide)
  simp [commandLine, testpmdOptions, hcores, hports, hrxq, htxq]

/-- The words of the parts are a command line without options for several processes. -/
theorem words_parts (showDouble : Rat → List UInt8) (config : JsonValue) :
    (parts showDouble config).flatMap (words isSpace) = commandLine showDouble config []
      (memberCount config) (lportsOf config).length (memberCount config) (memberCount config) := by
  have hname := words_of_any_eq_false isSpace (show ascii "./APPNAME" ≠ [] by decide) rfl
  have hdashes := words_of_any_eq_false isSpace (show ascii "--" ≠ [] by decide) rfl
  simp [parts, commandLine, hname, hdashes]

/-- A command line without options for several processes equals one with them only if these have
no words and the numbers of cores agree. -/
theorem commandLine_inj {multiProcess : List UInt8} {m n p q rxq txq rxq' txq' : ℕ}
    (h : commandLine showDouble config [] m p rxq txq =
      commandLine showDouble config multiProcess n q rxq' txq') :
    words isSpace multiProcess = [] ∧ m = n := by
  obtain ⟨front, back, heq⟩ := exists_commandLine_eq showDouble config
  rw [heq, heq] at h
  obtain ⟨hwords, hnumbers⟩ := List.append_inj' h rfl
  refine ⟨?_, ?_⟩
  · have hlength := congrArg List.length hwords
    have hempty : words isSpace ([] : List UInt8) = [] := rfl
    simp only [hempty, List.length_append, List.length_nil] at hlength
    exact List.length_eq_zero_iff.mp (by omega)
  · exact decimal_injective (List.append_cancel_left (List.cons.inj hnumbers).1)

/-- **When the command line reflects the configuration**: the values can be converted, there are
no options for several processes, and the logical ports have as many members as queues. -/
theorem reflectsConfiguration_iff (h : UsesTemplateKeys config) :
    (∃ argc argv, ealArguments showDouble config = some (argc, argv) ∧
      ReflectsConfiguration showDouble config argc argv) ↔
    Convertible showDouble config ∧
      words isSpace (optionText showDouble config multiprocessingKey) = [] ∧
        ((lportsOf config).map JsonValue.size).sum = ((lportsOf config).map queueEntries).sum := by
  constructor
  · rintro ⟨argc, argv, hargs, hreflects⟩
    obtain ⟨hconvertible, -, rfl⟩ := (ealArguments_eq_some_iff h).mp hargs
    obtain ⟨rxq, txq, hwords⟩ := hreflects.words
    rw [words_parts] at hwords
    have hline := List.map_injective_iff.mpr (Option.some_injective _) hwords
    exact ⟨hconvertible, commandLine_inj hline⟩
  · rintro ⟨hconvertible, hwords, hcount⟩
    refine ⟨_, _, (ealArguments_eq_some_iff h).mpr ⟨hconvertible, rfl, rfl⟩, ?_, ?_⟩
    · exact (List.length_map some).symm
    · refine ⟨memberCount config, memberCount config, ?_⟩
      obtain ⟨front, back, heq⟩ := exists_commandLine_eq showDouble config
      rw [words_parts, heq, heq, hwords, ← hcount]
      rfl

end Command

/-! ## Two configurations -/

/-- A section like that of the template, with one logical port. -/
def onePortParams (multiProcess : List UInt8) (queues : List (List UInt8)) : JsonValue :=
  .object [(MAIN_LCORE_TAG, .string (ascii "0")),
    (LCORE_RELATED_OPTIONS_TAG, .string (ascii "-l 0,1,2")),
    (MEMORY_REALTED_OPTIONS_TAG, .string (ascii "-n 4")),
    (DEVICE_RELATED_OPTIONS_TAG, .string (ascii "-a 0000:04:00.0")),
    (multiprocessingKey, .string multiProcess),
    (DEBUGGIN_RELATED_OPTIONS_TAG, .string (ascii "--no-shconf")),
    (QUEUES_AND_MBUF_OPTIONS_TAG, .object [(BURST_TAG, .int 32), (NUM_RX_TX_DESC_TAG, .int 512)]),
    (LPORTS_TAG, .object [(ascii "0000:04:00.0", .object
      [(RX_TX_QUEUE_INFO_TAG, .object (queues.map fun queue => (queue, .null))),
        (ascii "lport-related-info", .string (ascii "TRIAL"))])])]

theorem onePortParams_usesTemplateKeys (multiProcess : List UInt8) (queues : List (List UInt8)) :
    UsesTemplateKeys (onePortParams multiProcess queues) :=
  ⟨_, rfl, by simp [templateKeys]⟩

theorem onePortParams_convertible (showDouble : Rat → List UInt8) (multiProcess : List UInt8)
    (queues : List (List UInt8)) :
    Convertible showDouble (onePortParams multiProcess queues) := by
  constructor
  · simp only [List.forall_mem_cons]
    refine ⟨?_, ?_, ?_, ?_, List.forall_mem_nil _⟩ <;> (rintro v ⟨⟩; rfl)
  · rfl
  · simp only [queueTags, List.forall_mem_cons]
    refine ⟨?_, ?_, ?_, ?_, ?_, ?_, List.forall_mem_nil _⟩ <;> rintro v ⟨⟩
    rfl
  · rintro v ⟨⟩
    rfl

theorem reflectsConfiguration_twoQueues :
    ∃ argc argv, ealArguments (fun _ => []) (onePortParams [] [ascii "queue:0", ascii "queue:1"]) =
        some (argc, argv) ∧
      ReflectsConfiguration (fun _ => []) (onePortParams [] [ascii "queue:0", ascii "queue:1"])
        argc argv :=
  (reflectsConfiguration_iff (onePortParams_usesTemplateKeys _ _)).mpr
    ⟨onePortParams_convertible _ _ _, by decide, by decide⟩

/-- With three queues and options for several processes, these are missing and the number of cores
is that of the two members of the logical port. -/
theorem multiProcess_dropped :
    let config := onePortParams (ascii "--proc-type=primary")
      [ascii "queue:0", ascii "queue:1", ascii "queue:2"]
    let argv := [ascii "./APPNAME", ascii "-l", ascii "0,1,2", ascii "-n", ascii "4", ascii "-a",
      ascii "0000:04:00.0", ascii "--no-shconf", ascii "--", ascii "--burst=32",
      ascii "--rxd=512", ascii "--txd=512", ascii "--nb-cores=2", ascii "--nb-ports=1",
      ascii "--rxq=2", ascii "--txq=2"].map some
    UsesTemplateKeys config ∧ Convertible (fun _ => []) config ∧
      ealArguments (fun _ => []) config = some (16, argv) ∧
        ((lportsOf config).map queueEntries).sum = 3 ∧
          ¬ ReflectsConfiguration (fun _ => []) config 16 argv := by
  intro config argv
  refine ⟨onePortParams_usesTemplateKeys _ _, onePortParams_convertible _ _ _,
    by decide +kernel, by decide, fun hreflects => ?_⟩
  obtain ⟨rxq, txq, hargv⟩ := hreflects.words
  obtain ⟨front, back, heq⟩ := exists_commandLine_eq (fun _ => []) config
  have hword : ascii "--proc-type=primary" ∈
      words isSpace (optionText (fun _ => []) config multiprocessingKey) := by decide +kernel
  have hmem : some (ascii "--proc-type=primary") ∈ argv := by
    rw [hargv, heq]
    exact List.mem_map_of_mem (by simp [hword])
  exact absurd hmem (by decide +kernel)

end UdxFastpath.Dpdk
