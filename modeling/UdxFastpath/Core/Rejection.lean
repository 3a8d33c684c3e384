import UdxFastpath.Core.Loader
import UdxFastpath.Foundation.EarlyExit

/-!
# What a rejected configuration starts

`main` ignores what `load_and_parse_config_file` returns and starts the datapath all
the same.  That is harmless as long as a rejected configuration leaves `API` at 0.

The stages of the loader are given in closed form, by the members of the document,
and from these it follows which documents are rejected **late**: after the API was
chosen.  They are the only ones on which a datapath is started in spite of the
rejection.  A document that is accepted is always loaded consistently.
-/

namespace UdxFastpath

open EarlyExit

/-! ## The contract -/

/-- The API, its section and the callbacks are those the document names. -/
def ApiLoaded (doc : JsonValue) (dm : Loaded) : Prop :=
  doc.find API_TAG = some (.string API_VALUE_CNDP_TAG) ∧ dm.api = API_VALUE_CNDP ∧
      doc.find CNDP_DATAPATH_TAG = some dm.datapathConfiguration ∧
      dm.callbackwrapper = some .cndp ∨
    doc.find API_TAG = some (.string API_VALUE_DPDK_TAG) ∧ dm.api = API_VALUE_DPDK ∧
      doc.find DPDK_DATAPATH_TAG = some dm.datapathConfiguration ∧
      dm.callbackwrapper = some .dpdk

/-- The model and the section on workers are those the document names. -/
def ModelLoaded (doc : JsonValue) (dm : Loaded) : Prop :=
  doc.find MODEL_TAG = some (.string MODEL_VALUE_MASTER_WORKER_TAG) ∧
      dm.model = MODEL_VALUE_MASTER_WORKER ∧
      doc.find WORKER_CONFIGURATION_TAG = some dm.workerConfiguration ∨
    doc.find MODEL_TAG = some (.string MODEL_VALUE_RUN_TO_COMPLETION_TAG) ∧
      dm.model = MODEL_VALUE_RUN_TO_COMPLETION

/-- What was loaded agrees with the document. -/
structure Consistent (doc : JsonValue) (dm : Loaded) : Prop where
  api : ApiLoaded doc dm
  model : ModelLoaded doc dm

/-- **A rejected configuration starts nothing**, and an accepted one is loaded consistently. -/
structure RejectionStartsNothing (doc : JsonValue) : Prop where
  rejected : ∀ dm, loadAndParseConfigFile doc {} = .error (.returned dm) →
    dm.api = 0 ∧ startDatapathCore dm = none
  accepted : ∀ dm, loadAndParseConfigFile doc {} = .ok dm → Consistent doc dm

/-! ## The condition -/

/-- The member can be converted, if it is there. -/
def Converts {α : Type} (doc : JsonValue) (tag : List UInt8) (convert : JsonValue → Option α) :
    Prop :=
  ∀ v, doc.find tag = some v → (convert v).isSome

/-- The document names an API and has the section for it. -/
def ApiAccepted (doc : JsonValue) : Prop :=
  doc.find API_TAG = some (.string API_VALUE_CNDP_TAG) ∧ (doc.find CNDP_DATAPATH_TAG).isSome ∨
    doc.find API_TAG = some (.string API_VALUE_DPDK_TAG) ∧ (doc.find DPDK_DATAPATH_TAG).isSome

/-- The document gets as far as the choice of an API. -/
structure ApiChosen (doc : JsonValue) : Prop where
  api : ApiAccepted doc
  model : ∃ name, doc.find MODEL_TAG = some (.string name)
  createTap : Converts doc CREATE_TAP_TAG JsonValue.asBool
  numQueuesTap : Converts doc TAP_DEVICE_NUM_QUEUES_TAG JsonValue.asInt

/-- The model is one of the two, and has its configuration. -/
def ModelAccepted (doc : JsonValue) : Prop :=
  doc.find MODEL_TAG = some (.string MODEL_VALUE_MASTER_WORKER_TAG) ∧
      (doc.find WORKER_CONFIGURATION_TAG).isSome ∨
    doc.find MODEL_TAG = some (.string MODEL_VALUE_RUN_TO_COMPLETION_TAG)

/-- There is a section on fast-path ports, and its list of ports is none. -/
def PortsRejected (doc : JsonValue) : Prop :=
  ∃ config, doc.find FASTPATH_PORT_CONFIGURATION_TAG = some config ∧ config.members.isSome ∧
    ((config.find FASTPATH_PORTS_TAG).getD .null).isArray = false

/-- The document is rejected **after** the API was chosen: for its model or for its list of
ports. -/
def LateRejection (doc : JsonValue) : Prop :=
  ApiChosen doc ∧
    (¬ ModelAccepted doc ∨
      ModelAccepted doc ∧ Converts doc CLOUD_DEPLOYMENT_TAG JsonValue.asBool ∧ PortsRejected doc)

/-! ## The stages in closed form -/

section Stages

variable {doc : JsonValue} {members : List (List UInt8 × JsonValue)}

theorem checkString_eq (h : doc.members = some members) (tag : List UInt8) (dm : Loaded) :
    checkString doc tag dm =
      if ((doc.find tag).getD .null).isString then .ok () else .error (.returned dm) := by
  simp only [checkString, JsonValue.isMember_eq h, JsonValue.get_eq h, demand, ok_bind]
  cases doc.find tag with
  | none => rfl
  | some v =>
      rw [Option.getD_some]
      cases v.isString <;> rfl

theorem readMember_eq {α : Type} (h : doc.members = some members) (tag : List UInt8)
    (convert : JsonValue → Option α) (old : α) :
    readMember doc tag convert old =
      match doc.find tag with
      | some v => demand (convert v)
      | none => .ok old := by
  simp only [readMember, JsonValue.isMember_eq h, JsonValue.get_eq h, demand, ok_bind]
  cases doc.find tag with
  | none => rfl
  | some v => rfl

/-- The choice of the API, by name and section. -/
theorem selectApi_eq (h : doc.members = some members) (dm : Loaded) :
    selectApi doc dm =
      if ((doc.find API_TAG).getD .null).text = API_VALUE_CNDP_TAG then
        match doc.find CNDP_DATAPATH_TAG with
        | some params => .ok { dm with
            api := API_VALUE_CNDP
            datapathConfiguration := params
            callbackwrapper := some .cndp }
        | none => .error (.returned dm)
      else if ((doc.find API_TAG).getD .null).text = API_VALUE_DPDK_TAG then
        match doc.find DPDK_DATAPATH_TAG with
        | some params => .ok { dm with
            api := API_VALUE_DPDK
            datapathConfiguration := params
            callbackwrapper := some .dpdk }
        | none => .error (.returned dm)
      else .error (.returned dm) := by
  simp only [selectApi, JsonValue.isMember_eq h, JsonValue.get_eq h, demand, ok_bind]
  split
  · cases doc.find CNDP_DATAPATH_TAG <;> rfl
  · split
    · cases doc.find DPDK_DATAPATH_TAG <;> rfl
    · rfl

/-- The choice of the model, by name and section. -/
theorem selectModel_eq (h : doc.members = some members) (dm : Loaded) :
    selectModel doc dm =
      if ((doc.find MODEL_TAG).getD .null).text = MODEL_VALUE_MASTER_WORKER_TAG then
        match doc.find WORKER_CONFIGURATION_TAG with
        | some workers => .ok { dm with
            model := MODEL_VALUE_MASTER_WORKER
            workerConfiguration := workers }
        | none => .error (.returned dm)
      else if ((doc.find MODEL_TAG).getD .null).text = MODEL_VALUE_RUN_TO_COMPLETION_TAG then
        .ok { dm with model := MODEL_VALUE_RUN_TO_COMPLETION }
      else .error (.returned dm) := by
  simp only [selectModel, JsonValue.isMember_eq h, JsonValue.get_eq h, demand, ok_bind]
  split
  · cases doc.find WORKER_CONFIGURATION_TAG <;> rfl
  · rfl

/-- The fast-path ports, by section and list. -/
theorem readFastpathPorts_eq (h : doc.members = some members) (dm : Loaded) :
    readFastpathPorts doc dm =
      match doc.find FASTPATH_PORT_CONFIGURATION_TAG with
      | none => .ok dm
      | some config =>
          match config.members with
          | none => .error .thrown
          | some _ =>
              if ((config.find FASTPATH_PORTS_TAG).getD .null).isArray then do
                let fastPathFiltering ←
                  demand ((config.find FASTPATH_FILTERING_TAG).getD .null).asBool
                ((config.find FASTPATH_PORTS_TAG).getD .null).items.foldlM insertPort
                  { dm with fastPathFiltering }
              else .error (.returned dm) := by
  simp only [readFastpathPorts, JsonValue.isMember_eq h, JsonValue.get_eq h, demand, ok_bind]
  cases doc.find FASTPATH_PORT_CONFIGURATION_TAG with
  | none => rfl
  | some config =>
      simp only [Option.isSome_some, if_true, Option.getD_some]
      cases hconfig : config.members with
      | none =>
          have hports : config.get FASTPATH_PORTS_TAG = none := by rw [JsonValue.get, hconfig]; rfl
          rw [hports]
          rfl
      | some inner =>
          simp only [JsonValue.get_eq hconfig, ok_bind]
          cases ((config.find FASTPATH_PORTS_TAG).getD .null).isArray <;> rfl

end Stages

/-! ## What each stage can do -/

section Cases

variable {doc : JsonValue} {members : List (List UInt8 × JsonValue)} (dm : Loaded)

/-- A member is converted or the conversion throws; the loader does not return here. -/
theorem readMember_cases {α : Type} (h : doc.members = some members) (tag : List UInt8)
    (convert : JsonValue → Option α) (old : α) :
    Converts doc tag convert ∧ (∃ a, readMember doc tag convert old = .ok a) ∨
      ¬ Converts doc tag convert ∧ readMember doc tag convert old = .error .thrown := by
  rw [readMember_eq h]
  cases hfind : doc.find tag with
  | none =>
      refine .inl ⟨fun v hv => ?_, old, rfl⟩
      rw [hfind] at hv
      cases hv
  | some v =>
      cases hconvert : convert v with
      | none =>
          refine .inr ⟨fun hall => ?_, by simp only [hconvert, demand]⟩
          have hsome := hall v hfind
          rw [hconvert] at hsome
          cases hsome
      | some a =>
          refine .inl ⟨fun w hw => ?_, a, by simp only [hconvert, demand]⟩
          rw [hfind] at hw
          rw [← Option.some.inj hw, hconvert]
          rfl

theorem readTapOptions_cases (h : doc.members = some members) :
    (Converts doc CREATE_TAP_TAG JsonValue.asBool ∧
        Converts doc TAP_DEVICE_NUM_QUEUES_TAG JsonValue.asInt) ∧
        (∃ createTap numQueuesTap,
          readTapOptions doc dm = .ok { dm with createTap, numQueuesTap }) ∨
      ¬ (Converts doc CREATE_TAP_TAG JsonValue.asBool ∧
        Converts doc TAP_DEVICE_NUM_QUEUES_TAG JsonValue.asInt) ∧
        readTapOptions doc dm = .error .thrown := by
  rcases readMember_cases h CREATE_TAP_TAG JsonValue.asBool dm.createTap with
    ⟨hbool, createTap, htap⟩ | ⟨hbool, htap⟩
  · rcases readMember_cases h TAP_DEVICE_NUM_QUEUES_TAG JsonValue.asInt dm.numQueuesTap with
      ⟨hint, numQueuesTap, hqueues⟩ | ⟨hint, hqueues⟩
    · refine .inl ⟨⟨hbool, hint⟩, createTap, numQueuesTap, ?_⟩
      simp only [readTapOptions, htap, hqueues, ok_bind, pure_eq_ok]
    · refine .inr ⟨fun hboth => hint hboth.2, ?_⟩
      simp only [readTapOptions, htap, hqueues, ok_bind, error_bind]
  · refine .inr ⟨fun hboth => hbool hboth.1, ?_⟩
    simp only [readTapOptions, htap, error_bind]

theorem readCloudDeployment_cases (h : doc.members = some members) :
    Converts doc CLOUD_DEPLOYMENT_TAG JsonValue.asBool ∧
        (∃ cloudDeployment, readCloudDeployment doc dm = .ok { dm with cloudDeployment }) ∨
      ¬ Converts doc CLOUD_DEPLOYMENT_TAG JsonValue.asBool ∧
        readCloudDeployment doc dm = .error .thrown := by
  rcases readMember_cases h CLOUD_DEPLOYMENT_TAG JsonValue.asBool dm.cloudDeployment with
    ⟨hbool, cloudDeployment, hcloud⟩ | ⟨hbool, hcloud⟩
  · refine .inl ⟨hbool, cloudDeployment, ?_⟩
    simp only [readCloudDeployment, hcloud, ok_bind, pure_eq_ok]
  · refine .inr ⟨hbool, ?_⟩
    simp only [readCloudDeployment, hcloud, error_bind]

theorem selectApi_cases (h : doc.members = some members) {name : List UInt8}
    (hname : doc.find API_TAG = some (.string name)) :
    ApiAccepted doc ∧ (∃ dm', selectApi doc dm = .ok dm' ∧ ApiLoaded doc dm') ∨
      ¬ ApiAccepted doc ∧ selectApi doc dm = .error (.returned dm) := by
  rw [selectApi_eq h, hname, Option.getD_some, JsonValue.text]
  simp only [ApiAccepted, ApiLoaded, hname, Option.some.injEq, JsonValue.string.injEq]
  have hne : ¬ API_VALUE_CNDP_TAG = API_VALUE_DPDK_TAG := by decide
  by_cases hcndp : name = API_VALUE_CNDP_TAG
  · subst hcndp
    simp only [if_true, hne, false_and, or_false, true_and]
    cases doc.find CNDP_DATAPATH_TAG with
    | none => exact .inr ⟨Bool.false_ne_true, rfl⟩
    | some params => exact .inl ⟨rfl, _, rfl, rfl, rfl, rfl⟩
  · by_cases hdpdk : name = API_VALUE_DPDK_TAG
    · subst hdpdk
      simp only [hcndp, if_false, if_true, false_and, false_or, true_and]
      cases doc.find DPDK_DATAPATH_TAG with
      | none => exact .inr ⟨Bool.false_ne_true, rfl⟩
      | some params => exact .inl ⟨rfl, _, rfl, rfl, rfl, rfl⟩
    · simp only [hcndp, hdpdk, if_false, false_and, or_false]
      exact .inr ⟨id, trivial⟩

/-- The model is accepted or the loader returns; the choice of the API is kept. -/
theorem selectModel_cases (h : doc.members = some members) {name : List UInt8}
    (hname : doc.find MODEL_TAG = some (.string name)) (hapi : ApiLoaded doc dm) :
    ModelAccepted doc ∧
        (∃ dm', selectModel doc dm = .ok dm' ∧ ApiLoaded doc dm' ∧ ModelLoaded doc dm') ∨
      ¬ ModelAccepted doc ∧ selectModel doc dm = .error (.returned dm) := by
  rw [selectModel_eq h, hname, Option.getD_some, JsonValue.text]
  simp only [ModelAccepted, ModelLoaded, hname, Option.some.injEq, JsonValue.string.injEq]
  have hne : ¬ MODEL_VALUE_MASTER_WORKER_TAG = MODEL_VALUE_RUN_TO_COMPLETION_TAG := by decide
  by_cases hworker : name = MODEL_VALUE_MASTER_WORKER_TAG
  · subst hworker
    simp only [if_true, hne, false_and, or_false, true_and]
    cases doc.find WORKER_CONFIGURATION_TAG with
    | none => exact .inr ⟨Bool.false_ne_true, rfl⟩
    | some workers => exact .inl ⟨rfl, _, rfl, hapi, rfl, rfl⟩
  · by_cases hrun : name = MODEL_VALUE_RUN_TO_COMPLETION_TAG
    · subst hrun
      simp only [hworker, if_false, if_true, false_and, false_or, true_and]
      exact .inl ⟨_, rfl, hapi, rfl⟩
    · simp only [hworker, hrun, if_false, false_and, or_false]
      exact .inr ⟨id, trivial⟩

/-- A fast-path port changes nothing but the set of ports. -/
theorem insertPort_ok {dm dm' : Loaded} {item : JsonValue} (h : insertPort dm item = .ok dm') :
    ∃ ports, dm' = { dm with fastpathPorts := ports } := by
  unfold insertPort at h
  split at h
  · exact ⟨_, (Except.ok.inj h).symm⟩
  · split at h
    · split at h
      · cases h
      · obtain ⟨start, -, h⟩ := bind_eq_ok_iff.mp h
        obtain ⟨stop, -, h⟩ := bind_eq_ok_iff.mp h
        split at h
        · cases h
        · exact ⟨_, (Except.ok.inj h).symm⟩
    · cases h

theorem demand_ne_returned {α : Type} (x : Option α) (dm : Loaded) :
    demand x ≠ .error (.returned dm) := by
  intro h
  cases x <;> cases h

/-- The loader does not return from a fast-path port. -/
theorem insertPort_ne_returned {dm dm' : Loaded} {item : JsonValue} :
    insertPort dm item ≠ .error (.returned dm') := by
  intro h
  unfold insertPort at h
  split at h
  · cases h
  · split at h
    · split at h
      · cases h
      · rcases bind_eq_error_iff.mp h with h | ⟨start, -, h⟩
        · exact demand_ne_returned _ _ h
        · rcases bind_eq_error_iff.mp h with h | ⟨stop, -, h⟩
          · exact demand_ne_returned _ _ h
          · split at h <;> cases h
    · cases h

/-- The filter flag and the ports of an array. -/
def loadPorts (filtering : Option Bool) (items : List JsonValue) (dm : Loaded) :
    Except Stop Loaded := do
  let fastPathFiltering ← demand filtering
  items.foldlM insertPort { dm with fastPathFiltering }

theorem loadPorts_ne_returned (filtering : Option Bool) (items : List JsonValue)
    (dm dm' : Loaded) : loadPorts filtering items dm ≠ .error (.returned dm') := by
  intro h
  rcases bind_eq_error_iff.mp h with h | ⟨flag, -, h⟩
  · exact demand_ne_returned _ _ h
  · obtain ⟨t, item, hitem⟩ := foldlM_error _ _ h
    exact insertPort_ne_returned hitem

theorem consistent_of_loadPorts {filtering : Option Bool} {items : List JsonValue}
    {dm dm' : Loaded} (h : loadPorts filtering items dm = .ok dm') (hdm : Consistent doc dm) :
    Consistent doc dm' := by
  obtain ⟨flag, -, hloop⟩ := bind_eq_ok_iff.mp h
  have hstart : Consistent doc { dm with fastPathFiltering := flag } := ⟨hdm.api, hdm.model⟩
  refine foldlM_ok (P := Consistent doc) ?_ _ _ _ hstart hloop
  intro s item s' hs hitem
  obtain ⟨ports, rfl⟩ := insertPort_ok hitem
  exact ⟨hs.api, hs.model⟩

/-- The section decides what becomes of the ports. -/
theorem portsRejected_iff {config : JsonValue}
    (h : doc.find FASTPATH_PORT_CONFIGURATION_TAG = some config) :
    PortsRejected doc ↔ config.members.isSome ∧
      ((config.find FASTPATH_PORTS_TAG).getD .null).isArray = false := by
  constructor
  · rintro ⟨config', hconfig, hrest⟩
    obtain rfl := Option.some.inj (h.symm.trans hconfig)
    exact hrest
  · intro hrest
    exact ⟨config, h, hrest⟩

/-- Only a list of ports that is none makes the loader return here, and nothing makes it forget
what it had chosen. -/
theorem readFastpathPorts_cases (h : doc.members = some members) :
    PortsRejected doc ∧ readFastpathPorts doc dm = .error (.returned dm) ∨
      ¬ PortsRejected doc ∧ (∀ dm', readFastpathPorts doc dm ≠ .error (.returned dm')) ∧
        ∀ dm', readFastpathPorts doc dm = .ok dm' → Consistent doc dm → Consistent doc dm' := by
  rw [readFastpathPorts_eq h]
  cases hfind : doc.find FASTPATH_PORT_CONFIGURATION_TAG with
  | none =>
      refine .inr ⟨?_, fun _ => ?_, ?_⟩
      · rintro ⟨config, hconfig, -⟩
        rw [hfind] at hconfig
        cases hconfig
      · intro hcon
        cases hcon
      · intro dm' hok hdm
        cases hok
        exact hdm
  | some config =>
      rw [portsRejected_iff hfind]
      cases hmembers : config.members with
      | none =>
          refine .inr ⟨fun hrejected => ?_, fun _ => ?_, fun _ => ?_⟩
          · cases hrejected.1
          · simp only [hmembers]
            intro hcon
            cases hcon
          · simp only [hmembers]
            intro hok
            cases hok
      | some inner =>
          simp only [hmembers]
          cases harray : ((config.find FASTPATH_PORTS_TAG).getD .null).isArray with
          | false => exact .inl ⟨⟨rfl, rfl⟩, rfl⟩
          | true =>
              refine .inr ⟨fun hrejected => ?_, fun dm' => ?_, fun dm' => ?_⟩
              · cases hrejected.2
              · exact loadPorts_ne_returned _ _ dm dm'
              · exact consistent_of_loadPorts

end Cases

/-! ## The loader as a whole -/

section Whole

variable {doc : JsonValue} {members : List (List UInt8 × JsonValue)}

/-- The stages behind the choice of the API. -/
def loadRest (doc : JsonValue) (dm : Loaded) : Except Stop Loaded := do
  let dm ← selectModel doc dm
  let dm ← readCloudDeployment doc dm
  readFastpathPorts doc dm

/-- A string is there or the loader returns what it was given. -/
theorem checkString_cases (h : doc.members = some members) (tag : List UInt8) (dm : Loaded) :
    (∃ name, doc.find tag = some (.string name)) ∧ checkString doc tag dm = .ok () ∨
      (¬ ∃ name, doc.find tag = some (.string name)) ∧
        checkString doc tag dm = .error (.returned dm) := by
  rw [checkString_eq h]
  cases hfind : doc.find tag with
  | none =>
      refine .inr ⟨?_, rfl⟩
      rintro ⟨name, hname⟩
      cases hname
  | some v =>
      rw [Option.getD_some]
      cases v with
      | string name => exact .inl ⟨⟨name, rfl⟩, rfl⟩
      | _ =>
          refine .inr ⟨?_, rfl⟩
          rintro ⟨name, hname⟩
          cases hname

/-- **Before and after the choice of the API.**  A document that does not get that far leaves the
API unset; one that does goes on with the API it names. -/
theorem loadAndParseConfigFile_cases (h : doc.members = some members) :
    ApiChosen doc ∧ (∃ dm, ApiLoaded doc dm ∧ loadAndParseConfigFile doc {} = loadRest doc dm) ∨
      ¬ ApiChosen doc ∧ (loadAndParseConfigFile doc {} = .error .thrown ∨
        ∃ dm, loadAndParseConfigFile doc {} = .error (.returned dm) ∧ dm.api = 0) := by
  rcases checkString_cases h API_TAG {} with ⟨⟨api, hapi⟩, hrun⟩ | ⟨hapi, hrun⟩
  swap
  · refine .inr ⟨fun hchosen => hapi ?_, .inr ⟨{}, ?_, rfl⟩⟩
    · rcases hchosen.api with ⟨hname, -⟩ | ⟨hname, -⟩
      · exact ⟨_, hname⟩
      · exact ⟨_, hname⟩
    · simp only [loadAndParseConfigFile, hrun, error_bind]
  rcases checkString_cases h MODEL_TAG {} with ⟨hmodel, hrun'⟩ | ⟨hmodel, hrun'⟩
  swap
  · refine .inr ⟨fun hchosen => hmodel hchosen.model, .inr ⟨{}, ?_, rfl⟩⟩
    simp only [loadAndParseConfigFile, hrun, hrun', ok_bind, error_bind]
  rcases readTapOptions_cases {} h with ⟨hconverts, createTap, numQueuesTap, htap⟩ | ⟨hnot, htap⟩
  swap
  · refine .inr ⟨fun hchosen => hnot ⟨hchosen.createTap, hchosen.numQueuesTap⟩, .inl ?_⟩
    simp only [loadAndParseConfigFile, hrun, hrun', htap, ok_bind, error_bind]
  rcases selectApi_cases { createTap, numQueuesTap } h hapi with
    ⟨haccepted, dm, hselect, hloaded⟩ | ⟨hnot, hselect⟩
  · refine .inl ⟨⟨haccepted, hmodel, hconverts.1, hconverts.2⟩, dm, hloaded, ?_⟩
    simp only [loadAndParseConfigFile, hrun, hrun', htap, hselect, ok_bind, loadRest]
  · refine .inr ⟨fun hchosen => hnot hchosen.api, .inr ⟨{ createTap, numQueuesTap }, ?_, rfl⟩⟩
    simp only [loadAndParseConfigFile, hrun, hrun', htap, hselect, ok_bind, error_bind]

/-- Behind the choice of the API, the loader returns exactly on a late rejection, and the API is
still the chosen one. -/
theorem loadRest_cases (h : doc.members = some members) (hchosen : ApiChosen doc) {dm : Loaded}
    (hapi : ApiLoaded doc dm) :
    LateRejection doc ∧ (∃ dm', loadRest doc dm = .error (.returned dm') ∧ ApiLoaded doc dm') ∨
      ¬ LateRejection doc ∧ (∀ dm', loadRest doc dm ≠ .error (.returned dm')) ∧
        ∀ dm', loadRest doc dm = .ok dm' → Consistent doc dm' := by
  obtain ⟨name, hname⟩ := hchosen.model
  rcases selectModel_cases dm h hname hapi with
    ⟨hmodel, dm₁, hselect, hapi₁, hmodel₁⟩ | ⟨hmodel, hselect⟩
  swap
  · refine .inl ⟨⟨hchosen, .inl hmodel⟩, dm, ?_, hapi⟩
    simp only [loadRest, hselect, error_bind]
  rcases readCloudDeployment_cases dm₁ h with ⟨hcloud, cloudDeployment, hread⟩ | ⟨hcloud, hread⟩
  swap
  · have hrest : loadRest doc dm = .error .thrown := by
      simp only [loadRest, hselect, hread, ok_bind, error_bind]
    rw [hrest]
    refine .inr ⟨?_, fun _ => ?_, fun _ => ?_⟩
    · rintro ⟨-, hnot | ⟨-, hconverts, -⟩⟩
      · exact hnot hmodel
      · exact hcloud hconverts
    · intro hcon
      cases hcon
    · intro hok
      cases hok
  have hrest : loadRest doc dm = readFastpathPorts doc { dm₁ with cloudDeployment } := by
    simp only [loadRest, hselect, hread, ok_bind]
  rw [hrest]
  rcases readFastpathPorts_cases { dm₁ with cloudDeployment } h with
    ⟨hports, hrun⟩ | ⟨hports, hreturned, hok⟩
  · exact .inl ⟨⟨hchosen, .inr ⟨hmodel, hcloud, hports⟩⟩, _, hrun, hapi₁⟩
  · refine .inr ⟨?_, hreturned, fun dm' hrun => hok dm' hrun ⟨hapi₁, hmodel₁⟩⟩
    rintro ⟨-, hnot | ⟨-, -, hrejected⟩⟩
    · exact hnot hmodel
    · exact hports hrejected

/-- A chosen API is not 0. -/
theorem ApiLoaded.api_ne_zero {dm : Loaded} (h : ApiLoaded doc dm) : dm.api ≠ 0 := by
  rcases h with ⟨-, hapi, -⟩ | ⟨-, hapi, -⟩
  · rw [hapi]
    decide
  · rw [hapi]
    decide

theorem startDatapathCore_of_zero {dm : Loaded} (h : dm.api = 0) : startDatapathCore dm = none := by
  simp [startDatapathCore, h, API_VALUE_DPDK, API_VALUE_CNDP, API_VALUE_AFPACKET]

end Whole

/-- **When a rejected configuration starts nothing**: unless it is rejected late, for its model or
for its list of fast-path ports. -/
theorem rejection_starts_nothing_iff (doc : JsonValue) :
    RejectionStartsNothing doc ↔ ¬ LateRejection doc := by
  cases hmembers : doc.members with
  | none =>
      -- not an object: the first question throws
      have hthrown : loadAndParseConfigFile doc {} = .error .thrown := by
        simp only [loadAndParseConfigFile, checkString, JsonValue.isMember, hmembers,
          Option.map_none, demand, error_bind]
      refine iff_of_true ⟨fun dm hrun => ?_, fun dm hrun => ?_⟩ ?_
      · rw [hthrown] at hrun
        cases hrun
      · rw [hthrown] at hrun
        cases hrun
      · rintro ⟨hchosen, -⟩
        obtain ⟨name, hname⟩ := hchosen.model
        obtain ⟨members, hsome⟩ := JsonValue.exists_members_of_find hname
        rw [hmembers] at hsome
        cases hsome
  | some members =>
      rcases loadAndParseConfigFile_cases hmembers with ⟨hchosen, dm, hapi, hload⟩ | ⟨hnot, hearly⟩
      · rcases loadRest_cases hmembers hchosen hapi with
          ⟨hlate, dm', hrun, hapi'⟩ | ⟨hlate, hreturned, hok⟩
        · refine iff_of_false (fun hnothing => ?_) (not_not.mpr hlate)
          exact hapi'.api_ne_zero (hnothing.rejected dm' (hload.trans hrun)).1
        · refine iff_of_true ⟨fun dm' hrun => ?_, fun dm' hrun => ?_⟩ hlate
          · exact absurd (hload.symm.trans hrun) (hreturned dm')
          · exact hok dm' (hload.symm.trans hrun)
      · refine iff_of_true ⟨fun dm hrun => ?_, fun dm hrun => ?_⟩ fun hlate => hnot hlate.1
        · rcases hearly with hthrown | ⟨dm', hearly, hzero⟩
          · rw [hthrown] at hrun
            cases hrun
          · rw [hearly] at hrun
            cases hrun
            exact ⟨hzero, startDatapathCore_of_zero hzero⟩
        · rcases hearly with hthrown | ⟨dm', hearly, -⟩
          · rw [hthrown] at hrun
            cases hrun
          · rw [hearly] at hrun
            cases hrun

/-- A CNDP configuration for the master-worker model in which the section on workers is
missing. -/
def noWorkers : JsonValue :=
  .object [(API_TAG, .string API_VALUE_CNDP_TAG),
    (MODEL_TAG, .string MODEL_VALUE_MASTER_WORKER_TAG), (CNDP_DATAPATH_TAG, .object [])]

/-- **A missing section starts CNDP**: the configuration is rejected and the datapath launched. -/
theorem noWorkers_starts_cndp :
    (∃ dm, loadAndParseConfigFile noWorkers {} = .error (.returned dm) ∧ dm.api = API_VALUE_CNDP ∧
        startDatapathCore dm = some .cndp) ∧
      ¬ RejectionStartsNothing noWorkers := by
  have hrun : loadAndParseConfigFile noWorkers {} = .error (.returned
      { api := API_VALUE_CNDP, datapathConfiguration := .object [],
        callbackwrapper := some .cndp }) := rfl
  refine ⟨⟨_, hrun, rfl, rfl⟩, fun h => ?_⟩
  exact absurd (h.rejected _ hrun).1 (by decide)

end UdxFastpath
