import TurboAccess.Client.Retry
import TurboAccess.Lib.Machine
import Mathlib.Data.List.DropRight

/-!
# The channels of a client

A client opens a channel to the control plane, and one to the GDS data plane if
that has an endpoint of its own, and builds its three stubs on them.  The
constructor tries; `Initialize` tries again unless there is a channel to the
control plane already.

A channel to the control plane is all that is asked for.  Where the channel to
the data plane has failed when that to the control plane succeeded, no later
`Initialize` opens it: the client initializes, and sends its GDS chunks to the
control plane for good.
-/

namespace TurboAccess
namespace Client

/-- Strip the slashes at the end. -/
def trimTrailingSlash (endpoint : String) : String :=
  String.ofList (endpoint.toList.rdropWhile (· == '/'))

structure CoreOptions where
  endpoint : String
  gdsDataEndpoint : String
  asyncWorkerThreads : Nat
  deriving DecidableEq

/-- Whether the channels can be opened, if that is tried. -/
structure ChannelAnswers where
  control : Bool
  gdsData : Bool
  deriving DecidableEq

/-! ## Channels -/

/-- The channels, each with the endpoint that it leads to. -/
structure ChannelRegistry where
  baidu : Option String
  gdsData : Option String
  lastInitError : Option Error
  deriving DecidableEq

namespace ChannelRegistry

def ready (registry : ChannelRegistry) : Bool := registry.baidu.isSome

def baiduStd (registry : ChannelRegistry) : Option String := registry.baidu

/-- The channel to the GDS data plane, or else that to the control plane. -/
def gdsDataStd (registry : ChannelRegistry) : Option String :=
  registry.gdsData.or registry.baidu

def emptyEndpoint : Error := makeInvalidArgument "endpoint must not be empty"

def controlChannelFailed (endpoint : String) : Error :=
  makeError .rpcError
    ("Failed to initialize shared baidu_std channel: " ++ endpoint) true

def gdsChannelFailed (endpoint : String) : Error :=
  makeError .rpcError
    ("Failed to initialize gds_data channel: " ++ endpoint) true

/-- Fail, and remember why. -/
def fail (registry : ChannelRegistry) (error : Error) :
    ChannelRegistry × Result Unit :=
  ({ registry with lastInitError := some error }, .error error)

/-- Open the channels, unless that to the control plane is open. -/
def initializeChannels
    (registry : ChannelRegistry)
    (options : CoreOptions)
    (answers : ChannelAnswers) : ChannelRegistry × Result Unit :=
  let endpoint := trimTrailingSlash options.endpoint
  let gdsEndpoint := trimTrailingSlash options.gdsDataEndpoint
  if registry.ready then (registry, .ok ())
  else if options.endpoint = "" then registry.fail emptyEndpoint
  else if answers.control = false then
    registry.fail (controlChannelFailed endpoint)
  else
    let registry := { registry with baidu := some endpoint }
    if options.gdsDataEndpoint = "" then
      ({ registry with lastInitError := none }, .ok ())
    else if answers.gdsData = false then
      registry.fail (gdsChannelFailed gdsEndpoint)
    else
      ({ registry with gdsData := some gdsEndpoint, lastInitError := none },
        .ok ())

/-- The constructor opens the channels if there is an endpoint, and only
remembers a failure. -/
def new (options : CoreOptions) (answers : ChannelAnswers) : ChannelRegistry :=
  if options.endpoint = "" then ⟨none, none, none⟩
  else (initializeChannels ⟨none, none, none⟩ options answers).1

end ChannelRegistry

/-! ## The client -/

/-- A client between calls.  A stub is known by the endpoint of its channel, the
executor by its number of workers. -/
structure ClientCore where
  options : CoreOptions
  channels : ChannelRegistry
  metadataStub : Option String
  gdsDataStub : Option String
  rdmaDataPlaneStub : Option String
  rdmaAvailable : Bool
  asyncExecutor : Option Nat
  uploadCoordinator : Bool
  initialized : Bool
  deriving DecidableEq

namespace ClientCore

/-- A client that has been constructed. -/
def new (options : CoreOptions) (answers : ChannelAnswers) : ClientCore where
  options := options
  channels := .new options answers
  metadataStub := none
  gdsDataStub := none
  rdmaDataPlaneStub := none
  rdmaAvailable := false
  asyncExecutor := none
  uploadCoordinator := false
  initialized := false

/-- Build a stub on a channel, unless it has been built. -/
def initializeStub (stub channel : Option String) (refusal : String) :
    Result (Option String) :=
  if stub.isSome then .ok stub
  else if channel.isSome then .ok channel
  else .error (makeInvalidArgument refusal)

def initializeMetadataClient (core : ClientCore) : Result (Option String) :=
  initializeStub core.metadataStub core.channels.baiduStd
    "MetadataClient: shared baidu_std channel is not initialized"

def initializeGdsDataClient (core : ClientCore) : Result (Option String) :=
  initializeStub core.gdsDataStub core.channels.gdsDataStd
    "GdsDataClient: gds_data channel is not initialized"

def initializeRdmaDataPlaneClient (core : ClientCore) :
    Result (Option String) :=
  initializeStub core.rdmaDataPlaneStub core.channels.baiduStd
    "RdmaDataPlaneClient: shared baidu_std channel is not initialized"

/-- Workers of the asynchronous calls: as configured, or half of the
processors. -/
def workerCount (options : CoreOptions) (hardwareConcurrency : Nat) : Nat :=
  if options.asyncWorkerThreads = 0 then max 1 (hardwareConcurrency / 2)
  else options.asyncWorkerThreads

/-- Build the stubs, and what depends on them. -/
def assemble (core : ClientCore) (hardwareConcurrency : Nat) :
    ClientCore × Result Unit :=
  match core.initializeMetadataClient with
  | .error error => (core, .error error)
  | .ok metadataStub =>
      let core := { core with metadataStub }
      match core.initializeGdsDataClient with
      | .error error => (core, .error error)
      | .ok gdsDataStub =>
          let core := { core with gdsDataStub }
          match core.initializeRdmaDataPlaneClient with
          | .error error => (core, .error error)
          | .ok rdmaDataPlaneStub =>
              ({ core with
                  rdmaDataPlaneStub
                  rdmaAvailable := true
                  asyncExecutor :=
                    some (workerCount core.options hardwareConcurrency)
                  uploadCoordinator := true
                  initialized := true }, .ok ())

/-- Open the channels if that is necessary, and build the rest. -/
def initializeCore
    (core : ClientCore)
    (answers : ChannelAnswers)
    (hardwareConcurrency : Nat) : ClientCore × Result Unit :=
  if core.initialized then (core, .ok ())
  else if core.options.endpoint = "" then
    (core, .error (makeInvalidArgument "endpoint must not be empty"))
  else if core.channels.ready then core.assemble hardwareConcurrency
  else
    match core.channels.initializeChannels core.options answers with
    | (channels, .error error) => ({ core with channels }, .error error)
    | (channels, .ok _) =>
        ({ core with channels }).assemble hardwareConcurrency

/-- Tear down what `Initialize` has built; the channels stay. -/
def shutdown (core : ClientCore) : ClientCore :=
  { core with
    asyncExecutor := none
    uploadCoordinator := false
    metadataStub := none
    gdsDataStub := none
    rdmaDataPlaneStub := none
    rdmaAvailable := false
    initialized := false }

inductive Call
  | initializeCore (answers : ChannelAnswers) (hardwareConcurrency : Nat)
  | shutdown
  deriving DecidableEq

def step (core : ClientCore) : Call → Option ClientCore
  | .initializeCore answers hardwareConcurrency =>
      some (core.initializeCore answers hardwareConcurrency).1
  | .shutdown => some core.shutdown

/-- All runs of a client that has been constructed with some answers. -/
def machine : Machine ClientCore Call where
  initial core := ∃ options answers, core = new options answers
  step := step

/-! ## Where the stubs lead -/

/-- What the attempt of a call to open channels would come to. -/
def Call.answers? : Call → Option ChannelAnswers
  | .initializeCore answers _ => some answers
  | .shutdown => none

/-- The attempt that opened the channel to the control plane: the first one at
which it could be opened, if there is an endpoint. -/
def settled
    (options : CoreOptions)
    (first : ChannelAnswers)
    (calls : List Call) : Option ChannelAnswers :=
  if options.endpoint = "" then none
  else (first :: calls.filterMap Call.answers?).find? (·.control)

/-- The channel to the data plane is missed at an attempt that opens the one to
the control plane. -/
def Misses (options : CoreOptions) (answers : ChannelAnswers) : Prop :=
  options.gdsDataEndpoint ≠ "" ∧ answers.gdsData = false

instance (options : CoreOptions) (answers : ChannelAnswers) :
    Decidable (Misses options answers) :=
  inferInstanceAs (Decidable (_ ∧ _))

/-- Where the GDS chunks go. -/
def gdsTarget (options : CoreOptions) (answers : ChannelAnswers) : String :=
  if options.gdsDataEndpoint = "" ∨ answers.gdsData = false then
    trimTrailingSlash options.endpoint
  else trimTrailingSlash options.gdsDataEndpoint

/-- The stubs of a client that has been initialized lead where the attempt that
opened the control channel has left them, and an error tells of a missing
channel.  `Initialize` reports success once an attempt has opened the control
channel, and otherwise if its own attempt opens all that there is to open. -/
structure Routed
    (options : CoreOptions)
    (first : ChannelAnswers)
    (calls : List Call)
    (core : ClientCore) : Prop where
  routes : core.initialized = true → ∃ answers,
    settled options first calls = some answers ∧
      core.metadataStub = some (trimTrailingSlash options.endpoint) ∧
        core.rdmaDataPlaneStub = some (trimTrailingSlash options.endpoint) ∧
          core.gdsDataStub = some (gdsTarget options answers) ∧
            (core.channels.lastInitError.isSome ↔ Misses options answers)
  reports_iff : ∀ answers hardwareConcurrency,
    (core.initializeCore answers hardwareConcurrency).2 = .ok () ↔
      settled options first calls ≠ none ∨
        options.endpoint ≠ "" ∧ answers.control = true ∧
          ¬Misses options answers

/-- The channels that an attempt has opened. -/
def Opened
    (options : CoreOptions)
    (attempt : Option ChannelAnswers)
    (channels : ChannelRegistry) : Prop :=
  match attempt with
  | none => channels.baidu = none ∧ channels.gdsData = none
  | some answers =>
      channels.baidu = some (trimTrailingSlash options.endpoint) ∧
        channels.gdsDataStd = some (gdsTarget options answers) ∧
          (channels.lastInitError.isSome ↔ Misses options answers)

/-- An attempt counts if the endpoint is there and the control channel can be
opened. -/
def effective (options : CoreOptions) (answers : ChannelAnswers) :
    Option ChannelAnswers :=
  if options.endpoint = "" ∨ answers.control = false then none
  else some answers

section Channels

variable
  {options : CoreOptions}
  {attempt : Option ChannelAnswers}
  {channels : ChannelRegistry}

/-- An attempt opens what it can, unless an earlier one has. -/
theorem Opened.initializeChannels
    (opened : Opened options attempt channels)
    (answers : ChannelAnswers) :
    Opened options (attempt.or (effective options answers))
      (channels.initializeChannels options answers).1 := by
  cases attempt with
  | some earlier =>
      have ready : channels.ready = true := by
        simp [ChannelRegistry.ready, opened.1]
      simpa [ChannelRegistry.initializeChannels, ready] using opened
  | none =>
      obtain ⟨noControl, noData⟩ := opened
      have closed : channels.ready = false := by
        simp [ChannelRegistry.ready, noControl]
      by_cases nowhere : options.endpoint = ""
      · simp [ChannelRegistry.initializeChannels, closed, nowhere, effective,
          ChannelRegistry.fail, Opened, noControl, noData]
      · rcases answers with ⟨control, gdsData⟩
        by_cases shared : options.gdsDataEndpoint = "" <;>
          cases control <;> cases gdsData <;>
            simp [ChannelRegistry.initializeChannels, closed, nowhere, shared,
              effective, ChannelRegistry.fail, Opened, noControl, noData,
              Misses, gdsTarget, ChannelRegistry.gdsDataStd]

/-- The constructor is the first attempt. -/
theorem opened_new (options : CoreOptions) (answers : ChannelAnswers) :
    Opened options (effective options answers)
      (ChannelRegistry.new options answers) := by
  by_cases nowhere : options.endpoint = ""
  · simp [ChannelRegistry.new, nowhere, effective, Opened]
  · have closed : Opened options none ⟨none, none, none⟩ := ⟨rfl, rfl⟩
    have opened := closed.initializeChannels answers
    simpa [ChannelRegistry.new, nowhere] using opened

end Channels

/-- Each stub is on the channel that it belongs to, if it has been built; a
client that has been initialized has all of them. -/
structure Wired (attempt : Option ChannelAnswers) (core : ClientCore) :
    Prop where
  opened : Opened core.options attempt core.channels
  metadata : core.metadataStub = none ∨
    core.metadataStub = core.channels.baiduStd
  gdsData : core.gdsDataStub = none ∨
    core.gdsDataStub = core.channels.gdsDataStd
  rdmaDataPlane : core.rdmaDataPlaneStub = none ∨
    core.rdmaDataPlaneStub = core.channels.baiduStd
  complete : core.initialized = true → core.channels.ready = true ∧
    core.metadataStub = core.channels.baiduStd ∧
      core.gdsDataStub = core.channels.gdsDataStd ∧
        core.rdmaDataPlaneStub = core.channels.baiduStd

section Wiring

variable {core : ClientCore} {attempt : Option ChannelAnswers}

/-- A stub ends on its channel, built now or before. -/
theorem initializeStub_eq_ok
    {stub channel : Option String}
    (before : stub = none ∨ stub = channel)
    (isOpen : channel.isSome)
    (refusal : String) :
    initializeStub stub channel refusal = .ok channel := by
  rcases before with rfl | rfl <;> simp [initializeStub, isOpen]

/-- Open channels have been opened by an attempt. -/
theorem Wired.attempted
    (wired : Wired attempt core)
    (ready : core.channels.ready = true) :
    ∃ answers, attempt = some answers := by
  cases attempt with
  | some answers => exact ⟨answers, rfl⟩
  | none =>
      have closed := wired.opened.1
      simp [ChannelRegistry.ready, closed] at ready

/-- Where there is a channel to the control plane, all stubs are built. -/
theorem Wired.assemble_eq
    (wired : Wired attempt core)
    (ready : core.channels.ready = true)
    (hardwareConcurrency : Nat) :
    core.assemble hardwareConcurrency =
      ({ core with
          metadataStub := core.channels.baiduStd
          gdsDataStub := core.channels.gdsDataStd
          rdmaDataPlaneStub := core.channels.baiduStd
          rdmaAvailable := true
          asyncExecutor := some (workerCount core.options hardwareConcurrency)
          uploadCoordinator := true
          initialized := true }, .ok ()) := by
  have control : core.channels.baiduStd.isSome := ready
  have data : core.channels.gdsDataStd.isSome := by
    simp [ChannelRegistry.gdsDataStd, show core.channels.baidu.isSome from ready]
  simp only [ClientCore.assemble, initializeMetadataClient,
    initializeGdsDataClient, initializeRdmaDataPlaneClient,
    initializeStub_eq_ok wired.metadata control,
    initializeStub_eq_ok wired.gdsData data,
    initializeStub_eq_ok wired.rdmaDataPlane control]

theorem Wired.assemble
    (wired : Wired attempt core)
    (ready : core.channels.ready = true)
    (hardwareConcurrency : Nat) :
    Wired attempt (core.assemble hardwareConcurrency).1 := by
  rw [wired.assemble_eq ready]
  exact ⟨wired.opened, .inr rfl, .inr rfl, .inr rfl,
    fun _ => ⟨ready, rfl, rfl, rfl⟩⟩

/-- Opening channels keeps what there is of stubs: there was none. -/
theorem Wired.withChannels
    (wired : Wired attempt core)
    (closed : core.channels.ready = false)
    (answers : ChannelAnswers) :
    Wired (attempt.or (effective core.options answers))
      { core with
        channels :=
          (core.channels.initializeChannels core.options answers).1 } := by
  have noControl : core.channels.baiduStd = none := by
    simpa [ChannelRegistry.ready, ChannelRegistry.baiduStd] using closed
  have noAttempt : attempt = none := by
    cases attempt with
    | none => rfl
    | some earlier => exact absurd wired.opened.1 (by
        rw [show core.channels.baidu = none from noControl]
        exact nofun)
  have noData : core.channels.gdsDataStd = none := by
    have opened := wired.opened
    subst noAttempt
    simp [ChannelRegistry.gdsDataStd, opened.1, opened.2]
  have idle : core.initialized = false := by
    by_contra runs
    have ready := (wired.complete (by simpa using runs)).1
    rw [closed] at ready
    cases ready
  refine ⟨wired.opened.initializeChannels answers, .inl ?_, .inl ?_, .inl ?_, ?_⟩
  · exact wired.metadata.elim id fun same => same.trans noControl
  · exact wired.gdsData.elim id fun same => same.trans noData
  · exact wired.rdmaDataPlane.elim id fun same => same.trans noControl
  · intro runs
    rw [idle] at runs
    cases runs

/-- Channels that have been initialized include one to the control plane. -/
theorem ready_of_ok
    {options : CoreOptions}
    {answers : ChannelAnswers}
    {channels opened : ChannelRegistry}
    (succeeded : channels.initializeChannels options answers =
      (opened, .ok ())) :
    opened.ready = true := by
  revert succeeded
  fun_cases ChannelRegistry.initializeChannels channels options answers
  case case1 ready =>
    intro same
    cases same
    exact ready
  case case4 | case6 =>
    intro same
    cases same
    rfl
  case case2 | case3 | case5 => exact nofun

@[simp] theorem assemble_options
    (core : ClientCore)
    (hardwareConcurrency : Nat) :
    (core.assemble hardwareConcurrency).1.options = core.options := by
  fun_cases ClientCore.assemble core hardwareConcurrency <;> rfl

@[simp] theorem initializeCore_options
    (core : ClientCore)
    (answers : ChannelAnswers)
    (hardwareConcurrency : Nat) :
    (core.initializeCore answers hardwareConcurrency).1.options =
      core.options := by
  fun_cases ClientCore.initializeCore core answers hardwareConcurrency <;>
    simp

/-- `Initialize` is one more attempt. -/
theorem Wired.initializeCore
    (wired : Wired attempt core)
    (answers : ChannelAnswers)
    (hardwareConcurrency : Nat) :
    Wired (attempt.or (effective core.options answers))
      (core.initializeCore answers hardwareConcurrency).1 := by
  have earlier : core.channels.ready = true →
      attempt.or (effective core.options answers) = attempt := by
    intro ready
    obtain ⟨first, rfl⟩ := wired.attempted ready
    rfl
  fun_cases ClientCore.initializeCore core answers hardwareConcurrency
  case case1 runs =>
      rw [earlier (wired.complete runs).1]
      exact wired
  case case2 _ nowhere =>
      simpa [effective, nowhere] using wired
  case case3 _ _ ready =>
      rw [earlier ready]
      exact wired.assemble ready hardwareConcurrency
  case case4 closed channels error failed =>
      have kept := wired.withChannels (by simpa using closed) answers
      rw [failed] at kept
      exact kept
  case case5 closed channels _ opened =>
      have kept := wired.withChannels (by simpa using closed) answers
      rw [opened] at kept
      exact kept.assemble (ready_of_ok opened) hardwareConcurrency

theorem Wired.shutdown (wired : Wired attempt core) :
    Wired attempt core.shutdown :=
  ⟨wired.opened, .inl rfl, .inl rfl, .inl rfl, nofun⟩

/-- The channels are open once an attempt has opened them. -/
theorem Wired.ready_iff (wired : Wired attempt core) :
    core.channels.ready = true ↔ attempt ≠ none := by
  constructor
  · intro ready
    obtain ⟨answers, rfl⟩ := wired.attempted ready
    simp
  · intro opened
    cases attempt with
    | none => exact absurd rfl opened
    | some answers => simp [ChannelRegistry.ready, wired.opened.1]

/-- Opening channels succeeds where they are open, or can all be opened. -/
theorem initializeChannels_ok_iff
    (channels : ChannelRegistry)
    (options : CoreOptions)
    (answers : ChannelAnswers) :
    (channels.initializeChannels options answers).2 = .ok () ↔
      channels.ready = true ∨
        options.endpoint ≠ "" ∧ answers.control = true ∧
          ¬Misses options answers := by
  fun_cases ChannelRegistry.initializeChannels channels options answers <;>
    simp_all [ChannelRegistry.fail, Misses]

/-- `Initialize` succeeds where the channels are open, or can all be opened. -/
theorem Wired.initializeCore_ok_iff
    (wired : Wired attempt core)
    (named : attempt ≠ none → core.options.endpoint ≠ "")
    (answers : ChannelAnswers)
    (hardwareConcurrency : Nat) :
    (core.initializeCore answers hardwareConcurrency).2 = .ok () ↔
      attempt ≠ none ∨
        core.options.endpoint ≠ "" ∧ answers.control = true ∧
          ¬Misses core.options answers := by
  rw [← wired.ready_iff] at named ⊢
  rw [← initializeChannels_ok_iff]
  fun_cases ClientCore.initializeCore core answers hardwareConcurrency
  case case1 runs =>
      simp [ChannelRegistry.initializeChannels, (wired.complete runs).1]
  case case2 _ nowhere =>
      have closed : ¬core.channels.ready = true := fun ready =>
        named ready nowhere
      simp [ChannelRegistry.initializeChannels, closed, nowhere,
        ChannelRegistry.fail]
  case case3 _ _ ready =>
      simp [wired.assemble_eq ready, ChannelRegistry.initializeChannels, ready]
  case case4 closed channels error failed =>
      simp [failed]
  case case5 closed channels _ opened =>
      have kept := wired.withChannels (by simpa using closed) answers
      rw [opened] at kept
      simp [opened, kept.assemble_eq (ready_of_ok opened)]

end Wiring

/-- The attempts up to a call settle what those before it settled, or what its
own attempt does. -/
theorem settled_append
    (options : CoreOptions)
    (first : ChannelAnswers)
    (calls : List Call)
    (call : Call) :
    settled options first (calls ++ [call]) =
      (settled options first calls).or
        (call.answers?.bind (effective options)) := by
  unfold settled
  split_ifs with nowhere
  · cases call <;> simp [Call.answers?, effective, nowhere]
  · rw [List.filterMap_append, ← List.cons_append, List.find?_append]
    congr 1
    cases call with
    | shutdown => rfl
    | initializeCore answers hardwareConcurrency =>
        cases control : answers.control <;>
          simp [Call.answers?, effective, nowhere, control]

/-- Without an endpoint no attempt settles anything. -/
theorem endpoint_of_settled
    {options : CoreOptions}
    {first : ChannelAnswers}
    {calls : List Call}
    (opened : settled options first calls ≠ none) :
    options.endpoint ≠ "" := by
  intro nowhere
  exact opened (if_pos nowhere)

/-- Where the stubs of a client lead, and what `Initialize` reports, in every
run. -/
theorem routed_of_path
    {options : CoreOptions}
    {first : ChannelAnswers}
    {calls : List Call}
    {core : ClientCore}
    (path : machine.Path Machine.always (new options first) calls core) :
    Routed options first calls core := by
  let property : List Call → ClientCore → Prop := fun prior core =>
    core.options = options ∧ Wired (settled options first prior) core
  have beginning : property [] (new options first) := by
    refine ⟨rfl, ?_, .inl rfl, .inl rfl, .inl rfl, nofun⟩
    have opened := opened_new options first
    have same : settled options first [] = effective options first := by
      cases control : first.control <;>
        by_cases nowhere : options.endpoint = "" <;>
          simp [settled, effective, nowhere, control]
    rw [same]
    exact opened
  have kept : property ([] ++ calls) core := by
    refine path.history ?_ beginning
    rintro prior state call next ⟨rfl, wired⟩ _ stepped
    simp only [property, settled_append]
    cases call with
    | shutdown =>
        cases stepped
        refine ⟨rfl, ?_⟩
        simpa [Call.answers?] using wired.shutdown
    | initializeCore answers hardwareConcurrency =>
        cases stepped
        exact ⟨initializeCore_options state answers hardwareConcurrency,
          wired.initializeCore answers hardwareConcurrency⟩
  obtain ⟨same, wired⟩ := kept
  refine ⟨?_, ?_⟩
  · intro runs
    obtain ⟨ready, metadata, gdsData, rdmaDataPlane⟩ := wired.complete runs
    obtain ⟨answers, attempt⟩ := wired.attempted ready
    have opened := wired.opened
    rw [attempt, same] at opened
    exact ⟨answers, attempt, metadata.trans opened.1,
      rdmaDataPlane.trans opened.1, gdsData.trans opened.2.1, opened.2.2⟩
  · intro answers hardwareConcurrency
    rw [← same] at wired ⊢
    exact wired.initializeCore_ok_iff endpoint_of_settled answers
      hardwareConcurrency

private def splitPlanes : CoreOptions := ⟨"proxy:8080/", "backend:8090", 4⟩

/-- The constructor opens the control channel only; `Initialize` succeeds, also
a second time, when the data plane could be reached. -/
private def missedDataPlane : List Call :=
  [.initializeCore ⟨true, true⟩ 8, .shutdown, .initializeCore ⟨true, true⟩ 8]

/-- The GDS chunks of the client go to the control plane. -/
theorem routed_missedDataPlane :
    ∃ core, Routed splitPlanes ⟨true, false⟩ missedDataPlane core ∧
      core.initialized = true ∧ core.gdsDataStub = some "proxy:8080" := by
  have executed : (machine.run Machine.always (new splitPlanes ⟨true, false⟩)
      missedDataPlane).map (fun core => (core.initialized, core.gdsDataStub)) =
        some (true, some "proxy:8080") := by
    decide
  obtain ⟨core, ended, observed⟩ := Option.map_eq_some_iff.mp executed
  exact ⟨core, routed_of_path (Machine.path_of_run ended),
    Prod.mk.inj observed⟩

end ClientCore
end Client
end TurboAccess
