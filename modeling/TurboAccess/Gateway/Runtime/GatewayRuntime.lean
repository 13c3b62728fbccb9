import TurboAccess.Gateway.Types
import TurboAccess.Lib.Lifetimes
import TurboAccess.Lib.Machine

/-!
# The life of a gateway

`Initialize` builds the components of a gateway on top of each other and starts
their threads; it stops where a component does not start, and leaves what it
has built.  `Shutdown` stops what runs and destroys everything.

A component holds references to those it was built from, a thread to those it
works on, and the server to the services that it calls.  Calls of `Initialize`
and `Shutdown` in any order are refused exactly where they would leave such a
reference behind, which is the case of a second `Initialize` after one that
has failed.

What brpc's server answers when a service is added to it or when it is started
is not decided here.  That it refuses a service which it has accepted before,
also when it was stopped in between, is assumed by name where it is used.
-/

namespace TurboAccess
namespace Gateway

/-- What a gateway is built of: its components, their threads, and the server
with the calls that it has accepted. -/
inductive Component
  | backend
  | sessions
  | sessionApp
  | metadata
  | multipartStore
  | multipartCoordinator
  | multipartApp
  | ioPool
  | ioWorkers
  | gdsExecutor
  | cuObjServer
  | bufferPool
  | gdsMultipartHandler
  | ucxExecutor
  | ucxProgress
  | ucxMultipartHandler
  | sessionOpener
  | controlPlane
  | rdmaDataPlane
  | server
  | sessionSweeper
  | sweeperThread
  deriving DecidableEq, Repr

namespace Component

/-- What a component is built from. -/
def needs : Component → List Component
  | .backend | .sessions | .multipartStore | .ioPool | .cuObjServer => []
  | .sessionApp => [.sessions]
  | .metadata => [.backend]
  | .multipartCoordinator => [.backend, .multipartStore]
  | .multipartApp => [.multipartCoordinator]
  | .ioWorkers => [.ioPool]
  | .gdsExecutor | .ucxExecutor => [.backend, .metadata]
  | .bufferPool => [.cuObjServer]
  | .gdsMultipartHandler => [.gdsExecutor, .multipartCoordinator]
  | .ucxProgress => [.ucxExecutor]
  | .ucxMultipartHandler => [.ucxExecutor, .multipartCoordinator]
  | .sessionOpener => [.sessions]
  | .controlPlane =>
      [.sessionApp, .metadata, .sessionOpener, .multipartApp, .ioPool]
  | .rdmaDataPlane => [.ucxExecutor, .ucxMultipartHandler]
  | .server => [.controlPlane]
  | .sessionSweeper => [.sessions, .multipartStore, .multipartCoordinator]
  | .sweeperThread => [.sessionSweeper]

/-- What a component is given a pointer to, which may be null. -/
def takes : Component → List Component
  | .sessionOpener => [.gdsExecutor, .ucxExecutor]
  | .controlPlane => [.gdsExecutor, .gdsMultipartHandler]
  | .server => [.rdmaDataPlane]
  | _ => []

/-- What a component may refer to. -/
def links (component : Component) : List Component :=
  component.needs ++ component.takes

/-- What the destructor of a component destroys: first what it has started. -/
def destructor : Component → List Component
  | .ioPool => [.ioWorkers, .ioPool]
  | .gdsExecutor => [.bufferPool, .cuObjServer, .gdsExecutor]
  | .ucxExecutor => [.ucxProgress, .ucxExecutor]
  | .sessionSweeper => [.sweeperThread, .sessionSweeper]
  | component => [component]

end Component

/-- Services that are added to the server. -/
inductive Service
  | controlPlane
  | rdmaDataPlane
  deriving DecidableEq, Repr

/-- The options that decide what is built. -/
structure GatewayOptions where
  bindHost : String
  brpcPort : Nat
  gdsEnable : Bool
  ucxEnable : Bool
  deriving DecidableEq, Repr

/-- What comes of starting the executors, of adding services to the server, and
of starting it. -/
structure StartAnswers where
  gds : Result Unit
  ucx : Result Unit
  addService : Service → Bool
  server : Bool

/-- A gateway between calls, with the services that its server has accepted
since it was constructed. -/
structure GatewayRuntime where
  options : GatewayOptions
  heap : Heap Component
  accepted : List Service
  started : Bool

namespace GatewayRuntime

/-- A gateway that has been constructed. -/
def init (options : GatewayOptions) : GatewayRuntime :=
  ⟨options, .empty, [], false⟩

/-! ## Initialize and Shutdown -/

/-- Build a component in its place: what was there is destroyed. -/
def make (component : Component) (runtime : GatewayRuntime) :
    Option GatewayRuntime := do
  let cleared ← runtime.heap.resetAll component.destructor
  let heap ← cleared.create component
    (component.needs ++ component.takes.filter fun other => cleared.Alive other)
  return { runtime with heap }

/-- Build components one after the other. -/
def makeAll (runtime : GatewayRuntime) : List Component → Option GatewayRuntime
  | [] => some runtime
  | component :: rest => (runtime.make component).bind (makeAll · rest)

/-- A part of `Initialize`: the gateway afterwards, and whether to go on. -/
abbrev Stage := GatewayRuntime → Option (GatewayRuntime × Result Unit)

/-- One part of `Initialize`, and another one if it has succeeded. -/
def Stage.andThen (first second : Stage) : Stage := fun runtime =>
  (first runtime).bind fun
    | (runtime, .ok _) => second runtime
    | (runtime, .error error) => some (runtime, .error error)

/-- Build components and go on. -/
def build (components : List Component) : Stage := fun runtime =>
  (runtime.makeAll components).map (·, .ok ())

/-- The components that every gateway has. -/
def assemble : Stage :=
  build [.backend, .sessions, .sessionApp, .metadata, .multipartStore,
    .multipartCoordinator, .multipartApp, .ioPool, .ioWorkers]

/-- Build and start an executor, and build its handler of multipart uploads. -/
def startExecutor
    (enabled : Bool)
    (executor : Component)
    (running : List Component)
    (handler : Component)
    (answer : Result Unit) : Stage := fun runtime =>
  if enabled then
    (runtime.make executor).bind fun runtime =>
      match answer with
      | .error error => some (runtime, .error error)
      | .ok _ => build (running ++ [handler]) runtime
  else some (runtime, .ok ())

def startGds (answers : StartAnswers) : Stage := fun runtime =>
  startExecutor runtime.options.gdsEnable .gdsExecutor
    [.cuObjServer, .bufferPool] .gdsMultipartHandler answers.gds runtime

def startUcx (answers : StartAnswers) : Stage := fun runtime =>
  startExecutor runtime.options.ucxEnable .ucxExecutor [.ucxProgress]
    .ucxMultipartHandler answers.ucx runtime

/-- Add a service to the server, and fail if that refuses it. -/
def addService
    (answers : StartAnswers)
    (service : Service)
    (refusal : String) : Stage := fun runtime =>
  if answers.addService service then
    some ({ runtime with accepted := service :: runtime.accepted }, .ok ())
  else some (runtime, .error (makeError .internal refusal))

def openControlPlane (answers : StartAnswers) : Stage :=
  (build [.sessionOpener, .controlPlane]).andThen
    (addService answers .controlPlane
      "failed to register control-plane service")

def openRdmaDataPlane (answers : StartAnswers) : Stage := fun runtime =>
  if runtime.heap.Alive .ucxExecutor then
    (build [.rdmaDataPlane]).andThen
      (addService answers .rdmaDataPlane
        "failed to register rdma-data-plane service") runtime
  else some (runtime, .ok ())

def startServer (answers : StartAnswers) : Stage := fun runtime =>
  if answers.server then
    (runtime.makeAll [.server, .sessionSweeper, .sweeperThread]).map fun next =>
      ({ next with started := true }, .ok ())
  else
    some (runtime, .error (makeError .internal
      ("failed to start brpc server on " ++ runtime.options.bindHost ++ ":" ++
        toString runtime.options.brpcPort)))

/-- Build and start everything, unless that has been done. -/
def initializeGateway
    (runtime : GatewayRuntime)
    (answers : StartAnswers) : Option (GatewayRuntime × Result Unit) :=
  if runtime.started then some (runtime, .ok ())
  else
    assemble.andThen ((startGds answers).andThen ((startUcx answers).andThen
      ((openControlPlane answers).andThen ((openRdmaDataPlane answers).andThen
        (startServer answers))))) runtime

/-- What runs is stopped in this order. -/
def stops : List Component := [.sweeperThread, .server, .ioWorkers]

/-- Components are destroyed in this order. -/
def resets : List Component :=
  [.sessionSweeper, .controlPlane, .rdmaDataPlane, .sessionOpener,
    .gdsMultipartHandler, .gdsExecutor, .ucxProgress, .ucxMultipartHandler,
    .ucxExecutor, .ioPool, .multipartApp, .multipartCoordinator,
    .multipartStore, .metadata, .sessionApp, .sessions, .backend]

/-- Stop what runs, and destroy everything. -/
def shutdown (runtime : GatewayRuntime) : Option GatewayRuntime :=
  (runtime.heap.resetAll ((if runtime.started then stops else []) ++
    resets.flatMap Component.destructor)).map fun heap =>
      { runtime with heap, started := false }

/-- Calls of the owner. -/
inductive Call
  | initializeGateway (answers : StartAnswers)
  | shutdown

def step (runtime : GatewayRuntime) : Call → Option GatewayRuntime
  | .initializeGateway answers => (runtime.initializeGateway answers).map (·.1)
  | .shutdown => runtime.shutdown

/-- The calls of the owner in any order. -/
def machine : Machine GatewayRuntime Call where
  initial runtime := ∃ options, runtime = init options
  step := step

/-! ## Building -/

/-- The live components are the given ones; each refers to all that it was
built from, and to nothing else than it may. -/
structure Built (built : List Component) (heap : Heap Component) : Prop where
  alive : ∀ component, heap.Alive component ↔ component ∈ built
  conforms : heap.Conforms Component.links
  wired : ∀ entry ∈ heap.entries, entry.1.needs ⊆ entry.2

theorem built_empty : Built [] Heap.empty where
  alive := by simp
  conforms := Heap.conforms_empty _
  wired := nofun

/-- Components can be built one after the other: none is there yet, nor has
left anything behind, and each finds what it needs. -/
def Buildable : List Component → List Component → Prop
  | _, [] => True
  | built, component :: rest =>
      (component ∉ built ∧ ∀ object ∈ component.destructor, object ∉ built) ∧
        component.needs ⊆ built ∧ Buildable (component :: built) rest

instance decidableBuildable :
    ∀ built components, Decidable (Buildable built components)
  | _, [] => isTrue trivial
  | built, component :: rest =>
      have := decidableBuildable (component :: built) rest
      inferInstanceAs (Decidable (_ ∧ _ ∧ _))

theorem Built.congr
    {built others : List Component}
    {heap : Heap Component}
    (known : Built built heap)
    (same : ∀ component, component ∈ built ↔ component ∈ others) :
    Built others heap :=
  { known with
    alive := fun component => (known.alive component).trans (same component) }

section Building

variable
  {runtime : GatewayRuntime}
  {component : Component}
  {built components : List Component}

/-- Destroying what is not there changes nothing. -/
theorem resetAll_of_dead
    {heap : Heap Component}
    {objects : List Component}
    (dead : ∀ object ∈ objects, ¬heap.Alive object) :
    heap.resetAll objects = some heap := by
  induction objects with
  | nil => rfl
  | cons object rest inductionHypothesis =>
      have gone := dead object (by simp)
      have free : ¬heap.Referred object := fun referred => gone referred.alive
      have same : heap.drop object free = heap := by
        apply Heap.ext
        refine List.filter_eq_self.mpr fun entry member => decide_eq_true ?_
        rintro rfl
        exact gone (List.mem_map_of_mem member)
      rw [Heap.resetAll, Heap.reset_eq_some free, same]
      exact inductionHypothesis fun other listed => dead other (by simp [listed])

/-- A component is built where it is not there and finds what it needs. -/
theorem Built.make
    (known : Built built runtime.heap)
    (fresh : ∀ object ∈ component :: component.destructor, object ∉ built)
    (needs : component.needs ⊆ built) :
    ∃ heap, runtime.make component = some { runtime with heap } ∧
      Built (component :: built) heap := by
  have cleared : runtime.heap.resetAll component.destructor =
      some runtime.heap := by
    apply resetAll_of_dead
    intro object listed alive
    exact fresh object (by simp [listed]) ((known.alive object).mp alive)
  let references := component.needs ++
    component.takes.filter fun other => runtime.heap.Alive other
  have alive : ∀ other ∈ references, runtime.heap.Alive other := by
    intro other listed
    rcases List.mem_append.mp listed with needed | taken
    · exact (known.alive other).mpr (needs needed)
    · exact of_decide_eq_true (List.mem_filter.mp taken).2
  have absent : ¬runtime.heap.Alive component := fun present =>
    fresh component (by simp) ((known.alive component).mp present)
  refine ⟨runtime.heap.push component references alive, ?_, ?_, ?_, ?_⟩
  · simp only [GatewayRuntime.make, cleared, Option.bind_eq_bind,
      Option.bind_some]
    rw [Heap.create_eq_some alive absent]
    rfl
  · intro other
    rw [Heap.alive_push, known.alive other, List.mem_cons]
  · apply known.conforms.push
    refine List.append_subset.mpr ⟨List.subset_append_left _ _, ?_⟩
    exact List.Subset.trans (List.filter_subset_self _)
      (List.subset_append_right _ _)
  · intro entry member
    rcases List.mem_cons.mp member with rfl | older
    · exact List.subset_append_left _ _
    · exact known.wired entry older

/-- A buildable list of components is built. -/
theorem Built.makeAll
    (known : Built built runtime.heap)
    (buildable : Buildable built components) :
    ∃ heap, runtime.makeAll components = some { runtime with heap } ∧
      Built (built ++ components) heap := by
  induction components generalizing runtime built with
  | nil => exact ⟨runtime.heap, rfl, by simpa using known⟩
  | cons component rest inductionHypothesis =>
      obtain ⟨fresh, needs, buildable⟩ := buildable
      obtain ⟨heap, made, knownNext⟩ := known.make (by simpa using fresh) needs
      obtain ⟨finish, executed, knownFinish⟩ :=
        @inductionHypothesis { runtime with heap } _ knownNext buildable
      refine ⟨finish, ?_, knownFinish.congr ?_⟩
      · rw [GatewayRuntime.makeAll, made]
        exact executed
      · simp [or_left_comm]

end Building

/-! ## The parts of Initialize -/

/-- An idle gateway whose server has accepted the given services, where the
given components have been built. -/
structure Stands
    (options : GatewayOptions)
    (services : List Service)
    (built : List Component)
    (runtime : GatewayRuntime) : Prop where
  options_eq : runtime.options = options
  accepted_eq : runtime.accepted = services
  idle : runtime.started = false
  built : Built built runtime.heap

/-- Components that are neither nothing nor a gateway that serves. -/
def Unserved (built : List Component) : Prop :=
  .backend ∈ built ∧ .metadata ∈ built ∧ .server ∉ built

instance (built : List Component) : Decidable (Unserved built) :=
  inferInstanceAs (Decidable (_ ∧ _ ∧ _))

/-- A gateway that was left when a part of `Initialize` had failed: it is
neither empty nor running. -/
def Fallen (runtime : GatewayRuntime) : Prop :=
  runtime.started = false ∧ ∃ built, Built built runtime.heap ∧ Unserved built

/-- A part of `Initialize` is not refused, and what it leaves satisfies one
property when it has succeeded, and is fallen otherwise. -/
def Reaches
    (stage : Stage)
    (runtime : GatewayRuntime)
    (goal : GatewayRuntime → Prop) : Prop :=
  ∃ next, runtime.accepted ⊆ next.accepted ∧
    (stage runtime = some (next, .ok ()) ∧ goal next ∨
      ∃ error, stage runtime = some (next, .error error) ∧ Fallen next)

section Stages

variable
  {options : GatewayOptions}
  {services : List Service}
  {built components : List Component}
  {runtime : GatewayRuntime}
  {stage : Stage}
  {goal middle : GatewayRuntime → Prop}

/-- What is standing has fallen, if the server does not run. -/
theorem Stands.fallen
    (stands : Stands options services built runtime)
    (base : Unserved built) :
    Fallen runtime :=
  ⟨stands.idle, built, stands.built, base⟩

theorem Reaches.andThen
    {first second : Stage}
    (reaches : Reaches first runtime middle)
    (continues : ∀ next, middle next → Reaches second next goal) :
    Reaches (first.andThen second) runtime goal := by
  obtain ⟨next, kept, ⟨executed, holds⟩ | ⟨error, executed, fallen⟩⟩ := reaches
  · obtain ⟨finish, keptNext, ended⟩ := continues next holds
    refine ⟨finish, List.Subset.trans kept keptNext, ?_⟩
    simpa only [Stage.andThen, executed, Option.bind_some] using ended
  · refine ⟨next, kept, .inr ⟨error, ?_, fallen⟩⟩
    rw [Stage.andThen, executed]
    rfl

/-- Building components is not refused when they are buildable. -/
theorem Stands.build
    (stands : Stands options services built runtime)
    (buildable : Buildable built components) :
    Reaches (build components) runtime
      (Stands options services (built ++ components)) := by
  obtain ⟨heap, made, known⟩ := stands.built.makeAll buildable
  refine ⟨{ runtime with heap }, fun _ => id, .inl ⟨?_, ?_⟩⟩
  · rw [GatewayRuntime.build, made]
    rfl
  · exact ⟨stands.options_eq, stands.accepted_eq, stands.idle, known⟩

/-- What is reached is also reached by a part that does the same. -/
theorem Reaches.weaken
    (reaches : Reaches stage runtime middle)
    (weaker : ∀ next, middle next → goal next) :
    Reaches stage runtime goal := by
  obtain ⟨next, kept, ⟨executed, holds⟩ | fallen⟩ := reaches
  · exact ⟨next, kept, .inl ⟨executed, weaker next holds⟩⟩
  · exact ⟨next, kept, .inr fallen⟩

/-- Components of an executor are built if it is enabled. -/
theorem Stands.startExecutor
    {enabled : Bool}
    {executor handler : Component}
    {running : List Component}
    {answer : Result Unit}
    (stands : Stands options services built runtime)
    (base : Unserved built)
    (other : executor ≠ .server)
    (buildable : Buildable built (executor :: (running ++ [handler]))) :
    Reaches (startExecutor enabled executor running handler answer) runtime
      (Stands options services (built ++
        if enabled then executor :: (running ++ [handler]) else [])) := by
  cases enabled with
  | false =>
      refine ⟨runtime, fun _ => id, .inl ⟨rfl, ?_⟩⟩
      simpa using stands
  | true =>
      obtain ⟨fresh, needs, rest⟩ := buildable
      obtain ⟨heap, made, known⟩ := stands.built.make (by simpa using fresh)
        needs
      have stood : Stands options services (executor :: built)
          { runtime with heap } :=
        ⟨stands.options_eq, stands.accepted_eq, stands.idle, known⟩
      cases answer with
      | error error =>
          refine ⟨{ runtime with heap }, fun _ => id,
            .inr ⟨error, ?_, stood.fallen ?_⟩⟩
          · rw [GatewayRuntime.startExecutor, if_pos rfl, made]
            rfl
          · simpa [Unserved, base.2.2, other.symm] using
              ⟨.inr base.1, .inr base.2.1⟩
      | ok =>
          have reaches := stood.build rest
          have same : ∀ component,
              component ∈ executor :: built ++ (running ++ [handler]) ↔
                component ∈ built ++ executor :: (running ++ [handler]) := by
            simp [or_left_comm]
          have built := reaches.weaken fun next stands =>
            { stands with built := stands.built.congr same }
          simpa only [Reaches, GatewayRuntime.startExecutor, if_true, made,
            Option.bind_some] using built

/-- A service is added to the server, which has accepted it, or the part has
failed. -/
theorem Stands.addService
    {answers : StartAnswers}
    {service : Service}
    {refusal : String}
    (stands : Stands options services built runtime)
    (base : Unserved built) :
    Reaches (addService answers service refusal) runtime fun next =>
      answers.addService service = true ∧
        Stands options (service :: services) built next := by
  by_cases accepts : answers.addService service = true
  · refine ⟨{ runtime with accepted := service :: runtime.accepted },
      List.subset_cons_self _ _, .inl ⟨?_, accepts, ?_⟩⟩
    · rw [GatewayRuntime.addService, if_pos accepts]
    · exact { stands with accepted_eq := by rw [stands.accepted_eq] }
  · refine ⟨runtime, fun _ => id, .inr ⟨makeError .internal refusal, ?_,
      stands.fallen base⟩⟩
    rw [GatewayRuntime.addService, if_neg accepts]

/-! ## Initialize -/

/-- What every gateway has. -/
def assembled : List Component :=
  [.backend, .sessions, .sessionApp, .metadata, .multipartStore,
    .multipartCoordinator, .multipartApp, .ioPool, .ioWorkers]

def gdsBuilt (enabled : Bool) : List Component :=
  if enabled then
    [.gdsExecutor, .cuObjServer, .bufferPool, .gdsMultipartHandler]
  else []

def ucxBuilt (enabled : Bool) : List Component :=
  if enabled then [.ucxExecutor, .ucxProgress, .ucxMultipartHandler] else []

/-- What is built before the services are opened. -/
def beforeServices (gdsEnable ucxEnable : Bool) : List Component :=
  assembled ++ gdsBuilt gdsEnable ++ ucxBuilt ucxEnable

/-- What is built when the control plane has been opened. -/
def withControlPlane (gdsEnable ucxEnable : Bool) : List Component :=
  beforeServices gdsEnable ucxEnable ++ [.sessionOpener, .controlPlane]

/-- What is built before the server is started. -/
def beforeServer (gdsEnable ucxEnable : Bool) : List Component :=
  withControlPlane gdsEnable ucxEnable ++
    if ucxEnable then [.rdmaDataPlane] else []

theorem assemble_reaches (stands : Stands options services [] runtime) :
    Reaches assemble runtime (Stands options services assembled) :=
  stands.build (show Buildable [] assembled by decide)

theorem startGds_reaches
    (answers : StartAnswers)
    (stands : Stands options services assembled runtime) :
    Reaches (startGds answers) runtime
      (Stands options services (assembled ++ gdsBuilt options.gdsEnable)) := by
  have buildable : Buildable assembled
      (.gdsExecutor :: ([.cuObjServer, .bufferPool] ++
        [.gdsMultipartHandler])) := by
    decide
  have reaches := @Stands.startExecutor _ _ _ _ options.gdsEnable _ _ _
    answers.gds stands (by decide) (by decide) buildable
  rwa [← stands.options_eq] at reaches ⊢

theorem startUcx_reaches
    (answers : StartAnswers)
    (stands : Stands options services
      (assembled ++ gdsBuilt options.gdsEnable) runtime) :
    Reaches (startUcx answers) runtime
      (Stands options services
        (beforeServices options.gdsEnable options.ucxEnable)) := by
  have buildable : ∀ gdsEnable, Buildable (assembled ++ gdsBuilt gdsEnable)
      (.ucxExecutor :: ([.ucxProgress] ++ [.ucxMultipartHandler])) := by
    decide
  have base : ∀ gdsEnable, Unserved (assembled ++ gdsBuilt gdsEnable) := by
    decide
  have reaches := @Stands.startExecutor _ _ _ _ options.ucxEnable _ _ _
    answers.ucx stands (base _) (by decide) (buildable _)
  rwa [← stands.options_eq] at reaches ⊢

/-- Opening the control plane fails unless the server accepts it. -/
theorem openControlPlane_reaches
    (answers : StartAnswers)
    (stands : Stands options services
      (beforeServices options.gdsEnable options.ucxEnable) runtime) :
    Reaches (openControlPlane answers) runtime fun next =>
      answers.addService .controlPlane = true ∧
        Stands options (.controlPlane :: services)
          (withControlPlane options.gdsEnable options.ucxEnable) next := by
  have buildable : ∀ gdsEnable ucxEnable,
      Buildable (beforeServices gdsEnable ucxEnable)
        [.sessionOpener, .controlPlane] := by
    decide
  have unserved : ∀ gdsEnable ucxEnable,
      Unserved (withControlPlane gdsEnable ucxEnable) := by
    decide
  exact (stands.build (buildable _ _)).andThen fun next stands =>
    stands.addService (unserved _ _)

theorem openRdmaDataPlane_reaches
    (answers : StartAnswers)
    (stands : Stands options services
      (withControlPlane options.gdsEnable options.ucxEnable) runtime) :
    Reaches (openRdmaDataPlane answers) runtime fun next =>
      ∃ added, Stands options (added ++ services)
        (beforeServer options.gdsEnable options.ucxEnable) next := by
  have alive : ∀ gdsEnable ucxEnable,
      .ucxExecutor ∈ withControlPlane gdsEnable ucxEnable ↔
        ucxEnable = true := by
    decide
  have buildable : ∀ gdsEnable, Buildable (withControlPlane gdsEnable true)
      [.rdmaDataPlane] := by
    decide
  have unserved : ∀ gdsEnable, Unserved (beforeServer gdsEnable true) := by
    decide
  have present := (stands.built.alive .ucxExecutor).trans (alive _ _)
  cases enabled : options.ucxEnable with
  | false =>
      refine ⟨runtime, fun _ => id, .inl ⟨?_, [], ?_⟩⟩
      · rw [openRdmaDataPlane, if_neg (by simp [present, enabled])]
      · rw [enabled] at stands
        simpa [beforeServer] using stands
  | true =>
      rw [enabled] at stands
      have aliveHere : runtime.heap.Alive .ucxExecutor := present.mpr enabled
      rw [Reaches, openRdmaDataPlane, if_pos aliveHere]
      refine (stands.build (buildable _)).andThen fun next stands => ?_
      refine (stands.addService (unserved _)).weaken fun next reached => ?_
      exact ⟨[.rdmaDataPlane], reached.2⟩

theorem startServer_reaches
    (answers : StartAnswers)
    (stands : Stands options services
      (beforeServer options.gdsEnable options.ucxEnable) runtime) :
    Reaches (startServer answers) runtime fun next =>
      next.accepted = services ∧ next.started = true ∧
        ∃ built, Built built next.heap := by
  have buildable : ∀ gdsEnable ucxEnable,
      Buildable (beforeServer gdsEnable ucxEnable)
        [.server, .sessionSweeper, .sweeperThread] := by
    decide
  have unserved : ∀ gdsEnable ucxEnable,
      Unserved (beforeServer gdsEnable ucxEnable) := by
    decide
  unfold Reaches startServer
  split_ifs
  · obtain ⟨heap, made, known⟩ := stands.built.makeAll (buildable _ _)
    refine ⟨{ runtime with heap, started := true }, fun _ => id,
      .inl ⟨?_, ?_⟩⟩
    · rw [made]
      rfl
    · exact ⟨stands.accepted_eq, rfl, _, known⟩
  · exact ⟨runtime, fun _ => id,
      .inr ⟨_, rfl, stands.fallen (unserved _ _)⟩⟩

/-- `Initialize` of an empty gateway leaves a running one, if the server accepts
the control plane, or a fallen one. -/
theorem initializeGateway_reaches
    (answers : StartAnswers)
    (stands : Stands options services [] runtime) :
    Reaches (initializeGateway · answers) runtime fun next =>
      answers.addService .controlPlane = true ∧
        .controlPlane ∈ next.accepted ∧ next.started = true ∧
          ∃ built, Built built next.heap := by
  rw [Reaches]
  simp only [initializeGateway, stands.idle, Bool.false_eq_true, if_false]
  refine (assemble_reaches stands).andThen fun _ stands => ?_
  refine (startGds_reaches answers stands).andThen fun _ stands => ?_
  refine (startUcx_reaches answers stands).andThen fun _ stands => ?_
  refine (openControlPlane_reaches answers stands).andThen
    fun _ ⟨accepts, stands⟩ => ?_
  refine (openRdmaDataPlane_reaches answers stands).andThen
    fun _ ⟨added, stands⟩ => ?_
  refine (startServer_reaches answers stands).weaken fun next served => ?_
  exact ⟨accepts, by simp [served.1], served.2⟩

end Stages

/-! ## Runs -/

/-- `Initialize` is called on a gateway that runs, or on one that is empty. -/
def InOrder (runtime : GatewayRuntime) : Call → Prop
  | .initializeGateway _ =>
      runtime.started = true ∨ ¬runtime.heap.Alive .backend
  | .shutdown => True

/-- The server refuses a service that it has accepted before, whether it was
stopped in between or not. -/
def RefusesAccepted (runtime : GatewayRuntime) : Call → Prop
  | .initializeGateway answers =>
      ∀ service ∈ runtime.accepted, answers.addService service = false
  | .shutdown => True

/-- References never outlive what they refer to, as long as calls are in order
and no longer; everything is destroyed by `Shutdown`; the server of a running
gateway has accepted the control plane; and a gateway with such a server that
does not run never runs again, if the server refuses what it has accepted. -/
structure WellKept (runtime : GatewayRuntime) : Prop where
  defined_iff : ∀ call, (runtime.step call).isSome ↔ runtime.InOrder call
  released : ∀ next, runtime.shutdown = some next →
    next.heap = .empty ∧ next.started = false ∧
      next.accepted = runtime.accepted
  serves : runtime.started = true → .controlPlane ∈ runtime.accepted
  once : runtime.started = false → .controlPlane ∈ runtime.accepted →
    ∀ calls next, machine.Path RefusesAccepted runtime calls next →
      next.started = false

/-- A gateway between calls is empty, fallen, or running. -/
structure Sound (runtime : GatewayRuntime) : Prop where
  phase : runtime.started = false ∧ runtime.heap = .empty ∨ Fallen runtime ∨
    runtime.started = true ∧ ∃ built, Built built runtime.heap
  serves : runtime.started = true → .controlPlane ∈ runtime.accepted

section Runs

variable {runtime next : GatewayRuntime}

theorem stands_of_empty
    (idle : runtime.started = false)
    (empty : runtime.heap = .empty) :
    Stands runtime.options runtime.accepted [] runtime :=
  ⟨rfl, rfl, idle, empty ▸ built_empty⟩

/-- The metadata service of a fallen gateway refers to its backend, so that the
backend cannot be replaced. -/
theorem Fallen.initializeGateway_eq_none
    (fallen : Fallen runtime)
    (answers : StartAnswers) :
    runtime.initializeGateway answers = none := by
  obtain ⟨idle, built, known, _, metadata, _⟩ := fallen
  obtain ⟨entry, member, same⟩ :=
    List.mem_map.mp ((known.alive .metadata).mpr metadata)
  have referred : runtime.heap.Referred .backend := by
    refine ⟨entry, member, known.wired entry member ?_⟩
    rw [same]
    decide
  have refused : runtime.make .backend = none := by
    simp [make, Component.destructor, Heap.resetAll, Heap.reset, referred]
  simp [initializeGateway, idle, Stage.andThen, assemble, build, makeAll,
    refused]

/-- A gateway is empty after `Shutdown`. -/
theorem Sound.shutdown_eq (sound : runtime.Sound) :
    runtime.shutdown =
      some { runtime with heap := .empty, started := false } := by
  have disposable : ∀ started, Heap.Disposable Component.links
      ((if started = true then stops else []) ++
        resets.flatMap Component.destructor) := by
    decide
  have covered : ∀ component, component ∈ stops ++
      resets.flatMap Component.destructor := by
    intro component
    cases component <;> decide
  have stopped : ∀ component, component ≠ .server →
      component ∈ resets.flatMap Component.destructor := by
    intro component
    cases component <;> decide
  have destroyed : runtime.heap.resetAll
      ((if runtime.started = true then stops else []) ++
        resets.flatMap Component.destructor) = some .empty := by
    rcases sound.phase with ⟨idle, empty⟩ | ⟨idle, built, known, base⟩ |
      ⟨runs, built, known⟩
    · rw [empty]
      exact Heap.resetAll_eq_empty (Heap.conforms_empty _) (disposable _)
        (by simp)
    · refine Heap.resetAll_eq_empty known.conforms (disposable _) ?_
      intro component alive
      have other : component ≠ .server := by
        rintro rfl
        exact base.2.2 ((known.alive _).mp alive)
      exact List.mem_append_right _ (stopped component other)
    · refine Heap.resetAll_eq_empty known.conforms (disposable _) ?_
      intro component _
      rw [if_pos runs]
      exact covered component
  rw [shutdown, destroyed]
  rfl

/-- `Initialize` of an empty gateway is not refused; it fails if the server
refuses the control plane. -/
theorem initializeGateway_of_empty
    (answers : StartAnswers)
    (idle : runtime.started = false)
    (empty : runtime.heap = .empty) :
    ∃ next result, runtime.initializeGateway answers = some (next, result) ∧
      next.Sound ∧ runtime.accepted ⊆ next.accepted ∧
        (answers.addService .controlPlane = false → next.started = false) := by
  obtain ⟨next, kept, ⟨executed, accepts, serves, runs, built⟩ |
    ⟨error, executed, fallen⟩⟩ :=
      initializeGateway_reaches answers (stands_of_empty idle empty)
  · refine ⟨next, _, executed, ⟨.inr (.inr ⟨runs, built⟩), fun _ => serves⟩,
      kept, ?_⟩
    intro refuses
    rw [refuses] at accepts
    cases accepts
  · refine ⟨next, _, executed, ⟨.inr (.inl fallen), ?_⟩, kept,
      fun _ => fallen.1⟩
    intro runs
    rw [fallen.1] at runs
    cases runs

/-- Steps keep a gateway sound. -/
theorem Sound.step
    {call : Call}
    (sound : runtime.Sound)
    (stepped : runtime.step call = some next) :
    next.Sound := by
  cases call with
  | shutdown =>
      cases sound.shutdown_eq.symm.trans stepped
      exact ⟨.inl ⟨rfl, rfl⟩, nofun⟩
  | initializeGateway answers =>
      obtain ⟨⟨after, result⟩, executed, rfl⟩ :=
        Option.map_eq_some_iff.mp stepped
      rcases sound.phase with ⟨idle, empty⟩ | fallen | ⟨runs, _⟩
      · obtain ⟨_, _, reached, soundNext, _⟩ :=
          initializeGateway_of_empty answers idle empty
        cases reached.symm.trans executed
        exact soundNext
      · rw [fallen.initializeGateway_eq_none] at executed
        cases executed
      · rw [initializeGateway, if_pos runs] at executed
        cases executed
        exact sound

theorem sound_of_reachable
    (reachable : machine.Reachable Machine.always runtime) :
    runtime.Sound := by
  refine reachable.invariant ?_ ?_
  · rintro start ⟨options, rfl⟩
    exact ⟨.inl ⟨rfl, rfl⟩, nofun⟩
  · intro state call next sound _ stepped
    exact sound.step stepped

/-- Calls are refused exactly when they are out of order. -/
theorem Sound.isSome_step_iff
    (sound : runtime.Sound)
    (call : Call) :
    (runtime.step call).isSome ↔ runtime.InOrder call := by
  cases call with
  | shutdown => simp [GatewayRuntime.step, sound.shutdown_eq, InOrder]
  | initializeGateway answers =>
      simp only [GatewayRuntime.step, InOrder, Option.isSome_map]
      rcases sound.phase with ⟨idle, empty⟩ | fallen | ⟨runs, _⟩
      · obtain ⟨next, result, executed, _⟩ :=
          initializeGateway_of_empty answers idle empty
        simp [executed, empty]
      · obtain ⟨idle, built, known, base⟩ := fallen
        simp [Fallen.initializeGateway_eq_none ⟨idle, built, known, base⟩,
          idle, known.alive, base.1]
      · simp [initializeGateway, runs]

/-- A gateway that does not run and whose server has accepted the control plane
does not start to run. -/
theorem Sound.idle_step
    {call : Call}
    (sound : runtime.Sound)
    (idle : runtime.started = false)
    (serves : .controlPlane ∈ runtime.accepted)
    (refuses : runtime.RefusesAccepted call)
    (stepped : runtime.step call = some next) :
    next.started = false ∧ .controlPlane ∈ next.accepted := by
  cases call with
  | shutdown =>
      cases sound.shutdown_eq.symm.trans stepped
      exact ⟨rfl, serves⟩
  | initializeGateway answers =>
      obtain ⟨⟨after, result⟩, executed, rfl⟩ :=
        Option.map_eq_some_iff.mp stepped
      rcases sound.phase with ⟨_, empty⟩ | fallen | ⟨runs, _⟩
      · obtain ⟨_, _, reached, _, kept, stays⟩ :=
          initializeGateway_of_empty answers idle empty
        cases reached.symm.trans executed
        exact ⟨stays (refuses _ serves), kept serves⟩
      · rw [fallen.initializeGateway_eq_none] at executed
        cases executed
      · rw [idle] at runs
        cases runs

/-- Nor does it in any run. -/
theorem Sound.idle_of_path
    {calls : List Call}
    (sound : runtime.Sound)
    (idle : runtime.started = false)
    (serves : .controlPlane ∈ runtime.accepted)
    (path : machine.Path RefusesAccepted runtime calls next) :
    next.started = false := by
  let property : GatewayRuntime → Prop := fun runtime =>
    runtime.Sound ∧ runtime.started = false ∧ .controlPlane ∈ runtime.accepted
  have kept : property next := by
    refine path.preserves ?_ ⟨sound, idle, serves⟩
    rintro state call after ⟨sound, idle, serves⟩ refuses stepped
    exact ⟨sound.step stepped, sound.idle_step idle serves refuses stepped⟩
  exact kept.2.1

end Runs

/-- Whatever calls are made of a gateway, it is kept well. -/
theorem wellKept_of_reachable
    {runtime : GatewayRuntime}
    (reachable : machine.Reachable Machine.always runtime) :
    runtime.WellKept := by
  have sound := sound_of_reachable reachable
  refine ⟨sound.isSome_step_iff, ?_, sound.serves, ?_⟩
  · intro next ended
    cases sound.shutdown_eq.symm.trans ended
    exact ⟨rfl, rfl, rfl⟩
  · intro idle serves calls next path
    exact sound.idle_of_path idle serves path

/-- What brpc's server answers after it has accepted some services. -/
private def answersAfter (accepted : List Service) : StartAnswers :=
  ⟨.ok (), .ok (), (· ∉ accepted), true⟩

/-- Everything starts, and the gateway is shut down; then its server refuses the
control plane. -/
private def startedTwice : List Call :=
  [.initializeGateway (answersAfter []), .shutdown,
    .initializeGateway (answersAfter [.rdmaDataPlane, .controlPlane]),
    .shutdown]

/-- A gateway with both executors has run, has been shut down, and has not run
a second time. -/
theorem wellKept_shutDown :
    ∃ runtime, machine.Reachable Machine.always runtime ∧ runtime.WellKept ∧
      runtime.started = false ∧ .controlPlane ∈ runtime.accepted := by
  have initial : machine.initial (init ⟨"0.0.0.0", 8080, true, true⟩) :=
    ⟨_, rfl⟩
  have executed : (machine.run Machine.always
      (init ⟨"0.0.0.0", 8080, true, true⟩) startedTwice).map
        (fun runtime => (runtime.started, runtime.accepted)) =
        some (false, [.rdmaDataPlane, .controlPlane]) := by
    decide
  obtain ⟨runtime, reachable, observed⟩ :=
    Machine.Reachable.of_run_map initial executed
  obtain ⟨idle, accepted⟩ := Prod.mk.inj observed
  exact ⟨runtime, reachable, wellKept_of_reachable reachable, idle,
    by simp [accepted]⟩

end GatewayRuntime
end Gateway
end TurboAccess
