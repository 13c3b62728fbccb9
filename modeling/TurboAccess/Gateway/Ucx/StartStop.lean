import TurboAccess.Gateway.Ucx.Slots
import TurboAccess.Lib.Lifetimes

/-!
# Starting and stopping the UCX executor

`Start` makes a context, a worker and a listener of the UCX library on top of
each other, and releases what it has made where a step fails.  `Stop` releases
them in the opposite order, and drains the buffer pool after that.  Buffers are
registered with the context, though: the context must not be destroyed while
one is registered, and `Stop` has unregistered none by then.

So `Stop` is in order exactly when no buffer is registered.  A pool that keeps
idle buffers has one from the first registration on, and then no `Stop` of a
running executor is in order.
-/

namespace TurboAccess
namespace Gateway
namespace Ucx

/-- What the executor has of the UCX library, and its own thread. -/
inductive UcxObject
  | context
  | worker
  | listener
  | progressThread
  | endpoint (index : Nat)
  deriving DecidableEq, Repr

/-- What an object works on. -/
def UcxObject.links : UcxObject → List UcxObject
  | .context => []
  | .worker => [.context]
  | .listener | .progressThread | .endpoint _ => [.worker]

/-- How the steps of `Start` come out: the status text of a call that fails,
whether the worker is one for many threads, and whether the address is one. -/
structure StartAnswers where
  init : Option String
  workerCreate : Option String
  multiThreaded : Bool
  setAmRecvHandler : Option String
  inetPton : Bool
  listenerCreate : Option String
  deriving DecidableEq

/-- The executor with what it has of the library.  `acceptedEps` are the
endpoints of clients, numbered by `accepted`; there is no registry after
`Stop`. -/
structure UcxLifetime (β : Type) where
  bindHost : String
  heap : Heap UcxObject
  acceptedEps : List Nat
  accepted : Nat
  hasRegistry : Bool
  executor : UcxExecutor β

namespace UcxLifetime

variable {β : Type}

/-- An executor that has been constructed. -/
def new (bindHost : String) (backend : β) : UcxLifetime β where
  bindHost := bindHost
  heap := .empty
  acceptedEps := []
  accepted := 0
  hasRegistry := true
  executor := .init false backend

/-! ## Start -/

section Start

variable (options : UcxOptions) (answers : StartAnswers)

/-- The address to listen on. -/
def bindAddress (lifetime : UcxLifetime β) : String :=
  if lifetime.bindHost = "" ∨ lifetime.bindHost = "0.0.0.0" then
    options.publicHost
  else lifetime.bindHost

/-- Release what has been made, and fail. -/
def fail
    (lifetime : UcxLifetime β)
    (heap : Heap UcxObject)
    (made : List UcxObject)
    (message : String) : Option (UcxLifetime β × Result Unit) :=
  (heap.resetAll made).map fun heap =>
    ({ lifetime with heap }, .error (makeUcxError message))

/-- Make the listener and the thread; the registry and the pool are new. -/
def listen (lifetime : UcxLifetime β) (heap : Heap UcxObject) :
    Option (UcxLifetime β × Result Unit) :=
  match answers.listenerCreate with
  | some status =>
      lifetime.fail heap [.worker, .context]
        ("ucp_listener_create failed: " ++ status)
  | none => do
      let heap ← heap.create .listener [.worker]
      let heap ← heap.create .progressThread [.worker]
      let executor :=
        { lifetime.executor with started := true, registry := ∅, pool := [] }
      return ({ lifetime with heap, hasRegistry := true, executor }, .ok ())

/-- Set a worker up, and go on. -/
def setUpWorker (lifetime : UcxLifetime β) (heap : Heap UcxObject) :
    Option (UcxLifetime β × Result Unit) :=
  if answers.multiThreaded = false then
    lifetime.fail heap [.worker, .context]
      ("UCX worker MULTI thread mode not available; " ++
        "rebuild UCX with --enable-mt")
  else
    match answers.setAmRecvHandler with
    | some status =>
        lifetime.fail heap [.worker, .context]
          ("ucp_worker_set_am_recv_handler failed: " ++ status)
    | none =>
        if answers.inetPton = false then
          lifetime.fail heap [.worker, .context]
            ("invalid bind_host: " ++ lifetime.bindAddress options)
        else lifetime.listen answers heap

/-- Make a worker, and go on. -/
def makeWorker (lifetime : UcxLifetime β) (heap : Heap UcxObject) :
    Option (UcxLifetime β × Result Unit) :=
  match answers.workerCreate with
  | some status =>
      lifetime.fail heap [.context] ("ucp_worker_create failed: " ++ status)
  | none =>
      (heap.create .worker [.context]).bind
        (lifetime.setUpWorker options answers)

/-- Make a context, and go on, unless the executor runs. -/
def start (lifetime : UcxLifetime β) : Option (UcxLifetime β × Result Unit) :=
  if lifetime.executor.started then some (lifetime, .ok ())
  else
    match answers.init with
    | some status =>
        lifetime.fail lifetime.heap [] ("ucp_init failed: " ++ status)
    | none =>
        (lifetime.heap.create .context []).bind
          (lifetime.makeWorker options answers)

end Start

/-! ## Running and Stop -/

/-- A client connects to the listener; the endpoint may fail. -/
def onConnRequest (lifetime : UcxLifetime β) (created : Bool) :
    Option (UcxLifetime β) :=
  if lifetime.heap.Alive .listener then
    if created then
      (lifetime.heap.create (.endpoint lifetime.accepted) [.worker]).map
        fun heap =>
          { lifetime with
            heap
            acceptedEps := lifetime.acceptedEps ++ [lifetime.accepted]
            accepted := lifetime.accepted + 1 }
    else some lifetime
  else none

/-- An event reaches an executor that has what it is handled with. -/
def hears (lifetime : UcxLifetime β) : UcxExecutor.Event → Bool
  | .prepareTransfer _ _ _ => true
  | .remoteWrite _ _ | .amWriteDone _ => lifetime.executor.started
  | _ => lifetime.hasRegistry

/-- Destroy the context.  Nothing may be registered with it. -/
def cleanup (heap : Heap UcxObject) (executor : UcxExecutor β) :
    Option (Heap UcxObject) :=
  if executor.buffers.keys = ∅ then heap.reset .context else none

/-- Release the listener, the thread, the endpoints, the worker and the
context, and then drain the pool. -/
def stop (lifetime : UcxLifetime β) : Option (UcxLifetime β) :=
  if lifetime.executor.started = false then some lifetime
  else do
    let heap ← lifetime.heap.resetAll ([.listener, .progressThread] ++
      lifetime.acceptedEps.map .endpoint ++ [.worker])
    let heap ← cleanup heap lifetime.executor
    return { lifetime with
      heap
      acceptedEps := []
      hasRegistry := false
      executor := lifetime.executor.stop }

inductive Call
  | start (answers : StartAnswers)
  | onConnRequest (created : Bool)
  | handle (event : UcxExecutor.Event)
  | stop

section Machine

variable (iface : IBackend β) (options : UcxOptions)

def step (lifetime : UcxLifetime β) : Call → Option (UcxLifetime β)
  | .start answers => (lifetime.start options answers).map (·.1)
  | .onConnRequest created => lifetime.onConnRequest created
  | .handle event =>
      if lifetime.hears event then
        (lifetime.executor.handle iface options event).map fun executor =>
          { lifetime with executor }
      else none
  | .stop => lifetime.stop

/-- Starts, stops and events in any order. -/
def machine : Machine (UcxLifetime β) Call where
  initial lifetime := ∃ bindHost backend, lifetime = new bindHost backend
  step := step iface options

end Machine

/-! ## Registered buffers -/

/-- No buffer is registered. -/
theorem keys_eq_empty_iff {buffers : Table Nat RegisteredBuffer} :
    buffers.keys = ∅ ↔ ∀ slot, buffers.lookup slot = none := by
  simp only [Finset.eq_empty_iff_forall_notMem, Finmap.mem_keys,
    Finmap.lookup_eq_none]

theorem keys_ne_empty_of_lookup
    {buffers : Table Nat RegisteredBuffer}
    {slot : Nat}
    {buffer : RegisteredBuffer}
    (registered : buffers.lookup slot = some buffer) :
    buffers.keys ≠ ∅ := by
  intro empty
  rw [keys_eq_empty_iff.mp empty slot] at registered
  cases registered

end UcxLifetime

namespace UcxExecutor

variable
  {β : Type}
  {iface : IBackend β}
  {options : UcxOptions}
  {executor next : UcxExecutor β}

/-- Where no buffer is registered, no entry has one. -/
theorem Owned.slot_eq_none
    {sessionId : String}
    {entry : UcxSessionEntry}
    (owned : executor.Owned)
    (unregistered : executor.buffers.keys = ∅)
    (found : executor.registry.lookup sessionId = some entry) :
    entry.slot = none := by
  by_contra held
  obtain ⟨slot, held⟩ := Option.ne_none_iff_exists'.mp held
  obtain ⟨buffer, registered, -⟩ := owned.held sessionId entry slot found held
  exact UcxLifetime.keys_ne_empty_of_lookup registered unregistered

/-- Where no buffer is registered, only a preparation registers one. -/
theorem Handles.unregistered
    {event : Event}
    (effect : Handles iface options executor event next)
    (owned : executor.Owned)
    (unregistered : executor.buffers.keys = ∅)
    (unprepared : ∀ sessionId transferBytes allocation,
      event ≠ .prepareTransfer sessionId transferBytes allocation) :
    next.buffers.keys = ∅ := by
  cases effect with
  | prepared sessionId transferBytes allocation =>
      exact absurd rfl (unprepared sessionId transferBytes allocation)
  | landed slot data buffer registered =>
      exact absurd unregistered (UcxLifetime.keys_ne_empty_of_lookup registered)
  | resumed entry slot buffer request found held registered =>
      exact absurd unregistered (UcxLifetime.keys_ne_empty_of_lookup registered)
  | finished event request entry slot buffer requested found held registered =>
      exact absurd unregistered (UcxLifetime.keys_ne_empty_of_lookup registered)
  | aborted sessionId entry found =>
      rw [without_eq, releaseEntry, owned.slot_eq_none unregistered found]
      exact unregistered
  | opened | unheard | marked | refused | waits | unknown =>
      exact unregistered

/-- An executor that does not run registers nothing. -/
theorem Owned.unregistered_of_handle
    {event : Event}
    (owned : executor.Owned)
    (halted : executor.started = false)
    (unregistered : executor.buffers.keys = ∅)
    (handled : executor.handle iface options event = some next) :
    next.buffers.keys = ∅ := by
  cases event with
  | prepareTransfer sessionId transferBytes allocation =>
      rw [handle, prepareTransfer, if_pos halted] at handled
      rw [← Option.some.inj handled]
      exact unregistered
  | _ =>
      exact (handles_of_handle owned handled).unregistered owned unregistered
        (by simp)

/-- A pool that keeps idle buffers frees one only beside another one. -/
theorem Owned.registered_without
    {sessionId : String}
    {entry : UcxSessionEntry}
    (owned : executor.Owned)
    (keeps : 0 < options.bufferPoolMaxIdle)
    (found : executor.registry.lookup sessionId = some entry)
    (registered : executor.buffers.keys ≠ ∅) :
    (executor.without options sessionId entry).buffers.keys ≠ ∅ := by
  rw [without_eq]
  change (executor.releaseEntry options entry).buffers.keys ≠ ∅
  cases held : entry.slot with
  | none =>
      rw [releaseEntry, held]
      exact registered
  | some slot =>
      have released : executor.releaseEntry options entry =
          executor.returnSlot options slot := by
        rw [releaseEntry, held]
      rw [released]
      by_cases room : executor.pool.length < options.bufferPoolMaxIdle
      · rw [returnSlot, if_pos room]
        exact registered
      · rw [returnSlot, if_neg room]
        -- the pool is full, and what is idle is not what the entry holds
        obtain ⟨idle, queued⟩ : ∃ idle, idle ∈ executor.pool :=
          List.exists_mem_of_length_pos (by omega)
        obtain ⟨buffer, stays⟩ := owned.idle idle queued
        have apart : idle ≠ slot := by
          rintro rfl
          exact owned.busy sessionId entry idle found held queued
        rw [← Finmap.lookup_erase_ne apart] at stays
        exact UcxLifetime.keys_ne_empty_of_lookup stays

/-- Once a buffer has been registered, one is. -/
def Stocked (executor : UcxExecutor β) : Prop :=
  0 < executor.allocated → executor.buffers.keys ≠ ∅

/-- A pool that keeps idle buffers stays stocked. -/
theorem Stocked.handles
    {event : Event}
    (stocked : executor.Stocked)
    (owned : executor.Owned)
    (keeps : 0 < options.bufferPoolMaxIdle)
    (effect : Handles iface options executor event next) :
    next.Stocked := by
  -- an entry with a buffer is evidence that one has been registered
  have used : ∀ {slot buffer}, executor.buffers.lookup slot = some buffer →
      executor.buffers.keys ≠ ∅ :=
    fun registered => UcxLifetime.keys_ne_empty_of_lookup registered
  cases effect with
  | prepared sessionId transferBytes allocation result next outcome =>
      cases outcome with
      | refused | again | reused => exact stocked
      | registered entry buffer info found vacant large =>
          intro _
          exact UcxLifetime.keys_ne_empty_of_lookup (Finmap.lookup_insert _)
  | landed slot data buffer registered =>
      intro _
      exact UcxLifetime.keys_ne_empty_of_lookup (Finmap.lookup_insert _)
  | resumed entry slot buffer request found held registered =>
      intro _
      rw [finishCommit_eq]
      exact owned.registered_without keeps found (used registered)
  | finished event request entry slot buffer requested found held registered =>
      intro _
      have numbered : executor.numbered.Owned :=
        owned.congr rfl rfl rfl rfl (Nat.le_succ _)
      rw [finishCommit_eq]
      exact numbered.registered_without keeps found (used registered)
  | aborted sessionId entry found =>
      intro allocated
      refine owned.registered_without keeps found (stocked ?_)
      rwa [without_eq] at allocated
  | opened | unheard | marked | refused | waits | unknown => exact stocked

/-- Nothing is registered exactly when nothing has ever been. -/
theorem Stocked.unregistered_iff
    (stocked : executor.Stocked)
    (owned : executor.Owned) :
    executor.buffers.keys = ∅ ↔ executor.allocated = 0 := by
  constructor
  · intro unregistered
    by_contra allocated
    exact stocked (Nat.pos_of_ne_zero allocated) unregistered
  · intro none
    refine UcxLifetime.keys_eq_empty_iff.mpr fun slot => ?_
    by_contra registered
    obtain ⟨buffer, registered⟩ := Option.ne_none_iff_exists'.mp registered
    have fresh := owned.fresh slot buffer registered
    omega

/-- Nothing is owned without a registry and a queue. -/
theorem Owned.emptied (owned : executor.Owned) (started : Bool) :
    ({ executor with started, registry := ∅, pool := [] } :
      UcxExecutor β).Owned := by
  constructor <;> simp
  exact owned.fresh

/-- Where no buffer is registered, there is none to drain. -/
theorem Owned.stop_eq
    (owned : executor.Owned)
    (runs : executor.started = true)
    (unregistered : executor.buffers.keys = ∅) :
    executor.stop =
      { executor with started := false, registry := ∅, pool := [] } := by
  have none : executor.pool = [] := by
    refine List.eq_nil_iff_forall_not_mem.mpr fun slot queued => ?_
    obtain ⟨buffer, registered⟩ := owned.idle slot queued
    exact UcxLifetime.keys_ne_empty_of_lookup registered unregistered
  rw [UcxExecutor.stop, if_pos runs, none]
  rfl

end UcxExecutor

namespace UcxLifetime

variable
  {β : Type}
  {iface : IBackend β}
  {options : UcxOptions}
  {lifetime next : UcxLifetime β}

/-! ## What lives -/

/-- What a running executor has, in the order of its release. -/
def live (lifetime : UcxLifetime β) : List UcxObject :=
  if lifetime.executor.started then
    [.listener, .progressThread] ++ lifetime.acceptedEps.map .endpoint ++
      [.worker, .context]
  else []

/-- The order of `Stop` releases nothing that is still worked on. -/
theorem disposable_order (acceptedEps : List Nat) :
    Heap.Disposable UcxObject.links
      ([.listener, .progressThread] ++ acceptedEps.map .endpoint ++
        [.worker, .context]) := by
  have selfless : ∀ object, object ∉ UcxObject.links object := by
    intro object
    cases object <;> simp [UcxObject.links]
  -- nothing works on the listener, the thread or an endpoint
  have free : ∀ object ∈ [.listener, .progressThread] ++
      acceptedEps.map UcxObject.endpoint, ∀ other,
        object ∉ UcxObject.links other := by
    intro object member other linked
    cases other <;> cases object <;> simp [UcxObject.links] at linked member
  refine ⟨List.pairwise_append.mpr ⟨?_, ?_, ?_⟩,
    fun object _ => selfless object⟩
  · exact List.pairwise_of_forall_mem_list
      fun object member other _ => free object member other
  · simp [UcxObject.links]
  · exact fun object member other _ => free object member other

/-! ## What Start comes to -/

/-- The executor when it has been started with what it has of the library. -/
def started (lifetime : UcxLifetime β) (heap : Heap UcxObject) :
    UcxLifetime β :=
  { lifetime with
    heap
    hasRegistry := true
    executor :=
      { lifetime.executor with started := true, registry := ∅, pool := [] } }

/-- `Start` fails without a trace, or makes all that a running executor has. -/
def Starts
    (lifetime : UcxLifetime β)
    (outcome : Option (UcxLifetime β × Result Unit)) : Prop :=
  (∃ error, outcome = some (lifetime, .error error)) ∨
    ∃ heap, outcome = some (lifetime.started heap, .ok ()) ∧
      Heap.Holds UcxObject.links
        [.progressThread, .listener, .worker, .context] heap

section Start

variable
  {objects made : List UcxObject}
  {heap : Heap UcxObject}
  (answers : StartAnswers)

theorem starts_fail
    (empty : lifetime.heap = .empty)
    (holds : Heap.Holds UcxObject.links objects heap)
    (disposable : Heap.Disposable UcxObject.links made)
    (listed : objects ⊆ made)
    (message : String) :
    lifetime.Starts (lifetime.fail heap made message) := by
  refine .inl ⟨makeUcxError message, ?_⟩
  rw [fail, holds.resetAll disposable listed, ← empty]
  rfl

theorem starts_listen
    (empty : lifetime.heap = .empty)
    (holds : Heap.Holds UcxObject.links [.worker, .context] heap) :
    lifetime.Starts (lifetime.listen answers heap) := by
  rw [listen]
  cases answers.listenerCreate with
  | some status =>
      exact starts_fail empty holds (by decide) (List.Subset.refl _) _
  | none =>
      obtain ⟨listening, made, holds⟩ := holds.create (by decide)
        (show UcxObject.listener ∉ [.worker, .context] by decide)
      obtain ⟨running, threaded, holds⟩ := holds.create (by decide)
        (show UcxObject.progressThread ∉ [.listener, .worker, .context] by
          decide)
      refine .inr ⟨running, ?_, holds⟩
      simp only [UcxObject.links] at made threaded
      simp only [made, threaded, Option.bind_eq_bind, Option.bind_some]
      rfl

theorem starts_setUpWorker
    (empty : lifetime.heap = .empty)
    (holds : Heap.Holds UcxObject.links [.worker, .context] heap) :
    lifetime.Starts (lifetime.setUpWorker options answers heap) := by
  have disposable :
      Heap.Disposable UcxObject.links [.worker, .context] := by
    decide
  have fails := starts_fail empty holds disposable (List.Subset.refl _)
  rw [setUpWorker]
  split
  · exact fails _
  · split
    · exact fails _
    · split
      · exact fails _
      · exact starts_listen answers empty holds

theorem starts_makeWorker
    (empty : lifetime.heap = .empty)
    (holds : Heap.Holds UcxObject.links [.context] heap) :
    lifetime.Starts (lifetime.makeWorker options answers heap) := by
  rw [makeWorker]
  cases answers.workerCreate with
  | some status =>
      exact starts_fail empty holds (by decide) (List.Subset.refl _) _
  | none =>
      obtain ⟨working, made, holds⟩ := holds.create (by decide)
        (show UcxObject.worker ∉ [.context] by decide)
      simp only [UcxObject.links] at made
      simp only [made, Option.bind_some]
      exact starts_setUpWorker answers empty holds

theorem starts_start
    (idle : lifetime.executor.started = false)
    (empty : lifetime.heap = .empty) :
    lifetime.Starts (lifetime.start options answers) := by
  have holds := Heap.holds_empty UcxObject.links
  rw [← empty] at holds
  rw [start, if_neg (by simp [idle])]
  cases answers.init with
  | some status =>
      exact starts_fail empty holds (by decide) (List.Subset.refl _) _
  | none =>
      obtain ⟨based, made, holds⟩ := holds.create (by decide)
        (show UcxObject.context ∉ [] by decide)
      simp only [UcxObject.links] at made
      simp only [made, Option.bind_some]
      exact starts_makeWorker answers empty holds

end Start

/-! ## Runs -/

/-- What a lifetime keeps: its executor owns its buffers, the objects of the
library are those of a running executor, and one that does not run has no
buffer. -/
structure Sound (lifetime : UcxLifetime β) : Prop where
  owned : lifetime.executor.Owned
  holds : Heap.Holds UcxObject.links lifetime.live lifetime.heap
  numbered : ∀ index ∈ lifetime.acceptedEps, index < lifetime.accepted
  disconnected : lifetime.executor.started = false → lifetime.acceptedEps = []
  unregistered : lifetime.executor.started = false →
    lifetime.executor.buffers.keys = ∅

/-- A failed `Start` leaves no trace.  `Stop` is in order exactly when the
executor does not run or no buffer is registered; where idle buffers are kept,
when none has ever been. -/
structure Orderly (options : UcxOptions) (lifetime : UcxLifetime β) :
    Prop where
  starts : ∀ answers, ∃ next result,
    lifetime.start options answers = some (next, result) ∧
      ∀ error, result = .error error →
        next = lifetime ∧ lifetime.heap = .empty
  stops_iff : lifetime.stop.isSome ↔
    lifetime.executor.started = false ∨ lifetime.executor.buffers.keys = ∅
  released : ∀ next, lifetime.stop = some next →
    next.heap = .empty ∧ next.executor.buffers.keys = ∅
  stops_iff_unused : 0 < options.bufferPoolMaxIdle →
    (lifetime.stop.isSome ↔
      lifetime.executor.started = false ∨ lifetime.executor.allocated = 0)

section Runs

theorem sound_new (bindHost : String) (backend : β) :
    (new bindHost backend).Sound where
  owned := .init false backend
  holds := Heap.holds_empty _
  numbered := by simp [new]
  disconnected := fun _ => rfl
  unregistered := fun _ => rfl

/-- An executor that does not run has nothing of the library. -/
theorem Sound.heap_eq_empty
    (sound : lifetime.Sound)
    (idle : lifetime.executor.started = false) :
    lifetime.heap = .empty := by
  have holds := sound.holds
  rw [live, if_neg (by simp [idle])] at holds
  exact holds.eq_empty

/-- A started executor is sound. -/
theorem Sound.started
    {heap : Heap UcxObject}
    (sound : lifetime.Sound)
    (idle : lifetime.executor.started = false)
    (holds : Heap.Holds UcxObject.links
      [.progressThread, .listener, .worker, .context] heap) :
    (lifetime.started heap).Sound where
  owned := sound.owned.emptied true
  holds := by
    refine ⟨holds.conforms, fun object => (holds.alive object).trans ?_⟩
    simp [live, UcxLifetime.started, sound.disconnected idle]
    tauto
  numbered := sound.numbered
  disconnected := by simp [UcxLifetime.started]
  unregistered := by simp [UcxLifetime.started]

/-- The end of a running executor with no buffer. -/
theorem Sound.stop_eq
    (sound : lifetime.Sound)
    (runs : lifetime.executor.started = true)
    (unregistered : lifetime.executor.buffers.keys = ∅) :
    lifetime.stop =
      some { lifetime with
        heap := .empty
        acceptedEps := []
        hasRegistry := false
        executor := lifetime.executor.stop } := by
  have holds := sound.holds
  rw [live, if_pos runs] at holds
  have released := holds.resetAll (disposable_order lifetime.acceptedEps)
    (List.Subset.refl _)
  have split : [.listener, .progressThread] ++
      lifetime.acceptedEps.map .endpoint ++ [.worker, .context] =
        ([.listener, .progressThread] ++
          lifetime.acceptedEps.map .endpoint ++ [.worker]) ++
            [UcxObject.context] := by
    simp
  rw [split, Heap.resetAll_append] at released
  obtain ⟨bare, workerless, last⟩ := Option.bind_eq_some_iff.mp released
  have based : bare.reset .context = some .empty := by
    simpa [Heap.resetAll] using last
  rw [stop, if_neg (by simp [runs])]
  simp only [workerless, cleanup, if_pos unregistered, based,
    Option.bind_eq_bind, Option.bind_some]
  rfl

/-- `Start` is not refused, and is without a trace where it fails. -/
theorem Sound.start
    (sound : lifetime.Sound)
    (answers : StartAnswers) :
    ∃ next result, lifetime.start options answers = some (next, result) ∧
      next.Sound ∧ next.executor.buffers = lifetime.executor.buffers ∧
        next.executor.allocated = lifetime.executor.allocated ∧
          ∀ error, result = .error error →
            next = lifetime ∧ lifetime.heap = .empty := by
  by_cases runs : lifetime.executor.started = true
  · refine ⟨lifetime, .ok (), ?_, sound, rfl, rfl, by simp⟩
    rw [UcxLifetime.start, if_pos runs]
  · have idle : lifetime.executor.started = false := by simpa using runs
    have empty := sound.heap_eq_empty idle
    rcases starts_start answers idle empty with
      ⟨error, failed⟩ | ⟨heap, succeeded, holds⟩
    · exact ⟨lifetime, _, failed, sound, rfl, rfl, fun _ _ => ⟨rfl, empty⟩⟩
    · exact ⟨_, _, succeeded, sound.started idle holds, rfl, rfl, by simp⟩

/-- `Stop` of a running executor is in order exactly without buffers. -/
theorem Sound.stop_cases
    (sound : lifetime.Sound)
    (stopped : lifetime.stop = some next) :
    next = lifetime ∧ lifetime.executor.started = false ∨
      lifetime.executor.started = true ∧
        lifetime.executor.buffers.keys = ∅ ∧
          next = { lifetime with
            heap := .empty
            acceptedEps := []
            hasRegistry := false
            executor := lifetime.executor.stop } := by
  by_cases runs : lifetime.executor.started = true
  · have unregistered : lifetime.executor.buffers.keys = ∅ := by
      by_contra registered
      rw [stop, if_neg (by simp [runs])] at stopped
      simp [cleanup, registered] at stopped
    rw [sound.stop_eq runs unregistered] at stopped
    exact .inr ⟨runs, unregistered, (Option.some.inj stopped).symm⟩
  · have idle : lifetime.executor.started = false := by simpa using runs
    rw [stop, if_pos idle] at stopped
    exact .inl ⟨(Option.some.inj stopped).symm, idle⟩

theorem Sound.onConnRequest
    {created : Bool}
    (sound : lifetime.Sound)
    (connected : lifetime.onConnRequest created = some next) :
    next.Sound ∧ next.executor = lifetime.executor := by
  obtain ⟨listens, connected⟩ := Option.ite_none_right_eq_some.mp connected
  have runs : lifetime.executor.started = true := by
    by_contra idle
    rw [sound.heap_eq_empty (by simpa using idle)] at listens
    exact Heap.not_alive_empty _ listens
  split at connected
  · have holds := sound.holds
    rw [live, if_pos runs] at holds
    obtain ⟨heap, made, holds⟩ := holds.create
      (show UcxObject.links (.endpoint lifetime.accepted) ⊆ _ by
        simp [UcxObject.links])
      (by
        simp only [List.mem_append, List.mem_map, List.mem_cons,
          UcxObject.endpoint.injEq, exists_eq_right]
        intro listed
        have below := sound.numbered lifetime.accepted (by simpa using listed)
        omega)
    simp only [UcxObject.links] at made
    rw [made] at connected
    obtain rfl := Option.some.inj connected
    refine ⟨⟨sound.owned, ⟨holds.conforms, fun object =>
      (holds.alive object).trans ?_⟩, ?_, ?_, ?_⟩, rfl⟩
    · simp only [live, runs, List.map_append, List.mem_append, List.mem_cons,
        if_true]
      grind
    · intro index listed
      rcases List.mem_append.mp listed with before | new
      · exact Nat.lt_succ_of_lt (sound.numbered index before)
      · simp at new
        simp [new]
    · simp [runs]
    · simp [runs]
  · obtain rfl := Option.some.inj connected
    exact ⟨sound, rfl⟩

theorem Sound.handle
    {event : UcxExecutor.Event}
    {executor : UcxExecutor β}
    (sound : lifetime.Sound)
    (handled : lifetime.executor.handle iface options event =
      some executor) :
    ({ lifetime with executor } : UcxLifetime β).Sound := by
  have effect := UcxExecutor.handles_of_handle sound.owned handled
  refine ⟨sound.owned.handles effect, ?_, sound.numbered, ?_, ?_⟩
  · have holds := sound.holds
    rwa [live, ← effect.started] at holds
  · rw [effect.started]
    exact sound.disconnected
  · intro idle
    rw [effect.started] at idle
    exact sound.owned.unregistered_of_handle idle (sound.unregistered idle)
      handled

/-- Every step keeps a lifetime sound. -/
theorem Sound.step
    {call : Call}
    (sound : lifetime.Sound)
    (stepped : lifetime.step iface options call = some next) :
    next.Sound := by
  cases call with
  | start answers =>
      obtain ⟨after, result, started, kept, -⟩ := sound.start answers
      rw [UcxLifetime.step, started] at stepped
      rwa [← Option.some.inj stepped]
  | onConnRequest created => exact (sound.onConnRequest stepped).1
  | handle event =>
      obtain ⟨-, stepped⟩ := Option.ite_none_right_eq_some.mp stepped
      obtain ⟨executor, handled, rfl⟩ := Option.map_eq_some_iff.mp stepped
      exact sound.handle handled
  | stop =>
      rcases sound.stop_cases stepped with
        ⟨rfl, -⟩ | ⟨runs, unregistered, rfl⟩
      · exact sound
      · have ended := sound.owned.stop_eq runs unregistered
        refine ⟨?_, ?_, by simp, fun _ => rfl, fun _ => ?_⟩
        · rw [ended]
          exact sound.owned.emptied false
        · rw [live, ended]
          exact Heap.holds_empty _
        · rw [ended]
          exact unregistered

theorem sound_of_reachable
    (reachable : (machine iface options).Reachable Machine.always lifetime) :
    lifetime.Sound := by
  refine reachable.invariant ?_ ?_
  · rintro start ⟨bindHost, backend, rfl⟩
    exact sound_new bindHost backend
  · intro state call next sound _ stepped
    exact sound.step stepped

/-- Steps keep the buffers stocked, if idle ones are kept. -/
theorem Sound.stocked_step
    {call : Call}
    (sound : lifetime.Sound)
    (stocked : lifetime.executor.Stocked)
    (keeps : 0 < options.bufferPoolMaxIdle)
    (stepped : lifetime.step iface options call = some next) :
    next.executor.Stocked := by
  cases call with
  | start answers =>
      obtain ⟨after, result, started, -, buffers, allocated, -⟩ :=
        sound.start answers
      rw [UcxLifetime.step, started] at stepped
      obtain rfl := Option.some.inj stepped
      rwa [UcxExecutor.Stocked, buffers, allocated]
  | onConnRequest created =>
      rwa [(sound.onConnRequest stepped).2]
  | handle event =>
      obtain ⟨-, stepped⟩ := Option.ite_none_right_eq_some.mp stepped
      obtain ⟨executor, handled, rfl⟩ := Option.map_eq_some_iff.mp stepped
      exact stocked.handles sound.owned keeps
        (UcxExecutor.handles_of_handle sound.owned handled)
  | stop =>
      rcases sound.stop_cases stepped with
        ⟨rfl, -⟩ | ⟨runs, unregistered, rfl⟩
      · exact stocked
      · rw [sound.owned.stop_eq runs unregistered]
        exact stocked

theorem stocked_of_reachable
    (reachable : (machine iface options).Reachable Machine.always lifetime)
    (keeps : 0 < options.bufferPoolMaxIdle) :
    lifetime.executor.Stocked := by
  let stocked : UcxLifetime β → Prop := fun state => state.executor.Stocked
  have holds : stocked lifetime := by
    refine reachable.induction ?_ ?_
    · rintro start ⟨bindHost, backend, rfl⟩ allocated
      exact absurd allocated (Nat.lt_irrefl 0)
    · intro state call next reached kept _ stepped
      exact (sound_of_reachable reached).stocked_step kept keeps stepped
  exact holds

end Runs

/-- When starting and stopping is in order, in every run. -/
theorem orderly_of_reachable
    (reachable : (machine iface options).Reachable Machine.always lifetime) :
    lifetime.Orderly options := by
  have sound := sound_of_reachable reachable
  have stops : lifetime.stop.isSome ↔ lifetime.executor.started = false ∨
      lifetime.executor.buffers.keys = ∅ := by
    constructor
    · intro inOrder
      obtain ⟨next, stopped⟩ := Option.isSome_iff_exists.mp inOrder
      rcases sound.stop_cases stopped with ⟨-, idle⟩ | ⟨-, unregistered, -⟩
      · exact .inl idle
      · exact .inr unregistered
    · rintro (idle | unregistered)
      · rw [stop, if_pos idle]
        rfl
      · by_cases runs : lifetime.executor.started = true
        · rw [sound.stop_eq runs unregistered]
          rfl
        · rw [stop, if_pos (by simpa using runs)]
          rfl
  refine ⟨fun answers => ?_, stops, fun next stopped => ?_, fun keeps => ?_⟩
  · obtain ⟨next, result, started, -, -, -, failed⟩ := sound.start answers
    exact ⟨next, result, started, failed⟩
  · rcases sound.stop_cases stopped with
      ⟨rfl, idle⟩ | ⟨runs, unregistered, rfl⟩
    · exact ⟨sound.heap_eq_empty idle, sound.unregistered idle⟩
    · refine ⟨rfl, ?_⟩
      rw [sound.owned.stop_eq runs unregistered]
      exact unregistered
  · rw [stops]
    have stocked := stocked_of_reachable reachable keeps
    exact or_congr_right (stocked.unregistered_iff sound.owned)

private theorem served_named : "ses" ≠ "" := by decide

/-- The executor is started and serves one transfer to its end. -/
private def served : List Call :=
  [.start ⟨none, none, true, none, true, none⟩,
    .handle (.sessionOpened ⟨"ses", "bucket", "key", 1, served_named⟩),
    .handle (.prepareTransfer "ses" 1 (.registered (fun _ => 0) 4096 [1])),
    .handle (.amWriteDone "ses"),
    .handle (.commitObject "ses" 1 "")]

/-- It has an idle buffer, and its `Stop` is out of order. -/
theorem orderly_served :
    ∃ lifetime : UcxLifetime (CompositeBackend × Nat),
      (machine overComposite (.default "gateway")).Reachable Machine.always
          lifetime ∧
        lifetime.Orderly (.default "gateway") ∧
          lifetime.executor.pool = [0] ∧ lifetime.stop.isSome = false := by
  have initial : (machine overComposite (.default "gateway")).initial
      (new "0.0.0.0" (.init 16, 0)) :=
    ⟨_, _, rfl⟩
  have executed : ((machine overComposite (.default "gateway")).run
      Machine.always (new "0.0.0.0" (.init 16, 0)) served).map
        (fun lifetime => (lifetime.executor.pool, lifetime.stop.isSome)) =
      some ([0], false) := by
    decide
  obtain ⟨lifetime, reachable, observed⟩ :=
    Machine.Reachable.of_run_map initial executed
  exact ⟨lifetime, reachable, orderly_of_reachable reachable,
    congrArg Prod.fst observed, congrArg Prod.snd observed⟩

end UcxLifetime
end Ucx
end Gateway
end TurboAccess
