import TurboAccess.Gateway.Ucx.Ownership

/-!
# Clients of the executor

Any number of put attempts run against one executor.  An attempt opens a
session, has its transfer prepared, posts a remote write of its data to the
buffer it was told about, and commits; after the remote write it sends an active
message that carries the session identifier and nothing else.  The write and the
message are in flight until they are delivered, the message after the write, and
each of them as late as the network likes.  An attempt may be aborted at any
point, and a session identifier may be opened again by a later attempt.

What an attempt remembers of a prepared transfer is which entry answered and
which buffer it was given.  The client itself knows only the address.
-/

namespace TurboAccess
namespace Gateway
namespace Ucx

/-- What a client puts. -/
structure Transfer where
  session : Session
  data : Bytes
  operation : CommitOperation
  clientCrc32c : String
  deriving DecidableEq

namespace Transfer

/-- The session identifier of a transfer. -/
def sessionId (transfer : Transfer) : String := transfer.session.sessionId

/-- The commit that a client sends for its transfer. -/
def commitEvent (transfer : Transfer) : UcxExecutor.Event :=
  match transfer.operation with
  | .object =>
      .commitObject transfer.sessionId transfer.data.length
        transfer.clientCrc32c
  | .part backendUploadId partNumber =>
      .commitPart transfer.sessionId backendUploadId partNumber
        transfer.data.length transfer.clientCrc32c

/-- That commit as the executor sees it. -/
def request (transfer : Transfer) (onDone : Nat) : CommitRequest where
  operation := transfer.operation
  sessionId := transfer.sessionId
  bytesTransferred := transfer.data.length
  clientCrc32c := transfer.clientCrc32c
  onDone := onDone

theorem request_commitEvent (transfer : Transfer) (onDone : Nat) :
    transfer.commitEvent.request onDone = some (transfer.request onDone) := by
  cases operation : transfer.operation <;>
    simp [commitEvent, request, UcxExecutor.Event.request, operation]

end Transfer

/-- One attempt of a client.  `prepared` is the entry that answered its
`PrepareTransfer`, with the buffer. -/
structure Attempt where
  transfer : Transfer
  prepared : Option (Nat × Nat)
  posted : Bool
  landed : Bool
  notified : Bool
  request : Option Nat
  aborted : Bool
  deriving DecidableEq

/-- An attempt that has opened its session. -/
def Attempt.start (transfer : Transfer) : Attempt where
  transfer := transfer
  prepared := none
  posted := false
  landed := false
  notified := false
  request := none
  aborted := false

/-- The steps of an attempt: its calls of the gateway, its remote write being
posted and delivered, and its active message being delivered. -/
inductive Input
  | openSession (transfer : Transfer)
  | prepareTransfer (allocation : Allocation)
  | put
  | land
  | writeDone
  | commit
  | abort

/-- The entry and the buffer of a session. -/
def UcxExecutor.location
    {β : Type}
    (executor : UcxExecutor β)
    (sessionId : String) : Option (Nat × Nat) :=
  (executor.registry.lookup sessionId).bind fun entry =>
    entry.slot.map fun slot => (entry.serial, slot)

section Advance

variable {β : Type} (iface : IBackend β) (options : UcxOptions)

/-- One step of an attempt. -/
def advance (executor : UcxExecutor β) :
    Option Attempt → Input → Option (UcxExecutor β × Option Attempt)
  | none, .openSession transfer =>
      (executor.handle iface options (.sessionOpened transfer.session)).map
        fun next => (next, some (.start transfer))
  | some attempt, .prepareTransfer allocation =>
      if attempt.prepared = none then
        match executor.prepareTransfer options attempt.transfer.sessionId
            attempt.transfer.data.length allocation with
        | (.error _, next) => some (next, some attempt)
        | (.ok _, next) =>
            some (next, some { attempt with
              prepared := next.location attempt.transfer.sessionId })
      else none
  | some attempt, .put =>
      if attempt.prepared.isSome ∧ attempt.posted = false then
        some (executor, some { attempt with posted := true })
      else none
  | some attempt, .land =>
      match attempt.prepared with
      | none => none
      | some (_, slot) =>
          if attempt.posted = true ∧ attempt.landed = false then
            (executor.handle iface options
                (.remoteWrite slot attempt.transfer.data)).map
              fun next => (next, some { attempt with landed := true })
          else none
  | some attempt, .writeDone =>
      if attempt.landed = true ∧ attempt.notified = false then
        (executor.handle iface options
            (.amWriteDone attempt.transfer.sessionId)).map
          fun next => (next, some { attempt with notified := true })
      else none
  | some attempt, .commit =>
      if attempt.prepared.isSome ∧ attempt.request = none then
        (executor.handle iface options attempt.transfer.commitEvent).map
          fun next =>
            (next, some { attempt with request := some executor.requests })
      else none
  | some attempt, .abort =>
      if attempt.aborted = false then
        (executor.handle iface options
            (.abortSession attempt.transfer.sessionId)).map
          fun next => (next, some { attempt with aborted := true })
      else none
  | _, _ => none

/-- A started executor that no attempt has reached yet. -/
def untouched (backend : β) : Pool (UcxExecutor β) (Option Attempt) :=
  ⟨UcxExecutor.init true backend, fun _ => none⟩

/-- All attempts over one executor. -/
def attempts :
    Machine (Pool (UcxExecutor β) (Option Attempt)) (Nat × Input) where
  initial pool :=
    (UcxExecutor.machine iface options).initial pool.shared ∧
      ∀ thread, pool.threads thread = none
  step := Pool.step (advance iface options)

theorem initial_untouched (backend : β) :
    (attempts iface options).initial (untouched backend) :=
  ⟨⟨true, backend, rfl⟩, fun _ => rfl⟩

end Advance

variable {β : Type} {iface : IBackend β} {options : UcxOptions}

/-! ## The steps of an attempt -/

/-- The steps of an attempt: the executor and the attempt after each. -/
inductive Takes
    (iface : IBackend β)
    (options : UcxOptions)
    (executor : UcxExecutor β) :
    Option Attempt → Input → UcxExecutor β → Option Attempt → Prop
  | opened (transfer : Transfer) :
      Takes iface options executor none (.openSession transfer)
        (executor.onSessionOpened transfer.session) (some (.start transfer))
  | unanswered (attempt : Attempt) (allocation : Allocation)
      (unprepared : attempt.prepared = none) :
      Takes iface options executor (some attempt)
        (.prepareTransfer allocation) executor (some attempt)
  | prepared (attempt : Attempt) (allocation : Allocation)
      (info : UcxDiscoverInfo) (location : Nat × Nat)
      (next : UcxExecutor β)
      (unprepared : attempt.prepared = none)
      (outcome : UcxExecutor.Prepares options executor
        attempt.transfer.sessionId attempt.transfer.data.length (.ok info)
        next)
      (located : next.location attempt.transfer.sessionId = some location) :
      Takes iface options executor (some attempt)
        (.prepareTransfer allocation) next
        (some { attempt with prepared := some location })
  | posted (attempt : Attempt) (location : Nat × Nat)
      (prepared : attempt.prepared = some location)
      (unposted : attempt.posted = false) :
      Takes iface options executor (some attempt) .put executor
        (some { attempt with posted := true })
  | landed (attempt : Attempt) (serial slot : Nat) (next : UcxExecutor β)
      (prepared : attempt.prepared = some (serial, slot))
      (posted : attempt.posted = true)
      (inFlight : attempt.landed = false)
      (effect : UcxExecutor.Handles iface options executor
        (.remoteWrite slot attempt.transfer.data) next) :
      Takes iface options executor (some attempt) .land next
        (some { attempt with landed := true })
  | notified (attempt : Attempt) (next : UcxExecutor β)
      (landed : attempt.landed = true)
      (inFlight : attempt.notified = false)
      (effect : UcxExecutor.Handles iface options executor
        (.amWriteDone attempt.transfer.sessionId) next) :
      Takes iface options executor (some attempt) .writeDone next
        (some { attempt with notified := true })
  | committed (attempt : Attempt) (location : Nat × Nat)
      (next : UcxExecutor β)
      (prepared : attempt.prepared = some location)
      (first : attempt.request = none)
      (effect : UcxExecutor.Handles iface options executor
        attempt.transfer.commitEvent next) :
      Takes iface options executor (some attempt) .commit next
        (some { attempt with request := some executor.requests })
  | aborted (attempt : Attempt) (next : UcxExecutor β)
      (effect : UcxExecutor.Handles iface options executor
        (.abortSession attempt.transfer.sessionId) next) :
      Takes iface options executor (some attempt) .abort next
        (some { attempt with aborted := true })

/-- A successful preparation leaves the session with a buffer. -/
theorem location_of_prepares
    {executor next : UcxExecutor β}
    {sessionId : String}
    {transferBytes : Nat}
    {info : UcxDiscoverInfo}
    (outcome : UcxExecutor.Prepares options executor sessionId transferBytes
      (.ok info) next) :
    ∃ location, next.location sessionId = some location := by
  cases outcome with
  | again entry slot info found held same =>
      exact ⟨(entry.serial, slot), by simp [UcxExecutor.location, found, held]⟩
  | reused entry slot buffer info before after found vacant idle registered
      large =>
      exact ⟨(entry.serial, slot), by
        simp [UcxExecutor.location, UcxExecutor.attach, Finmap.lookup_insert]⟩
  | registered entry buffer info found vacant large =>
      exact ⟨(entry.serial, executor.allocated), by
        simp [UcxExecutor.location, UcxExecutor.attach, Finmap.lookup_insert]⟩

/-- A step that passes an event on to the executor. -/
private theorem handle_of_map
    {executor next : UcxExecutor β}
    {event : UcxExecutor.Event}
    {attempt after : Option Attempt}
    (mapped : (executor.handle iface options event).map
      (fun result => (result, attempt)) = some (next, after)) :
    executor.handle iface options event = some next ∧ attempt = after := by
  simp only [Option.map_eq_some_iff, Prod.mk.injEq] at mapped
  obtain ⟨result, handled, rfl, same⟩ := mapped
  exact ⟨handled, same⟩

/-- Every step of an attempt is one of the listed ones. -/
theorem takes_of_advance
    {executor next : UcxExecutor β}
    {attempt after : Option Attempt}
    {input : Input}
    (owned : executor.Owned)
    (advanced : advance iface options executor attempt input =
      some (next, after)) :
    Takes iface options executor attempt input next after := by
  unfold advance at advanced
  split at advanced
  · next transfer =>
      cases advanced
      exact .opened transfer
  · next attempt allocation =>
      split at advanced
      · next unprepared =>
          have outcome : UcxExecutor.Prepares options executor
              attempt.transfer.sessionId attempt.transfer.data.length _ _ :=
            UcxExecutor.prepareTransfer_cases owned _ _ allocation
          split at advanced
          · next error result same =>
              cases advanced
              rw [same] at outcome
              cases outcome
              exact .unanswered attempt allocation unprepared
          · next info result same =>
              cases advanced
              rw [same] at outcome
              obtain ⟨location, located⟩ := location_of_prepares outcome
              rw [located]
              exact .prepared attempt allocation info location _ unprepared
                outcome located
      · cases advanced
  · next attempt =>
      split at advanced
      · next ready =>
          cases advanced
          obtain ⟨location, prepared⟩ := Option.isSome_iff_exists.mp ready.1
          exact .posted attempt location prepared ready.2
      · cases advanced
  · next attempt =>
      split at advanced
      · cases advanced
      · next serial slot prepared =>
          split at advanced
          · next ready =>
              obtain ⟨handled, rfl⟩ := handle_of_map advanced
              exact .landed attempt serial slot next prepared ready.1 ready.2
                (UcxExecutor.handles_of_handle owned handled)
          · cases advanced
  · next attempt =>
      split at advanced
      · next ready =>
          obtain ⟨handled, rfl⟩ := handle_of_map advanced
          exact .notified attempt next ready.1 ready.2
            (UcxExecutor.handles_of_handle owned handled)
      · cases advanced
  · next attempt =>
      split at advanced
      · next ready =>
          obtain ⟨handled, rfl⟩ := handle_of_map advanced
          obtain ⟨location, prepared⟩ := Option.isSome_iff_exists.mp ready.1
          exact .committed attempt location next prepared ready.2
            (UcxExecutor.handles_of_handle owned handled)
      · cases advanced
  · next attempt =>
      split at advanced
      · obtain ⟨handled, rfl⟩ := handle_of_map advanced
        exact .aborted attempt next
          (UcxExecutor.handles_of_handle owned handled)
      · cases advanced
  · cases advanced

/-- A step of an attempt leaves the executor alone, or is an event that the
executor handles. -/
theorem handle_of_advance
    {executor next : UcxExecutor β}
    {attempt after : Option Attempt}
    {input : Input}
    (advanced : advance iface options executor attempt input =
      some (next, after)) :
    next = executor ∨
      ∃ event, executor.handle iface options event = some next := by
  unfold advance at advanced
  split at advanced
  · next transfer =>
      cases advanced
      exact .inr ⟨.sessionOpened transfer.session, rfl⟩
  · next attempt allocation =>
      split at advanced
      · refine .inr ⟨.prepareTransfer attempt.transfer.sessionId
          attempt.transfer.data.length allocation, ?_⟩
        split at advanced <;>
        · next same =>
            cases advanced
            simp only [UcxExecutor.handle, same]
      · cases advanced
  · split at advanced
    · cases advanced
      exact .inl rfl
    · cases advanced
  · split at advanced
    · cases advanced
    · split at advanced
      · exact .inr ⟨_, (handle_of_map advanced).1⟩
      · cases advanced
  · split at advanced
    · exact .inr ⟨_, (handle_of_map advanced).1⟩
    · cases advanced
  · split at advanced
    · exact .inr ⟨_, (handle_of_map advanced).1⟩
    · cases advanced
  · split at advanced
    · exact .inr ⟨_, (handle_of_map advanced).1⟩
    · cases advanced
  · cases advanced

/-- The event that a step of an attempt is to the executor. -/
def Input.event (attempt : Option Attempt) (input : Input) :
    Option UcxExecutor.Event :=
  match attempt, input with
  | none, .openSession transfer => some (.sessionOpened transfer.session)
  | some attempt, .prepareTransfer allocation =>
      some (.prepareTransfer attempt.transfer.sessionId
        attempt.transfer.data.length allocation)
  | some attempt, .land =>
      attempt.prepared.map fun location =>
        .remoteWrite location.2 attempt.transfer.data
  | some attempt, .writeDone =>
      some (.amWriteDone attempt.transfer.sessionId)
  | some attempt, .commit => some attempt.transfer.commitEvent
  | some attempt, .abort =>
      some (.abortSession attempt.transfer.sessionId)
  | _, _ => none

/-- A step of an attempt leaves the executor alone, or has the effects of its
event. -/
theorem Takes.effect
    {executor next : UcxExecutor β}
    {attempt after : Option Attempt}
    {input : Input}
    (takes : Takes iface options executor attempt input next after) :
    next = executor ∨
      ∃ event, input.event attempt = some event ∧
        UcxExecutor.Handles iface options executor event next := by
  cases takes with
  | opened transfer => exact .inr ⟨_, rfl, .opened transfer.session⟩
  | unanswered attempt allocation unprepared => exact .inl rfl
  | prepared attempt allocation info location next unprepared outcome
      located =>
      exact .inr ⟨_, rfl, .prepared _ _ allocation _ _ outcome⟩
  | posted attempt location prepared unposted => exact .inl rfl
  | landed attempt serial slot next prepared posted inFlight effect =>
      refine .inr ⟨_, ?_, effect⟩
      simp [Input.event, prepared]
  | notified attempt next landed inFlight effect => exact .inr ⟨_, rfl, effect⟩
  | committed attempt location next prepared first effect =>
      exact .inr ⟨_, rfl, effect⟩
  | aborted attempt next effect => exact .inr ⟨_, rfl, effect⟩

/-! ## Reachable executors -/

section Reachable

variable {guard : Pool (UcxExecutor β) (Option Attempt) → Nat × Input → Prop}
  {pool : Pool (UcxExecutor β) (Option Attempt)}

/-- The executor under any attempts is a reachable executor. -/
theorem reachable_shared
    (reachable : (attempts iface options).Reachable guard pool) :
    (UcxExecutor.machine iface options).Reachable Machine.always
      pool.shared := by
  let reaches : Pool (UcxExecutor β) (Option Attempt) → Prop := fun pool =>
    (UcxExecutor.machine iface options).Reachable Machine.always pool.shared
  have reached : reaches pool := by
    refine reachable.invariant ?_ ?_
    · rintro start ⟨initial, _⟩
      exact ⟨start.shared, [], initial, .nil⟩
    · intro before label after reached _ stepped
      obtain ⟨shared, attempt, advanced, rfl⟩ := Pool.step_eq_some stepped
      rcases handle_of_advance advanced with rfl | ⟨event, handled⟩
      · exact reached
      · exact reached.step trivial handled
  exact reached

/-- Every step of reachable attempts is one of the listed ones. -/
theorem takes_of_step
    {next : Pool (UcxExecutor β) (Option Attempt)}
    {label : Nat × Input}
    (reachable : (attempts iface options).Reachable guard pool)
    (stepped : (attempts iface options).step pool label = some next) :
    ∃ shared attempt,
      Takes iface options pool.shared (pool.threads label.1) label.2 shared
          attempt ∧
        next = ⟨shared, Function.update pool.threads label.1 attempt⟩ := by
  obtain ⟨shared, attempt, advanced, same⟩ := Pool.step_eq_some stepped
  have owned := UcxExecutor.Owned.of_reachable (reachable_shared reachable)
  exact ⟨shared, attempt, takes_of_advance owned advanced, same⟩

/-- The invariant rule for attempts: a step establishes the property of the
attempt that takes it, and keeps that of every other attempt. -/
theorem forall_attempts
    {property : UcxExecutor β → Attempt → Prop}
    (reachable : (attempts iface options).Reachable guard pool)
    (own : ∀ before mover input shared after,
      (attempts iface options).Reachable guard before →
        (attempts iface options).Reachable guard
            ⟨shared, Function.update before.threads mover after⟩ →
          Takes iface options before.shared (before.threads mover) input
              shared after →
            (∀ attempt, before.threads mover = some attempt →
              property before.shared attempt) →
              ∀ attempt, after = some attempt → property shared attempt)
    (others : ∀ before mover input shared after thread attempt,
      (attempts iface options).Reachable guard before →
        guard before (mover, input) →
          Takes iface options before.shared (before.threads mover) input
              shared after →
            thread ≠ mover → before.threads thread = some attempt →
              property before.shared attempt → property shared attempt)
    {thread : Nat}
    {attempt : Attempt}
    (running : pool.threads thread = some attempt) :
    property pool.shared attempt := by
  let holds : Pool (UcxExecutor β) (Option Attempt) → Prop := fun pool =>
    ∀ thread attempt, pool.threads thread = some attempt →
      property pool.shared attempt
  have everywhere : holds pool := by
    refine reachable.induction ?_ ?_
    · rintro start ⟨_, idle⟩ thread attempt running
      rw [idle thread] at running
      cases running
    · rintro before ⟨mover, input⟩ next reached known allowed stepped thread
        attempt running
      have reachedNext := reached.step allowed stepped
      obtain ⟨shared, after, takes, rfl⟩ := takes_of_step reached stepped
      by_cases moves : thread = mover
      · subst moves
        simp only [Function.update_self] at running
        exact own before thread input shared after reached reachedNext takes
          (known thread) attempt running
      · simp only [Function.update_of_ne moves] at running
        exact others before mover input shared after thread attempt reached
          allowed takes moves running (known thread attempt running)
  exact everywhere thread attempt running

/-! ## What an attempt knows stays right -/

/-- An attempt has done its steps in order, and the entry that answered its
preparation, while it is registered, has the attempt's session identifier and
the buffer the attempt was given. -/
structure Attempt.Placed
    (executor : UcxExecutor β)
    (attempt : Attempt) : Prop where
  posted : attempt.posted = true → attempt.prepared ≠ none
  landed : attempt.landed = true → attempt.posted = true
  notified : attempt.notified = true → attempt.landed = true
  older : ∀ serial slot, attempt.prepared = some (serial, slot) →
    serial < executor.created
  located : ∀ serial slot sessionId entry,
    attempt.prepared = some (serial, slot) →
      executor.registry.lookup sessionId = some entry →
        entry.serial = serial →
          sessionId = attempt.transfer.sessionId ∧ entry.slot = some slot

/-- Events keep an attempt's knowledge right. -/
theorem Attempt.Placed.handles
    {executor next : UcxExecutor β}
    {event : UcxExecutor.Event}
    {attempt : Attempt}
    (placed : attempt.Placed executor)
    (effect : UcxExecutor.Handles iface options executor event next) :
    attempt.Placed next where
  posted := placed.posted
  landed := placed.landed
  notified := placed.notified
  older := by
    intro serial slot prepared
    have older := placed.older serial slot prepared
    have counter := effect.created
    omega
  located := by
    intro serial slot sessionId entry prepared found same
    rcases effect.entry_origin found with
      ⟨session, opening, named, rfl⟩ | ⟨before, was, sameSerial, kept⟩
    · have older := placed.older serial slot prepared
      change executor.created = serial at same
      omega
    · obtain ⟨named, held⟩ := placed.located serial slot sessionId before
        prepared was (sameSerial.symm.trans same)
      refine ⟨named, ?_⟩
      rcases kept with vacant | ⟨sameSlot, _⟩
      · rw [held] at vacant
        cases vacant
      · rw [sameSlot, held]

/-- Steps of any attempt keep an attempt's knowledge right. -/
theorem Attempt.Placed.takes
    {executor next : UcxExecutor β}
    {frame after : Option Attempt}
    {input : Input}
    {attempt : Attempt}
    (placed : attempt.Placed executor)
    (takes : Takes iface options executor frame input next after) :
    attempt.Placed next := by
  rcases takes.effect with rfl | ⟨event, _, effect⟩
  · exact placed
  · exact placed.handles effect

/-- A preparation gives an attempt right knowledge. -/
theorem Attempt.Placed.prepared
    {executor : UcxExecutor β}
    {attempt : Attempt}
    {location : Nat × Nat}
    (placed : attempt.Placed executor)
    (numbered : executor.Numbered)
    (located : executor.location attempt.transfer.sessionId =
      some location) :
    { attempt with prepared := some location }.Placed executor := by
  simp only [UcxExecutor.location, Option.bind_eq_some_iff,
    Option.map_eq_some_iff] at located
  obtain ⟨entry, found, slot, held, rfl⟩ := located
  refine ⟨fun _ => nofun, placed.landed, placed.notified, ?_, ?_⟩
  · intro serial other same
    cases same
    exact numbered.below _ entry found
  · intro serial other sessionId otherEntry same otherFound sameSerial
    cases same
    have named := numbered.unique _ _ _ _ otherFound found sameSerial
    subst named
    cases found.symm.trans otherFound
    exact ⟨rfl, held⟩

/-- The attempts of a reachable pool know where their transfers are. -/
theorem placed_of_reachable
    (reachable : (attempts iface options).Reachable guard pool)
    {thread : Nat}
    {attempt : Attempt}
    (running : pool.threads thread = some attempt) :
    attempt.Placed pool.shared := by
  refine forall_attempts reachable ?_ ?_ running
  · intro before mover input shared after _ reachedNext takes known attempt
      moved
    have numbered := UcxExecutor.Numbered.of_reachable
      (reachable_shared reachedNext)
    have kept : ∀ attempt, before.threads mover = some attempt →
        attempt.Placed shared := by
      intro attempt running
      exact (known attempt running).takes takes
    generalize before.threads mover = frame at takes kept
    subst moved
    cases takes with
    | opened transfer => exact ⟨nofun, nofun, nofun, nofun, nofun⟩
    | unanswered attempt allocation unprepared => exact kept attempt rfl
    | prepared attempt allocation info location next unprepared outcome
        located => exact (kept attempt rfl).prepared numbered located
    | posted attempt location prepared unposted =>
        have old := kept attempt rfl
        exact ⟨fun _ => by simp [prepared], fun _ => rfl, old.notified,
          old.older, old.located⟩
    | landed attempt serial slot next prepared posted inFlight effect =>
        have old := kept attempt rfl
        exact ⟨old.posted, fun _ => posted, fun _ => rfl, old.older,
          old.located⟩
    | notified attempt next landed inFlight effect =>
        have old := kept attempt rfl
        exact ⟨old.posted, old.landed, fun _ => landed, old.older,
          old.located⟩
    | committed attempt location next prepared first effect =>
        have old := kept attempt rfl
        exact ⟨old.posted, old.landed, old.notified, old.older, old.located⟩
    | aborted attempt next effect =>
        have old := kept attempt rfl
        exact ⟨old.posted, old.landed, old.notified, old.older, old.located⟩
  · intro before mover input shared after thread attempt _ _ takes _ _ known
    exact known.takes takes

end Reachable

end Ucx
end Gateway
end TurboAccess
