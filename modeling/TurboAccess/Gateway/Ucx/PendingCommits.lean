import TurboAccess.Gateway.Ucx.Ownership

/-!
# Commits that wait

A commit that arrives before the active message of its session leaves its
callback in the registry entry of the session.  There is one place for it: a
second commit overwrites the first, and opening the session again, aborting it
or stopping the executor discards the entry together with the callback.

The executor is followed to its end here.  `Service` adds `Stop`, after which
no handler runs, and the list of all commit requests that were issued.
-/

namespace TurboAccess
namespace Gateway
namespace Ucx
namespace UcxExecutor

variable {β : Type} {iface : IBackend β} {options : UcxOptions}

/-! ## Waiting callbacks -/

/-- The commit that waits for the active message of a session. -/
def pendingOf (executor : UcxExecutor β) (sessionId : String) :
    Option CommitRequest :=
  (executor.registry.lookup sessionId).bind UcxSessionEntry.pendingCommit

/-- The session whose waiting commit an event leaves no room for. -/
def Event.displaces : Event → Option String
  | .sessionOpened session => some session.sessionId
  | .commitObject sessionId _ _ => some sessionId
  | .commitPart sessionId _ _ _ _ => some sessionId
  | .abortSession sessionId => some sessionId
  | .prepareTransfer _ _ _ => none
  | .remoteWrite _ _ => none
  | .amWriteDone _ => none

/-- A request displaces what waits in its own session. -/
theorem displaces_of_request
    {event : Event}
    {onDone : Nat}
    {request : CommitRequest}
    (requested : event.request onDone = some request) :
    event.displaces = some request.sessionId := by
  cases event <;> simp only [Event.request, Option.some.injEq,
    reduceCtorEq] at requested
  all_goals
    rw [← requested]
    rfl

/-- What an event does to the callbacks: those that are run and those that
wait. -/
inductive Settles
    (executor : UcxExecutor β)
    (event : Event)
    (next : UcxExecutor β) : Prop
  | keeps
      (unasked : event.request executor.requests = none)
      (undisplaced : event.displaces = none)
      (replies : next.replies = executor.replies)
      (pending : ∀ other, next.pendingOf other = executor.pendingOf other)
  | discards (sessionId : String)
      (unasked : event.request executor.requests = none)
      (displaced : event.displaces = some sessionId)
      (replies : next.replies = executor.replies)
      (pending : ∀ other, next.pendingOf other =
        if other = sessionId then none else executor.pendingOf other)
  | resumes (request : CommitRequest) (result : CommitResult)
      (unasked : event.request executor.requests = none)
      (undisplaced : event.displaces = none)
      (waited : executor.pendingOf request.sessionId = some request)
      (replies : next.replies = executor.replies ++ [⟨request, result⟩])
      (pending : ∀ other, next.pendingOf other =
        if other = request.sessionId then none else executor.pendingOf other)
  | answers (request : CommitRequest) (result : CommitResult)
      (asked : event.request executor.requests = some request)
      (replies : next.replies = executor.replies ++ [⟨request, result⟩])
      (idle : executor.pendingOf request.sessionId = none)
      (pending : ∀ other, next.pendingOf other = executor.pendingOf other)
  | waits (request : CommitRequest)
      (asked : event.request executor.requests = some request)
      (replies : next.replies = executor.replies)
      (pending : ∀ other, next.pendingOf other =
        if other = request.sessionId then some request
        else executor.pendingOf other)

/-- Waiting commits after an entry is replaced. -/
private theorem pendingOf_insert
    {executor next : UcxExecutor β}
    {sessionId : String}
    {entry : UcxSessionEntry}
    {waiting : Option CommitRequest}
    (registry : next.registry = executor.registry.insert sessionId entry)
    (waits : entry.pendingCommit = waiting)
    (other : String) :
    next.pendingOf other =
      if other = sessionId then waiting else executor.pendingOf other := by
  rw [pendingOf, registry, Table.lookup_insert_eq, ← waits]
  split <;> rfl

/-- Waiting commits after an entry is replaced by one with the same commit. -/
private theorem pendingOf_replaced
    {executor next : UcxExecutor β}
    {sessionId : String}
    {old entry : UcxSessionEntry}
    (registry : next.registry = executor.registry.insert sessionId entry)
    (found : executor.registry.lookup sessionId = some old)
    (same : entry.pendingCommit = old.pendingCommit)
    (other : String) :
    next.pendingOf other = executor.pendingOf other := by
  rw [pendingOf_insert registry same]
  split
  · next own => rw [own, pendingOf, found, Option.bind_some]
  · rfl

/-- Waiting commits after an entry is erased. -/
private theorem pendingOf_erase
    {executor next : UcxExecutor β}
    {sessionId : String}
    (registry : next.registry = executor.registry.erase sessionId)
    (other : String) :
    next.pendingOf other =
      if other = sessionId then none else executor.pendingOf other := by
  rw [pendingOf, registry, Table.lookup_erase_eq]
  split <;> rfl

/-- Every event deals with the callbacks in one of the listed ways. -/
theorem Handles.settles
    {executor next : UcxExecutor β}
    {event : Event}
    (effect : Handles iface options executor event next)
    (owned : executor.Owned) :
    Settles executor event next := by
  cases effect with
  | opened session =>
      exact .discards session.sessionId rfl rfl rfl (pendingOf_insert rfl rfl)
  | prepared key transferBytes allocation result next outcome =>
      cases outcome with
      | refused error => exact .keeps rfl rfl rfl (fun _ => rfl)
      | again entry slot info found held same =>
          exact .keeps rfl rfl rfl (fun _ => rfl)
      | reused entry slot buffer info before after found vacant idle
          registered large =>
          exact .keeps rfl rfl rfl (pendingOf_replaced rfl found rfl)
      | registered entry buffer info found vacant large =>
          exact .keeps rfl rfl rfl (pendingOf_replaced rfl found rfl)
  | landed slot data buffer registered fits =>
      exact .keeps rfl rfl rfl (fun _ => rfl)
  | unheard key absent => exact .keeps rfl rfl rfl (fun _ => rfl)
  | marked key entry found alone =>
      exact .keeps rfl rfl rfl (pendingOf_replaced rfl found alone.symm)
  | resumed entry slot buffer request found held registered waiting =>
      refine .resumes request _ rfl rfl ?_ (by rw [finishCommit_eq])
        (pendingOf_erase (registry_finishCommit _ _ _ _ _))
      rw [pendingOf, found, Option.bind_some, waiting]
  | refused event request result requested failed unprepared =>
      refine .answers request result requested rfl ?_ (fun _ => rfl)
      cases found : executor.registry.lookup request.sessionId with
      | none => rw [pendingOf, found, Option.bind_none]
      | some entry =>
          -- a commit waits in a prepared entry only
          rw [pendingOf, found, Option.bind_some]
          cases waiting : entry.pendingCommit with
          | none => rfl
          | some other =>
              obtain ⟨_, _, _, slot, held⟩ :=
                owned.waiting _ _ _ found waiting
              rw [unprepared entry found] at held
              cases held
  | waits event request entry slot requested found held unwritten =>
      exact .waits request requested rfl (pendingOf_insert rfl rfl)
  | finished event request entry slot buffer requested found held registered
      written =>
      -- no commit waits in an entry that is written
      have idle : entry.pendingCommit = none := by
        cases waiting : entry.pendingCommit with
        | none => rfl
        | some other =>
            obtain ⟨_, _, unwritten, _⟩ := owned.waiting _ _ _ found waiting
            rw [written] at unwritten
            cases unwritten
      have none : executor.pendingOf request.sessionId = none := by
        rw [pendingOf, found, Option.bind_some, idle]
      refine .answers request _ requested (by rw [finishCommit_eq]; rfl) none ?_
      intro other
      rw [pendingOf_erase (registry_finishCommit executor.numbered entry slot
        buffer request) other]
      split
      · next own => rw [own, none]
      · rfl
  | unknown key absent => exact .discards key rfl rfl rfl (by
      intro other
      split
      · next own => rw [own, pendingOf, absent, Option.bind_none]
      · rfl)
  | aborted key entry found =>
      exact .discards key rfl rfl (by rw [without_eq])
        (pendingOf_erase (registry_without _ _ _))

end UcxExecutor

open UcxExecutor

/-! ## The executor up to its end -/

/-- An executor, whether it has been stopped, and the commit requests that were
issued to it. -/
structure Service (β : Type) where
  executor : UcxExecutor β
  stopped : Bool
  issued : List CommitRequest

namespace Service

variable {β : Type} {iface : IBackend β} {options : UcxOptions}

/-- What reaches a service. -/
inductive Action
  | handle (event : Event)
  | stop

/-- Handle an event, or stop.  A stopped executor has no registry, and no
handler is called any more. -/
def step
    (iface : IBackend β)
    (options : UcxOptions)
    (service : Service β) : Action → Option (Service β)
  | .handle event =>
      if service.stopped then none
      else
        (service.executor.handle iface options event).map fun executor =>
          { service with
            executor
            issued := service.issued ++
              (event.request service.executor.requests).toList }
  | .stop =>
      some { service with
        executor := service.executor.stop
        stopped := service.stopped || service.executor.started }

/-- A service as a machine: any events, in any order, and `Stop`. -/
def machine
    (iface : IBackend β)
    (options : UcxOptions) : Machine (Service β) Action where
  initial service := ∃ started backend,
    service = ⟨.init started backend, false, []⟩
  step := step iface options

/-- Whether the callback of a request has been run. -/
def Answered (service : Service β) (request : CommitRequest) : Prop :=
  ∃ reply ∈ service.executor.replies, reply.request = request

/-- No callback is run twice, and every request of a session that has no entry
in the registry is answered. -/
structure NoneForgotten (service : Service β) : Prop where
  once : (service.executor.replies.map fun reply =>
    reply.request.onDone).Nodup
  answered : ∀ request ∈ service.issued,
    service.executor.registry.lookup request.sessionId = none →
      service.Answered request

/-- Every request is answered, or waits in the entry of its session. -/
def Remembered (service : Service β) : Prop :=
  ∀ request ∈ service.issued,
    service.Answered request ∨
      service.executor.pendingOf request.sessionId = some request

/-- No commit waits where the action has no room for it: in a session that is
opened again, committed again or aborted, or in any session when a started
executor stops. -/
def Keeps (service : Service β) : Action → Prop
  | .handle event =>
      ∀ sessionId, event.displaces = some sessionId →
        service.executor.pendingOf sessionId = none
  | .stop =>
      service.executor.started = true →
        ∀ sessionId, service.executor.pendingOf sessionId = none

/-- What is known of the callbacks in every run. -/
structure Consistent (service : Service β) : Prop where
  once : (service.executor.replies.map fun reply =>
    reply.request.onDone).Nodup
  numbered : ∀ reply ∈ service.executor.replies,
    reply.request.onDone < service.executor.requests
  unanswered : ∀ sessionId request,
    service.executor.pendingOf sessionId = some request →
      ∀ reply ∈ service.executor.replies,
        reply.request.onDone ≠ request.onDone
  waiting : ∀ sessionId request,
    service.executor.pendingOf sessionId = some request →
      request.sessionId = sessionId ∧
        request.onDone < service.executor.requests ∧
        request ∈ service.issued
  distinct : ∀ sessionId other request second,
    service.executor.pendingOf sessionId = some request →
      service.executor.pendingOf other = some second →
        request.onDone = second.onDone → sessionId = other

namespace Consistent

variable {service next : Service β}

/-- Callbacks that no longer wait. -/
theorem fewer
    (consistent : service.Consistent)
    (replies : next.executor.replies = service.executor.replies)
    (requests : service.executor.requests ≤ next.executor.requests)
    (issued : ∀ request ∈ service.issued, request ∈ next.issued)
    (pending : ∀ sessionId request,
      next.executor.pendingOf sessionId = some request →
        service.executor.pendingOf sessionId = some request) :
    next.Consistent where
  once := by
    rw [replies]
    exact consistent.once
  numbered := by
    rw [replies]
    intro reply member
    exact lt_of_lt_of_le (consistent.numbered reply member) requests
  unanswered := by
    rw [replies]
    intro sessionId request waits
    exact consistent.unanswered sessionId request (pending _ _ waits)
  waiting := by
    intro sessionId request waits
    obtain ⟨same, small, known⟩ :=
      consistent.waiting sessionId request (pending _ _ waits)
    exact ⟨same, lt_of_lt_of_le small requests, issued request known⟩
  distinct := by
    intro sessionId other request second waits otherWaits same
    exact consistent.distinct sessionId other request second
      (pending _ _ waits) (pending _ _ otherWaits) same

/-- A callback that is run, that had not been run, and that no longer waits. -/
theorem answer
    {request : CommitRequest}
    {result : CommitResult}
    (consistent : service.Consistent)
    (replies : next.executor.replies =
      service.executor.replies ++ [⟨request, result⟩])
    (requests : service.executor.requests ≤ next.executor.requests)
    (small : request.onDone < next.executor.requests)
    (unused : ∀ reply ∈ service.executor.replies,
      reply.request.onDone ≠ request.onDone)
    (issued : ∀ request ∈ service.issued, request ∈ next.issued)
    (pending : ∀ sessionId other,
      next.executor.pendingOf sessionId = some other →
        service.executor.pendingOf sessionId = some other ∧
          other.onDone ≠ request.onDone) :
    next.Consistent where
  once := by
    rw [replies, List.map_append, List.map_singleton]
    apply List.Nodup.append consistent.once (List.nodup_singleton _)
    rw [List.disjoint_singleton]
    intro member
    obtain ⟨reply, known, same⟩ := List.mem_map.mp member
    exact unused reply known same
  numbered := by
    rw [replies]
    intro reply member
    rcases List.mem_append.mp member with old | new
    · exact lt_of_lt_of_le (consistent.numbered reply old) requests
    · rw [List.mem_singleton.mp new]
      exact small
  unanswered := by
    rw [replies]
    intro sessionId other waits reply member
    obtain ⟨waited, different⟩ := pending sessionId other waits
    rcases List.mem_append.mp member with old | new
    · exact consistent.unanswered sessionId other waited reply old
    · rw [List.mem_singleton.mp new]
      exact different.symm
  waiting := by
    intro sessionId other waits
    obtain ⟨same, before, known⟩ :=
      consistent.waiting sessionId other (pending _ _ waits).1
    exact ⟨same, lt_of_lt_of_le before requests, issued other known⟩
  distinct := by
    intro sessionId other first second waits otherWaits same
    exact consistent.distinct sessionId other first second
      (pending _ _ waits).1 (pending _ _ otherWaits).1 same

/-- A new callback that waits. -/
theorem wait
    {request : CommitRequest}
    (consistent : service.Consistent)
    (number : request.onDone = service.executor.requests)
    (replies : next.executor.replies = service.executor.replies)
    (requests : next.executor.requests = service.executor.requests + 1)
    (issued : next.issued = service.issued ++ [request])
    (pending : ∀ sessionId, next.executor.pendingOf sessionId =
      if sessionId = request.sessionId then some request
      else service.executor.pendingOf sessionId) :
    next.Consistent := by
  -- what waits is the new callback, or waited before under an older number
  have origin : ∀ sessionId other,
      next.executor.pendingOf sessionId = some other →
        sessionId = request.sessionId ∧ other = request ∨
          service.executor.pendingOf sessionId = some other ∧
            other.onDone < service.executor.requests := by
    intro sessionId other waits
    rw [pending] at waits
    split at waits
    · next own => exact .inl ⟨own, (Option.some.inj waits).symm⟩
    · exact .inr ⟨waits, (consistent.waiting sessionId other waits).2.1⟩
  refine ⟨?_, ?_, ?_, ?_, ?_⟩
  · rw [replies]
    exact consistent.once
  · rw [replies, requests]
    intro reply member
    exact Nat.lt_succ_of_lt (consistent.numbered reply member)
  · rw [replies]
    intro sessionId other waits reply member
    rcases origin sessionId other waits with ⟨_, rfl⟩ | ⟨waited, _⟩
    · have older := consistent.numbered reply member
      omega
    · exact consistent.unanswered sessionId other waited reply member
  · intro sessionId other waits
    rw [requests, issued]
    rcases origin sessionId other waits with ⟨own, rfl⟩ | ⟨waited, _⟩
    · exact ⟨own.symm, by omega, by simp⟩
    · obtain ⟨same, small, known⟩ :=
        consistent.waiting sessionId other waited
      exact ⟨same, by omega, List.mem_append_left _ known⟩
  · intro sessionId other first second waits otherWaits same
    rcases origin sessionId first waits with ⟨own, rfl⟩ | ⟨waited, small⟩ <;>
      rcases origin other second otherWaits with
        ⟨otherOwn, rfl⟩ | ⟨otherWaited, otherSmall⟩
    · exact own.trans otherOwn.symm
    · omega
    · omega
    · exact consistent.distinct sessionId other first second waited
        otherWaited same

end Consistent

/-- The service after an event. -/
def after
    (service : Service β)
    (event : Event)
    (executor : UcxExecutor β) : Service β :=
  { service with
    executor
    issued := service.issued ++
      (event.request service.executor.requests).toList }

/-- A step is an event of a service that has not been stopped, or a stop. -/
theorem step_cases
    {service next : Service β}
    {action : Action}
    (stepped : service.step iface options action = some next) :
    (∃ event executor, action = .handle event ∧ service.stopped = false ∧
        service.executor.handle iface options event = some executor ∧
        next = service.after event executor) ∨
      action = .stop ∧
        next = { service with
          executor := service.executor.stop
          stopped := service.stopped || service.executor.started } := by
  cases action with
  | handle event =>
      simp only [step, Option.ite_none_left_eq_some,
        Option.map_eq_some_iff] at stepped
      obtain ⟨running, executor, handled, rfl⟩ := stepped
      exact .inl ⟨event, executor, rfl, by simpa using running, handled, rfl⟩
  | stop =>
      cases stepped
      exact .inr ⟨rfl, rfl⟩

/-- A stopped executor keeps its answers, and no commit waits in it. -/
theorem stop_cases (executor : UcxExecutor β) :
    executor.stop.replies = executor.replies ∧
      executor.stop.requests = executor.requests ∧
      ((executor.started = false ∧ executor.stop = executor) ∨
        executor.started = true ∧
          ∀ sessionId, executor.stop.pendingOf sessionId = none) := by
  unfold stop
  split
  · next started => exact ⟨rfl, rfl, .inr ⟨started, fun _ => rfl⟩⟩
  · next idle => exact ⟨rfl, rfl, .inl ⟨by simpa using idle, rfl⟩⟩

/-- Events keep the callbacks consistent. -/
theorem Consistent.settles
    {service : Service β}
    {event : Event}
    {executor : UcxExecutor β}
    (consistent : service.Consistent)
    (effect : Settles service.executor event executor)
    (later : service.executor.requests ≤ executor.requests)
    (counts : ∀ request,
      event.request service.executor.requests = some request →
        executor.requests = service.executor.requests + 1) :
    (service.after event executor).Consistent := by
  have issued : ∀ request ∈ service.issued,
      request ∈ (service.after event executor).issued :=
    fun request member => List.mem_append_left _ member
  cases effect with
  | keeps unasked undisplaced replies pending =>
      apply consistent.fewer replies later issued
      intro sessionId request waits
      exact (pending sessionId).symm.trans waits
  | discards key unasked displaced replies pending =>
      apply consistent.fewer replies later issued
      intro sessionId request waits
      have waited := (pending sessionId).symm.trans waits
      split at waited
      · cases waited
      · exact waited
  | resumes request result unasked undisplaced waited replies pending =>
      refine consistent.answer replies later
        (lt_of_lt_of_le (consistent.waiting _ _ waited).2.1 later)
        (consistent.unanswered _ _ waited) issued ?_
      intro sessionId other waits
      have still := (pending sessionId).symm.trans waits
      split at still
      · cases still
      · next elsewhere =>
          refine ⟨still, ?_⟩
          intro same
          exact elsewhere
            (consistent.distinct _ _ _ _ still waited same)
  | answers request result asked replies idle pending =>
      have number := onDone_of_request asked
      refine consistent.answer replies later ?_ ?_ issued ?_
      · have counted := counts request asked
        simp only [after]
        omega
      · intro reply member
        have older := consistent.numbered reply member
        omega
      · intro sessionId other waits
        have waited := (pending sessionId).symm.trans waits
        have older := (consistent.waiting sessionId other waited).2.1
        exact ⟨waited, by omega⟩
  | waits request asked replies pending =>
      refine consistent.wait (onDone_of_request asked) replies
        (counts request asked) ?_ pending
      simp [after, asked]

/-- A stop keeps the callbacks consistent. -/
theorem Consistent.stop
    {service : Service β}
    (consistent : service.Consistent)
    (stopped : Bool) :
    Consistent { service with executor := service.executor.stop, stopped } := by
  obtain ⟨replies, requests, unchanged⟩ := stop_cases service.executor
  refine consistent.fewer replies (le_of_eq requests.symm)
    (fun _ member => member) ?_
  intro sessionId request waits
  rcases unchanged with ⟨_, same⟩ | ⟨_, none⟩
  · rw [same] at waits
    exact waits
  · rw [none sessionId] at waits
    cases waits

/-- Each of some requests is answered, or waits in the entry of its session. -/
def Recalls (service : Service β) (requests : List CommitRequest) : Prop :=
  ∀ request ∈ requests,
    service.Answered request ∨
      service.executor.pendingOf request.sessionId = some request

/-- What an event has to remember: the requests issued before, and its own. -/
theorem remembered_after_iff
    {service : Service β}
    {event : Event}
    {executor : UcxExecutor β} :
    (service.after event executor).Remembered ↔
      (service.after event executor).Recalls service.issued ∧
        (service.after event executor).Recalls
          (event.request service.executor.requests).toList :=
  List.forall_mem_append

/-- An event that displaces no commit always finds room. -/
theorem keeps_of_undisplaced
    {service : Service β}
    {event : Event}
    (undisplaced : event.displaces = none) :
    service.Keeps (.handle event) := by
  intro sessionId displaced
  rw [undisplaced] at displaced
  cases displaced

/-- An event finds room when no commit waits in the session it displaces. -/
theorem keeps_iff_of_displaces
    {service : Service β}
    {event : Event}
    {sessionId : String}
    (displaced : event.displaces = some sessionId) :
    service.Keeps (.handle event) ↔
      service.executor.pendingOf sessionId = none := by
  constructor
  · intro keeps
    exact keeps sessionId displaced
  · intro idle other again
    cases displaced.symm.trans again
    exact idle

/-- A commit that waits nowhere any more, and has not been answered, is
forgotten. -/
private theorem not_recalls
    {service next : Service β}
    {sessionId : String}
    {request : CommitRequest}
    (consistent : service.Consistent)
    (waits : service.executor.pendingOf sessionId = some request)
    (replies : next.executor.replies = service.executor.replies)
    (lost : next.executor.pendingOf sessionId ≠ some request) :
    ¬next.Recalls service.issued := by
  intro recalls
  obtain ⟨same, _, known⟩ := consistent.waiting sessionId request waits
  rcases recalls request known with ⟨reply, member, answers⟩ | waiting
  · rw [replies] at member
    exact consistent.unanswered sessionId request waits reply member
      (congrArg CommitRequest.onDone answers)
  · rw [same] at waiting
    exact lost waiting

/-- Requests stay remembered when those that no longer wait are answered. -/
private theorem Remembered.recalls
    {service next : Service β}
    {more : List Reply}
    (remembered : service.Remembered)
    (replies : next.executor.replies = service.executor.replies ++ more)
    (waiting : ∀ request,
      service.executor.pendingOf request.sessionId = some request →
        next.Answered request ∨
          next.executor.pendingOf request.sessionId = some request) :
    next.Recalls service.issued := by
  intro request member
  rcases remembered request member with ⟨reply, answered, same⟩ | waits
  · refine .inl ⟨reply, ?_, same⟩
    rw [replies]
    exact List.mem_append_left _ answered
  · exact waiting request waits

/-- Where the commit that waits in an entry is discarded or gives way to a new
one, the requests issued before stay remembered exactly when none waited. -/
private theorem Remembered.replaced_iff
    {service next : Service β}
    {sessionId : String}
    {newer : Option CommitRequest}
    (remembered : service.Remembered)
    (consistent : service.Consistent)
    (replies : next.executor.replies = service.executor.replies)
    (pending : ∀ other, next.executor.pendingOf other =
      if other = sessionId then newer else service.executor.pendingOf other)
    (fresh : ∀ request, newer = some request →
      service.executor.requests ≤ request.onDone) :
    next.Recalls service.issued ↔
      service.executor.pendingOf sessionId = none := by
  constructor
  · intro recalls
    cases waits : service.executor.pendingOf sessionId with
    | none => rfl
    | some request =>
        refine absurd recalls (not_recalls consistent waits replies ?_)
        rw [pending, if_pos rfl]
        intro same
        have number := fresh request same
        have older := (consistent.waiting _ _ waits).2.1
        omega
  · intro idle
    apply remembered.recalls (replies.trans (List.append_nil _).symm)
    intro request waits
    have elsewhere : request.sessionId ≠ sessionId := by
      intro same
      rw [same, idle] at waits
      cases waits
    exact .inr ((pending _).trans ((if_neg elsewhere).trans waits))

/-- An event keeps all requests remembered exactly when it finds room. -/
theorem Remembered.settles_iff
    {service : Service β}
    {event : Event}
    {executor : UcxExecutor β}
    (remembered : service.Remembered)
    (consistent : service.Consistent)
    (effect : Settles service.executor event executor) :
    (service.after event executor).Remembered ↔
      service.Keeps (.handle event) := by
  rw [remembered_after_iff]
  cases effect with
  | keeps unasked undisplaced replies pending =>
      rw [unasked]
      refine iff_of_true ⟨?_, nofun⟩ (keeps_of_undisplaced undisplaced)
      apply remembered.recalls (replies.trans (List.append_nil _).symm)
      intro request waits
      exact .inr ((pending _).trans waits)
  | discards key unasked displaced replies pending =>
      rw [unasked, keeps_iff_of_displaces displaced, and_iff_left nofun]
      exact remembered.replaced_iff consistent replies pending nofun
  | resumes request result unasked undisplaced waited replies pending =>
      rw [unasked]
      refine iff_of_true ⟨?_, nofun⟩ (keeps_of_undisplaced undisplaced)
      apply remembered.recalls replies
      intro other waits
      by_cases own : other.sessionId = request.sessionId
      · rw [own, waited] at waits
        refine .inl ⟨⟨request, result⟩, ?_, Option.some.inj waits⟩
        simp [after, replies]
      · exact .inr ((pending _).trans ((if_neg own).trans waits))
  | answers request result asked replies idle pending =>
      rw [asked, keeps_iff_of_displaces (displaces_of_request asked)]
      refine iff_of_true ⟨?_, ?_⟩ idle
      · apply remembered.recalls replies
        intro other waits
        exact .inr ((pending _).trans waits)
      · intro own member
        refine .inl ⟨⟨request, result⟩, ?_, (List.mem_singleton.mp member).symm⟩
        simp [after, replies]
  | waits request asked replies pending =>
      rw [asked, keeps_iff_of_displaces (displaces_of_request asked),
        and_iff_left]
      · apply remembered.replaced_iff consistent replies pending
        intro newer same
        cases same
        exact (onDone_of_request asked).ge
      · intro own member
        rw [List.mem_singleton.mp member]
        exact .inr ((pending _).trans (if_pos rfl))

/-- A stop keeps all requests remembered exactly when none waits. -/
theorem Remembered.stop_iff
    {service : Service β}
    (remembered : service.Remembered)
    (consistent : service.Consistent)
    (stopped : Bool) :
    Remembered { service with executor := service.executor.stop, stopped } ↔
      service.Keeps .stop := by
  obtain ⟨replies, _, ⟨idle, same⟩ | ⟨started, none⟩⟩ :=
    stop_cases service.executor
  · refine iff_of_true ?_ ?_
    · rw [same]
      exact remembered
    · intro started
      rw [idle] at started
      cases started
  · constructor
    · intro kept _ sessionId
      cases waits : service.executor.pendingOf sessionId with
      | none => rfl
      | some request =>
          have lost : ¬Recalls
              { service with executor := service.executor.stop, stopped }
              service.issued := by
            apply not_recalls consistent waits replies
            rw [none sessionId]
            exact nofun
          exact absurd kept lost
    · intro keeps
      apply remembered.recalls (replies.trans (List.append_nil _).symm)
      intro request waits
      rw [keeps started] at waits
      cases waits

/-! ## Whole runs -/

/-- Until it is stopped, the executor of a service is a reachable one, and the
callbacks are consistent. -/
structure Followed
    (iface : IBackend β)
    (options : UcxOptions)
    (service : Service β) : Prop where
  running : service.stopped = false →
    (UcxExecutor.machine iface options).Reachable Machine.always
      service.executor
  consistent : service.Consistent

theorem followed_of_reachable
    {guard : Service β → Action → Prop}
    {service : Service β}
    (reachable : (machine iface options).Reachable guard service) :
    service.Followed iface options := by
  refine reachable.invariant ?_ ?_
  · rintro start ⟨started, backend, rfl⟩
    refine ⟨fun _ => ⟨_, [], ⟨started, backend, rfl⟩, .nil⟩, ?_⟩
    constructor <;> simp [UcxExecutor.init, pendingOf]
  · rintro state action next ⟨running, consistent⟩ _ stepped
    rcases step_cases stepped with
      ⟨event, executor, rfl, going, handled, rfl⟩ | ⟨rfl, rfl⟩
    · have reached := running going
      have effect := handles_of_reachable reached handled
      refine ⟨fun _ => reached.step trivial handled, ?_⟩
      exact consistent.settles (effect.settles (Owned.of_reachable reached))
        effect.requests_le (fun _ asked => effect.requests_of_request asked)
    · refine ⟨?_, consistent.stop _⟩
      intro going
      simp only [Bool.or_eq_false_iff] at going
      have same : state.executor.stop = state.executor := by
        simp [stop, going.2]
      simp only [same]
      exact running going.1

/-- A step keeps all requests remembered exactly when it finds room. -/
theorem Remembered.step_iff
    {guard : Service β → Action → Prop}
    {service next : Service β}
    {action : Action}
    (remembered : service.Remembered)
    (reachable : (machine iface options).Reachable guard service)
    (stepped : (machine iface options).step service action = some next) :
    next.Remembered ↔ service.Keeps action := by
  obtain ⟨running, consistent⟩ := followed_of_reachable reachable
  rcases step_cases stepped with
    ⟨event, executor, rfl, going, handled, rfl⟩ | ⟨rfl, rfl⟩
  · have owned := Owned.of_reachable (running going)
    exact remembered.settles_iff consistent
      ((handles_of_handle owned handled).settles owned)
  · exact remembered.stop_iff consistent _

/-- In every run whose steps all find room for the commits that wait, no
callback is run twice and none is forgotten; and a step keeps every unanswered
request in the entry of its session exactly when it finds room. -/
theorem noneForgotten_of_keeps
    {service : Service β}
    (reachable : (machine iface options).Reachable Keeps service) :
    service.NoneForgotten ∧
      service.Remembered ∧
      ∀ action next,
        (machine iface options).step service action = some next →
          (next.Remembered ↔ service.Keeps action) := by
  have remembered : service.Remembered := by
    refine reachable.induction ?_ ?_
    · rintro start ⟨started, backend, rfl⟩ request member
      cases member
    · intro state action next reached remembered keeps stepped
      exact (remembered.step_iff reached stepped).mpr keeps
  refine ⟨⟨(followed_of_reachable reachable).consistent.once, ?_⟩, remembered, ?_⟩
  · intro request issued absent
    rcases remembered request issued with answered | waits
    · exact answered
    · rw [pendingOf, absent] at waits
      cases waits
  · intro action next stepped
    exact remembered.step_iff reachable stepped

private theorem earlyCommit_named : "ses" ≠ "" := by decide

/-- A session is opened and prepared, and commits before its active message. -/
private def earlyCommit : List Action :=
  [.handle (.sessionOpened ⟨"ses", "bucket", "key", 1, earlyCommit_named⟩),
    .handle (.prepareTransfer "ses" 1 (.registered (fun _ => 0) 4096 [1])),
    .handle (.commitObject "ses" 1 "")]

private def start : Service (CompositeBackend × Nat) :=
  ⟨.init true (.init 16, 0), false, []⟩

private theorem initial_start :
    (machine overComposite (.default "gateway")).initial start :=
  ⟨true, _, rfl⟩

/-- The part of `Keeps` that looks at one session only. -/
private def KeepsOne
    (service : Service (CompositeBackend × Nat)) : Action → Prop
  | .handle event => event.displaces.all fun sessionId =>
      (service.executor.pendingOf sessionId).isNone
  | .stop => False

private instance
    (service : Service (CompositeBackend × Nat))
    (action : Action) : Decidable (KeepsOne service action) :=
  match action with
  | .handle _ => inferInstanceAs (Decidable (_ = true))
  | .stop => inferInstanceAs (Decidable False)

/-- The early commit is answered by the active message. -/
theorem noneForgotten_earlyCommit :
    ∃ service,
      (machine overComposite (.default "gateway")).Reachable Keeps service ∧
        service.executor.replies.map (fun reply => reply.request.onDone) =
          [0] ∧
        service.NoneForgotten := by
  have executed : ((machine overComposite (.default "gateway")).run KeepsOne
      start (earlyCommit ++ [.handle (.amWriteDone "ses")])).map
        (fun service => service.executor.replies.map fun reply =>
          reply.request.onDone) = some [0] := by
    decide
  obtain ⟨service, reachable, observed⟩ :=
    Machine.Reachable.of_run_map initial_start executed
  have kept : (machine overComposite (.default "gateway")).Reachable Keeps
      service := by
    apply reachable.mono
    intro state action allowed
    cases action with
    | handle event =>
        intro sessionId displaced
        simpa [KeepsOne, displaced] using allowed
    | stop => exact allowed.elim
  exact ⟨service, kept, observed, (noneForgotten_of_keeps kept).1⟩

/-- A commit that is sent twice before the active message: the second one takes
the place of the first, which is never answered. -/
theorem first_commit_forgotten :
    ¬∀ service : Service (CompositeBackend × Nat),
      (machine overComposite (.default "gateway")).Reachable Machine.always
          service →
        service.NoneForgotten := by
  intro always
  have executed : ((machine overComposite (.default "gateway")).run
      Machine.always start (earlyCommit ++
        [.handle (.commitObject "ses" 1 ""),
          .handle (.amWriteDone "ses")])).map
        (fun service => (service.issued,
          (service.executor.registry.lookup "ses").isNone,
          service.executor.replies.map fun reply => reply.request.onDone)) =
      some ([⟨.object, "ses", 1, "", 0⟩, ⟨.object, "ses", 1, "", 1⟩], true,
        [1]) := by
    decide
  obtain ⟨service, reachable, observed⟩ :=
    Machine.Reachable.of_run_map initial_start executed
  simp only [Prod.mk.injEq, Option.isNone_iff_eq_none] at observed
  obtain ⟨issued, absent, replies⟩ := observed
  obtain ⟨reply, member, same⟩ := (always service reachable).answered
    ⟨.object, "ses", 1, "", 0⟩ (by simp [issued]) absent
  have number := List.mem_map_of_mem
    (f := fun reply : Reply => reply.request.onDone) member
  rw [replies, same] at number
  simp at number

end Service

end Ucx
end Gateway
end TurboAccess
