import TurboAccess.Gateway.Ucx.Executor

/-!
# What one event can change

Every handler is looked at once.  `Prepares` lists the outcomes of a
`PrepareTransfer`, and `Handles` the effects of an event on an executor that
owns its buffers: every buffer an entry points to is registered and large
enough, no buffer has two owners, and a waiting commit belongs to a prepared
entry.  The invariants of the executor follow from these lists and do not
unfold a handler again.
-/

namespace TurboAccess
namespace Gateway
namespace Ucx
namespace UcxExecutor

variable {β : Type} {iface : IBackend β} {options : UcxOptions}

/-! ## Sizes of buffers -/

/-- A buffer of whole pages holds the transfer it is prepared for. -/
theorem le_roundUpPage
    {size : Nat}
    (bounded : size ≤ options.maxMsgBytes) :
    size ≤ roundUpPage (max size pageSize) := by
  have room := options.roomForPage
  have page : pageSize = 4096 := rfl
  have modulus : wordModulus = 18446744073709551616 := rfl
  have exact : addWord (max size pageSize) (pageSize - 1) =
      max size pageSize + (pageSize - 1) := by
    apply addWord_of_lt
    omega
  rw [roundUpPage, exact, page]
  omega

/-! ## Acquiring an idle buffer -/

/-- An acquired buffer was idle, is large enough, and leaves the rest of the
queue as it is. -/
theorem acquireFrom_eq_some
    {buffers : Table Nat RegisteredBuffer}
    {requestedSize slot : Nat}
    {buffer : RegisteredBuffer}
    {pool rest : List Nat}
    (acquired : acquireFrom buffers requestedSize pool =
      some (slot, buffer, rest)) :
    buffers.lookup slot = some buffer ∧
      requestedSize ≤ buffer.capacity ∧
      ∃ before after, pool = before ++ slot :: after ∧
        rest = before ++ after := by
  induction pool generalizing rest with
  | nil => simp [acquireFrom] at acquired
  | cons head tail inductionHypothesis =>
      rw [acquireFrom] at acquired
      split at acquired
      · next kept large =>
          obtain ⟨rfl, rfl, rfl⟩ : head = slot ∧ kept = buffer ∧ tail = rest := by
            simpa using acquired
          rw [Option.filter_eq_some_iff] at large
          refine ⟨large.1, by simpa using large.2, [], tail, rfl, rfl⟩
      · rw [Option.map_eq_some_iff] at acquired
        obtain ⟨⟨found, kept, others⟩, further, same⟩ := acquired
        obtain ⟨rfl, rfl, rfl⟩ :
            found = slot ∧ kept = buffer ∧ head :: others = rest := by
          simpa using same
        obtain ⟨registered, large, before, after, rfl, rfl⟩ :=
          inductionHypothesis further
        exact ⟨registered, large, head :: before, after, rfl, rfl⟩

/-! ## Releasing a buffer -/

/-- A released entry has no buffer, or its buffer joins the idle ones, or its
buffer is freed. -/
theorem releaseEntry_cases
    (options : UcxOptions)
    (executor : UcxExecutor β)
    (entry : UcxSessionEntry) :
    (entry.slot = none ∧ executor.releaseEntry options entry = executor) ∨
      ∃ slot, entry.slot = some slot ∧
        (executor.releaseEntry options entry =
            { executor with pool := executor.pool ++ [slot] } ∨
          executor.releaseEntry options entry =
            { executor with buffers := executor.buffers.erase slot }) := by
  cases held : entry.slot with
  | none => exact .inl ⟨rfl, by rw [releaseEntry, held]⟩
  | some slot =>
      refine .inr ⟨slot, rfl, ?_⟩
      simp only [releaseEntry, held, returnSlot]
      split
      · exact .inl rfl
      · exact .inr rfl

/-- The executor after an entry is released and erased. -/
def without
    (options : UcxOptions)
    (executor : UcxExecutor β)
    (sessionId : String)
    (entry : UcxSessionEntry) : UcxExecutor β :=
  ({ executor with registry := executor.registry.erase sessionId }
    ).releaseEntry options entry

/-- Releasing an entry concerns the pool and the buffers only. -/
theorem without_eq
    (executor : UcxExecutor β)
    (sessionId : String)
    (entry : UcxSessionEntry) :
    executor.without options sessionId entry =
      { executor with
        registry := executor.registry.erase sessionId
        pool := (executor.releaseEntry options entry).pool
        buffers := (executor.releaseEntry options entry).buffers } := by
  unfold without
  cases held : entry.slot with
  | none => simp only [releaseEntry, held]
  | some slot =>
      simp only [releaseEntry, held, returnSlot]
      split <;> rfl

/-- A finished commit writes to the backend, releases the entry and answers. -/
theorem finishCommit_eq
    (executor : UcxExecutor β)
    (entry : UcxSessionEntry)
    (slot : Nat)
    (buffer : RegisteredBuffer)
    (request : CommitRequest) :
    executor.finishCommit iface options entry slot buffer request =
      let outcome := doCommit iface executor.backend entry buffer request
      { executor.without options request.sessionId entry with
        putInflight := executor.putInflight - 1
        backend := outcome.2
        writes := executor.writes ++
          [⟨request, entry.serial, slot, backendCall entry buffer request,
            outcome.1⟩]
        replies := executor.replies ++ [⟨request, outcome.1⟩] } := by
  unfold finishCommit releaseAndErase onDone without
  cases held : entry.slot with
  | none => simp only [releaseEntry, held]
  | some slot =>
      simp only [releaseEntry, held, returnSlot]
      split <;> rfl

/-! ## Owned buffers -/

/-- Every buffer has at most one owner, and the owners can use it. -/
structure Owned (executor : UcxExecutor β) : Prop where
  held : ∀ sessionId entry slot,
    executor.registry.lookup sessionId = some entry →
      entry.slot = some slot →
        ∃ buffer, executor.buffers.lookup slot = some buffer ∧
          entry.transferBytes ≤ buffer.capacity
  busy : ∀ sessionId entry slot,
    executor.registry.lookup sessionId = some entry →
      entry.slot = some slot → slot ∉ executor.pool
  exclusive : ∀ sessionId other entry otherEntry slot,
    executor.registry.lookup sessionId = some entry →
      executor.registry.lookup other = some otherEntry →
        entry.slot = some slot → otherEntry.slot = some slot →
          sessionId = other
  distinct : executor.pool.Nodup
  idle : ∀ slot ∈ executor.pool,
    ∃ buffer, executor.buffers.lookup slot = some buffer
  fresh : ∀ slot buffer, executor.buffers.lookup slot = some buffer →
    slot < executor.allocated
  waiting : ∀ sessionId entry request,
    executor.registry.lookup sessionId = some entry →
      entry.pendingCommit = some request →
        request.sessionId = sessionId ∧ request.onDone < executor.requests ∧
          entry.writeDone = false ∧ ∃ slot, entry.slot = some slot

/-- The executor once the next callback is numbered. -/
def numbered (executor : UcxExecutor β) : UcxExecutor β :=
  { executor with requests := executor.requests + 1 }

/-- The commit request of an event, with its callback. -/
def Event.request (onDone : Nat) : Event → Option CommitRequest
  | .commitObject sessionId bytesTransferred clientCrc32c =>
      some ⟨.object, sessionId, bytesTransferred, clientCrc32c, onDone⟩
  | .commitPart sessionId backendUploadId partNumber bytesTransferred
        clientCrc32c =>
      some ⟨.part backendUploadId partNumber, sessionId, bytesTransferred,
        clientCrc32c, onDone⟩
  | _ => none

/-- A request has the callback it was numbered with. -/
theorem onDone_of_request
    {event : Event}
    {onDone : Nat}
    {request : CommitRequest}
    (requested : event.request onDone = some request) :
    request.onDone = onDone := by
  cases event <;> simp only [Event.request, Option.some.injEq,
    reduceCtorEq] at requested
  all_goals rw [← requested]

/-- A request names the session of its event. -/
theorem sessionId_of_request
    {event : Event}
    {onDone : Nat}
    {request : CommitRequest}
    (requested : event.request onDone = some request) :
    event.sessionId = some request.sessionId := by
  cases event <;> simp only [Event.request, Option.some.injEq,
    reduceCtorEq] at requested
  all_goals
    rw [← requested]
    rfl

/-! ## The outcomes of a preparation -/

/-- The outcomes of a `PrepareTransfer`. -/
inductive Prepares
    (options : UcxOptions)
    (executor : UcxExecutor β)
    (sessionId : String)
    (transferBytes : Nat) :
    Result UcxDiscoverInfo → UcxExecutor β → Prop
  | refused (error : Error) :
      Prepares options executor sessionId transferBytes (.error error) executor
  | again (entry : UcxSessionEntry) (slot : Nat) (info : UcxDiscoverInfo)
      (found : executor.registry.lookup sessionId = some entry)
      (held : entry.slot = some slot)
      (same : entry.transferBytes = transferBytes) :
      Prepares options executor sessionId transferBytes (.ok info) executor
  | reused (entry : UcxSessionEntry) (slot : Nat) (buffer : RegisteredBuffer)
      (info : UcxDiscoverInfo) (before after : List Nat)
      (found : executor.registry.lookup sessionId = some entry)
      (vacant : entry.slot = none)
      (idle : executor.pool = before ++ slot :: after)
      (registered : executor.buffers.lookup slot = some buffer)
      (large : transferBytes ≤ buffer.capacity) :
      Prepares options executor sessionId transferBytes (.ok info)
        (({ executor with pool := before ++ after }).attach sessionId entry
          slot transferBytes)
  | registered (entry : UcxSessionEntry) (buffer : RegisteredBuffer)
      (info : UcxDiscoverInfo)
      (found : executor.registry.lookup sessionId = some entry)
      (vacant : entry.slot = none)
      (large : transferBytes ≤ buffer.capacity) :
      Prepares options executor sessionId transferBytes (.ok info)
        (({ executor with
            buffers := executor.buffers.insert executor.allocated buffer
            allocated := executor.allocated + 1 }).attach sessionId entry
          executor.allocated transferBytes)

/-- An entry without a buffer has none to point to. -/
theorem Owned.vacant
    {executor : UcxExecutor β}
    {sessionId : String}
    {entry : UcxSessionEntry}
    (owned : executor.Owned)
    (found : executor.registry.lookup sessionId = some entry)
    (unbuffered : executor.bufferOf entry = none) :
    entry.slot = none := by
  cases slotEq : entry.slot with
  | none => rfl
  | some slot =>
      obtain ⟨buffer, registered, _⟩ := owned.held _ _ _ found slotEq
      simp [bufferOf, slotEq, registered] at unbuffered

/-- The buffer an entry points to is the one in its slot. -/
theorem bufferOf_eq_some
    {executor : UcxExecutor β}
    {entry : UcxSessionEntry}
    {slot : Nat}
    {buffer : RegisteredBuffer}
    (buffered : executor.bufferOf entry = some (slot, buffer)) :
    entry.slot = some slot ∧ executor.buffers.lookup slot = some buffer := by
  simp only [bufferOf, Option.bind_eq_some_iff, Option.map_eq_some_iff,
    Prod.mk.injEq] at buffered
  obtain ⟨found, slotEq, found', registered, rfl, rfl⟩ := buffered
  exact ⟨slotEq, registered⟩

/-- A new buffer has the capacity it was allocated with. -/
theorem Allocation.capacity_of_result
    {allocation : Allocation}
    {capacity : Nat}
    {buffer : RegisteredBuffer}
    (succeeded : allocation.result capacity = .ok buffer) :
    buffer.capacity = capacity := by
  cases allocation <;> simp [Allocation.result] at succeeded
  rw [← succeeded]

/-- `PrepareTransfer` has the listed outcomes. -/
theorem prepareTransfer_cases
    {executor : UcxExecutor β}
    (owned : executor.Owned)
    (sessionId : String)
    (transferBytes : Nat)
    (allocation : Allocation) :
    Prepares options executor sessionId transferBytes
      (executor.prepareTransfer options sessionId transferBytes allocation).1
      (executor.prepareTransfer options sessionId transferBytes
        allocation).2 := by
  unfold prepareTransfer
  split
  · exact .refused _
  split
  · exact .refused _
  next entry found =>
  split
  · exact .refused _
  split
  · exact .refused _
  next bounded =>
  have fits : transferBytes ≤ roundUpPage (max transferBytes pageSize) :=
    le_roundUpPage (not_lt.mp bounded)
  split
  · next slot buffer buffered =>
      split
      · exact .refused _
      · next same =>
          exact .again entry slot _ found (bufferOf_eq_some buffered).1
            (not_not.mp same)
  next unbuffered =>
  have vacant := owned.vacant found unbuffered
  cases acquired : executor.acquire
      (roundUpPage (max transferBytes pageSize)) with
  | some result =>
      obtain ⟨slot, buffer, rest⟩ := result
      obtain ⟨registered, large, before, after, poolEq, rfl⟩ :=
        acquireFrom_eq_some acquired
      simp only [acquireOrRegister, acquired]
      exact .reused entry slot buffer _ before after found vacant poolEq
        registered (fits.trans large)
  | none =>
      cases outcome : allocation.result
          (roundUpPage (max transferBytes pageSize)) with
      | error error =>
          simp only [acquireOrRegister, acquired, outcome]
          exact .refused error
      | ok buffer =>
          simp only [acquireOrRegister, acquired, outcome]
          have capacity := Allocation.capacity_of_result outcome
          exact .registered entry buffer _ found vacant (capacity ▸ fits)

/-! ## The effects of an event -/

/-- The effects of an event. -/
inductive Handles
    (iface : IBackend β)
    (options : UcxOptions)
    (executor : UcxExecutor β) : Event → UcxExecutor β → Prop
  | opened (session : Session) :
      Handles iface options executor (.sessionOpened session)
        (executor.onSessionOpened session)
  | prepared (sessionId : String) (transferBytes : Nat)
      (allocation : Allocation) (result : Result UcxDiscoverInfo)
      (next : UcxExecutor β)
      (outcome : Prepares options executor sessionId transferBytes result
        next) :
      Handles iface options executor
        (.prepareTransfer sessionId transferBytes allocation) next
  | landed (slot : Nat) (data : Bytes) (buffer : RegisteredBuffer)
      (registered : executor.buffers.lookup slot = some buffer)
      (fits : data.length ≤ buffer.capacity) :
      Handles iface options executor (.remoteWrite slot data)
        { executor with
          buffers := executor.buffers.insert slot (buffer.put data) }
  | unheard (sessionId : String)
      (absent : sessionId = "" ∨ executor.registry.lookup sessionId = none) :
      Handles iface options executor (.amWriteDone sessionId) executor
  | marked (sessionId : String) (entry : UcxSessionEntry)
      (found : executor.registry.lookup sessionId = some entry)
      (alone : entry.pendingCommit = none) :
      Handles iface options executor (.amWriteDone sessionId)
        { executor with
          registry := executor.registry.insert sessionId
            entry.marked }
  | resumed (entry : UcxSessionEntry) (slot : Nat) (buffer : RegisteredBuffer)
      (request : CommitRequest)
      (found : executor.registry.lookup request.sessionId = some entry)
      (held : entry.slot = some slot)
      (registered : executor.buffers.lookup slot = some buffer)
      (waiting : entry.pendingCommit = some request) :
      Handles iface options executor (.amWriteDone request.sessionId)
        (executor.finishCommit iface options entry slot buffer request)
  | refused (event : Event) (request : CommitRequest) (result : CommitResult)
      (requested : event.request executor.requests = some request)
      (failed : result.Failed)
      (unprepared : ∀ entry,
        executor.registry.lookup request.sessionId = some entry →
          entry.slot = none) :
      Handles iface options executor event
        (executor.numbered.onDone request result)
  | waits (event : Event) (request : CommitRequest) (entry : UcxSessionEntry)
      (slot : Nat)
      (requested : event.request executor.requests = some request)
      (found : executor.registry.lookup request.sessionId = some entry)
      (held : entry.slot = some slot)
      (unwritten : entry.writeDone = false) :
      Handles iface options executor event
        { executor.numbered with
          registry := executor.registry.insert request.sessionId
            { entry with pendingCommit := some request } }
  | finished (event : Event) (request : CommitRequest)
      (entry : UcxSessionEntry) (slot : Nat) (buffer : RegisteredBuffer)
      (requested : event.request executor.requests = some request)
      (found : executor.registry.lookup request.sessionId = some entry)
      (held : entry.slot = some slot)
      (registered : executor.buffers.lookup slot = some buffer)
      (written : entry.writeDone = true) :
      Handles iface options executor event
        (executor.numbered.finishCommit iface options entry slot buffer
          request)
  | unknown (sessionId : String)
      (absent : executor.registry.lookup sessionId = none) :
      Handles iface options executor (.abortSession sessionId) executor
  | aborted (sessionId : String) (entry : UcxSessionEntry)
      (found : executor.registry.lookup sessionId = some entry) :
      Handles iface options executor (.abortSession sessionId)
        (executor.without options sessionId entry)

/-- Finishing a commit erases the entry, so that marking it first makes no
difference. -/
theorem finishCommit_marked
    (executor : UcxExecutor β)
    (entry : UcxSessionEntry)
    (slot : Nat)
    (buffer : RegisteredBuffer)
    (request : CommitRequest) :
    ({ executor with
        registry := executor.registry.insert request.sessionId
          entry.marked }).finishCommit iface options
        entry.marked slot buffer request =
      executor.finishCommit iface options entry slot buffer request := by
  have erased := Table.erase_insert_self request.sessionId
    entry.marked executor.registry
  simp only [finishCommit, releaseAndErase, erased]
  rfl

/-- The failure of a request is a failure. -/
theorem failed_failure (operation : CommitOperation) (error : Error) :
    (operation.failure error).Failed := by
  cases operation <;> trivial

/-- A commit has the listed effects. -/
theorem commitAsync_cases
    {executor : UcxExecutor β}
    {event : Event}
    {request : CommitRequest}
    (owned : executor.Owned)
    (requested : event.request executor.requests = some request)
    (sessionNotFound : String) :
    Handles iface options executor event
      (executor.numbered.commitAsync iface options sessionNotFound
        request).2 := by
  unfold commitAsync
  split
  · next absent =>
      refine .refused event request _ requested (failed_failure _ _) ?_
      intro entry found
      have impossible := found.symm.trans absent
      cases impossible
  next entry found =>
  split
  · next unbuffered =>
      refine .refused event request _ requested (failed_failure _ _) ?_
      intro other otherFound
      have same : some other = some entry := otherFound.symm.trans found
      cases same
      exact owned.vacant found unbuffered
  next slot buffer buffered =>
  obtain ⟨held, registered⟩ := bufferOf_eq_some buffered
  split
  · next written =>
      exact .finished event request entry slot buffer requested found held
        registered written
  · next unwritten =>
      exact .waits event request entry slot requested found held
        (by simpa using unwritten)

/-- An active message has the listed effects. -/
theorem onAmWriteDone_cases
    {executor : UcxExecutor β}
    (owned : executor.Owned)
    (sessionId : String) :
    Handles iface options executor (.amWriteDone sessionId)
      (executor.onAmWriteDone iface options sessionId) := by
  unfold onAmWriteDone
  split
  · next empty => exact .unheard sessionId (.inl empty)
  split
  · next absent => exact .unheard sessionId (.inr absent)
  next entry found =>
  cases pending : entry.pendingCommit with
  | none => exact .marked sessionId entry found pending
  | some request =>
      obtain ⟨rfl, _, _, slot, held⟩ := owned.waiting _ _ _ found pending
      obtain ⟨buffer, registered, _⟩ := owned.held _ _ _ found held
      have buffered : ({ executor with
            registry := executor.registry.insert request.sessionId
              entry.marked } : UcxExecutor β).bufferOf entry.marked =
          some (slot, buffer) := by
        simp [bufferOf, UcxSessionEntry.marked, held, registered]
      simp only [buffered]
      rw [finishCommit_marked]
      exact .resumed entry slot buffer request found held registered pending

/-- An abort has the listed effects. -/
theorem abortSession_cases
    (executor : UcxExecutor β)
    (sessionId : String) :
    Handles iface options executor (.abortSession sessionId)
      (executor.abortSession options sessionId).2 := by
  unfold abortSession
  split
  · next absent => exact .unknown sessionId absent
  · next entry found => exact .aborted sessionId entry found

/-- Every event has the listed effects. -/
theorem handles_of_handle
    {executor next : UcxExecutor β}
    {event : Event}
    (owned : executor.Owned)
    (handled : executor.handle iface options event = some next) :
    Handles iface options executor event next := by
  cases event with
  | sessionOpened session =>
      cases handled
      exact .opened session
  | prepareTransfer sessionId transferBytes allocation =>
      cases handled
      exact .prepared sessionId transferBytes allocation _ _
        (prepareTransfer_cases owned sessionId transferBytes allocation)
  | remoteWrite slot data =>
      simp only [handle, remoteWrite] at handled
      split at handled
      · cases handled
      · next buffer registered =>
          split at handled
          · next fits =>
              cases handled
              exact .landed slot data buffer registered fits
          · cases handled
  | amWriteDone sessionId =>
      cases handled
      exact onAmWriteDone_cases owned sessionId
  | commitObject sessionId bytesTransferred clientCrc32c =>
      cases handled
      exact commitAsync_cases owned rfl _
  | commitPart sessionId backendUploadId partNumber bytesTransferred
      clientCrc32c =>
      cases handled
      exact commitAsync_cases owned rfl _
  | abortSession sessionId =>
      cases handled
      exact abortSession_cases executor sessionId

/-! ## What an event does to one entry -/

/-- The changes of the entry under one session identifier. -/
inductive EntryChange
    (executor : UcxExecutor β)
    (event : Event)
    (sessionId : String) :
    Option UcxSessionEntry → Option UcxSessionEntry → Prop
  | same (entry : Option UcxSessionEntry) :
      EntryChange executor event sessionId entry entry
  | opened (entry : Option UcxSessionEntry) (session : Session)
      (opening : event = .sessionOpened session)
      (named : session.sessionId = sessionId) :
      EntryChange executor event sessionId entry
        (some (executor.newEntry session))
  | attached (entry : UcxSessionEntry) (slot transferBytes : Nat)
      (allocation : Allocation)
      (preparing : event = .prepareTransfer sessionId transferBytes allocation)
      (vacant : entry.slot = none) :
      EntryChange executor event sessionId (some entry)
        (some { entry with slot := some slot, transferBytes })
  | marked (entry : UcxSessionEntry)
      (notified : event = .amWriteDone sessionId)
      (alone : entry.pendingCommit = none) :
      EntryChange executor event sessionId (some entry) (some entry.marked)
  | waits (entry : UcxSessionEntry) (request : CommitRequest) (slot : Nat)
      (requested : event.request executor.requests = some request)
      (named : request.sessionId = sessionId)
      (held : entry.slot = some slot) :
      EntryChange executor event sessionId (some entry)
        (some { entry with pendingCommit := some request })
  | removed (entry : UcxSessionEntry)
      (named : event.sessionId = some sessionId) :
      EntryChange executor event sessionId (some entry) none

/-- Erasing an entry is a removal under its identifier. -/
private theorem entryChange_erase
    {executor : UcxExecutor β}
    {event : Event}
    {key : String}
    {entry : UcxSessionEntry}
    (found : executor.registry.lookup key = some entry)
    (named : event.sessionId = some key)
    (sessionId : String) :
    EntryChange executor event sessionId (executor.registry.lookup sessionId)
      ((executor.registry.erase key).lookup sessionId) := by
  rw [Table.lookup_erase_eq]
  split
  · next same =>
      subst same
      rw [found]
      exact .removed entry named
  · exact .same _

@[simp] theorem registry_without
    (executor : UcxExecutor β)
    (sessionId : String)
    (entry : UcxSessionEntry) :
    (executor.without options sessionId entry).registry =
      executor.registry.erase sessionId := by
  rw [without_eq]

@[simp] theorem registry_finishCommit
    (executor : UcxExecutor β)
    (entry : UcxSessionEntry)
    (slot : Nat)
    (buffer : RegisteredBuffer)
    (request : CommitRequest) :
    (executor.finishCommit iface options entry slot buffer request).registry =
      executor.registry.erase request.sessionId := by
  rw [finishCommit_eq]
  exact registry_without executor request.sessionId entry

/-- An event changes an entry in the listed ways. -/
theorem Handles.entryChange
    {executor next : UcxExecutor β}
    {event : Event}
    (effect : Handles iface options executor event next)
    (sessionId : String) :
    EntryChange executor event sessionId (executor.registry.lookup sessionId)
      (next.registry.lookup sessionId) := by
  cases effect with
  | opened session =>
      simp only [onSessionOpened, Table.lookup_insert_eq]
      split
      · next same => exact .opened _ session rfl same.symm
      · exact .same _
  | prepared key transferBytes allocation result next outcome =>
      cases outcome with
      | refused error => exact .same _
      | again entry slot info found held same => exact .same _
      | reused entry slot buffer info before after found vacant idle
          registered large =>
          simp only [attach, Table.lookup_insert_eq]
          split
          · next same =>
              subst same
              rw [found]
              exact .attached entry slot transferBytes allocation rfl vacant
          · exact .same _
      | registered entry buffer info found vacant large =>
          simp only [attach, Table.lookup_insert_eq]
          split
          · next same =>
              subst same
              rw [found]
              exact .attached entry _ transferBytes allocation rfl vacant
          · exact .same _
  | landed slot data buffer registered fits => exact .same _
  | unheard key absent => exact .same _
  | marked key entry found alone =>
      simp only [Table.lookup_insert_eq]
      split
      · next same =>
          subst same
          rw [found]
          exact .marked entry rfl alone
      · exact .same _
  | resumed entry slot buffer request found held registered waiting =>
      rw [registry_finishCommit]
      exact entryChange_erase found rfl sessionId
  | refused event request result requested failed unprepared => exact .same _
  | waits event request entry slot requested found held unwritten =>
      simp only [Table.lookup_insert_eq]
      split
      · next same =>
          subst same
          rw [found]
          exact .waits entry request slot requested rfl held
      · exact .same _
  | finished event request entry slot buffer requested found held registered
      written =>
      rw [registry_finishCommit]
      exact entryChange_erase found (sessionId_of_request requested) sessionId
  | unknown key absent => exact .same _
  | aborted key entry found =>
      rw [registry_without]
      exact entryChange_erase found rfl sessionId

/-- An event leaves the entries of other sessions alone. -/
theorem Handles.lookup_other
    {executor next : UcxExecutor β}
    {event : Event}
    {sessionId : String}
    (effect : Handles iface options executor event next)
    (other : event.sessionId ≠ some sessionId) :
    next.registry.lookup sessionId = executor.registry.lookup sessionId := by
  have change := effect.entryChange sessionId
  generalize executor.registry.lookup sessionId = old at change ⊢
  generalize next.registry.lookup sessionId = new at change ⊢
  cases change with
  | same => rfl
  | opened _ session opening named =>
      subst opening
      exact absurd (congrArg some named) other
  | attached entry slot transferBytes allocation preparing vacant =>
      subst preparing
      exact absurd rfl other
  | marked entry notified alone =>
      subst notified
      exact absurd rfl other
  | waits entry request slot requested named held =>
      rw [sessionId_of_request requested, named] at other
      exact absurd rfl other
  | removed entry named => exact absurd named other

/-! ## What an event writes -/

/-- The write of a finished commit. -/
def commitWrite
    (iface : IBackend β)
    (executor : UcxExecutor β)
    (entry : UcxSessionEntry)
    (slot : Nat)
    (buffer : RegisteredBuffer)
    (request : CommitRequest) : Write where
  request := request
  serial := entry.serial
  slot := slot
  call := backendCall entry buffer request
  result := (doCommit iface executor.backend entry buffer request).1

/-- A backend call hands over as many bytes as its request claims. -/
@[simp] theorem length_source_backendCall
    (entry : UcxSessionEntry)
    (buffer : RegisteredBuffer)
    (request : CommitRequest) :
    (backendCall entry buffer request).source.length =
      request.bytesTransferred := by
  cases operation : request.operation <;>
    simp [backendCall, operation, BackendCall.source]

/-- A backend call hands over the first bytes of its buffer. -/
theorem source_backendCall
    (entry : UcxSessionEntry)
    (buffer : RegisteredBuffer)
    (request : CommitRequest) :
    (backendCall entry buffer request).source =
      buffer.view request.bytesTransferred := by
  cases operation : request.operation <;>
    simp [backendCall, operation, BackendCall.source]

/-- An event makes no backend call, or the one of a commit: of a commit that
waited in the entry, or of the event's own on a written entry. -/
theorem Handles.writes
    {executor next : UcxExecutor β}
    {event : Event}
    (effect : Handles iface options executor event next) :
    next.writes = executor.writes ∨
      ∃ entry slot buffer request,
        executor.registry.lookup request.sessionId = some entry ∧
          entry.slot = some slot ∧
          executor.buffers.lookup slot = some buffer ∧
          next.writes = executor.writes ++
            [commitWrite iface executor entry slot buffer request] ∧
          (event = .amWriteDone request.sessionId ∧
              entry.pendingCommit = some request ∨
            event.request executor.requests = some request ∧
              entry.writeDone = true) := by
  cases effect with
  | opened session => exact .inl rfl
  | prepared key transferBytes allocation result next outcome =>
      cases outcome <;> exact .inl rfl
  | landed slot data buffer registered fits => exact .inl rfl
  | unheard key absent => exact .inl rfl
  | marked key entry found alone => exact .inl rfl
  | resumed entry slot buffer request found held registered waiting =>
      refine .inr ⟨entry, slot, buffer, request, found, held, registered, ?_,
        .inl ⟨rfl, waiting⟩⟩
      rw [finishCommit_eq]
      rfl
  | refused event request result requested failed unprepared => exact .inl rfl
  | waits event request entry slot requested found held unwritten =>
      exact .inl rfl
  | finished event request entry slot buffer requested found held registered
      written =>
      refine .inr ⟨entry, slot, buffer, request, found, held, registered, ?_,
        .inr ⟨requested, written⟩⟩
      rw [finishCommit_eq]
      rfl
  | unknown key absent => exact .inl rfl
  | aborted key entry found =>
      rw [without_eq]
      exact .inl rfl

/-- An event runs no callback, or one of the session it names. -/
theorem Handles.replies
    {executor next : UcxExecutor β}
    {event : Event}
    (effect : Handles iface options executor event next) :
    next.replies = executor.replies ∨
      ∃ reply, next.replies = executor.replies ++ [reply] ∧
        event.sessionId = some reply.request.sessionId := by
  cases effect with
  | opened session => exact .inl rfl
  | prepared key transferBytes allocation result next outcome =>
      cases outcome <;> exact .inl rfl
  | landed slot data buffer registered fits => exact .inl rfl
  | unheard key absent => exact .inl rfl
  | marked key entry found alone => exact .inl rfl
  | resumed entry slot buffer request found held registered waiting =>
      rw [finishCommit_eq]
      exact .inr ⟨_, rfl, rfl⟩
  | refused event request result requested failed unprepared =>
      exact .inr ⟨⟨request, result⟩, rfl, sessionId_of_request requested⟩
  | waits event request entry slot requested found held unwritten =>
      exact .inl rfl
  | finished event request entry slot buffer requested found held registered
      written =>
      rw [finishCommit_eq]
      exact .inr ⟨_, rfl, sessionId_of_request requested⟩
  | unknown key absent => exact .inl rfl
  | aborted key entry found =>
      rw [without_eq]
      exact .inl rfl

/-- Callbacks are numbered upwards. -/
theorem Handles.requests_le
    {executor next : UcxExecutor β}
    {event : Event}
    (effect : Handles iface options executor event next) :
    executor.requests ≤ next.requests := by
  cases effect with
  | opened session => exact le_rfl
  | prepared key transferBytes allocation result next outcome =>
      cases outcome <;> exact le_rfl
  | landed slot data buffer registered fits => exact le_rfl
  | unheard key absent => exact le_rfl
  | marked key entry found alone => exact le_rfl
  | resumed entry slot buffer request found held registered waiting =>
      rw [finishCommit_eq, without_eq]
  | refused event request result requested failed unprepared =>
      exact Nat.le_succ _
  | waits event request entry slot requested found held unwritten =>
      exact Nat.le_succ _
  | finished event request entry slot buffer requested found held registered
      written =>
      rw [finishCommit_eq, without_eq]
      exact Nat.le_succ _
  | unknown key absent => exact le_rfl
  | aborted key entry found => rw [without_eq]

/-- The effects of a commit request. -/
inductive Commits
    (iface : IBackend β)
    (options : UcxOptions)
    (executor : UcxExecutor β)
    (request : CommitRequest) : UcxExecutor β → Prop
  | refused (result : CommitResult)
      (failed : result.Failed)
      (unprepared : ∀ entry,
        executor.registry.lookup request.sessionId = some entry →
          entry.slot = none) :
      Commits iface options executor request
        (executor.numbered.onDone request result)
  | waits (entry : UcxSessionEntry) (slot : Nat)
      (found : executor.registry.lookup request.sessionId = some entry)
      (held : entry.slot = some slot)
      (unwritten : entry.writeDone = false) :
      Commits iface options executor request
        { executor.numbered with
          registry := executor.registry.insert request.sessionId
            { entry with pendingCommit := some request } }
  | finished (entry : UcxSessionEntry) (slot : Nat)
      (buffer : RegisteredBuffer)
      (found : executor.registry.lookup request.sessionId = some entry)
      (held : entry.slot = some slot)
      (registered : executor.buffers.lookup slot = some buffer)
      (written : entry.writeDone = true) :
      Commits iface options executor request
        (executor.numbered.finishCommit iface options entry slot buffer
          request)

/-- A commit request has the effects listed for it. -/
theorem Handles.commits
    {executor next : UcxExecutor β}
    {event : Event}
    {request : CommitRequest}
    (effect : Handles iface options executor event next)
    (requested : event.request executor.requests = some request) :
    Commits iface options executor request next := by
  cases effect with
  | opened session => cases requested
  | prepared key transferBytes allocation result next outcome => cases requested
  | landed slot data buffer registered fits => cases requested
  | unheard key absent => cases requested
  | marked key entry found alone => cases requested
  | resumed entry slot buffer request found held registered waiting =>
      cases requested
  | refused event other result again failed unprepared =>
      cases again.symm.trans requested
      exact .refused result failed unprepared
  | waits event other entry slot again found held unwritten =>
      cases again.symm.trans requested
      exact .waits entry slot found held unwritten
  | finished event other entry slot buffer again found held registered
      written =>
      cases again.symm.trans requested
      exact .finished entry slot buffer found held registered written
  | unknown key absent => cases requested
  | aborted key entry found => cases requested

/-- A request takes one number. -/
theorem Handles.requests_of_request
    {executor next : UcxExecutor β}
    {event : Event}
    {request : CommitRequest}
    (effect : Handles iface options executor event next)
    (requested : event.request executor.requests = some request) :
    next.requests = executor.requests + 1 := by
  cases effect.commits requested with
  | refused result failed unprepared => rfl
  | waits entry slot found held unwritten => rfl
  | finished entry slot buffer found held registered written =>
      rw [finishCommit_eq, without_eq]
      rfl

/-- A request is always handled. -/
theorem handle_of_request
    {executor : UcxExecutor β}
    {event : Event}
    {request : CommitRequest}
    (requested : event.request executor.requests = some request) :
    ∃ next, executor.handle iface options event = some next := by
  cases event with
  | commitObject sessionId bytesTransferred clientCrc32c => exact ⟨_, rfl⟩
  | commitPart sessionId backendUploadId partNumber bytesTransferred
      clientCrc32c => exact ⟨_, rfl⟩
  | sessionOpened session => cases requested
  | prepareTransfer sessionId transferBytes allocation => cases requested
  | remoteWrite slot data => cases requested
  | amWriteDone sessionId => cases requested
  | abortSession sessionId => cases requested

end UcxExecutor
end Ucx
end Gateway
end TurboAccess
