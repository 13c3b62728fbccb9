import TurboAccess.Gateway.Ucx.Effects

/-!
# Ownership of buffers

In every reachable state of the executor, whatever the order of events, each
registered buffer has at most one owner: one entry of the registry, or the idle
queue.  An entry's buffer is registered and holds its transfer, and a waiting
commit belongs to a prepared entry that is not yet written.

Entries are numbered in the order of their creation, and two entries never have
the same number.
-/

namespace TurboAccess
namespace Gateway
namespace Ucx
namespace UcxExecutor

variable {β : Type} {iface : IBackend β} {options : UcxOptions}

namespace Owned

variable {executor : UcxExecutor β}

/-- Nothing is owned in the beginning. -/
theorem init (started : Bool) (backend : β) :
    (UcxExecutor.init started backend).Owned := by
  constructor <;> simp [UcxExecutor.init]

/-- Ownership reads the registry, the buffers, the pool and two counters. -/
theorem congr
    {next : UcxExecutor β}
    (owned : executor.Owned)
    (registry : next.registry = executor.registry)
    (buffers : next.buffers = executor.buffers)
    (allocated : next.allocated = executor.allocated)
    (pool : next.pool = executor.pool)
    (requests : executor.requests ≤ next.requests) :
    next.Owned where
  held := by
    rw [registry, buffers]
    exact owned.held
  busy := by
    rw [registry, pool]
    exact owned.busy
  exclusive := by
    rw [registry]
    exact owned.exclusive
  distinct := pool ▸ owned.distinct
  idle := by
    rw [buffers, pool]
    exact owned.idle
  fresh := by
    rw [buffers, allocated]
    exact owned.fresh
  waiting := by
    rw [registry]
    intro sessionId entry request found pending
    obtain ⟨same, numbered, rest⟩ :=
      owned.waiting sessionId entry request found pending
    exact ⟨same, by omega, rest⟩

/-- A new entry owns nothing. -/
theorem opened (owned : executor.Owned) (session : Session) :
    (executor.onSessionOpened session).Owned := by
  constructor
  case distinct => exact owned.distinct
  case idle => exact owned.idle
  case fresh => exact owned.fresh
  case held =>
    intro sessionId entry slot found slotEq
    simp only [onSessionOpened, Table.lookup_insert_eq] at found
    split at found
    · cases found
      cases slotEq
    · exact owned.held sessionId entry slot found slotEq
  case busy =>
    intro sessionId entry slot found slotEq
    simp only [onSessionOpened, Table.lookup_insert_eq] at found
    split at found
    · cases found
      cases slotEq
    · exact owned.busy sessionId entry slot found slotEq
  case exclusive =>
    intro sessionId other entry otherEntry slot found otherFound slotEq otherEq
    simp only [onSessionOpened, Table.lookup_insert_eq] at found otherFound
    split at found
    · cases found
      cases slotEq
    · split at otherFound
      · cases otherFound
        cases otherEq
      · exact owned.exclusive _ _ _ _ _ found otherFound slotEq otherEq
  case waiting =>
    intro sessionId entry request found pending
    simp only [onSessionOpened, Table.lookup_insert_eq] at found
    split at found
    · cases found
      cases pending
    · exact owned.waiting sessionId entry request found pending

/-- An entry that keeps its buffer keeps what it owns. -/
theorem replaced
    {key : String}
    {old new : UcxSessionEntry}
    (owned : executor.Owned)
    (found : executor.registry.lookup key = some old)
    (sameSlot : new.slot = old.slot)
    (sameBytes : new.transferBytes = old.transferBytes)
    (pending : ∀ request, new.pendingCommit = some request →
      request.sessionId = key ∧ request.onDone < executor.requests ∧
        new.writeDone = false ∧ ∃ slot, new.slot = some slot) :
    ({ executor with
        registry := executor.registry.insert key new } :
      UcxExecutor β).Owned := by
  -- every entry of the new registry has an old entry with the same buffer
  have origin : ∀ sessionId entry,
      (executor.registry.insert key new).lookup sessionId = some entry →
        ∃ before, executor.registry.lookup sessionId = some before ∧
          entry.slot = before.slot ∧
          entry.transferBytes = before.transferBytes := by
    intro sessionId entry present
    rw [Table.lookup_insert_eq] at present
    split at present
    · next same =>
        cases present
        exact ⟨old, same ▸ found, sameSlot, sameBytes⟩
    · exact ⟨entry, present, rfl, rfl⟩
  constructor
  case distinct => exact owned.distinct
  case idle => exact owned.idle
  case fresh => exact owned.fresh
  case held =>
    intro sessionId entry slot present slotEq
    obtain ⟨before, was, sameSlot, sameBytes⟩ := origin sessionId entry present
    rw [sameBytes]
    exact owned.held sessionId before slot was (sameSlot ▸ slotEq)
  case busy =>
    intro sessionId entry slot present slotEq
    obtain ⟨before, was, sameSlot, _⟩ := origin sessionId entry present
    exact owned.busy sessionId before slot was (sameSlot ▸ slotEq)
  case exclusive =>
    intro sessionId other entry otherEntry slot present otherPresent slotEq
      otherEq
    obtain ⟨before, was, sameSlot, _⟩ := origin sessionId entry present
    obtain ⟨otherBefore, otherWas, otherSame, _⟩ :=
      origin other otherEntry otherPresent
    exact owned.exclusive _ _ _ _ slot was otherWas (sameSlot ▸ slotEq)
      (otherSame ▸ otherEq)
  case waiting =>
    intro sessionId entry request present waits
    rw [Table.lookup_insert_eq] at present
    split at present
    · next same =>
        cases present
        rw [same]
        exact pending request waits
    · exact owned.waiting sessionId entry request present waits

/-- An entry may take a registered buffer that nobody owns. -/
theorem attached
    {sessionId : String}
    {entry : UcxSessionEntry}
    {slot transferBytes : Nat}
    {buffer : RegisteredBuffer}
    (owned : executor.Owned)
    (found : executor.registry.lookup sessionId = some entry)
    (vacant : entry.slot = none)
    (registered : executor.buffers.lookup slot = some buffer)
    (large : transferBytes ≤ buffer.capacity)
    (unqueued : slot ∉ executor.pool)
    (unheld : ∀ other otherEntry,
      executor.registry.lookup other = some otherEntry →
        otherEntry.slot ≠ some slot) :
    (executor.attach sessionId entry slot transferBytes).Owned := by
  constructor
  case distinct => exact owned.distinct
  case idle => exact owned.idle
  case fresh => exact owned.fresh
  case held =>
    intro other otherEntry otherSlot present slotEq
    simp only [attach, Table.lookup_insert_eq] at present
    split at present
    · cases present
      cases slotEq
      exact ⟨buffer, registered, large⟩
    · exact owned.held other otherEntry otherSlot present slotEq
  case busy =>
    intro other otherEntry otherSlot present slotEq
    simp only [attach, Table.lookup_insert_eq] at present
    split at present
    · cases present
      cases slotEq
      exact unqueued
    · exact owned.busy other otherEntry otherSlot present slotEq
  case exclusive =>
    intro first second firstEntry secondEntry shared firstFound secondFound
      firstEq secondEq
    simp only [attach, Table.lookup_insert_eq] at firstFound secondFound
    split at firstFound <;> split at secondFound
    · next firstSame secondSame => exact firstSame.trans secondSame.symm
    · cases firstFound
      cases firstEq
      exact absurd secondEq (unheld second secondEntry secondFound)
    · cases secondFound
      cases secondEq
      exact absurd firstEq (unheld first firstEntry firstFound)
    · exact owned.exclusive _ _ _ _ shared firstFound secondFound firstEq
        secondEq
  case waiting =>
    intro other otherEntry request present waits
    simp only [attach, Table.lookup_insert_eq] at present
    split at present
    · next same =>
        cases present
        obtain ⟨_, _, _, held, heldEq⟩ := owned.waiting _ _ _ found waits
        rw [vacant] at heldEq
        cases heldEq
    · exact owned.waiting other otherEntry request present waits

/-- A remote write changes bytes, not ownership. -/
theorem landed
    {slot : Nat}
    {buffer : RegisteredBuffer}
    (owned : executor.Owned)
    (registered : executor.buffers.lookup slot = some buffer)
    (data : Bytes) :
    ({ executor with
        buffers := executor.buffers.insert slot (buffer.put data) } :
      UcxExecutor β).Owned := by
  constructor
  case busy => exact owned.busy
  case exclusive => exact owned.exclusive
  case distinct => exact owned.distinct
  case waiting => exact owned.waiting
  case held =>
    intro sessionId entry held found slotEq
    obtain ⟨before, was, large⟩ := owned.held sessionId entry held found slotEq
    simp only [Table.lookup_insert_eq]
    split
    · next same =>
        rw [same, registered] at was
        cases was
        exact ⟨buffer.put data, rfl, large⟩
    · exact ⟨before, was, large⟩
  case idle =>
    intro queued member
    obtain ⟨before, was⟩ := owned.idle queued member
    simp only [Table.lookup_insert_eq]
    split
    · exact ⟨_, rfl⟩
    · exact ⟨before, was⟩
  case fresh =>
    intro present after found
    simp only [Table.lookup_insert_eq] at found
    split at found
    · next same => exact same ▸ owned.fresh slot buffer registered
    · exact owned.fresh present after found

/-- Taking an idle buffer off the queue. -/
theorem taken
    {slot : Nat}
    {before after : List Nat}
    (owned : executor.Owned)
    (idle : executor.pool = before ++ slot :: after) :
    ({ executor with pool := before ++ after } : UcxExecutor β).Owned := by
  have sublist : (before ++ after).Sublist executor.pool := by
    rw [idle]
    exact (List.sublist_cons_self slot after).append_left before
  constructor
  case held => exact owned.held
  case exclusive => exact owned.exclusive
  case fresh => exact owned.fresh
  case waiting => exact owned.waiting
  case distinct => exact owned.distinct.sublist sublist
  case idle =>
    intro queued member
    exact owned.idle queued (sublist.subset member)
  case busy =>
    intro sessionId entry held found slotEq member
    exact owned.busy sessionId entry held found slotEq (sublist.subset member)

/-- Registering a new buffer. -/
theorem registered (owned : executor.Owned) (buffer : RegisteredBuffer) :
    ({ executor with
        buffers := executor.buffers.insert executor.allocated buffer
        allocated := executor.allocated + 1 } : UcxExecutor β).Owned := by
  -- a buffer registered before has a smaller number
  have kept : ∀ slot old, executor.buffers.lookup slot = some old →
      (executor.buffers.insert executor.allocated buffer).lookup slot =
        some old := by
    intro slot old was
    have older := owned.fresh slot old was
    rw [Table.lookup_insert_eq, if_neg (by omega), was]
  constructor
  case busy => exact owned.busy
  case exclusive => exact owned.exclusive
  case distinct => exact owned.distinct
  case waiting => exact owned.waiting
  case held =>
    intro sessionId entry slot found slotEq
    obtain ⟨old, was, large⟩ := owned.held sessionId entry slot found slotEq
    exact ⟨old, kept slot old was, large⟩
  case idle =>
    intro slot member
    obtain ⟨old, was⟩ := owned.idle slot member
    exact ⟨old, kept slot old was⟩
  case fresh =>
    intro slot present found
    simp only [Table.lookup_insert_eq] at found
    split at found
    · next same =>
        dsimp only
        omega
    · have older := owned.fresh slot present found
      dsimp only
      omega

/-- Erasing an entry. -/
theorem erased (owned : executor.Owned) (key : String) :
    ({ executor with registry := executor.registry.erase key } :
      UcxExecutor β).Owned := by
  -- what is left was there before
  have origin : ∀ sessionId entry,
      (executor.registry.erase key).lookup sessionId = some entry →
        executor.registry.lookup sessionId = some entry := by
    intro sessionId entry present
    rw [Table.lookup_erase_eq] at present
    split at present
    · cases present
    · exact present
  constructor
  case distinct => exact owned.distinct
  case idle => exact owned.idle
  case fresh => exact owned.fresh
  case held =>
    intro sessionId entry slot present slotEq
    exact owned.held sessionId entry slot (origin _ _ present) slotEq
  case busy =>
    intro sessionId entry slot present slotEq
    exact owned.busy sessionId entry slot (origin _ _ present) slotEq
  case exclusive =>
    intro sessionId other entry otherEntry slot present otherPresent
    exact owned.exclusive _ _ _ _ slot (origin _ _ present)
      (origin _ _ otherPresent)
  case waiting =>
    intro sessionId entry request present
    exact owned.waiting sessionId entry request (origin _ _ present)

/-- A registered buffer that nobody owns may be queued. -/
theorem queued
    {slot : Nat}
    {buffer : RegisteredBuffer}
    (owned : executor.Owned)
    (registered : executor.buffers.lookup slot = some buffer)
    (unqueued : slot ∉ executor.pool)
    (unheld : ∀ sessionId entry,
      executor.registry.lookup sessionId = some entry →
        entry.slot ≠ some slot) :
    ({ executor with pool := executor.pool ++ [slot] } :
      UcxExecutor β).Owned := by
  constructor
  case held => exact owned.held
  case exclusive => exact owned.exclusive
  case fresh => exact owned.fresh
  case waiting => exact owned.waiting
  case distinct =>
    apply List.Nodup.append owned.distinct (List.nodup_singleton slot)
    simpa using unqueued
  case idle =>
    intro other member
    rcases List.mem_append.mp member with old | new
    · exact owned.idle other old
    · rw [List.mem_singleton.mp new]
      exact ⟨buffer, registered⟩
  case busy =>
    intro sessionId entry held found slotEq member
    rcases List.mem_append.mp member with old | new
    · exact owned.busy sessionId entry held found slotEq old
    · rw [List.mem_singleton.mp new] at slotEq
      exact unheld sessionId entry found slotEq

/-- A buffer that nobody owns may be freed. -/
theorem freed
    {slot : Nat}
    (owned : executor.Owned)
    (unqueued : slot ∉ executor.pool)
    (unheld : ∀ sessionId entry,
      executor.registry.lookup sessionId = some entry →
        entry.slot ≠ some slot) :
    ({ executor with buffers := executor.buffers.erase slot } :
      UcxExecutor β).Owned := by
  constructor
  case busy => exact owned.busy
  case exclusive => exact owned.exclusive
  case distinct => exact owned.distinct
  case waiting => exact owned.waiting
  case held =>
    intro sessionId entry held found slotEq
    have different : held ≠ slot := by
      rintro rfl
      exact unheld sessionId entry found slotEq
    simp only [Table.lookup_erase_eq, if_neg different]
    exact owned.held sessionId entry held found slotEq
  case idle =>
    intro queued member
    have different : queued ≠ slot := by
      rintro rfl
      exact unqueued member
    simp only [Table.lookup_erase_eq, if_neg different]
    exact owned.idle queued member
  case fresh =>
    intro present buffer found
    simp only [Table.lookup_erase_eq] at found
    split at found
    · cases found
    · exact owned.fresh present buffer found

/-- An erased entry leaves its buffer without an owner. -/
theorem unheld_of_erased
    {key : String}
    {entry : UcxSessionEntry}
    {slot : Nat}
    (owned : executor.Owned)
    (found : executor.registry.lookup key = some entry)
    (held : entry.slot = some slot) :
    ∀ sessionId other,
      (executor.registry.erase key).lookup sessionId = some other →
        other.slot ≠ some slot := by
  intro sessionId other present otherHeld
  rw [Table.lookup_erase_eq] at present
  split at present
  · cases present
  · next different =>
      exact different
        (owned.exclusive _ _ _ _ slot present found otherHeld held)

/-- Releasing and erasing an entry. -/
theorem without
    {key : String}
    {entry : UcxSessionEntry}
    (owned : executor.Owned)
    (found : executor.registry.lookup key = some entry) :
    (executor.without options key entry).Owned := by
  have erased := owned.erased key
  rcases releaseEntry_cases options
      { executor with registry := executor.registry.erase key } entry with
    ⟨_, same⟩ | ⟨slot, held, kept | dropped⟩
  · rw [UcxExecutor.without, same]
    exact erased
  · obtain ⟨buffer, registered, _⟩ := owned.held _ _ _ found held
    rw [UcxExecutor.without, kept]
    exact erased.queued registered (owned.busy _ _ _ found held)
      (owned.unheld_of_erased found held)
  · rw [UcxExecutor.without, dropped]
    exact erased.freed (owned.busy _ _ _ found held)
      (owned.unheld_of_erased found held)

/-- Finishing a commit. -/
theorem finishCommit
    {entry : UcxSessionEntry}
    {slot : Nat}
    {buffer : RegisteredBuffer}
    {request : CommitRequest}
    (owned : executor.Owned)
    (found : executor.registry.lookup request.sessionId = some entry) :
    (executor.finishCommit iface options entry slot buffer request).Owned := by
  have released : (executor.without options request.sessionId entry).Owned :=
    owned.without found
  rw [finishCommit_eq]
  exact released.congr rfl rfl rfl rfl le_rfl

/-- A preparation keeps ownership. -/
theorem prepares
    {next : UcxExecutor β}
    {sessionId : String}
    {transferBytes : Nat}
    {result : Result UcxDiscoverInfo}
    (owned : executor.Owned)
    (outcome : Prepares options executor sessionId transferBytes result
      next) :
    next.Owned := by
  cases outcome with
  | refused error => exact owned
  | again entry slot info found held same => exact owned
  | reused entry slot buffer info before after found vacant idle registered
      large =>
      have distinct := owned.distinct
      rw [idle, List.nodup_middle] at distinct
      refine (owned.taken idle).attached found vacant registered large
        (List.nodup_cons.mp distinct).1 ?_
      intro other otherEntry present slotEq
      apply owned.busy other otherEntry slot present slotEq
      rw [idle]
      exact List.mem_append_right before List.mem_cons_self
  | registered entry buffer info found vacant large =>
      refine (owned.registered buffer).attached found vacant
        (Finmap.lookup_insert _) large ?_ ?_
      · intro member
        obtain ⟨old, was⟩ := owned.idle _ member
        have older := owned.fresh _ old was
        omega
      · intro other otherEntry present slotEq
        obtain ⟨old, was, _⟩ := owned.held other otherEntry _ present slotEq
        have older := owned.fresh _ old was
        omega

/-- Every event keeps ownership. -/
theorem handles
    {next : UcxExecutor β}
    {event : Event}
    (owned : executor.Owned)
    (effect : Handles iface options executor event next) :
    next.Owned := by
  have numbered : executor.numbered.Owned :=
    owned.congr rfl rfl rfl rfl (Nat.le_succ _)
  cases effect with
  | opened session => exact owned.opened session
  | prepared sessionId transferBytes allocation result next outcome =>
      exact owned.prepares outcome
  | landed slot data buffer registered fits =>
      exact owned.landed registered data
  | unheard sessionId absent => exact owned
  | marked sessionId entry found alone =>
      refine owned.replaced found rfl rfl ?_
      intro request waits
      cases waits
  | resumed entry slot buffer request found held registered waiting =>
      exact owned.finishCommit found
  | refused event request result requested failed unprepared =>
      exact numbered.congr rfl rfl rfl rfl le_rfl
  | waits event request entry slot requested found held unwritten =>
      refine numbered.replaced found rfl rfl ?_
      intro waiting same
      cases same
      refine ⟨rfl, ?_, unwritten, slot, held⟩
      rw [onDone_of_request requested]
      exact Nat.lt_succ_self _
  | finished event request entry slot buffer requested found held registered
      written =>
      exact numbered.finishCommit found
  | unknown sessionId absent => exact owned
  | aborted sessionId entry found => exact owned.without found

end Owned

/-- Every reachable executor owns its buffers. -/
theorem Owned.of_reachable
    {executor : UcxExecutor β}
    (reachable : (machine iface options).Reachable Machine.always executor) :
    executor.Owned := by
  refine reachable.invariant ?_ ?_
  · rintro start ⟨started, backend, rfl⟩
    exact Owned.init started backend
  · intro state event next owned _ handled
    exact owned.handles (handles_of_handle owned handled)

/-- Every step of a reachable executor has the listed effects. -/
theorem handles_of_reachable
    {executor next : UcxExecutor β}
    {event : Event}
    (reachable : (machine iface options).Reachable Machine.always executor)
    (handled : (machine iface options).step executor event = some next) :
    Handles iface options executor event next :=
  handles_of_handle (Owned.of_reachable reachable) handled

/-! ## What an event does to one buffer -/

/-- Releasing an entry frees no buffer but its own. -/
theorem buffers_without
    (options : UcxOptions)
    (executor : UcxExecutor β)
    (sessionId : String)
    (entry : UcxSessionEntry)
    (slot : Nat) :
    (executor.without options sessionId entry).buffers.lookup slot =
        executor.buffers.lookup slot ∨
      entry.slot = some slot := by
  rcases releaseEntry_cases options
      { executor with registry := executor.registry.erase sessionId } entry with
    ⟨_, same⟩ | ⟨held, heldEq, kept | dropped⟩
  · rw [without, same]
    exact .inl rfl
  · rw [without, kept]
    exact .inl rfl
  · rw [without, dropped, Table.lookup_erase_eq]
    by_cases own : slot = held
    · rw [own]
      exact .inr heldEq
    · exact .inl (if_neg own)

/-- A buffer keeps its bytes, except for a remote write into it, and until its
owner is released. -/
theorem Handles.buffer_kept
    {executor next : UcxExecutor β}
    {event : Event}
    {slot : Nat}
    {buffer : RegisteredBuffer}
    (effect : Handles iface options executor event next)
    (owned : executor.Owned)
    (registered : executor.buffers.lookup slot = some buffer)
    (unwritten : ∀ data, event ≠ .remoteWrite slot data) :
    next.buffers.lookup slot = some buffer ∨
      ∃ sessionId entry,
        executor.registry.lookup sessionId = some entry ∧
          entry.slot = some slot ∧
          next.registry.lookup sessionId = none := by
  -- an entry that is released and erased keeps all other buffers
  have released : ∀ state : UcxExecutor β, state.buffers = executor.buffers →
      ∀ sessionId entry, executor.registry.lookup sessionId = some entry →
        (state.without options sessionId entry).buffers.lookup slot =
            some buffer ∨
          ∃ sessionId' entry',
            executor.registry.lookup sessionId' = some entry' ∧
              entry'.slot = some slot ∧
              (executor.registry.erase sessionId).lookup sessionId' = none := by
    intro state sameBuffers sessionId entry found
    rcases buffers_without options state sessionId entry slot with same | held
    · rw [sameBuffers, registered] at same
      exact .inl same
    · exact .inr ⟨sessionId, entry, found, held, Finmap.lookup_erase _ _⟩
  cases effect with
  | opened session => exact .inl registered
  | prepared key transferBytes allocation result next outcome =>
      cases outcome with
      | refused error => exact .inl registered
      | again entry held info found heldEq same => exact .inl registered
      | reused entry held taken info before after found vacant idle present
          large => exact .inl registered
      | registered entry fresh info found vacant large =>
          have older := owned.fresh slot buffer registered
          refine .inl ?_
          simp only [attach, Table.lookup_insert_eq]
          rw [if_neg (by omega)]
          exact registered
  | landed other data written present fits =>
      have different : slot ≠ other := by
        rintro rfl
        exact unwritten data rfl
      refine .inl ?_
      simp only [Table.lookup_insert_eq, if_neg different]
      exact registered
  | unheard key absent => exact .inl registered
  | marked key entry found alone => exact .inl registered
  | resumed entry held taken request found heldEq present waiting =>
      rw [registry_finishCommit, finishCommit_eq]
      exact released executor rfl request.sessionId entry found
  | refused event request result requested failed unprepared =>
      exact .inl registered
  | waits event request entry held requested found heldEq unwritten =>
      exact .inl registered
  | finished event request entry held taken requested found heldEq present
      written =>
      rw [registry_finishCommit, finishCommit_eq]
      exact released executor.numbered rfl request.sessionId entry found
  | unknown key absent => exact .inl registered
  | aborted key entry found =>
      rw [registry_without]
      exact released executor rfl key entry found

/-! ## Numbered entries -/

/-- Entries are numbered below the counter, each by a number of its own. -/
structure Numbered (executor : UcxExecutor β) : Prop where
  below : ∀ sessionId entry,
    executor.registry.lookup sessionId = some entry →
      entry.serial < executor.created
  unique : ∀ sessionId other entry otherEntry,
    executor.registry.lookup sessionId = some entry →
      executor.registry.lookup other = some otherEntry →
        entry.serial = otherEntry.serial → sessionId = other

/-- The number of an entry never changes: an entry is new, or was there before
under the same number, with the same buffer unless it had none. -/
theorem Handles.entry_origin
    {executor next : UcxExecutor β}
    {event : Event}
    {sessionId : String}
    {entry : UcxSessionEntry}
    (effect : Handles iface options executor event next)
    (found : next.registry.lookup sessionId = some entry) :
    (∃ session, event = .sessionOpened session ∧
        session.sessionId = sessionId ∧ entry = executor.newEntry session) ∨
      ∃ before, executor.registry.lookup sessionId = some before ∧
        entry.serial = before.serial ∧
        (before.slot = none ∨
          entry.slot = before.slot ∧
            entry.transferBytes = before.transferBytes) := by
  have change := effect.entryChange sessionId
  generalize executor.registry.lookup sessionId = old at change ⊢
  rw [found] at change
  cases change with
  | same => exact .inr ⟨entry, rfl, rfl, .inr ⟨rfl, rfl⟩⟩
  | opened _ session opening named =>
      exact .inl ⟨session, opening, named, rfl⟩
  | attached before slot transferBytes allocation preparing vacant =>
      exact .inr ⟨before, rfl, rfl, .inl vacant⟩
  | marked before notified alone =>
      exact .inr ⟨before, rfl, rfl, .inr ⟨rfl, rfl⟩⟩
  | waits before request slot requested named held =>
      exact .inr ⟨before, rfl, rfl, .inr ⟨rfl, rfl⟩⟩

/-- Opening a session takes a number; nothing else does. -/
theorem Handles.created
    {executor next : UcxExecutor β}
    {event : Event}
    (effect : Handles iface options executor event next) :
    next.created = executor.created + 1 ∨
      next.created = executor.created ∧
        ∀ session, event ≠ .sessionOpened session := by
  cases effect with
  | opened session => exact .inl rfl
  | prepared key transferBytes allocation result next outcome =>
      cases outcome <;> exact .inr ⟨rfl, nofun⟩
  | landed slot data buffer registered fits => exact .inr ⟨rfl, nofun⟩
  | unheard key absent => exact .inr ⟨rfl, nofun⟩
  | marked key entry found alone => exact .inr ⟨rfl, nofun⟩
  | resumed entry slot buffer request found held registered waiting =>
      rw [finishCommit_eq, without_eq]
      exact .inr ⟨rfl, nofun⟩
  | refused event request result requested failed unprepared =>
      refine .inr ⟨rfl, ?_⟩
      rintro session rfl
      cases requested
  | waits event request entry slot requested found held unwritten =>
      refine .inr ⟨rfl, ?_⟩
      rintro session rfl
      cases requested
  | finished event request entry slot buffer requested found held registered
      written =>
      rw [finishCommit_eq, without_eq]
      refine .inr ⟨rfl, ?_⟩
      rintro session rfl
      cases requested
  | unknown key absent => exact .inr ⟨rfl, nofun⟩
  | aborted key entry found =>
      rw [without_eq]
      exact .inr ⟨rfl, nofun⟩

/-- Events keep entries numbered. -/
theorem Numbered.handles
    {executor next : UcxExecutor β}
    {event : Event}
    (numbered : executor.Numbered)
    (effect : Handles iface options executor event next) :
    next.Numbered := by
  have counter := effect.created
  have grows : executor.created ≤ next.created := by omega
  -- a new entry has the number just taken
  have last : ∀ session, event = .sessionOpened session →
      next.created = executor.created + 1 := by
    intro session opening
    rcases counter with taken | ⟨_, other⟩
    · exact taken
    · exact absurd opening (other session)
  constructor
  · intro sessionId entry found
    rcases effect.entry_origin found with
      ⟨session, opening, _, rfl⟩ | ⟨before, was, same, _⟩
    · have taken := last session opening
      change executor.created < next.created
      omega
    · have older := numbered.below sessionId before was
      omega
  · intro sessionId other entry otherEntry found otherFound same
    rcases effect.entry_origin found with
      ⟨session, opening, named, rfl⟩ | ⟨before, was, sameBefore, _⟩ <;>
    rcases effect.entry_origin otherFound with
      ⟨otherSession, otherOpening, otherNamed, rfl⟩ |
        ⟨otherBefore, otherWas, otherSame, _⟩
    · cases opening.symm.trans otherOpening
      exact named.symm.trans otherNamed
    · have older := numbered.below other otherBefore otherWas
      change executor.created = otherEntry.serial at same
      omega
    · have older := numbered.below sessionId before was
      change entry.serial = executor.created at same
      omega
    · exact numbered.unique _ _ _ _ was otherWas (by omega)

theorem Numbered.of_reachable
    {executor : UcxExecutor β}
    (reachable : (machine iface options).Reachable Machine.always executor) :
    executor.Numbered := by
  refine reachable.induction ?_ ?_
  · rintro start ⟨started, backend, rfl⟩
    constructor <;> simp [UcxExecutor.init]
  · intro state event next reached numbered _ handled
    exact numbered.handles (handles_of_reachable reached handled)

end UcxExecutor
end Ucx
end Gateway
end TurboAccess
