import TurboAccess.Gateway.Ucx.Ownership

/-!
# Slots of prepared transfers

A slot that an entry owns is registered, is made of whole pages, holds the
transfer it was prepared for and has no other owner, and the idle queue keeps
within its limit.  A transfer is prepared once: until its entry is removed or
replaced, a repetition gets the same answer and one with another size is
refused, and neither changes anything.
-/

namespace TurboAccess
namespace Gateway
namespace Ucx
namespace UcxExecutor

variable {β : Type} {iface : IBackend β} {options : UcxOptions}

/-! ## The properties -/

/-- Slots have one owner each, and are large enough for it. -/
structure SlotsExclusive
    (options : UcxOptions)
    (executor : UcxExecutor β) : Prop where
  oneEntry : ∀ sessionId other entry otherEntry slot,
    executor.registry.lookup sessionId = some entry →
      executor.registry.lookup other = some otherEntry →
        entry.slot = some slot → otherEntry.slot = some slot →
          sessionId = other
  notIdle : ∀ sessionId entry slot,
    executor.registry.lookup sessionId = some entry →
      entry.slot = some slot → slot ∉ executor.pool
  queuedOnce : executor.pool.Nodup
  large : ∀ sessionId entry slot,
    executor.registry.lookup sessionId = some entry →
      entry.slot = some slot →
        ∃ buffer, executor.buffers.lookup slot = some buffer ∧
          entry.transferBytes ≤ buffer.capacity ∧
          pageSize ∣ buffer.capacity
  idleBounded : executor.pool.length ≤ options.bufferPoolMaxIdle

/-- A transfer of a session is prepared: repeating it gives the same answer, and
another size is refused, without a change in either case. -/
def PreparedAs
    (options : UcxOptions)
    (executor : UcxExecutor β)
    (sessionId : String)
    (transferBytes : Nat)
    (info : UcxDiscoverInfo) : Prop :=
  ∀ size allocation,
    (size = transferBytes →
      executor.prepareTransfer options sessionId size allocation =
        (.ok info, executor)) ∧
    (size ≠ transferBytes →
      ∃ error, executor.prepareTransfer options sessionId size allocation =
        (.error error, executor))

/-! ## Whole pages -/

/-- Every registered buffer is made of whole pages. -/
def Paged (executor : UcxExecutor β) : Prop :=
  ∀ slot buffer, executor.buffers.lookup slot = some buffer →
    pageSize ∣ buffer.capacity

/-- Rounding gives whole pages, also where the sum wraps. -/
theorem pageSize_dvd_roundUpPage (size : Nat) :
    pageSize ∣ roundUpPage size := by
  rw [roundUpPage]
  exact Dvd.intro_left _ rfl

/-- An acquired buffer is registered; a new one has the size asked for. -/
theorem acquireOrRegister_cases
    (executor : UcxExecutor β)
    (size : Nat)
    (allocation : Allocation) :
    (∃ error, executor.acquireOrRegister size allocation =
        (.error error, executor)) ∨
      (∃ slot buffer pool,
        executor.buffers.lookup slot = some buffer ∧
          executor.acquireOrRegister size allocation =
            (.ok (slot, buffer), { executor with pool })) ∨
      ∃ buffer, buffer.capacity = size ∧
        executor.acquireOrRegister size allocation =
          (.ok (executor.allocated, buffer),
            { executor with
              buffers := executor.buffers.insert executor.allocated buffer
              allocated := executor.allocated + 1 }) := by
  cases acquired : executor.acquire size with
  | some found =>
      obtain ⟨slot, buffer, pool⟩ := found
      right; left
      exact ⟨slot, buffer, pool, (acquireFrom_eq_some acquired).1, by
        simp only [acquireOrRegister, acquired]⟩
  | none =>
      cases outcome : allocation.result size with
      | error error =>
          left
          exact ⟨error, by simp only [acquireOrRegister, acquired, outcome]⟩
      | ok buffer =>
          right; right
          exact ⟨buffer, Allocation.capacity_of_result outcome, by
            simp only [acquireOrRegister, acquired, outcome]⟩

/-- A preparation registers a buffer of whole pages, or none. -/
theorem Paged.prepareTransfer
    {executor : UcxExecutor β}
    (paged : executor.Paged)
    (sessionId : String)
    (transferBytes : Nat)
    (allocation : Allocation) :
    (executor.prepareTransfer options sessionId transferBytes
      allocation).2.Paged := by
  rw [UcxExecutor.prepareTransfer]
  split
  · exact paged
  split
  · exact paged
  split
  · exact paged
  split
  · exact paged
  split
  · split <;> exact paged
  dsimp only
  rcases acquireOrRegister_cases executor
      (roundUpPage (max transferBytes pageSize)) allocation with
    ⟨error, refused⟩ | ⟨slot, buffer, pool, _, reused⟩ |
      ⟨buffer, capacity, registered⟩
  · rw [refused]
    exact paged
  · rw [reused]
    exact paged
  · rw [registered]
    intro slot other present
    simp only [attach, Table.lookup_insert_eq] at present
    split at present
    · cases present
      rw [capacity]
      exact pageSize_dvd_roundUpPage _
    · exact paged slot other present

/-- Releasing an entry registers nothing. -/
theorem Paged.without
    {executor : UcxExecutor β}
    (paged : executor.Paged)
    (sessionId : String)
    (entry : UcxSessionEntry) :
    (executor.without options sessionId entry).Paged := by
  intro slot buffer present
  rcases releaseEntry_cases options
      { executor with registry := executor.registry.erase sessionId } entry with
    ⟨_, same⟩ | ⟨held, _, kept | dropped⟩
  · rw [UcxExecutor.without, same] at present
    exact paged slot buffer present
  · rw [UcxExecutor.without, kept] at present
    exact paged slot buffer present
  · rw [UcxExecutor.without, dropped, Table.lookup_erase_eq] at present
    split at present
    · cases present
    · exact paged slot buffer present

/-- Every event keeps buffers to whole pages. -/
theorem Paged.handle
    {executor next : UcxExecutor β}
    {event : Event}
    (paged : executor.Paged)
    (handled : executor.handle iface options event = some next)
    (effect : Handles iface options executor event next) :
    next.Paged := by
  cases effect with
  | prepared sessionId transferBytes allocation result next outcome =>
      cases handled
      exact paged.prepareTransfer sessionId transferBytes allocation
  | landed slot data buffer registered fits =>
      intro other otherBuffer present
      simp only [Table.lookup_insert_eq] at present
      split at present
      · cases present
        exact paged slot buffer registered
      · exact paged other otherBuffer present
  | resumed entry slot buffer request found held registered waiting =>
      rw [finishCommit_eq]
      exact paged.without request.sessionId entry
  | finished event request entry slot buffer requested found held registered
      written =>
      rw [finishCommit_eq]
      have numbered : executor.numbered.Paged := paged
      exact numbered.without request.sessionId entry
  | aborted sessionId entry found => exact paged.without sessionId entry
  | opened | unheard | marked | refused | waits | unknown => exact paged

/-! ## The idle queue -/

/-- A released slot joins the queue only where there is room. -/
theorem length_pool_without
    (executor : UcxExecutor β)
    (sessionId : String)
    (entry : UcxSessionEntry)
    (bounded : executor.pool.length ≤ options.bufferPoolMaxIdle) :
    (executor.without options sessionId entry).pool.length ≤
      options.bufferPoolMaxIdle := by
  rw [UcxExecutor.without, releaseEntry]
  split
  · exact bounded
  · rw [returnSlot]
    split
    · next room =>
        rw [List.length_append]
        exact room
    · exact bounded

/-- No event lets the queue grow beyond its limit. -/
theorem Handles.length_pool_le
    {executor next : UcxExecutor β}
    {event : Event}
    (effect : Handles iface options executor event next)
    (bounded : executor.pool.length ≤ options.bufferPoolMaxIdle) :
    next.pool.length ≤ options.bufferPoolMaxIdle := by
  cases effect with
  | prepared sessionId transferBytes allocation result next outcome =>
      cases outcome with
      | reused entry slot buffer info before after found vacant idle
          registered large =>
          rw [idle] at bounded
          simp only [attach, List.length_append, List.length_cons] at bounded ⊢
          omega
      | refused | again | registered => exact bounded
  | resumed entry slot buffer request found held registered waiting =>
      rw [finishCommit_eq]
      exact length_pool_without executor request.sessionId entry bounded
  | finished event request entry slot buffer requested found held registered
      written =>
      rw [finishCommit_eq]
      exact length_pool_without executor.numbered request.sessionId entry
        bounded
  | aborted sessionId entry found =>
      exact length_pool_without executor sessionId entry bounded
  | opened | landed | unheard | marked | refused | waits | unknown =>
      exact bounded

/-- Slots are exclusive in every reachable state. -/
theorem SlotsExclusive.of_reachable
    {executor : UcxExecutor β}
    (reachable : (machine iface options).Reachable Machine.always executor) :
    executor.SlotsExclusive options := by
  have owned := Owned.of_reachable reachable
  have paged : executor.Paged := by
    refine reachable.induction ?_ ?_
    · rintro start ⟨started, backend, rfl⟩ slot buffer present
      cases present
    · intro state event next reached paged _ handled
      exact paged.handle handled (handles_of_reachable reached handled)
  let bound : UcxExecutor β → Prop := fun state =>
    state.pool.length ≤ options.bufferPoolMaxIdle
  have bounded : bound executor := by
    refine reachable.induction ?_ ?_
    · rintro start ⟨started, backend, rfl⟩
      exact Nat.zero_le _
    · intro state event next reached bounded _ handled
      exact (handles_of_reachable reached handled).length_pool_le bounded
  refine ⟨owned.exclusive, owned.busy, owned.distinct, ?_, bounded⟩
  intro sessionId entry slot found held
  obtain ⟨buffer, registered, large⟩ :=
    owned.held sessionId entry slot found held
  exact ⟨buffer, registered, large, paged slot buffer registered⟩

/-! ## Repeated preparations -/

/-- The number of the entry of a session. -/
def serialOf (executor : UcxExecutor β) (sessionId : String) : Option Nat :=
  (executor.registry.lookup sessionId).map UcxSessionEntry.serial

/-- The entry of a session, with the given number, holds a slot for a transfer
and the answer that was given for it. -/
structure HoldsAs
    (options : UcxOptions)
    (executor : UcxExecutor β)
    (sessionId : String)
    (serial transferBytes : Nat)
    (info : UcxDiscoverInfo)
    (entry : UcxSessionEntry)
    (slot : Nat)
    (buffer : RegisteredBuffer) : Prop where
  found : executor.registry.lookup sessionId = some entry
  serial : entry.serial = serial
  held : entry.slot = some slot
  sized : entry.transferBytes = transferBytes
  registered : executor.buffers.lookup slot = some buffer
  answered : discoverInfo options buffer = info

/-- A successful preparation leaves a slot in the entry. -/
theorem prepareTransfer_eq_ok
    {executor next : UcxExecutor β}
    {sessionId : String}
    {transferBytes : Nat}
    {allocation : Allocation}
    {info : UcxDiscoverInfo}
    (prepared : executor.prepareTransfer options sessionId transferBytes
      allocation = (.ok info, next)) :
    next.started = true ∧ transferBytes ≠ 0 ∧
      transferBytes ≤ options.maxMsgBytes ∧
      ∃ serial entry slot buffer,
        next.HoldsAs options sessionId serial transferBytes info entry slot
          buffer := by
  rw [UcxExecutor.prepareTransfer] at prepared
  split at prepared
  · cases prepared
  next running =>
  have started : executor.started = true := by simpa using running
  split at prepared
  · cases prepared
  next entry found =>
  split at prepared
  · cases prepared
  next positive =>
  split at prepared
  · cases prepared
  next bounded =>
  have small : transferBytes ≤ options.maxMsgBytes := not_lt.mp bounded
  split at prepared
  · next slot buffer buffered =>
      split at prepared
      · cases prepared
      · next same =>
          cases prepared
          obtain ⟨held, registered⟩ := bufferOf_eq_some buffered
          exact ⟨started, positive, small, entry.serial, entry, slot, buffer,
            found, rfl, held, not_not.mp same, registered, rfl⟩
  dsimp only at prepared
  rcases acquireOrRegister_cases executor
      (roundUpPage (max transferBytes pageSize)) allocation with
    ⟨error, refused⟩ | ⟨slot, buffer, pool, registered, reused⟩ |
      ⟨buffer, _, fresh⟩
  · rw [refused] at prepared
    cases prepared
  · rw [reused] at prepared
    cases prepared
    exact ⟨started, positive, small, entry.serial, _, slot, buffer,
      Finmap.lookup_insert _, rfl, rfl, rfl, registered, rfl⟩
  · rw [fresh] at prepared
    cases prepared
    exact ⟨started, positive, small, entry.serial, _, executor.allocated,
      buffer, Finmap.lookup_insert _, rfl, rfl, rfl, Finmap.lookup_insert _,
      rfl⟩

/-- A transfer whose slot is held is prepared. -/
theorem HoldsAs.preparedAs
    {executor : UcxExecutor β}
    {sessionId : String}
    {serial transferBytes slot : Nat}
    {info : UcxDiscoverInfo}
    {entry : UcxSessionEntry}
    {buffer : RegisteredBuffer}
    (holds : executor.HoldsAs options sessionId serial transferBytes info entry
      slot buffer)
    (started : executor.started = true)
    (positive : transferBytes ≠ 0)
    (bounded : transferBytes ≤ options.maxMsgBytes) :
    executor.PreparedAs options sessionId transferBytes info := by
  have buffered : executor.bufferOf entry = some (slot, buffer) := by
    simp [bufferOf, holds.held, holds.registered]
  intro size allocation
  constructor
  · rintro rfl
    simp [prepareTransfer, started, holds.found, positive, not_lt.mpr bounded,
      buffered, holds.sized, holds.answered]
  · intro different
    rw [prepareTransfer]
    simp only [started, holds.found, buffered, holds.sized,
      Bool.true_eq_false, ↓reduceIte]
    split
    · exact ⟨_, rfl⟩
    split
    · exact ⟨_, rfl⟩
    · rw [if_pos (Ne.symm different)]
      exact ⟨_, rfl⟩

/-- A buffer keeps its address and its key until its owner is released. -/
theorem Handles.answer_kept
    {executor next : UcxExecutor β}
    {event : Event}
    {slot : Nat}
    {buffer : RegisteredBuffer}
    (effect : Handles iface options executor event next)
    (owned : executor.Owned)
    (registered : executor.buffers.lookup slot = some buffer) :
    (∃ after, next.buffers.lookup slot = some after ∧
        discoverInfo options after = discoverInfo options buffer) ∨
      ∃ sessionId entry,
        executor.registry.lookup sessionId = some entry ∧
          entry.slot = some slot ∧
          next.registry.lookup sessionId = none := by
  by_cases written : ∃ data, event = .remoteWrite slot data
  · obtain ⟨data, rfl⟩ := written
    cases effect with
    | landed _ _ before present fits =>
        cases present.symm.trans registered
        exact .inl ⟨buffer.put data, Finmap.lookup_insert _, rfl⟩
    | refused _ _ _ requested => cases requested
    | waits _ _ _ _ requested => cases requested
    | finished _ _ _ _ _ requested => cases requested
  · rcases effect.buffer_kept owned registered
        (fun data same => written ⟨data, same⟩) with kept | released
    · exact .inl ⟨buffer, kept, rfl⟩
    · exact .inr released

/-- An entry that keeps its number keeps its slot and its answer. -/
theorem HoldsAs.step
    {executor next : UcxExecutor β}
    {event : Event}
    {sessionId : String}
    {serial transferBytes slot : Nat}
    {info : UcxDiscoverInfo}
    {entry : UcxSessionEntry}
    {buffer : RegisteredBuffer}
    (holds : executor.HoldsAs options sessionId serial transferBytes info entry
      slot buffer)
    (owned : executor.Owned)
    (numbered : executor.Numbered)
    (effect : Handles iface options executor event next)
    (stays : next.serialOf sessionId = some serial) :
    ∃ later after,
      next.HoldsAs options sessionId serial transferBytes info later slot
        after := by
  obtain ⟨later, found, same⟩ := Option.map_eq_some_iff.mp stays
  have older := numbered.below sessionId entry holds.found
  have origin : later.slot = entry.slot ∧
      later.transferBytes = entry.transferBytes := by
    rcases effect.entry_origin found with
      ⟨session, _, _, rfl⟩ | ⟨before, was, _, vacant | kept⟩
    · -- a new entry has a number that no entry had
      have fresh : executor.created = entry.serial :=
        same.trans holds.serial.symm
      omega
    · cases was.symm.trans holds.found
      rw [holds.held] at vacant
      cases vacant
    · cases was.symm.trans holds.found
      exact kept
  have registered : ∃ after, next.buffers.lookup slot = some after ∧
      discoverInfo options after = discoverInfo options buffer := by
    rcases effect.answer_kept owned holds.registered with
      kept | ⟨owner, ownerEntry, ownerFound, ownerHeld, gone⟩
    · exact kept
    · have own := owned.exclusive owner sessionId ownerEntry entry slot
        ownerFound holds.found ownerHeld holds.held
      rw [own, found] at gone
      cases gone
  obtain ⟨after, present, answered⟩ := registered
  exact ⟨later, after, found, same, origin.1.trans holds.held,
    origin.2.trans holds.sized, present, answered.trans holds.answered⟩

/-- A number that an entry has lost does not come back. -/
theorem serialOf_of_path
    {executor later : UcxExecutor β}
    {events : List Event}
    {sessionId : String}
    {serial : Nat}
    (reachable : (machine iface options).Reachable Machine.always executor)
    (path : (machine iface options).Path Machine.always executor events later)
    (issued : serial < executor.created)
    (stays : later.serialOf sessionId = some serial) :
    executor.serialOf sessionId = some serial := by
  induction path with
  | nil => exact stays
  | @cons state next finish event events _ stepped _ inductionHypothesis =>
      have effect := handles_of_reachable reachable stepped
      have grows : state.created ≤ next.created := by
        have counter := effect.created
        omega
      have after := inductionHypothesis (reachable.step trivial stepped)
        (Nat.lt_of_lt_of_le issued grows) stays
      obtain ⟨entry, found, same⟩ := Option.map_eq_some_iff.mp after
      rcases effect.entry_origin found with
        ⟨session, _, _, rfl⟩ | ⟨before, was, kept, _⟩
      · have fresh : state.created = serial := same
        omega
      · rw [serialOf, was, Option.map_some, ← kept, same]

/-- A prepared transfer stays prepared as long as its entry stays. -/
theorem HoldsAs.of_path
    {executor later : UcxExecutor β}
    {events : List Event}
    {sessionId : String}
    {serial transferBytes slot : Nat}
    {info : UcxDiscoverInfo}
    {entry : UcxSessionEntry}
    {buffer : RegisteredBuffer}
    (reachable : (machine iface options).Reachable Machine.always executor)
    (path : (machine iface options).Path Machine.always executor events later)
    (holds : executor.HoldsAs options sessionId serial transferBytes info entry
      slot buffer)
    (stays : later.serialOf sessionId = some serial) :
    ∃ after final,
      later.HoldsAs options sessionId serial transferBytes info after slot
        final := by
  induction path generalizing entry buffer with
  | nil => exact ⟨entry, buffer, holds⟩
  | @cons state next finish event events _ stepped rest
      inductionHypothesis =>
      have effect := handles_of_reachable reachable stepped
      have numbered := Numbered.of_reachable reachable
      have reached := reachable.step trivial stepped
      have issued : serial < next.created := by
        have below := numbered.below sessionId entry holds.found
        have counter := effect.created
        have same := holds.serial
        omega
      have between := serialOf_of_path reached rest issued stays
      obtain ⟨middle, after, held⟩ := holds.step
        (Owned.of_reachable reachable) numbered effect between
      exact inductionHypothesis reached held stays

/-- No event starts or stops the executor. -/
theorem Handles.started
    {executor next : UcxExecutor β}
    {event : Event}
    (effect : Handles iface options executor event next) :
    next.started = executor.started := by
  cases effect with
  | prepared sessionId transferBytes allocation result next outcome =>
      cases outcome <;> rfl
  | resumed entry slot buffer request found held registered waiting =>
      rw [finishCommit_eq, without_eq]
  | finished event request entry slot buffer requested found held registered
      written =>
      rw [finishCommit_eq, without_eq]
      rfl
  | aborted sessionId entry found => rw [without_eq]
  | opened | landed | unheard | marked | refused | waits | unknown => rfl

theorem started_of_path
    {executor later : UcxExecutor β}
    {events : List Event}
    (reachable : (machine iface options).Reachable Machine.always executor)
    (path : (machine iface options).Path Machine.always executor events
      later) :
    later.started = executor.started := by
  induction path with
  | nil => rfl
  | cons _ stepped _ inductionHypothesis =>
      have kept := (handles_of_reachable reachable stepped).started
      exact (inductionHypothesis (reachable.step trivial stepped)).trans kept

/-- In every reachable state slots are exclusive and large enough, and a
preparation that succeeds then is answered alike, without a change, for as long
as the entry of the session stays. -/
theorem slotsExclusive_and_preparedOnce
    {executor : UcxExecutor β}
    (reachable : (machine iface options).Reachable Machine.always executor) :
    executor.SlotsExclusive options ∧
      ∀ sessionId transferBytes allocation info next events later,
        executor.prepareTransfer options sessionId transferBytes allocation =
            (.ok info, next) →
          (machine iface options).Path Machine.always next events later →
            later.serialOf sessionId = next.serialOf sessionId →
              later.PreparedAs options sessionId transferBytes info := by
  refine ⟨.of_reachable reachable, ?_⟩
  intro sessionId transferBytes allocation info next events later prepared path
    stays
  obtain ⟨started, positive, bounded, serial, entry, slot, buffer, holds⟩ :=
    prepareTransfer_eq_ok prepared
  have stepped : (machine iface options).step executor
      (.prepareTransfer sessionId transferBytes allocation) = some next := by
    change some (executor.prepareTransfer options sessionId transferBytes
      allocation).2 = some next
    rw [prepared]
  have reached := reachable.step trivial stepped
  have numbered : next.serialOf sessionId = some serial := by
    rw [serialOf, holds.found, Option.map_some, holds.serial]
  obtain ⟨after, final, held⟩ := holds.of_path reached path
    (stays.trans numbered)
  have running : later.started = true :=
    (started_of_path reached path).trans started
  exact held.preparedAs running positive bounded

private theorem opened_named : "ses" ≠ "" := by decide

/-- A started executor with one open session. -/
private def opened : UcxExecutor (CompositeBackend × Nat) :=
  (init true (.init 16, 0)).onSessionOpened
    ⟨"ses", "bucket", "key", 5000, opened_named⟩

/-- The answer for a buffer at the second page. -/
private def secondPage : UcxDiscoverInfo :=
  ⟨"gateway", 18520, 4 * 1024 * 1024 * 1024, 4096, [1]⟩

/-- The active message of the write comes between two preparations. -/
theorem slotsExclusive_and_preparedOnce_written :
    opened.SlotsExclusive (.default "gateway") ∧
      ∃ next later,
        opened.prepareTransfer (.default "gateway") "ses" 5000
            (.registered (fun _ => 0) 4096 [1]) = (.ok secondPage, next) ∧
          (machine overComposite (.default "gateway")).Path Machine.always next
            [.amWriteDone "ses"] later ∧
          later.PreparedAs (.default "gateway") "ses" 5000 secondPage := by
  have reachable : (machine overComposite (.default "gateway")).Reachable
      Machine.always opened :=
    ⟨init true (.init 16, 0), [.sessionOpened ⟨"ses", "bucket", "key", 5000,
      opened_named⟩], ⟨true, _, rfl⟩, .cons trivial rfl .nil⟩
  obtain ⟨exclusive, repeated⟩ := slotsExclusive_and_preparedOnce reachable
  have path : (machine overComposite (.default "gateway")).Path Machine.always
      (opened.prepareTransfer (.default "gateway") "ses" 5000
        (.registered (fun _ => 0) 4096 [1])).2 [.amWriteDone "ses"] _ :=
    .cons trivial rfl .nil
  exact ⟨exclusive, _, _, rfl, path,
    repeated "ses" 5000 (.registered (fun _ => 0) 4096 [1]) secondPage _ _ _
      rfl path (by decide)⟩

end UcxExecutor
end Ucx
end Gateway
end TurboAccess
