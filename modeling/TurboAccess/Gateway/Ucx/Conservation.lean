import TurboAccess.Gateway.Ucx.Ownership

/-!
# No buffer is lost

Opening a session again drops the entry it had, together with the buffer of that
entry.  As long as no session is opened while its entry has a buffer, every
registered buffer is idle or belongs to an entry of the registry.
-/

namespace TurboAccess
namespace Gateway
namespace Ucx
namespace UcxExecutor

variable {β : Type} {iface : IBackend β} {options : UcxOptions}

/-- A buffer is idle, or an entry of the registry has it. -/
def Kept (executor : UcxExecutor β) (slot : Nat) : Prop :=
  slot ∈ executor.pool ∨
    ∃ sessionId entry, executor.registry.lookup sessionId = some entry ∧
      entry.slot = some slot

/-- Every registered buffer is idle or has an owner. -/
def Conserved (executor : UcxExecutor β) : Prop :=
  ∀ slot buffer, executor.buffers.lookup slot = some buffer →
    executor.Kept slot

/-- An entry put in the place of one with the same buffer, or with none, leaves
no buffer behind. -/
theorem Kept.insert
    {executor : UcxExecutor β}
    {slot : Nat}
    (kept : executor.Kept slot)
    (key : String)
    (entry : UcxSessionEntry)
    (covers : ∀ old, executor.registry.lookup key = some old →
      old.slot = none ∨ entry.slot = old.slot) :
    slot ∈ executor.pool ∨
      ∃ sessionId other,
        (executor.registry.insert key entry).lookup sessionId = some other ∧
          other.slot = some slot := by
  rcases kept with idle | ⟨sessionId, old, found, held⟩
  · exact .inl idle
  refine .inr ?_
  by_cases same : sessionId = key
  · subst same
    rcases covers old found with vacant | covered
    · rw [held] at vacant
      cases vacant
    · exact ⟨sessionId, entry, Finmap.lookup_insert _, covered.trans held⟩
  · exact ⟨sessionId, old, by
      rw [Table.lookup_insert_eq, if_neg same, found], held⟩

/-- Erasing an entry leaves its own buffer behind, and no other. -/
theorem Kept.erase
    {executor : UcxExecutor β}
    {key : String}
    {entry : UcxSessionEntry}
    {slot : Nat}
    (kept : executor.Kept slot)
    (found : executor.registry.lookup key = some entry)
    (different : entry.slot ≠ some slot) :
    slot ∈ executor.pool ∨
      ∃ sessionId other,
        (executor.registry.erase key).lookup sessionId = some other ∧
          other.slot = some slot := by
  rcases kept with idle | ⟨sessionId, old, oldFound, held⟩
  · exact .inl idle
  refine .inr ⟨sessionId, old, ?_, held⟩
  have distinct : sessionId ≠ key := by
    rintro rfl
    cases found.symm.trans oldFound
    exact different held
  rw [Table.lookup_erase_eq, if_neg distinct, oldFound]

namespace Conserved

variable {executor : UcxExecutor β}

/-- Releasing an entry queues its buffer or frees it. -/
theorem without
    {key : String}
    {entry : UcxSessionEntry}
    (conserved : executor.Conserved)
    (found : executor.registry.lookup key = some entry) :
    (executor.without options key entry).Conserved := by
  rcases releaseEntry_cases options
      { executor with registry := executor.registry.erase key } entry with
    ⟨vacant, same⟩ | ⟨slot, held, kept | dropped⟩
  · rw [UcxExecutor.without, same]
    intro other buffer registered
    apply (conserved other buffer registered).erase found
    rw [vacant]
    intro impossible
    cases impossible
  · rw [UcxExecutor.without, kept]
    intro other buffer registered
    by_cases own : other = slot
    · rw [own]
      exact .inl (List.mem_append_right _ (List.mem_singleton_self slot))
    · have stays := (conserved other buffer registered).erase found (by
        rw [held]
        simpa using Ne.symm own)
      rcases stays with idle | owner
      · exact .inl (List.mem_append_left _ idle)
      · exact .inr owner
  · rw [UcxExecutor.without, dropped]
    intro other buffer registered
    rw [Table.lookup_erase_eq] at registered
    split at registered
    · cases registered
    · next own =>
        exact (conserved other buffer registered).erase found (by
          rw [held]
          simpa using Ne.symm own)

/-- Finishing a commit queues the buffer or frees it. -/
theorem finishCommit
    {entry : UcxSessionEntry}
    {slot : Nat}
    {buffer : RegisteredBuffer}
    {request : CommitRequest}
    (conserved : executor.Conserved)
    (found : executor.registry.lookup request.sessionId = some entry) :
    (executor.finishCommit iface options entry slot buffer
      request).Conserved := by
  have released :
      (executor.without options request.sessionId entry).Conserved :=
    conserved.without found
  rw [finishCommit_eq]
  exact released

/-- A preparation gives its entry the buffer it takes or registers. -/
theorem prepares
    {next : UcxExecutor β}
    {sessionId : String}
    {transferBytes : Nat}
    {result : Result UcxDiscoverInfo}
    (conserved : executor.Conserved)
    (outcome : Prepares options executor sessionId transferBytes result
      next) :
    next.Conserved := by
  cases outcome with
  | refused error => exact conserved
  | again entry slot info found held same => exact conserved
  | reused entry slot buffer info before after found vacant idle registered
      large =>
      intro other otherBuffer present
      by_cases own : other = slot
      · rw [own]
        exact .inr ⟨sessionId, _, Finmap.lookup_insert _, rfl⟩
      · have stays := (conserved other otherBuffer present).insert sessionId
          { entry with slot := some slot, transferBytes }
          (fun old oldFound => .inl (by
            cases found.symm.trans oldFound
            exact vacant))
        rcases stays with queued | owner
        · rw [idle] at queued
          refine .inl ?_
          simpa [attach, own] using queued
        · exact .inr owner
  | registered entry buffer info found vacant large =>
      intro other otherBuffer present
      by_cases own : other = executor.allocated
      · rw [own]
        exact .inr ⟨sessionId, _, Finmap.lookup_insert _, rfl⟩
      · simp only [attach, Table.lookup_insert_eq, if_neg own] at present
        exact (conserved other otherBuffer present).insert sessionId _
          (fun old oldFound => .inl (by
            cases found.symm.trans oldFound
            exact vacant))

/-- Events lose no buffer, unless they open a session whose entry has one. -/
theorem handles
    {next : UcxExecutor β}
    {event : Event}
    (conserved : executor.Conserved)
    (effect : Handles iface options executor event next)
    (vacant : ∀ session, event = .sessionOpened session →
      ∀ old, executor.registry.lookup session.sessionId = some old →
        old.slot = none) :
    next.Conserved := by
  cases effect with
  | opened session =>
      intro slot buffer registered
      apply (conserved slot buffer registered).insert _ _
      intro old found
      exact .inl (vacant session rfl old found)
  | prepared key transferBytes allocation result next outcome =>
      exact conserved.prepares outcome
  | landed slot data buffer registered fits =>
      intro other otherBuffer present
      simp only [Table.lookup_insert_eq] at present
      split at present
      · next same =>
          rw [same]
          exact conserved slot buffer registered
      · exact conserved other otherBuffer present
  | unheard key absent => exact conserved
  | marked key entry found alone =>
      intro slot buffer registered
      apply (conserved slot buffer registered).insert _ _
      intro old oldFound
      cases found.symm.trans oldFound
      exact .inr rfl
  | resumed entry slot buffer request found held registered waiting =>
      exact conserved.finishCommit found
  | refused event request result requested failed unprepared => exact conserved
  | waits event request entry slot requested found held unwritten =>
      intro other buffer registered
      apply (conserved other buffer registered).insert _ _
      intro old oldFound
      cases found.symm.trans oldFound
      exact .inr rfl
  | finished event request entry slot buffer requested found held registered
      written =>
      have numbered : executor.numbered.Conserved := conserved
      exact numbered.finishCommit found
  | unknown key absent => exact conserved
  | aborted key entry found => exact conserved.without found

end Conserved

end UcxExecutor
end Ucx
end Gateway
end TurboAccess
