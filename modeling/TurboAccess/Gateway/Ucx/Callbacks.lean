import TurboAccess.Gateway.Ucx.Ownership

/-!
# Following one callback

Every commit request has a callback of its own.  What is known of the backend
calls made for a callback, and of the commit that waits with it, is kept by all
later events, because every later request has a later callback.
-/

namespace TurboAccess
namespace Gateway
namespace Ucx
namespace UcxExecutor

variable {β : Type} {iface : IBackend β} {options : UcxOptions}

/-- Every write made for a callback so far, and every commit waiting with it,
is of a given kind. -/
structure Traced
    (onDone : Nat)
    (good : CommitRequest → Nat → Prop)
    (executor : UcxExecutor β) : Prop where
  numbered : onDone < executor.requests
  written : ∀ write ∈ executor.writes, write.request.onDone = onDone →
    good write.request write.slot ∧
      write.call.source.length = write.request.bytesTransferred
  waiting : ∀ sessionId entry request slot,
    executor.registry.lookup sessionId = some entry →
      entry.pendingCommit = some request → entry.slot = some slot →
        request.onDone = onDone → good request slot

/-- A commit that waits after an event waited before, with the same buffer, or
is the event's own request. -/
theorem Handles.pending_origin
    {executor next : UcxExecutor β}
    {event : Event}
    {sessionId : String}
    {entry : UcxSessionEntry}
    {request : CommitRequest}
    {slot : Nat}
    (effect : Handles iface options executor event next)
    (owned : executor.Owned)
    (found : next.registry.lookup sessionId = some entry)
    (waits : entry.pendingCommit = some request)
    (held : entry.slot = some slot) :
    (∃ before, executor.registry.lookup sessionId = some before ∧
        before.pendingCommit = some request ∧ before.slot = some slot) ∨
      event.request executor.requests = some request ∧
        ∃ before, executor.registry.lookup request.sessionId = some before ∧
          before.slot = some slot := by
  have change := effect.entryChange sessionId
  generalize was : executor.registry.lookup sessionId = old at change
  rw [found] at change
  cases change with
  | same => exact .inl ⟨entry, rfl, waits, held⟩
  | opened _ session opening named => cases waits
  | attached before given transferBytes allocation preparing vacant =>
      obtain ⟨_, _, _, _, heldBefore⟩ := owned.waiting _ _ _ was waits
      rw [vacant] at heldBefore
      cases heldBefore
  | marked before notified alone => cases waits
  | waits before asked given requested named heldBefore =>
      cases waits
      exact .inr ⟨requested, before, named ▸ was, held⟩

/-- Events keep what is known about one callback. -/
theorem Traced.handles
    {executor next : UcxExecutor β}
    {event : Event}
    {onDone : Nat}
    {good : CommitRequest → Nat → Prop}
    (traced : Traced onDone good executor)
    (owned : executor.Owned)
    (effect : Handles iface options executor event next) :
    Traced onDone good next := by
  have later := effect.requests_le
  have older := traced.numbered
  -- the callback of a new request has not been seen yet
  have unseen : ∀ request, event.request executor.requests = some request →
      request.onDone ≠ onDone := by
    intro request requested
    have number := onDone_of_request requested
    omega
  refine ⟨by omega, ?_, ?_⟩
  · intro write member sameCallback
    rcases effect.writes with unchanged | ⟨entry, slot, buffer, request, found,
        held, registered, appended, cause⟩
    · rw [unchanged] at member
      exact traced.written write member sameCallback
    · rw [appended, List.mem_append, List.mem_singleton] at member
      rcases member with old | rfl
      · exact traced.written write old sameCallback
      · refine ⟨?_, length_source_backendCall entry buffer request⟩
        rcases cause with ⟨_, waiting⟩ | ⟨requested, _⟩
        · exact traced.waiting _ _ _ _ found waiting held sameCallback
        · exact absurd sameCallback (unseen request requested)
  · intro sessionId entry request slot found waits held sameCallback
    rcases effect.pending_origin owned found waits held with
      ⟨before, was, waited, heldBefore⟩ | ⟨requested, _⟩
    · exact traced.waiting sessionId before request slot was waited heldBefore
        sameCallback
    · exact absurd sameCallback (unseen request requested)

/-- What is known about one callback holds in every continuation. -/
theorem Traced.path
    {executor later : UcxExecutor β}
    {labels : List Event}
    {onDone : Nat}
    {good : CommitRequest → Nat → Prop}
    (traced : Traced onDone good executor)
    (reachable : (machine iface options).Reachable Machine.always executor)
    (path : (machine iface options).Path Machine.always executor labels
      later) :
    Traced onDone good later := by
  let both : UcxExecutor β → Prop := fun state =>
    (machine iface options).Reachable Machine.always state ∧
      Traced onDone good state
  have holds : both later := by
    refine path.preserves ?_ ⟨reachable, traced⟩
    rintro state event next ⟨reached, known⟩ allowed handled
    exact ⟨reached.step allowed handled,
      known.handles (Owned.of_reachable reached)
        (handles_of_reachable reached handled)⟩
  exact holds.2

/-- Every write made so far has a numbered callback. -/
def Counted (executor : UcxExecutor β) : Prop :=
  ∀ write ∈ executor.writes, write.request.onDone < executor.requests

/-- Events number the callbacks of their writes. -/
theorem Counted.handles
    {executor next : UcxExecutor β}
    {event : Event}
    (counted : executor.Counted)
    (owned : executor.Owned)
    (effect : Handles iface options executor event next) :
    next.Counted := by
  have later := effect.requests_le
  intro write member
  rcases effect.writes with unchanged | ⟨entry, slot, buffer, request, found,
      held, registered, appended, cause⟩
  · rw [unchanged] at member
    exact lt_of_lt_of_le (counted write member) later
  · rw [appended, List.mem_append, List.mem_singleton] at member
    rcases member with old | rfl
    · exact lt_of_lt_of_le (counted write old) later
    · rcases cause with ⟨_, waiting⟩ | ⟨requested, _⟩
      · exact lt_of_lt_of_le (owned.waiting _ _ _ found waiting).2.1 later
      · have number := onDone_of_request requested
        have counts := effect.requests_of_request requested
        change request.onDone < next.requests
        omega

theorem Counted.of_reachable
    {executor : UcxExecutor β}
    (reachable : (machine iface options).Reachable Machine.always executor) :
    executor.Counted := by
  refine reachable.induction ?_ ?_
  · rintro start ⟨started, backend, rfl⟩ write member
    cases member
  · intro state event next reached counted _ handled
    exact counted.handles (Owned.of_reachable reached)
      (handles_of_reachable reached handled)

/-- A request that has just been handled is traced to its session's buffer. -/
theorem Traced.of_request
    {executor next : UcxExecutor β}
    {event : Event}
    {request : CommitRequest}
    (owned : executor.Owned)
    (counted : executor.Counted)
    (requested : event.request executor.requests = some request)
    (effect : Handles iface options executor event next) :
    Traced request.onDone
      (fun other slot => other = request ∧
        ∃ entry, executor.registry.lookup request.sessionId = some entry ∧
          entry.slot = some slot)
      next := by
  have number := onDone_of_request requested
  refine ⟨?_, ?_, ?_⟩
  · rw [number, effect.requests_of_request requested]
    exact Nat.lt_succ_self _
  · intro write member sameCallback
    rcases effect.writes with unchanged | ⟨entry, slot, buffer, other, found,
        held, registered, appended, cause⟩
    · rw [unchanged] at member
      have older := counted write member
      omega
    · rw [appended, List.mem_append, List.mem_singleton] at member
      rcases member with old | rfl
      · have older := counted write old
        omega
      · rcases cause with ⟨rfl, _⟩ | ⟨again, _⟩
        · cases requested
        · cases again.symm.trans requested
          exact ⟨⟨rfl, entry, found, held⟩,
            length_source_backendCall entry buffer request⟩
  · intro sessionId entry other slot found waits held sameCallback
    rcases effect.pending_origin owned found waits held with
      ⟨before, was, waited, _⟩ | ⟨again, before, was, heldBefore⟩
    · have older := (owned.waiting sessionId before other was waited).2.1
      omega
    · cases again.symm.trans requested
      exact ⟨rfl, before, was, heldBefore⟩

/-- A weaker description of one callback. -/
theorem Traced.mono
    {executor : UcxExecutor β}
    {onDone : Nat}
    {good weaker : CommitRequest → Nat → Prop}
    (traced : Traced onDone good executor)
    (weaken : ∀ request slot, good request slot → weaker request slot) :
    Traced onDone weaker executor where
  numbered := traced.numbered
  written := by
    intro write member same
    obtain ⟨known, length⟩ := traced.written write member same
    exact ⟨weaken _ _ known, length⟩
  waiting := by
    intro sessionId entry request slot found waits held same
    exact weaken _ _
      (traced.waiting sessionId entry request slot found waits held same)

end UcxExecutor
end Ucx
end Gateway
end TurboAccess
