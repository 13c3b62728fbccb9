import TurboAccess.Gateway.Session.Displacement
import TurboAccess.Gateway.Session.Interleaving

/-!
# Sessions found again under their key

A creation with a known key returns the session of the key as it is.  A session
stays under its key from its creation to the sweep that removes it, so that it
can have failed, completed or run out of time by then.  A session that a sweep
has expired is never found under a key.
-/

namespace TurboAccess
namespace Gateway
namespace SessionStore

variable {store next : SessionStore}

/-! ## The property and its condition -/

/-- A creation returns a session that can be used. -/
def RevivesNone
    (store : SessionStore)
    (req : OpenSessionParams)
    (draw : Draw) : Prop :=
  ∀ ptr, (store.create req draw).1 = .ok ptr →
    ((store.create req draw).2.objects ptr).Live ∧
      draw.now < ((store.create req draw).2.objects ptr).expireDeadline

/-- A sweep would not remove the session under the key of a request; when there
is none, sessions are created for some time. -/
def KeyFresh
    (store : SessionStore)
    (req : OpenSessionParams)
    (draw : Draw) : Prop :=
  match store.lookupKey req with
  | none => 0 < store.sessionTtl
  | some (.error _) => True
  | some (.ok ptr) => ¬(store.objects ptr).Dead draw.now

instance
    (store : SessionStore)
    (req : OpenSessionParams)
    (draw : Draw) : Decidable (store.KeyFresh req draw) :=
  match known : store.lookupKey req with
  | none => decidable_of_iff (0 < store.sessionTtl) (by simp [KeyFresh, known])
  | some (.error _) => .isTrue (by simp [KeyFresh, known])
  | some (.ok ptr) =>
      decidable_of_iff (¬(store.objects ptr).Dead draw.now)
        (by simp [KeyFresh, known])

/-! ## Expired sessions -/

/-- No session found under a key was expired by a sweep. -/
def KeysUnexpired (store : SessionStore) : Prop :=
  ∀ key ptr, store.byIdempotency.lookup key = some ptr →
    (store.objects ptr).state ≠ .expired

/-- An exchange expires no session, unless it is asked to. -/
theorem expired_of_compareExchange
    {ptr other : SessionPtr}
    {expected desired : SessionState}
    (unasked : desired ≠ .expired)
    (expired : ((store.compareExchange ptr expected desired).2.objects
      other).state = .expired) :
    (store.objects other).state = .expired := by
  rw [compareExchange] at expired
  split at expired
  · rw [state_setState] at expired
    split at expired
    · exact absurd expired unasked
    · exact expired
  · exact expired

theorem expired_of_transition
    {sessionId : String}
    {expected desired : SessionState}
    {failureCode : ErrorCode}
    {ptr : SessionPtr}
    (unasked : desired ≠ .expired)
    (expired : ((store.transition sessionId expected desired
      failureCode).2.objects ptr).state = .expired) :
    (store.objects ptr).state = .expired := by
  rw [transition] at expired
  split at expired
  · exact expired
  · next found _ =>
      apply @expired_of_compareExchange store found ptr expected desired
        unasked
      split at expired <;>
      · next moved =>
          rw [moved]
          exact expired

theorem expired_of_mark
    {state : SessionState}
    {sessionId : String}
    {ptr : SessionPtr}
    (unasked : state ≠ .expired)
    (expired : ((mark state store sessionId).2.objects ptr).state =
      .expired) :
    (store.objects ptr).state = .expired := by
  rw [mark] at expired
  split at expired
  · exact expired
  · rw [state_setState] at expired
    split at expired
    · exact absurd expired unasked
    · exact expired

/-- Only a sweep expires a session. -/
theorem expired_of_execute
    {operation : Operation}
    {ptr : SessionPtr}
    (executed : store.execute operation = some next)
    (unswept : ∀ now order, operation ≠ .sweepExpired now order)
    (expired : (next.objects ptr).state = .expired) :
    (store.objects ptr).state = .expired := by
  cases operation with
  | create req draw =>
      cases executed
      rw [create] at expired
      split at expired
      · exact expired
      · have same : (store.withSession req draw).objects ptr =
            Function.update store.objects store.allocated
              (store.newSession req draw) ptr := by
          rw [withSession_objects]
        change ((store.withSession req draw).objects ptr).state = _ at expired
        rw [same] at expired
        by_cases own : ptr = store.allocated
        · subst own
          rw [Function.update_self] at expired
          cases expired
        · rwa [Function.update_of_ne own] at expired
  | find | findByTicket =>
      cases executed
      exact expired
  | claim ticket =>
      cases executed
      rw [claim] at expired
      split at expired
      · exact expired
      · next found _ =>
          apply @expired_of_compareExchange store found ptr .opened .claimed
            (by decide)
          split at expired <;>
          · next moved =>
              rw [moved]
              exact expired
  | markActive sessionId =>
      cases executed
      exact expired_of_transition (by decide) expired
  | bumpActive sessionId =>
      cases executed
      rw [bumpActive] at expired
      split at expired
      · exact expired
      · exact expired_of_compareExchange (by decide) expired
  | markCompleted sessionId =>
      cases executed
      exact expired_of_mark (by decide) expired
  | markFailed sessionId =>
      cases executed
      exact expired_of_mark (by decide) expired
  | sweepExpired now order => exact absurd rfl (unswept now order)

/-- A sweep takes the sessions that it expires out of the index by key. -/
theorem KeysUnexpired.swept
    {now : Nat}
    (unexpired : store.KeysUnexpired)
    (named : store.Named)
    (swept : Swept now store next) :
    next.KeysUnexpired := by
  intro key ptr found
  obtain ⟨was, unnamed⟩ := (swept.byIdempotency key ptr).mp found
  obtain ⟨_, owns, nonempty⟩ := named.byIdempotency key ptr was
  by_cases registered : store.Registered ptr
  · have alive : ¬(store.objects ptr).Dead now :=
      fun dead => unnamed nonempty ptr registered dead owns
    rw [swept.visited ptr registered, Session.expireIfDue_of_not_dead alive]
    exact unexpired key ptr was
  · rw [swept.unvisited ptr registered]
    exact unexpired key ptr was

theorem KeysUnexpired.of_execute
    {operation : Operation}
    (unexpired : store.KeysUnexpired)
    (named : store.Named)
    (executed : store.execute operation = some next) :
    next.KeysUnexpired := by
  by_cases sweeps : ∃ now order, operation = .sweepExpired now order
  · obtain ⟨now, order, rfl⟩ := sweeps
    simp only [execute, Option.ite_none_right_eq_some] at executed
    obtain ⟨enumerates, same⟩ := executed
    cases same
    exact unexpired.swept named (swept_sweepExpired now enumerates)
  · push Not at sweeps
    intro key ptr found expired
    have was := expired_of_execute executed sweeps expired
    cases executes_of_execute executed with
    | states _ _ only _ =>
        rw [only.byIdempotency] at found
        exact unexpired key ptr found was
    | created req draw missed =>
        rw [withSession_byIdempotency] at found
        split at found
        · cases found
          rw [withSession_objects_self] at expired
          cases expired
        · exact unexpired key ptr found was
    | swept now order _ _ => exact sweeps now order rfl

theorem KeysUnexpired.of_reachable
    {guard : SessionStore → Operation → Prop}
    (reachable : machine.Reachable guard store) :
    store.KeysUnexpired := by
  refine reachable.induction ?_ ?_
  · rintro start ⟨gatewayId, sessionTtl, rfl⟩ key ptr found
    simp [init] at found
  · intro state operation next reached unexpired _ executed
    exact unexpired.of_execute (Named.of_reachable reached) executed

/-! ## The theorem -/

/-- A session that was not expired can be used exactly when a sweep would leave
it. -/
theorem usable_iff_not_dead
    {session : Session}
    {now : Nat}
    (unexpired : session.state ≠ .expired) :
    session.Live ∧ now < session.expireDeadline ↔ ¬session.Dead now := by
  rw [Session.Live, Session.Dead, Session.Terminal, ← Nat.not_le]
  tauto

/-- Whatever operations came before, a creation returns a session that can be
used exactly when a sweep would leave the session under its key. -/
theorem revivesNone_iff
    (reachable : machine.Reachable Machine.always store)
    (req : OpenSessionParams)
    (draw : Draw) :
    store.RevivesNone req draw ↔ store.KeyFresh req draw := by
  have unexpired := KeysUnexpired.of_reachable reachable
  unfold RevivesNone KeyFresh
  rcases known : store.lookupKey req with _ | ⟨error | found⟩
  · have created : store.create req draw =
        (.ok store.allocated, store.withSession req draw) := by
      rw [create, known]
      rfl
    simp only [created, Except.ok.injEq, forall_eq', withSession_objects_self]
    constructor
    · rintro ⟨_, later⟩
      exact Nat.pos_of_lt_add_right later
    · intro lasting
      exact ⟨⟨by simp [newSession], by simp [newSession],
        by simp [newSession]⟩, Nat.lt_add_of_pos_right lasting⟩
  · simp [create, known]
  · have created : store.create req draw = (.ok found, store) := by
      rw [create, known]
    simp only [created, Except.ok.injEq, forall_eq']
    exact usable_iff_not_dead (unexpired _ found (lookupKey_eq_ok known))

/-- A request of a client that names its attempt. -/
private def keyedRequest : OpenSessionParams :=
  ⟨"ses", "", "bucket", "object", .put, .gpuDirect, "", 0, 1, "attempt", false⟩

private def keyedDraw (now : Nat) : Draw := ⟨(0, 0), (0, 0), (0, 1), "", now⟩

/-- One session of ten ticks under a key. -/
private def keyedSession : SessionStore :=
  ((init "gateway" 10).create keyedRequest (keyedDraw 0)).2

private theorem reachable_keyedSession :
    machine.Reachable Machine.always keyedSession :=
  ⟨init "gateway" 10, [.create keyedRequest (keyedDraw 0)],
    ⟨"gateway", 10, rfl⟩, .cons trivial rfl .nil⟩

/-- The session is good for its ten ticks. -/
theorem revivesNone_iff_keyedSession :
    keyedSession.RevivesNone keyedRequest (keyedDraw 9) ↔
      keyedSession.KeyFresh keyedRequest (keyedDraw 9) :=
  revivesNone_iff reachable_keyedSession _ _

/-- After the session was marked as failed, its key still leads to it. -/
theorem create_revives_failed :
    ¬∀ store, machine.Reachable Machine.always store → ∀ req draw,
      req.idempotencyKey ≠ "" → store.RevivesNone req draw := by
  intro none
  have failed : machine.step keyedSession (.markFailed "ses") =
      some (keyedSession.markFailed "ses").2 := rfl
  have usable := none _ (reachable_keyedSession.step trivial failed)
    keyedRequest (keyedDraw 1) (by decide) 0 rfl
  exact usable.1.2.1 rfl

end SessionStore
end Gateway
end TurboAccess
