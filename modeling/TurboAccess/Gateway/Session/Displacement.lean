import TurboAccess.Gateway.Session.Coherence

/-!
# Sessions that take the place of others

The identifier of a session may come from the client, and the index by
identifier is written without looking.  A new session under an identifier in
use takes the place of the registered one, which a sweep then never visits
again, while its ticket and its key still lead to it.  A creation keeps every
registered session exactly when it takes no identifier in use, and in the runs
in which every creation does, nothing leads to a session that has run out of
time when it is swept.
-/

namespace TurboAccess
namespace Gateway
namespace SessionStore

variable {store next : SessionStore}

/-! ## The properties -/

/-- Every session found under its own identifier is found there afterwards. -/
def StillFound (store next : SessionStore) : Prop :=
  ∀ ptr, store.find (store.objects ptr).sessionId = .ok ptr →
    next.find (next.objects ptr).sessionId = .ok ptr

/-- A session that one of the indexes leads to: by identifier, by ticket, or
through a creation under its key. -/
def LeadsTo (store : SessionStore) (ptr : SessionPtr) : Prop :=
  ptr < store.allocated ∧
    ((∃ sessionId, store.find sessionId = .ok ptr) ∨
      (∃ ticket, store.findByTicket ticket = .ok ptr) ∨
      ∃ req draw, req.idempotencyKey ≠ "" ∧
        (store.create req draw).1 = .ok ptr)

/-- Nothing leads to a session that has run out of time. -/
def NoneOverdue (store : SessionStore) (now : Nat) : Prop :=
  ∀ ptr, store.LeadsTo ptr → now < (store.objects ptr).expireDeadline

/-! ## Lookups -/

theorem find_eq_ok {sessionId : String} {ptr : SessionPtr} :
    store.find sessionId = .ok ptr ↔
      store.byId.lookup sessionId = some ptr := by
  rw [find]
  cases store.byId.lookup sessionId <;> simp

theorem findByTicket_eq_ok {ticket : String} {ptr : SessionPtr} :
    store.findByTicket ticket = .ok ptr ↔
      store.byTicket.lookup ticket = some ptr := by
  rw [findByTicket]
  cases store.byTicket.lookup ticket <;> simp

/-- A key that is answered with a session leads to it. -/
theorem lookupKey_eq_ok
    {req : OpenSessionParams}
    {ptr : SessionPtr}
    (known : store.lookupKey req = some (.ok ptr)) :
    store.byIdempotency.lookup req.idempotencyKey = some ptr := by
  rw [lookupKey] at known
  split at known
  · cases known
  · obtain ⟨found, present, same⟩ := Option.map_eq_some_iff.mp known
    dsimp only at same
    split at same
    · cases same
    · cases same
      exact present

/-- A creation returns the session of its key, or a new one. -/
theorem create_eq_ok
    {req : OpenSessionParams}
    {draw : Draw}
    {ptr : SessionPtr}
    (created : (store.create req draw).1 = .ok ptr) :
    store.byIdempotency.lookup req.idempotencyKey = some ptr ∨
      ptr = store.allocated := by
  rw [create] at created
  split at created
  · next answer known =>
      dsimp only at created
      subst created
      exact .inl (lookupKey_eq_ok known)
  · cases created
    exact .inr rfl

/-! ## The theorem -/

/-- A creation under an identifier in use loses a session, and no other does. -/
theorem stillFound_create_iff
    (named : store.Named)
    (req : OpenSessionParams)
    (draw : Draw) :
    store.StillFound (store.create req draw).2 ↔
      store.Undisplacing (.create req draw) := by
  cases known : store.lookupKey req with
  | some answer =>
      have same : (store.create req draw).2 = store := by
        rw [create, known]
      rw [same]
      constructor
      · intro _ missed
        rw [known] at missed
        cases missed
      · intro _ ptr found
        exact found
  | none =>
      have same : (store.create req draw).2 = store.withSession req draw := by
        rw [create, known]
        rfl
      rw [same]
      constructor
      · intro stillFound _
        cases found : store.byId.lookup
            (store.newSession req draw).sessionId with
        | none => rfl
        | some ptr =>
            obtain ⟨older, owns⟩ := named.byId _ _ found
            have still := stillFound ptr (by rw [find_eq_ok, owns, found])
            rw [find_eq_ok, withSession_objects_of_lt older, owns,
              withSession_byId, if_pos rfl] at still
            cases still
            exact absurd older (Nat.lt_irrefl _)
      · intro undisplacing ptr found
        rw [find_eq_ok] at found ⊢
        have older := (named.byId _ _ found).1
        have different : (store.objects ptr).sessionId ≠
            (store.newSession req draw).sessionId := by
          intro own
          rw [own, undisplacing known] at found
          cases found
        rw [withSession_objects_of_lt older, withSession_byId,
          if_neg different, found]

/-- Where no session was ever displaced, tickets and keys lead to registered
sessions. -/
theorem Anchored.of_reachable
    (reachable : machine.Reachable Undisplacing store) :
    store.Anchored := by
  refine reachable.induction ?_ ?_
  · rintro start ⟨gatewayId, sessionTtl, rfl⟩
    constructor <;> simp [init]
  · intro state operation next reached anchored undisplacing executed
    exact anchored.executes (Named.of_reachable reached) undisplacing
      (executes_of_execute executed)

/-- What leads to a session of an anchored store leads to a registered one. -/
theorem Anchored.registered_of_leadsTo
    {ptr : SessionPtr}
    (anchored : store.Anchored)
    (leads : store.LeadsTo ptr) :
    store.Registered ptr := by
  obtain ⟨older, ⟨sessionId, found⟩ | ⟨ticket, found⟩ |
    ⟨req, draw, _, created⟩⟩ := leads
  · exact ⟨sessionId, find_eq_ok.mp found⟩
  · exact anchored.byTicket ticket ptr (findByTicket_eq_ok.mp found)
  · rcases create_eq_ok created with found | rfl
    · exact anchored.byIdempotency _ ptr found
    · exact absurd older (Nat.lt_irrefl _)

/-- From every state a creation keeps all registered sessions exactly when it
takes no identifier in use; and in the runs in which every creation does so,
nothing leads to a session that has run out of time when it is swept. -/
theorem stillFound_iff_and_noneOverdue (store : SessionStore) :
    (machine.Reachable Machine.always store → ∀ req draw,
        (store.StillFound (store.create req draw).2 ↔
          store.Undisplacing (.create req draw))) ∧
      (machine.Reachable Undisplacing store → ∀ now order,
        store.Enumerates order →
          (store.sweepExpired now order).2.NoneOverdue now) := by
  constructor
  · intro reachable req draw
    exact stillFound_create_iff (Named.of_reachable reachable) req draw
  · intro reachable now order enumerates ptr leads
    have swept := swept_sweepExpired now enumerates
    have undisplacing : store.Undisplacing (.sweepExpired now order) := trivial
    have executed : machine.step store (.sweepExpired now order) =
        some (store.sweepExpired now order).2 := if_pos enumerates
    have anchored := Anchored.of_reachable
      (reachable.step undisplacing executed)
    have stays := anchored.registered_of_leadsTo leads
    have alive := ((swept.registered_iff ptr).mp stays).2
    rw [(swept.sameButState ptr).expireDeadline]
    exact not_le.mp fun due => alive (.inl due)

/-- A request for a session under an identifier of the client's own. -/
private def request (sessionId : String) : OpenSessionParams :=
  ⟨sessionId, "", "bucket", "object", .put, .gpuDirect, "", 0, 1, "", false⟩

private def drawn (number : UInt64) : Draw :=
  ⟨(0, 0), (0, 0), (0, number), "", 0⟩

/-- One session of ten ticks. -/
private def oneSession : SessionStore :=
  ((init "gateway" 10).create (request "ses") (drawn 1)).2

private theorem reachable_oneSession
    {guard : SessionStore → Operation → Prop}
    (allowed : guard (init "gateway" 10) (.create (request "ses") (drawn 1))) :
    machine.Reachable guard oneSession :=
  ⟨init "gateway" 10, [.create (request "ses") (drawn 1)],
    ⟨"gateway", 10, rfl⟩, .cons allowed rfl .nil⟩

/-- The session is found after a creation under another identifier, and by
nobody after a sweep. -/
theorem stillFound_iff_and_noneOverdue_oneSession :
    oneSession.StillFound (oneSession.create (request "other") (drawn 2)).2 ∧
      (oneSession.sweepExpired 20 ["ses"]).2.NoneOverdue 20 :=
  ⟨((stillFound_iff_and_noneOverdue oneSession).1
      (reachable_oneSession trivial) (request "other") (drawn 2)).mpr
        (by decide),
    (stillFound_iff_and_noneOverdue oneSession).2
      (reachable_oneSession (by decide)) 20 ["ses"] (by decide)⟩

/-- Another session under the same identifier: the first is no longer found
under it, and after it has run out of time and was not swept its ticket still
leads to it. -/
theorem session_displaced :
    (¬∀ store, machine.Reachable Machine.always store → ∀ req draw,
        store.StillFound (store.create req draw).2) ∧
      ¬∀ store, machine.Reachable Machine.always store → ∀ now order,
        store.Enumerates order →
          (store.sweepExpired now order).2.NoneOverdue now := by
  have reachable : machine.Reachable Machine.always oneSession :=
    reachable_oneSession trivial
  constructor
  · intro always
    have still := always oneSession reachable (request "ses") (drawn 2) 0 rfl
    cases still
  · intro always
    have executed : machine.step oneSession
        (.create (request "ses") (drawn 2)) =
      some (oneSession.create (request "ses") (drawn 2)).2 := rfl
    have overdue := always _ (reachable.step trivial executed) 20 ["ses"]
      (by decide) 0 ⟨by decide, .inr (.inl
        ⟨makeRandomId "ticket-" (0, 1), by decide⟩)⟩
    revert overdue
    decide

end SessionStore
end Gateway
end TurboAccess
