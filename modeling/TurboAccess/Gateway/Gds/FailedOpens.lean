import TurboAccess.Gateway.Gds.DeadSessions

/-!
# Failed openings of sessions

Opening a session creates it, or finds it under its key, then selects the
executor of its data path, and runs the hook of the executor.  Each of the three
can fail.  The clean-up after a failed hook marks the session as failed, whether
the call has created it or found it; after a missing executor there is no
clean-up.
-/

namespace TurboAccess
namespace Gateway
namespace Gds

/-! ## Opening a session -/

/-- Open a session: create it or find it under its key, and run the hook of its
data path. -/
def openSession
    (plane : ControlPlane)
    (req : OpenSessionParams)
    (draw : Draw)
    (executors : Executors)
    (now : Nat) : Result SessionPtr × ControlPlane :=
  match plane.sessions.create req draw with
  | (.error error, sessions) => (.error error, { plane with sessions })
  | (.ok ptr, sessions) => openHook { plane with sessions } ptr executors now

/-- There is an executor for a data path. -/
def Executors.has (executors : Executors) : DataFlow → Bool
  | .gpuDirect => executors.gds.isSome
  | .cpuDirect => executors.ucx
  | .none => false

/-! ## The property and its condition -/

/-- A session is in none of the three indexes. -/
structure Unindexed (sessions : SessionStore) (ptr : SessionPtr) : Prop where
  byId : ¬sessions.Registered ptr
  byTicket : ¬sessions.Ticketed ptr
  byIdempotency : ¬sessions.Keyed ptr

/-- A call leaves the sessions that were there in their states, and those it has
registered as failed, so that the next sweep removes them. -/
structure NoDebris (before after : SessionStore) : Prop where
  kept : ∀ ptr < before.allocated,
    (after.objects ptr).state = (before.objects ptr).state
  failed : ∀ ptr, before.allocated ≤ ptr → ptr < after.allocated →
    (after.objects ptr).state = .failed
  removed : ∀ ptr, before.allocated ≤ ptr → ptr < after.allocated →
    ∀ now order, after.Enumerates order →
      Unindexed (after.sweepExpired now order).2 ptr

/-- What a request finds that fails cleanly: a key of something else; a session
under its key, when there is no executor for it, or nothing but a failed session
is registered under its identifier; or no session, when there is an executor. -/
def FailsCleanly
    (sessions : SessionStore)
    (req : OpenSessionParams)
    (executors : Executors) : Prop :=
  match sessions.lookupKey req with
  | some (.error _) => True
  | some (.ok ptr) =>
      executors.has (sessions.objects ptr).dataFlow = false ∨
        ∀ other,
          sessions.byId.lookup (sessions.objects ptr).sessionId = some other →
            (sessions.objects other).state = .failed
  | none => executors.has req.dataFlow = true

/-! ## What a failed hook leaves -/

/-- A failed end of an opening marks the session when there is an executor. -/
theorem sessions_openHook_of_error
    {plane : ControlPlane}
    {ptr : SessionPtr}
    {executors : Executors}
    {now : Nat}
    {error : Error}
    (failed : (openHook plane ptr executors now).1 = .error error) :
    (openHook plane ptr executors now).2.sessions =
      if executors.has (plane.sessions.objects ptr).dataFlow then
        (plane.sessions.markFailed (plane.sessions.objects ptr).sessionId).2
      else plane.sessions := by
  revert failed
  unfold openHook Executors.has
  dsimp only
  cases (plane.sessions.objects ptr).dataFlow with
  | none =>
      intro _
      rfl
  | cpuDirect =>
      cases executors.ucx with
      | false =>
          intro _
          rfl
      | true =>
          intro failed
          cases failed
  | gpuDirect =>
      cases executors.gds with
      | none =>
          intro _
          rfl
      | some available =>
          dsimp only
          rcases onSessionOpened plane.backend (plane.sessions.objects ptr)
              available now with ⟨refused | opened, backend⟩
          · intro _
            rfl
          · intro failed
            cases failed

section Sessions

variable {sessions : SessionStore}

theorem noDebris_self (sessions : SessionStore) :
    NoDebris sessions sessions where
  kept := fun _ _ => rfl
  failed := by
    intro ptr new exists_
    omega
  removed := by
    intro ptr new exists_
    omega

/-- Marking a session under an identifier leaves no debris exactly when it was
marked before. -/
theorem noDebris_markFailed_iff
    (named : sessions.Named)
    (sessionId : String) :
    NoDebris sessions (sessions.markFailed sessionId).2 ↔
      ∀ other, sessions.byId.lookup sessionId = some other →
        (sessions.objects other).state = .failed := by
  rw [SessionStore.markFailed, SessionStore.mark, SessionStore.find]
  cases found : sessions.byId.lookup sessionId with
  | none =>
      refine iff_of_true (noDebris_self sessions) ?_
      intro other present
      cases present
  | some ptr =>
      simp only [Option.some.injEq, forall_eq']
      constructor
      · intro clean
        have kept := clean.kept ptr (named.byId sessionId ptr found).1
        rw [SessionStore.state_setState, if_pos rfl] at kept
        exact kept.symm
      · intro failed
        have allocated : (sessions.setState ptr .failed).allocated =
            sessions.allocated := rfl
        refine ⟨?_, ?_, ?_⟩
        · intro other _
          rw [SessionStore.state_setState]
          split
          · next same => rw [same, failed]
          · rfl
        · intro other new exists_
          omega
        · intro other new exists_
          omega

/-- A session that is registered as failed is gone after a sweep. -/
theorem unindexed_of_failed
    {ptr : SessionPtr}
    {now : Nat}
    {order : List String}
    (named : sessions.Named)
    (registered : sessions.Registered ptr)
    (failed : (sessions.objects ptr).state = .failed)
    (enumerates : sessions.Enumerates order) :
    Unindexed (sessions.sweepExpired now order).2 ptr := by
  have swept := SessionStore.swept_sweepExpired now enumerates
  have dead : (sessions.objects ptr).Dead now := .inr (.inl failed)
  constructor
  · intro still
    exact ((swept.registered_iff ptr).mp still).2 dead
  · rintro ⟨ticket, still⟩
    obtain ⟨was, unnamed⟩ := (swept.byTicket ticket ptr).mp still
    exact unnamed ptr registered dead (named.byTicket ticket ptr was).2
  · rintro ⟨key, still⟩
    obtain ⟨was, unnamed⟩ := (swept.byIdempotency key ptr).mp still
    obtain ⟨_, owns, nonempty⟩ := named.byIdempotency key ptr was
    exact unnamed nonempty ptr registered dead owns

section New

variable {req : OpenSessionParams} {draw : Draw}

/-- A session left open is debris. -/
theorem not_noDebris_withSession :
    ¬NoDebris sessions (sessions.withSession req draw) := by
  intro clean
  have failed := clean.failed sessions.allocated le_rfl
    (by rw [SessionStore.withSession_allocated]; exact Nat.lt_succ_self _)
  rw [SessionStore.withSession_objects_self] at failed
  cases failed

/-- A new session that is marked as failed is none. -/
theorem noDebris_new
    (named : sessions.Named)
    (missed : sessions.lookupKey req = none) :
    NoDebris sessions ((sessions.withSession req draw).markFailed
      (sessions.newSession req draw).sessionId).2 := by
  have found : (sessions.withSession req draw).byId.lookup
      (sessions.newSession req draw).sessionId = some sessions.allocated := by
    rw [SessionStore.withSession_byId, if_pos rfl]
  have marked : ((sessions.withSession req draw).markFailed
        (sessions.newSession req draw).sessionId).2 =
      (sessions.withSession req draw).setState sessions.allocated .failed := by
    rw [SessionStore.markFailed, SessionStore.mark, SessionStore.find, found]
  have only := (sessions.withSession req draw).onlyStates_setState
    sessions.allocated .failed
  have namedAfter : ((sessions.withSession req draw).setState
      sessions.allocated .failed).Named :=
    (named.executes (.created req draw missed)).onlyStates only
  have own : ∀ ptr, sessions.allocated ≤ ptr →
      ptr < ((sessions.withSession req draw).setState sessions.allocated
        .failed).allocated → ptr = sessions.allocated := by
    intro ptr new exists_
    rw [only.allocated, SessionStore.withSession_allocated] at exists_
    omega
  rw [marked]
  refine ⟨?_, ?_, ?_⟩
  · intro ptr older
    rw [SessionStore.state_setState, if_neg (Nat.ne_of_lt older),
      SessionStore.withSession_objects_of_lt older]
  · intro ptr new exists_
    rw [SessionStore.state_setState, if_pos (own ptr new exists_)]
  · intro ptr new exists_ now order enumerates
    cases own ptr new exists_
    refine unindexed_of_failed namedAfter ?_ ?_ enumerates
    · exact ⟨_, found⟩
    · rw [SessionStore.state_setState, if_pos rfl]

end New

end Sessions

/-! ## The theorem -/

/-- In every reachable state, a request on which opening a session fails leaves
no debris exactly when it fails cleanly. -/
theorem noDebris_iff
    {config : Config}
    {pool : Pool ControlPlane Frame}
    {req : OpenSessionParams}
    {draw : Draw}
    {executors : Executors}
    {now : Nat}
    {error : Error}
    (reachable : (machine config).Reachable Machine.always pool)
    (failed : (openSession pool.shared req draw executors now).1 =
      .error error) :
    NoDebris pool.shared.sessions
        (openSession pool.shared req draw executors now).2.sessions ↔
      FailsCleanly pool.shared.sessions req executors := by
  have named := (Grounded.of_reachable reachable).named
  revert failed
  unfold openSession FailsCleanly
  rcases known : pool.shared.sessions.lookupKey req with _ | ⟨refused | ptr⟩
  · have created : pool.shared.sessions.create req draw =
        (.ok pool.shared.sessions.allocated,
          pool.shared.sessions.withSession req draw) := by
      rw [SessionStore.create, known]
      rfl
    rw [created]
    dsimp only
    intro failed
    rw [sessions_openHook_of_error failed]
    dsimp only
    rw [SessionStore.withSession_objects_self]
    change NoDebris _ (if executors.has req.dataFlow = true then _ else _) ↔ _
    cases executors.has req.dataFlow with
    | false => exact iff_of_false not_noDebris_withSession Bool.false_ne_true
    | true => exact iff_of_true (noDebris_new named known) rfl
  · have created : pool.shared.sessions.create req draw =
        (.error refused, pool.shared.sessions) := by
      rw [SessionStore.create, known]
    rw [created]
    intro _
    exact iff_of_true (noDebris_self _) trivial
  · have created : pool.shared.sessions.create req draw =
        (.ok ptr, pool.shared.sessions) := by
      rw [SessionStore.create, known]
    rw [created]
    dsimp only
    intro failed
    rw [sessions_openHook_of_error failed]
    dsimp only
    cases executors.has (pool.shared.sessions.objects ptr).dataFlow with
    | false => exact iff_of_true (noDebris_self _) (.inl rfl)
    | true =>
        rw [if_pos rfl, noDebris_markFailed_iff named, Bool.true_eq_false,
          false_or]

private def openConfig : Config := ⟨id, .default, true⟩

/-- A write of unknown size whose client names its attempt. -/
private def attemptRequest : OpenSessionParams :=
  ⟨"ses", "", "bucket", "object", .put, .gpuDirect, "", 0, 0, "attempt", false⟩

private def attemptDraw : Draw := ⟨(0, 0), (0, 0), (0, 1), "", 0⟩

private def noSessions : Pool ControlPlane Frame :=
  ⟨⟨.init "gateway" 10, ⟨.init 16 10, fun _ => ∅⟩⟩, fun _ => .call .idle⟩

/-- The session of the attempt is opened, and is in use. -/
private def attemptRun : Option (Pool ControlPlane Frame) :=
  (machine openConfig).run Machine.always noSessions
    [(0, .session (.create attemptRequest attemptDraw)),
      (0, .session .proceed), (0, .session .proceed), (0, .session .proceed),
      (0, .hook ⟨false, some true⟩ 0)]

private theorem attemptRun_isSome : attemptRun.isSome = true := by decide

private theorem reachable_attempt :
    (machine openConfig).Reachable Machine.always
      (attemptRun.get attemptRun_isSome) :=
  .of_run ⟨"gateway", 10, _, rfl⟩ (Option.some_get attemptRun_isSome).symm

/-- A request of its own, over a server that is gone. -/
theorem noDebris_iff_new_session :
    ∃ next, NoDebris (attemptRun.get attemptRun_isSome).shared.sessions next ↔
      FailsCleanly (attemptRun.get attemptRun_isSome).shared.sessions
        { attemptRequest with sessionId := "other", idempotencyKey := "" }
        ⟨false, some false⟩ :=
  ⟨_, @noDebris_iff _ _ _ attemptDraw _ 0 _ reachable_attempt rfl⟩

/-- The same attempt again over a server that is gone: the session that is in use
is marked as failed. -/
theorem retry_fails_session :
    ¬∀ pool, (machine openConfig).Reachable Machine.always pool →
      ∀ req draw executors now error,
        (openSession pool.shared req draw executors now).1 = .error error →
          NoDebris pool.shared.sessions
            (openSession pool.shared req draw executors now).2.sessions := by
  intro clean
  have kept := (clean _ reachable_attempt attemptRequest attemptDraw
    ⟨false, some false⟩ 0 _ rfl).kept 0 (by decide)
  revert kept
  decide

end Gds
end Gateway
end TurboAccess
