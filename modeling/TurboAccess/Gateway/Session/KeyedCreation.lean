import TurboAccess.Gateway.Session.Interleaving

/-!
# Idempotency keys under concurrency

A creation looks its key up in one section and enters it in another, with the
other indexes in between, so that two creations of one key can both miss it.
In the runs in which no creation misses a key while another session of that key
is on its way, a key leads to one live session: everybody who is given a session
while one of the key is live is given that one, and a sweep erases the key of
the session it removes and of no other.
-/

namespace TurboAccess
namespace Gateway

/-- A session that answers a request: the key and what is to be done with which
object are those of the request. -/
structure Session.Answers
    (session : Session)
    (req : OpenSessionParams) : Prop where
  idempotencyKey : session.idempotencyKey = req.idempotencyKey
  bucket : session.bucket = req.bucket
  objectKey : session.objectKey = req.objectKey
  op : session.op = req.op

/-- A request for the same thing under the same key. -/
structure OpenSessionParams.Repeats (req earlier : OpenSessionParams) :
    Prop where
  idempotencyKey : req.idempotencyKey = earlier.idempotencyKey
  bucket : req.bucket = earlier.bucket
  objectKey : req.objectKey = earlier.objectKey
  op : req.op = earlier.op

theorem Session.Answers.of_sameButState
    {session other : Session}
    {req : OpenSessionParams}
    (answers : session.Answers req)
    (same : session.SameButState other) :
    other.Answers req := by
  obtain ⟨state, rfl⟩ := same
  exact ⟨answers.idempotencyKey, answers.bucket, answers.objectKey, answers.op⟩

theorem SessionStore.newSession_answers
    (store : SessionStore)
    (req : OpenSessionParams)
    (draw : Draw) :
    (store.newSession req draw).Answers req :=
  ⟨rfl, rfl, rfl, rfl⟩

/-- A key is answered with a session that answers the request. -/
theorem SessionStore.answers_of_lookupKey
    {store : SessionStore}
    {req : OpenSessionParams}
    {ptr : SessionPtr}
    (named : store.Named)
    (known : store.lookupKey req = some (.ok ptr)) :
    (store.objects ptr).Answers req := by
  have key := (named.byIdempotency _ ptr (lookupKey_eq_ok known)).2.1
  rw [lookupKey] at known
  split at known
  · cases known
  · obtain ⟨found, present, same⟩ := Option.map_eq_some_iff.mp known
    dsimp only at same
    split at same
    · cases same
    · next matching =>
        cases same
        simp only [ne_eq, not_or, not_not] at matching
        exact ⟨key, matching.1, matching.2.1, matching.2.2⟩

/-- A request that repeats the one of the session its key leads to is answered
with that session. -/
theorem SessionStore.lookupKey_of_repeats
    {store : SessionStore}
    {req earlier : OpenSessionParams}
    {ptr : SessionPtr}
    (nonempty : req.idempotencyKey ≠ "")
    (repeats : req.Repeats earlier)
    (answers : (store.objects ptr).Answers earlier)
    (found : store.byIdempotency.lookup earlier.idempotencyKey = some ptr) :
    store.lookupKey req = some (.ok ptr) := by
  rw [lookupKey, if_neg nonempty, repeats.idempotencyKey, found]
  simp [answers.bucket, answers.objectKey, answers.op, repeats.bucket,
    repeats.objectKey, repeats.op]

namespace SessionPool

/-! ## The property and its condition -/

/-- The index by identifier has at most one live session for a key. -/
def OneLive (pool : Pool SessionStore Frame) : Prop :=
  ∀ first second, pool.shared.Registered first →
    pool.shared.Registered second →
      (pool.shared.objects first).Live → (pool.shared.objects second).Live →
        (pool.shared.objects first).idempotencyKey ≠ "" →
          (pool.shared.objects first).idempotencyKey =
            (pool.shared.objects second).idempotencyKey →
              first = second

/-- A step in which a call that returns, returns the live session that was
returned to an earlier call of the same request, and an entry of the index by
key changes only when the session it leads to is being swept. -/
structure Honours
    (pool : Pool SessionStore Frame)
    (thread : Nat)
    (later : Pool SessionStore Frame) : Prop where
  sameSession : ∀ req result earlier earlierReq earlierPtr,
    later.threads thread = .created req result →
      pool.threads earlier = .created earlierReq (.ok earlierPtr) →
        req.idempotencyKey ≠ "" → req.Repeats earlierReq →
          (later.shared.objects earlierPtr).Live → result = .ok earlierPtr
  ownEntry : ∀ key ptr, pool.shared.byIdempotency.lookup key = some ptr →
    later.shared.byIdempotency.lookup key ≠ some ptr →
      ∃ evicted pending,
        pool.threads thread = .droppingKey evicted ptr pending

/-- In the runs whose steps satisfy a guard, keys are honoured. -/
def KeysHonoured
    (guard : Pool SessionStore Frame → Nat × Input → Prop) : Prop :=
  ∀ pool, machine.Reachable guard pool →
    OneLive pool ∧
      ∀ label later, guard pool label →
        machine.step pool label = some later → Honours pool label.1 later

/-- A creation that misses its key finds no session of that key on its way. -/
def Serialised (pool : Pool SessionStore Frame) (label : Nat × Input) : Prop :=
  ∀ req draw, label.2 = .create req draw → req.idempotencyKey ≠ "" →
    pool.shared.lookupKey req = none →
      ∀ thread ptr, (pool.threads thread).inFlight = some ptr →
        (pool.shared.objects ptr).idempotencyKey ≠ req.idempotencyKey

/-! ## The invariant -/

/-- A session is on its way into the indexes. -/
def Flying (pool : Pool SessionStore Frame) (ptr : SessionPtr) : Prop :=
  ∃ thread, (pool.threads thread).inFlight = some ptr

/-- A session whose key is entered and not yet erased. -/
def Owed (pool : Pool SessionStore Frame) (ptr : SessionPtr) : Prop :=
  (pool.shared.objects ptr).Live ∨ pool.shared.Registered ptr ∨
    ∃ thread, ptr ∈ (pool.threads thread).pending

/-- The key of a session in flight has no entry, and no session of the key is
in flight beside it; every other session that is live, registered or about to
be swept is the one its key leads to. -/
structure KeysHeld (pool : Pool SessionStore Frame) : Prop where
  named : pool.shared.Named
  flight : ∀ thread req ptr stage,
    pool.threads thread = .creating req ptr stage →
      ptr < pool.shared.allocated ∧ (pool.shared.objects ptr).Answers req ∧
        (stage = .made → ¬pool.shared.Registered ptr ∧
          ∀ other, ptr ∉ (pool.threads other).pending)
  missing : ∀ ptr, Flying pool ptr →
    (pool.shared.objects ptr).idempotencyKey ≠ "" →
      pool.shared.byIdempotency.lookup
        (pool.shared.objects ptr).idempotencyKey = none
  alone : ∀ first second firstPtr secondPtr,
    (pool.threads first).inFlight = some firstPtr →
      (pool.threads second).inFlight = some secondPtr →
        (firstPtr = secondPtr ∨
          (pool.shared.objects firstPtr).idempotencyKey ≠ "" ∧
            (pool.shared.objects firstPtr).idempotencyKey =
              (pool.shared.objects secondPtr).idempotencyKey) →
          first = second
  settled : ∀ ptr, ptr < pool.shared.allocated →
    (pool.shared.objects ptr).idempotencyKey ≠ "" → ¬Flying pool ptr →
      Owed pool ptr →
        pool.shared.byIdempotency.lookup
          (pool.shared.objects ptr).idempotencyKey = some ptr
  gone : ∀ thread, ∀ ptr ∈ (pool.threads thread).pending,
    ptr < pool.shared.allocated ∧ ¬pool.shared.Registered ptr ∧
      ¬(pool.shared.objects ptr).Live
  once : ∀ thread, (pool.threads thread).pending.Nodup
  apart : ∀ first second ptr, ptr ∈ (pool.threads first).pending →
    ptr ∈ (pool.threads second).pending → first = second
  returned : ∀ thread req ptr, pool.threads thread = .created req (.ok ptr) →
    req.idempotencyKey ≠ "" →
      ptr < pool.shared.allocated ∧ (pool.shared.objects ptr).Answers req ∧
        ¬Flying pool ptr

/-- The pool after a section. -/
abbrev Pool.after
    (pool : Pool SessionStore Frame)
    (mover : Nat)
    (next : SessionStore)
    (after : Frame) : Pool SessionStore Frame :=
  ⟨next, Function.update pool.threads mover after⟩

section Step

variable
  {pool : Pool SessionStore Frame}
  {mover : Nat}
  {next : SessionStore}
  {after : Frame}
  (held : KeysHeld pool)
  (moves : Moves pool.shared (pool.threads mover) next after)

include held in
/-- Sessions in flight exist. -/
theorem KeysHeld.exists_of_flying
    {ptr : SessionPtr}
    (flies : Flying pool ptr) :
    ptr < pool.shared.allocated := by
  obtain ⟨thread, same⟩ := flies
  cases frameEq : pool.threads thread with
  | creating req other stage =>
      rw [frameEq] at same
      cases same
      exact (held.flight thread req ptr stage frameEq).1
  | idle | created | scanning | dropping | droppingKey | swept =>
      rw [frameEq] at same
      cases same

include held in
/-- The key of a session about to be swept leads to that session, if it leads
anywhere. -/
theorem KeysHeld.pending_owner
    {thread : Nat}
    {removed ptr : SessionPtr}
    (member : removed ∈ (pool.threads thread).pending)
    (nonempty : (pool.shared.objects removed).idempotencyKey ≠ "")
    (found : pool.shared.byIdempotency.lookup
      (pool.shared.objects removed).idempotencyKey = some ptr) :
    removed = ptr := by
  by_cases flies : Flying pool removed
  · rw [held.missing removed flies nonempty] at found
    cases found
  · have own := held.settled removed (held.gone thread removed member).1
      nonempty flies (.inr (.inr ⟨thread, member⟩))
    rw [found] at own
    exact (Option.some.inj own).symm

include moves in
/-- A frame with a session in flight after a section had it before, or is the
one that has just made it. -/
theorem inFlight_of_after
    {thread : Nat}
    {ptr : SessionPtr}
    (flies : ((Pool.after pool mover next after).threads thread).inFlight =
      some ptr) :
    (pool.threads thread).inFlight = some ptr ∨
      thread = mover ∧
        ∃ req draw, pool.shared.lookupKey req = none ∧
          next = (pool.shared.allocate req draw).2 ∧
          ptr = pool.shared.allocated ∧ after = .creating req ptr .made := by
  by_cases moving : thread = mover
  · subst moving
    simp only [Function.update_self] at flies
    rcases moves.inFlight_eq_some flies with was | new
    · exact .inl was
    · exact .inr ⟨rfl, new⟩
  · simp only [Function.update_of_ne moving] at flies
    exact .inl flies

include moves in
/-- A session in flight after a section that existed before was so before. -/
theorem flying_of_after
    {ptr : SessionPtr}
    (exists_ : ptr < pool.shared.allocated)
    (flies : Flying (Pool.after pool mover next after) ptr) :
    Flying pool ptr := by
  obtain ⟨thread, same⟩ := flies
  rcases inFlight_of_after moves same with was | ⟨_, req, draw, _, _, rfl, _⟩
  · exact ⟨thread, was⟩
  · exact absurd exists_ (Nat.lt_irrefl _)

include moves in
/-- A session in flight stays so until it is entered under its key. -/
theorem flying_after
    {ptr : SessionPtr}
    (flies : Flying pool ptr) :
    Flying (Pool.after pool mover next after) ptr ∨
      ∃ req, pool.threads mover = .creating req ptr .ticketed ∧
        after = .created req (.ok ptr) ∧
        next = pool.shared.indexKey ptr := by
  obtain ⟨thread, same⟩ := flies
  by_cases moving : thread = mover
  · subst moving
    rcases moves.inFlight_kept same with still | entered
    · exact .inl ⟨thread, by simpa using still⟩
    · exact .inr entered
  · exact .inl ⟨thread, by simpa [Function.update_of_ne moving] using same⟩

include held moves in
/-- A key still to be erased was so before, or its session has just left the
index. -/
theorem KeysHeld.pending_of_after
    {thread : Nat}
    {ptr : SessionPtr}
    (member : ptr ∈ ((Pool.after pool mover next after).threads
      thread).pending) :
    ptr ∈ (pool.threads thread).pending ∨
      thread = mover ∧ pool.shared.Registered ptr ∧ ¬next.Registered ptr ∧
        ¬(next.objects ptr).Live := by
  by_cases moving : thread = mover
  · subst moving
    simp only [Function.update_self] at member
    rcases moves.pending_cases held.named with
      fewer | ⟨removed, more, left⟩
    · exact .inl (fewer.subset member)
    · rw [more, List.mem_append, List.mem_singleton] at member
      rcases member with old | rfl
      · exact .inl old
      · exact .inr ⟨rfl, left⟩
  · simp only [Function.update_of_ne moving] at member
    exact .inl member

include moves in
/-- A session registered after a section was so before, or has just been
entered. -/
theorem registered_of_after
    {ptr : SessionPtr}
    (registered : next.Registered ptr) :
    pool.shared.Registered ptr ∨
      ∃ req, pool.threads mover = .creating req ptr .made ∧
        after = .creating req ptr .identified := by
  obtain ⟨sessionId, found⟩ := registered
  rcases moves.byId_eq_some found with was | ⟨_, _, entered⟩
  · exact .inl ⟨sessionId, was⟩
  · exact .inr entered

include held moves in
/-- A session whose key is owed after a section, and that is not in flight,
was owed before, or its key has just been entered. -/
theorem KeysHeld.owed_of_after
    {ptr : SessionPtr}
    (exists_ : ptr < pool.shared.allocated)
    (grounded : ¬Flying (Pool.after pool mover next after) ptr)
    (owed : Owed (Pool.after pool mover next after) ptr) :
    Owed pool ptr := by
  rcases owed with live | registered | ⟨thread, member⟩
  · exact .inl (moves.live exists_ live)
  · rcases registered_of_after moves registered with was | ⟨req, _, flies⟩
    · exact .inr (.inl was)
    · refine absurd ⟨mover, ?_⟩ grounded
      simp [flies, Frame.inFlight]
  · rcases held.pending_of_after moves member with was | ⟨_, was, _⟩
    · exact .inr (.inr ⟨thread, was⟩)
    · exact .inr (.inl was)

include held moves in
theorem KeysHeld.settled_after
    {ptr : SessionPtr}
    (exists_ : ptr < next.allocated)
    (nonempty : (next.objects ptr).idempotencyKey ≠ "")
    (grounded : ¬Flying (Pool.after pool mover next after) ptr)
    (owed : Owed (Pool.after pool mover next after) ptr) :
    next.byIdempotency.lookup (next.objects ptr).idempotencyKey =
      some ptr := by
  have older : ptr < pool.shared.allocated := by
    rcases moves.allocated_cases with same | ⟨req, draw, _, _, rfl, flies⟩
    · rwa [same] at exists_
    · apply Nat.lt_of_le_of_ne (Nat.le_of_lt_succ exists_)
      rintro rfl
      exact grounded ⟨mover, by simp [flies, Frame.inFlight]⟩
  have sameKey := (moves.sameButState older).idempotencyKey
  rw [sameKey] at nonempty ⊢
  by_cases flew : Flying pool ptr
  · -- the session has just been entered under its key
    rcases flying_after moves flew with still | ⟨req, _, _, rfl⟩
    · exact absurd still grounded
    · simp [SessionStore.indexKey, nonempty]
  · have before := held.settled ptr older nonempty flew
      (held.owed_of_after moves older grounded owed)
    have change := moves.keyChange
      (pool.shared.objects ptr).idempotencyKey
    generalize movingEq : pool.threads mover = moving at change
    generalize next.byIdempotency.lookup
      (pool.shared.objects ptr).idempotencyKey = entry at change ⊢
    cases change with
    | unchanged => exact before
    | entered req other owns _ =>
        -- the key of a session in flight has no entry
        have missing := held.missing other
          ⟨mover, by rw [movingEq]; rfl⟩ (by rw [owns]; exact nonempty)
        rw [owns, before] at missing
        cases missing
    | erased evicted other rest owns _ =>
        -- only the session itself is swept under its key
        have member : other ∈ (pool.threads mover).pending := by
          rw [movingEq]
          exact List.mem_cons_self
        have own : other = ptr :=
          held.pending_owner member (by rw [owns]; exact nonempty)
            (by rw [owns]; exact before)
        subst own
        obtain ⟨_, unregistered, lifeless⟩ := held.gone mover other member
        rcases owed with live | registered | ⟨thread, later⟩
        · exact absurd (moves.live older live) lifeless
        · rcases registered_of_after moves registered with was | ⟨req, made, _⟩
          · exact absurd was unregistered
          · rw [movingEq] at made
            cases made
        · have distinct := held.once mover
          rw [movingEq] at distinct
          by_cases moving : thread = mover
          · subst moving
            simp only [Function.update_self] at later
            exact absurd later (List.nodup_cons.mp distinct).1
          · simp only [Function.update_of_ne moving] at later
            exact absurd (held.apart thread mover other later member) moving

include held moves in
theorem KeysHeld.flight_after
    {thread : Nat}
    {req : OpenSessionParams}
    {ptr : SessionPtr}
    {stage : CreateStage}
    (creates : (Pool.after pool mover next after).threads thread =
      .creating req ptr stage) :
    ptr < next.allocated ∧ (next.objects ptr).Answers req ∧
      (stage = .made → ¬next.Registered ptr ∧
        ∀ other,
          ptr ∉ ((Pool.after pool mover next after).threads other).pending) := by
  by_cases moving : thread = mover
  · subst moving
    simp only [Function.update_self] at creates
    generalize movingEq : pool.threads thread = before at moves
    cases moves with
    | make req' draw missed =>
        cases creates
        refine ⟨Nat.lt_succ_self _, ?_, fun _ => ⟨?_, ?_⟩⟩
        · simp only [SessionStore.allocate, Function.update_self]
          exact SessionStore.newSession_answers _ _ _
        · rintro ⟨sessionId, found⟩
          exact Nat.lt_irrefl _ (held.named.byId sessionId _ found).1
        · intro other member
          by_cases same : other = thread
          · subst same
            simp [Frame.pending] at member
          · simp only [Function.update_of_ne same] at member
            exact Nat.lt_irrefl _ (held.gone other _ member).1
    | indexId =>
        cases creates
        obtain ⟨exists_, answers, _⟩ := held.flight _ _ _ _ movingEq
        refine ⟨exists_, answers, ?_⟩
        intro made
        cases made
    | indexTicket =>
        cases creates
        obtain ⟨exists_, answers, _⟩ := held.flight _ _ _ _ movingEq
        refine ⟨exists_, answers, ?_⟩
        intro made
        cases made
    | answer | change | startSweep | indexKey | visit | endScan | dropTicket
    | dropKey | endSweep => cases creates
  · simp only [Function.update_of_ne moving] at creates
    obtain ⟨exists_, answers, fresh⟩ := held.flight thread req ptr stage creates
    refine ⟨Nat.lt_of_lt_of_le exists_ moves.allocated_le,
      answers.of_sameButState (moves.sameButState exists_), ?_⟩
    intro made
    obtain ⟨unregistered, unswept⟩ := fresh made
    constructor
    · intro registered
      rcases registered_of_after moves registered with was | ⟨_, other, _⟩
      · exact unregistered was
      · exact moving (held.alone thread mover ptr ptr (by rw [creates]; rfl)
          (by rw [other]; rfl) (.inl rfl))
    · intro other member
      rcases held.pending_of_after moves member with was | ⟨_, was, _⟩
      · exact unswept other was
      · exact unregistered was

include held moves in
theorem KeysHeld.missing_after
    {ptr : SessionPtr}
    (flies : Flying (Pool.after pool mover next after) ptr)
    (nonempty : (next.objects ptr).idempotencyKey ≠ "") :
    next.byIdempotency.lookup (next.objects ptr).idempotencyKey = none := by
  obtain ⟨thread, same⟩ := flies
  rcases inFlight_of_after moves same with
    was | ⟨_, req, draw, missed, rfl, rfl, _⟩
  · have exists_ := held.exists_of_flying ⟨thread, was⟩
    rw [(moves.sameButState exists_).idempotencyKey] at nonempty ⊢
    have before := held.missing ptr ⟨thread, was⟩ nonempty
    have change := moves.keyChange (pool.shared.objects ptr).idempotencyKey
    generalize movingEq : pool.threads mover = moving at change
    generalize next.byIdempotency.lookup
      (pool.shared.objects ptr).idempotencyKey = entry at change ⊢
    cases change with
    | unchanged => exact before
    | entered req other owns _ =>
        -- the session entered is alone with its key, and no longer in flight
        have own := held.alone thread mover ptr other was
          (by rw [movingEq]; rfl) (.inr ⟨nonempty, owns.symm⟩)
        subst own
        simp [Frame.inFlight] at same
    | erased => rfl
  · have key : ((pool.shared.allocate req draw).2.objects
        pool.shared.allocated).idempotencyKey = req.idempotencyKey := by
      simp [SessionStore.allocate, SessionStore.newSession]
    rw [key] at nonempty ⊢
    have absent := SessionStore.byIdempotency_of_missed missed nonempty
    exact absent

include held moves in
theorem KeysHeld.alone_after
    (serialised : ∀ req ptr, after = .creating req ptr .made →
      req.idempotencyKey ≠ "" → ∀ other, Flying pool other →
        (pool.shared.objects other).idempotencyKey ≠ req.idempotencyKey)
    {first second : Nat}
    {firstPtr secondPtr : SessionPtr}
    (firstFlies : ((Pool.after pool mover next after).threads
      first).inFlight = some firstPtr)
    (secondFlies : ((Pool.after pool mover next after).threads
      second).inFlight = some secondPtr)
    (shared : firstPtr = secondPtr ∨
      (next.objects firstPtr).idempotencyKey ≠ "" ∧
        (next.objects firstPtr).idempotencyKey =
          (next.objects secondPtr).idempotencyKey) :
    first = second := by
  -- a new session shares nothing with a session that was in flight
  have unshared : ∀ req draw, next = (pool.shared.allocate req draw).2 →
      after = .creating req pool.shared.allocated .made → ∀ thread ptr,
        (pool.threads thread).inFlight = some ptr →
          ptr ≠ pool.shared.allocated ∧
            ((next.objects ptr).idempotencyKey ≠ "" →
              (next.objects ptr).idempotencyKey ≠
                (next.objects pool.shared.allocated).idempotencyKey) := by
    rintro req draw rfl made thread ptr flies
    have exists_ := held.exists_of_flying ⟨thread, flies⟩
    refine ⟨Nat.ne_of_lt exists_, ?_⟩
    rw [(moves.sameButState exists_).idempotencyKey]
    simp only [SessionStore.allocate, Function.update_self]
    intro nonempty same
    have key : (pool.shared.newSession req draw).idempotencyKey =
      req.idempotencyKey := rfl
    rw [key] at same
    exact serialised req _ made (same ▸ nonempty) ptr ⟨thread, flies⟩ same
  rcases inFlight_of_after moves firstFlies with
    firstWas | ⟨rfl, req, draw, _, allocated, rfl, made⟩ <;>
  rcases inFlight_of_after moves secondFlies with
    secondWas | ⟨rfl, req', draw', _, allocated', rfl, made'⟩
  · apply held.alone first second firstPtr secondPtr firstWas secondWas
    have firstExists := held.exists_of_flying ⟨first, firstWas⟩
    have secondExists := held.exists_of_flying ⟨second, secondWas⟩
    rwa [(moves.sameButState firstExists).idempotencyKey,
      (moves.sameButState secondExists).idempotencyKey] at shared
  · obtain ⟨different, apart⟩ :=
      unshared req' draw' allocated' made' first firstPtr firstWas
    rcases shared with same | ⟨nonempty, same⟩
    · exact absurd same different
    · exact absurd same (apart nonempty)
  · obtain ⟨different, apart⟩ :=
      unshared req draw allocated made second secondPtr secondWas
    rcases shared with same | ⟨nonempty, same⟩
    · exact absurd same.symm different
    · exact absurd same.symm (apart (same ▸ nonempty))
  · rfl

include held moves in
theorem KeysHeld.gone_after
    {thread : Nat}
    {ptr : SessionPtr}
    (member : ptr ∈ ((Pool.after pool mover next after).threads
      thread).pending) :
    ptr < next.allocated ∧ ¬next.Registered ptr ∧
      ¬(next.objects ptr).Live := by
  rcases held.pending_of_after moves member with
    was | ⟨_, ⟨sessionId, found⟩, unregistered, lifeless⟩
  · obtain ⟨exists_, unregistered, lifeless⟩ := held.gone thread ptr was
    refine ⟨Nat.lt_of_lt_of_le exists_ moves.allocated_le, ?_, ?_⟩
    · intro registered
      rcases registered_of_after moves registered with already | ⟨req, made, _⟩
      · exact unregistered already
      · exact ((held.flight mover req ptr .made made).2.2 rfl).2 thread was
    · intro live
      exact lifeless (moves.live exists_ live)
  · have exists_ := (held.named.byId sessionId ptr found).1
    exact ⟨Nat.lt_of_lt_of_le exists_ moves.allocated_le, unregistered,
      lifeless⟩

include held moves in
theorem KeysHeld.once_after (thread : Nat) :
    ((Pool.after pool mover next after).threads thread).pending.Nodup := by
  by_cases moving : thread = mover
  · subst moving
    simp only [Function.update_self]
    rcases moves.pending_cases held.named with
      fewer | ⟨removed, more, registered, _⟩
    · exact (held.once thread).sublist fewer
    · rw [more]
      apply List.Nodup.append (held.once thread) (List.nodup_singleton _)
      rw [List.disjoint_singleton]
      intro member
      exact (held.gone thread removed member).2.1 registered
  · simp only [Function.update_of_ne moving]
    exact held.once thread

include held moves in
theorem KeysHeld.apart_after
    {first second : Nat}
    {ptr : SessionPtr}
    (firstMember : ptr ∈ ((Pool.after pool mover next after).threads
      first).pending)
    (secondMember : ptr ∈ ((Pool.after pool mover next after).threads
      second).pending) :
    first = second := by
  rcases held.pending_of_after moves firstMember with
    firstWas | ⟨firstMoves, firstRegistered, _⟩ <;>
  rcases held.pending_of_after moves secondMember with
    secondWas | ⟨secondMoves, secondRegistered, _⟩
  · exact held.apart first second ptr firstWas secondWas
  · exact absurd secondRegistered (held.gone first ptr firstWas).2.1
  · exact absurd firstRegistered (held.gone second ptr secondWas).2.1
  · exact firstMoves.trans secondMoves.symm

include held moves in
theorem KeysHeld.returned_after
    {thread : Nat}
    {req : OpenSessionParams}
    {ptr : SessionPtr}
    (returns : (Pool.after pool mover next after).threads thread =
      .created req (.ok ptr))
    (nonempty : req.idempotencyKey ≠ "") :
    ptr < next.allocated ∧ (next.objects ptr).Answers req ∧
      ¬Flying (Pool.after pool mover next after) ptr := by
  have kept : ptr < pool.shared.allocated →
      (pool.shared.objects ptr).Answers req →
        ¬Flying (Pool.after pool mover next after) ptr →
          ptr < next.allocated ∧ (next.objects ptr).Answers req ∧
            ¬Flying (Pool.after pool mover next after) ptr :=
    fun exists_ answers grounded =>
      ⟨Nat.lt_of_lt_of_le exists_ moves.allocated_le,
        answers.of_sameButState (moves.sameButState exists_), grounded⟩
  by_cases moving : thread = mover
  · subst moving
    simp only [Function.update_self] at returns
    subst returns
    have moved := moves
    generalize movingEq : pool.threads thread = before at moved
    cases moved with
    | answer _ _ known =>
        have found := SessionStore.lookupKey_eq_ok known
        obtain ⟨exists_, key, _⟩ := held.named.byIdempotency _ ptr found
        refine kept exists_
          (SessionStore.answers_of_lookupKey held.named known) ?_
        intro flies
        have missing := held.missing ptr (flying_of_after moves exists_ flies)
          (by rw [key]; exact nonempty)
        rw [key, found] at missing
        cases missing
    | indexKey =>
        obtain ⟨exists_, answers, _⟩ := held.flight _ _ _ _ movingEq
        apply kept exists_ answers
        rintro ⟨other, flies⟩
        by_cases same : other = thread
        · subst same
          simp [Frame.inFlight] at flies
        · simp only [Function.update_of_ne same] at flies
          exact same (held.alone other thread ptr ptr flies
            (by rw [movingEq]; rfl) (.inl rfl))
  · simp only [Function.update_of_ne moving] at returns
    obtain ⟨exists_, answers, grounded⟩ := held.returned thread req ptr returns
      nonempty
    exact kept exists_ answers fun flies =>
      grounded (flying_of_after moves exists_ flies)

include held moves in
/-- A section keeps the invariant, if a creation that misses its key misses it
alone. -/
theorem KeysHeld.kept
    (serialised : ∀ req ptr, after = .creating req ptr .made →
      req.idempotencyKey ≠ "" → ∀ other, Flying pool other →
        (pool.shared.objects other).idempotencyKey ≠ req.idempotencyKey) :
    KeysHeld (Pool.after pool mover next after) := by
  have bound : ∀ ptr, (pool.threads mover).inFlight = some ptr →
      ptr < pool.shared.allocated :=
    fun ptr flies => held.exists_of_flying ⟨mover, flies⟩
  constructor
  case named => exact moves.named held.named bound
  case settled =>
    intro ptr exists_ nonempty grounded owed
    exact held.settled_after moves exists_ nonempty grounded owed
  case flight =>
    intro thread req ptr stage creates
    exact held.flight_after moves creates
  case missing =>
    intro ptr flies nonempty
    exact held.missing_after moves flies nonempty
  case alone =>
    intro first second firstPtr secondPtr firstFlies secondFlies shared
    exact held.alone_after moves serialised firstFlies secondFlies shared
  case gone =>
    intro thread ptr member
    exact held.gone_after moves member
  case once => exact held.once_after moves
  case apart =>
    intro first second ptr firstMember secondMember
    exact held.apart_after moves firstMember secondMember
  case returned =>
    intro thread req ptr returns nonempty
    exact held.returned_after moves returns nonempty

end Step

/-! ## The theorem -/

/-- The invariant holds in the runs in which keys are missed alone. -/
theorem KeysHeld.of_reachable
    {pool : Pool SessionStore Frame}
    (reachable : machine.Reachable Serialised pool) :
    KeysHeld pool := by
  refine reachable.invariant ?_ ?_
  · rintro start ⟨gatewayId, sessionTtl, rfl⟩
    have reached : SessionStore.machine.Reachable Machine.always
        (SessionStore.init gatewayId sessionTtl) :=
      ⟨_, [], ⟨gatewayId, sessionTtl, rfl⟩, .nil⟩
    have named := SessionStore.Named.of_reachable reached
    constructor
    case named => exact named
    all_goals simp [Flying, Frame.inFlight, Frame.pending, SessionStore.init]
  · intro state label later held serialised stepped
    obtain ⟨store, frame, moved, rfl⟩ := Pool.step_eq_some stepped
    apply held.kept (moves_of_advance moved)
    rintro req ptr rfl nonempty other ⟨thread, flies⟩
    obtain ⟨draw, creates, missed⟩ := advance_eq_made moved
    exact serialised req draw creates nonempty missed thread other flies

section Held

variable
  {pool : Pool SessionStore Frame}
  (held : KeysHeld pool)

include held in
/-- A key with a session in flight has no other session that is live, or
registered. -/
theorem KeysHeld.flying_of_flying
    {first second : SessionPtr}
    (nonempty : (pool.shared.objects first).idempotencyKey ≠ "")
    (sameKey : (pool.shared.objects first).idempotencyKey =
      (pool.shared.objects second).idempotencyKey)
    (exists_ : second < pool.shared.allocated)
    (flies : Flying pool first)
    (owed : Owed pool second) :
    first = second := by
  have missing := held.missing first flies nonempty
  by_cases grounded : Flying pool second
  · obtain ⟨firstThread, firstFlies⟩ := flies
    obtain ⟨secondThread, secondFlies⟩ := grounded
    have sameThread := held.alone firstThread secondThread first second
      firstFlies secondFlies (.inr ⟨nonempty, sameKey⟩)
    subst sameThread
    rw [firstFlies] at secondFlies
    exact Option.some.inj secondFlies
  · have settled := held.settled second exists_ (sameKey ▸ nonempty) grounded
      owed
    rw [← sameKey, missing] at settled
    cases settled

include held in
/-- A key leads to one live session. -/
theorem KeysHeld.oneLive : OneLive pool := by
  intro first second firstRegistered secondRegistered firstLive secondLive
    nonempty sameKey
  have exists_ : ∀ ptr, pool.shared.Registered ptr →
      ptr < pool.shared.allocated := by
    rintro ptr ⟨sessionId, found⟩
    exact (held.named.byId sessionId ptr found).1
  have firstExists := exists_ first firstRegistered
  have secondExists := exists_ second secondRegistered
  by_cases firstFlies : Flying pool first
  · exact held.flying_of_flying nonempty sameKey secondExists firstFlies
      (.inl secondLive)
  · by_cases secondFlies : Flying pool second
    · exact (held.flying_of_flying (sameKey ▸ nonempty) sameKey.symm
        firstExists secondFlies (.inl firstLive)).symm
    · have firstSettled := held.settled first firstExists nonempty firstFlies
        (.inl firstLive)
      have secondSettled := held.settled second secondExists
        (sameKey ▸ nonempty) secondFlies (.inl secondLive)
      rw [← sameKey, firstSettled] at secondSettled
      exact Option.some.inj secondSettled

variable
  {mover : Nat}
  {next : SessionStore}
  {after : Frame}
  (moves : Moves pool.shared (pool.threads mover) next after)

include held moves in
/-- A call that returns, returns the live session of its request. -/
theorem KeysHeld.sameSession
    {req earlierReq : OpenSessionParams}
    {result : Result SessionPtr}
    {earlier : Nat}
    {earlierPtr : SessionPtr}
    (returns : after = .created req result)
    (returned : pool.threads earlier = .created earlierReq (.ok earlierPtr))
    (nonempty : req.idempotencyKey ≠ "")
    (repeats : req.Repeats earlierReq)
    (live : (next.objects earlierPtr).Live) :
    result = .ok earlierPtr := by
  have earlierNonempty : earlierReq.idempotencyKey ≠ "" :=
    repeats.idempotencyKey ▸ nonempty
  obtain ⟨exists_, answers, grounded⟩ :=
    held.returned earlier earlierReq earlierPtr returned earlierNonempty
  have settled := held.settled earlierPtr exists_
    (by rw [answers.idempotencyKey]; exact earlierNonempty) grounded
    (.inl (moves.live exists_ live))
  rw [answers.idempotencyKey] at settled
  generalize movingEq : pool.threads mover = before at moves
  subst returns
  cases moves with
  | answer _ _ known =>
      rw [SessionStore.lookupKey_of_repeats nonempty repeats answers
        settled] at known
      exact (Option.some.inj known).symm
  | indexKey _ ptr =>
      -- the key of a session in flight has no entry
      have key := (held.flight _ _ _ _ movingEq).2.1.idempotencyKey
      have missing := held.missing ptr ⟨mover, by rw [movingEq]; rfl⟩
        (by rw [key]; exact nonempty)
      rw [key, repeats.idempotencyKey, settled] at missing
      cases missing

include held moves in
/-- An entry of the index by key changes when its session is swept. -/
theorem KeysHeld.ownEntry
    {key : String}
    {ptr : SessionPtr}
    (found : pool.shared.byIdempotency.lookup key = some ptr)
    (changed : next.byIdempotency.lookup key ≠ some ptr) :
    ∃ evicted pending,
      pool.threads mover = .droppingKey evicted ptr pending := by
  have change := moves.keyChange key
  generalize movingEq : pool.threads mover = before at change ⊢
  generalize next.byIdempotency.lookup key = entry at change changed
  cases change with
  | unchanged => exact absurd found changed
  | entered req other owns nonempty =>
      subst owns
      have missing := held.missing other ⟨mover, by rw [movingEq]; rfl⟩ nonempty
      rw [found] at missing
      cases missing
  | erased evicted other pending owns nonempty =>
      subst owns
      have member : other ∈ (pool.threads mover).pending := by
        rw [movingEq]
        exact List.mem_cons_self
      have own := held.pending_owner member nonempty found
      subst own
      exact ⟨evicted, pending, rfl⟩

end Held

/-- In the runs in which no creation misses a key while another session of that
key is on its way, keys are honoured. -/
theorem keysHonoured_of_serialised
    {guard : Pool SessionStore Frame → Nat × Input → Prop}
    (serialised : ∀ pool label, guard pool label → Serialised pool label) :
    KeysHonoured guard := by
  intro pool reachable
  have held := KeysHeld.of_reachable (reachable.mono serialised)
  refine ⟨held.oneLive, ?_⟩
  intro label later _ stepped
  obtain ⟨store, frame, moves, rfl⟩ := moves_of_step stepped
  constructor
  · intro req result earlier earlierReq earlierPtr returns returned nonempty
      repeats live
    simp only [Function.update_self] at returns
    exact held.sameSession moves returns returned nonempty repeats live
  · intro key ptr found changed
    exact held.ownEntry moves found changed

/-- A request under a key. -/
private def keyedRequest : OpenSessionParams :=
  ⟨"", "", "bucket", "object", .put, .gpuDirect, "", 0, 1, "key", false⟩

private def keyedDraw (number : UInt64) : Draw :=
  ⟨(0, number), (0, number), (0, number), "", 0⟩

private def emptyPool : Pool SessionStore Frame :=
  ⟨.init "gateway" 10, fun _ => .idle⟩

/-- The condition on creations, looking at three threads only. -/
private def serialisedBelow
    (pool : Pool SessionStore Frame)
    (label : Nat × Input) : Bool :=
  match label.2 with
  | .create req _ =>
      decide (∀ thread : Nat, thread < 3 →
        ∀ ptr ∈ (pool.threads thread).inFlight,
          (pool.shared.objects ptr).idempotencyKey ≠ req.idempotencyKey)
  | _ => true

private theorem serialised_of_below
    (pool : Pool SessionStore Frame)
    (label : Nat × Input)
    (rest : pool.RestAt 3 .idle)
    (holds : serialisedBelow pool label = true) :
    Serialised pool label := by
  intro req draw creates _ _
  simp only [serialisedBelow, creates, decide_eq_true_eq] at holds
  exact rest.forall
    (fun frame => ∀ ptr, frame.inFlight = some ptr →
      (pool.shared.objects ptr).idempotencyKey ≠ req.idempotencyKey)
    (by simp [Frame.inFlight]) holds

/-- A creation under a key, and a sweep that finds its session alive. -/
private def repeatedLabels : List (Nat × Input) :=
  [(0, .create keyedRequest (keyedDraw 1)), (0, .proceed), (0, .proceed),
    (0, .proceed), (1, .sweep 5),
    (1, .visit (makeRandomId "ses-" (0, 1))), (1, .proceed)]

private def repeated : Option (Pool SessionStore Frame) :=
  machine.run (fun pool label => serialisedBelow pool label) emptyPool
    repeatedLabels

private theorem repeated_isSome : repeated.isSome = true := by decide

/-- A second creation is answered with the session of the first. -/
theorem keysHonoured_repeated_request :
    ∃ pool later, machine.Reachable Serialised pool ∧
      machine.step pool (2, .create keyedRequest (keyedDraw 2)) =
        some later ∧
      ∃ result, later.threads 2 = .created keyedRequest result ∧
        result = .ok 0 := by
  obtain ⟨path, rest⟩ := Pool.path_of_run_below 3 .idle rfl
    serialised_of_below (fun _ _ => rfl) (by decide)
    (Option.some_get repeated_isSome).symm
  have reachable : machine.Reachable Serialised
      (repeated.get repeated_isSome) := ⟨_, _, ⟨"gateway", 10, rfl⟩, path⟩
  obtain ⟨_, honours⟩ := keysHonoured_of_serialised
    (fun _ _ serialised => serialised) _ reachable
  have honoured := honours (2, .create keyedRequest (keyedDraw 2)) _
    (serialised_of_below _ _ rest (by decide)) rfl
  refine ⟨_, _, reachable, rfl, _, rfl, ?_⟩
  exact honoured.sameSession keyedRequest _ 0 keyedRequest 0 rfl (by decide)
    (by decide) ⟨rfl, rfl, rfl, rfl⟩ (by decide)

/-- Two creations under one key, the first of which has returned and the second
of which has still to enter its key. -/
private def racedLabels : List (Nat × Input) :=
  [(0, .create keyedRequest (keyedDraw 1)),
    (1, .create keyedRequest (keyedDraw 2)), (0, .proceed), (0, .proceed),
    (0, .proceed), (1, .proceed), (1, .proceed)]

private def raced : Option (Pool SessionStore Frame) :=
  machine.run Machine.always emptyPool racedLabels

private theorem raced_isSome : raced.isSome = true := by decide

/-- Both creations miss the key, and each returns a session of its own. -/
theorem key_entered_twice : ¬KeysHonoured Machine.always := by
  intro claimed
  have reachable : machine.Reachable Machine.always (raced.get raced_isSome) :=
    .of_run ⟨"gateway", 10, rfl⟩ (Option.some_get raced_isSome).symm
  obtain ⟨_, honours⟩ := claimed _ reachable
  have honoured := honours (1, .proceed) _ trivial rfl
  have same := honoured.sameSession keyedRequest (.ok 1) 0 keyedRequest 0
    (by decide) (by decide) (by decide) ⟨rfl, rfl, rfl, rfl⟩ (by decide)
  cases same

end SessionPool
end Gateway
end TurboAccess
