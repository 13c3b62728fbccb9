import TurboAccess.Gateway.Session.Effects
import Mathlib.Data.Set.Card

/-!
# The three indexes of the session store

Every entry of an index points to a session that has the name it is entered
under.  As long as no new session takes the place of a registered one, the
sessions that a ticket or a key leads to are registered, so that a sweep reaches
all of them.  When moreover no two sessions ever share an identifier or a
ticket, the three indexes hold the same sessions, and a sweep removes from them
exactly the dead ones.
-/

namespace TurboAccess
namespace Gateway
namespace SessionStore

/-! ## Invariants -/

/-- Entries lead to sessions with the name they are entered under. -/
structure Named (store : SessionStore) : Prop where
  byId : ∀ sessionId ptr, store.byId.lookup sessionId = some ptr →
    ptr < store.allocated ∧ (store.objects ptr).sessionId = sessionId
  byTicket : ∀ ticket ptr, store.byTicket.lookup ticket = some ptr →
    ptr < store.allocated ∧ (store.objects ptr).ticket = ticket
  byIdempotency : ∀ key ptr, store.byIdempotency.lookup key = some ptr →
    ptr < store.allocated ∧ (store.objects ptr).idempotencyKey = key ∧
      key ≠ ""

/-- Tickets and keys lead to registered sessions. -/
structure Anchored (store : SessionStore) : Prop where
  byTicket : ∀ ticket ptr, store.byTicket.lookup ticket = some ptr →
    store.Registered ptr
  byIdempotency : ∀ key ptr, store.byIdempotency.lookup key = some ptr →
    store.Registered ptr

/-- Registered sessions are found by ticket and by key. -/
structure Indexed (store : SessionStore) : Prop where
  byTicket : ∀ ptr, store.Registered ptr →
    store.byTicket.lookup (store.objects ptr).ticket = some ptr
  byIdempotency : ∀ ptr, store.Registered ptr →
    (store.objects ptr).idempotencyKey ≠ "" →
      store.byIdempotency.lookup (store.objects ptr).idempotencyKey = some ptr

/-- A new session takes no identifier that is in use. -/
def Undisplacing (store : SessionStore) : Operation → Prop
  | .create req draw =>
      store.lookupKey req = none →
        store.byId.lookup (store.newSession req draw).sessionId = none
  | _ => True

instance (store : SessionStore) (operation : Operation) :
    Decidable (store.Undisplacing operation) :=
  match operation with
  | .create req draw =>
      inferInstanceAs (Decidable (store.lookupKey req = none →
        store.byId.lookup (store.newSession req draw).sessionId = none))
  | .find _ | .findByTicket _ | .claim _ | .markActive _ | .bumpActive _
  | .markCompleted _ | .markFailed _ | .sweepExpired _ _ => .isTrue trivial

/-- No two sessions share an identifier or a ticket. -/
def Distinct (store : SessionStore) : Prop :=
  ∀ first second, first < store.allocated → second < store.allocated →
    ((store.objects first).sessionId = (store.objects second).sessionId ∨
      (store.objects first).ticket = (store.objects second).ticket) →
        first = second

instance (store : SessionStore) : Decidable store.Distinct :=
  decidable_of_iff
    (∀ first < store.allocated, ∀ second < store.allocated,
      ((store.objects first).sessionId = (store.objects second).sessionId ∨
        (store.objects first).ticket = (store.objects second).ticket) →
          first = second)
    ⟨fun distinct first second firstOlder secondOlder =>
        distinct first firstOlder second secondOlder,
      fun distinct first firstOlder second secondOlder =>
        distinct first second firstOlder secondOlder⟩

/-! ## Preservation -/

variable {store next : SessionStore} {operation : Operation}

/-- A change of states keeps the names. -/
theorem Named.onlyStates
    (named : store.Named)
    (only : store.OnlyStates next) :
    next.Named := by
  constructor
  · intro sessionId ptr found
    rw [only.byId] at found
    rw [only.allocated, (only.objects ptr).sessionId]
    exact named.byId sessionId ptr found
  · intro ticket ptr found
    rw [only.byTicket] at found
    rw [only.allocated, (only.objects ptr).ticket]
    exact named.byTicket ticket ptr found
  · intro key ptr found
    rw [only.byIdempotency] at found
    rw [only.allocated, (only.objects ptr).idempotencyKey]
    exact named.byIdempotency key ptr found

/-- Operations enter sessions under their names. -/
theorem Named.executes
    (named : store.Named)
    (effect : Executes store operation next) :
    next.Named := by
  cases effect with
  | states _ _ only known => exact named.onlyStates only
  | created req draw missed =>
      constructor
      · intro sessionId ptr found
        rw [withSession_byId] at found
        rw [withSession_allocated]
        split at found
        · next own =>
            cases found
            exact ⟨Nat.lt_succ_self _, by rw [withSession_objects_self, own]⟩
        · obtain ⟨older, same⟩ := named.byId sessionId ptr found
          exact ⟨Nat.lt_succ_of_lt older,
            by rw [withSession_objects_of_lt older, same]⟩
      · intro ticket ptr found
        rw [withSession_byTicket] at found
        rw [withSession_allocated]
        split at found
        · next own =>
            cases found
            exact ⟨Nat.lt_succ_self _, by rw [withSession_objects_self, own]⟩
        · obtain ⟨older, same⟩ := named.byTicket ticket ptr found
          exact ⟨Nat.lt_succ_of_lt older,
            by rw [withSession_objects_of_lt older, same]⟩
      · intro key ptr found
        rw [withSession_byIdempotency] at found
        rw [withSession_allocated]
        split at found
        · next own =>
            cases found
            exact ⟨Nat.lt_succ_self _,
              by rw [withSession_objects_self, own.1]; rfl,
              own.2⟩
        · obtain ⟨older, same, nonempty⟩ := named.byIdempotency key ptr found
          exact ⟨Nat.lt_succ_of_lt older,
            by rw [withSession_objects_of_lt older, same], nonempty⟩
  | swept now order _ swept =>
      constructor
      · intro sessionId ptr found
        rw [swept.byId] at found
        obtain ⟨was, _⟩ := Option.filter_eq_some_iff.mp found
        rw [swept.allocated, (swept.sameButState ptr).sessionId]
        exact named.byId sessionId ptr was
      · intro ticket ptr found
        obtain ⟨was, _⟩ := (swept.byTicket ticket ptr).mp found
        rw [swept.allocated, (swept.sameButState ptr).ticket]
        exact named.byTicket ticket ptr was
      · intro key ptr found
        obtain ⟨was, _⟩ := (swept.byIdempotency key ptr).mp found
        rw [swept.allocated, (swept.sameButState ptr).idempotencyKey]
        exact named.byIdempotency key ptr was

theorem Named.of_reachable
    {guard : SessionStore → Operation → Prop}
    (reachable : machine.Reachable guard store) :
    store.Named := by
  refine reachable.invariant ?_ ?_
  · rintro start ⟨gatewayId, sessionTtl, rfl⟩
    constructor <;> simp [init]
  · intro state operation next named _ executed
    exact named.executes (executes_of_execute executed)

/-- States do not matter to registration. -/
theorem OnlyStates.registered_iff
    (only : store.OnlyStates next)
    (ptr : SessionPtr) :
    next.Registered ptr ↔ store.Registered ptr := by
  rw [Registered, Registered, only.byId]

/-- Operations keep tickets and keys anchored, unless a new session takes the
place of a registered one. -/
theorem Anchored.executes
    (anchored : store.Anchored)
    (named : store.Named)
    (undisplacing : store.Undisplacing operation)
    (effect : Executes store operation next) :
    next.Anchored := by
  cases effect with
  | states _ _ only known =>
      constructor
      · intro ticket ptr found
        rw [only.byTicket] at found
        exact (only.registered_iff ptr).mpr (anchored.byTicket ticket ptr found)
      · intro key ptr found
        rw [only.byIdempotency] at found
        exact (only.registered_iff ptr).mpr
          (anchored.byIdempotency key ptr found)
  | created req draw missed =>
      have unused := undisplacing missed
      constructor
      · intro ticket ptr found
        rw [withSession_byTicket] at found
        split at found
        · cases found
          exact registered_withSession_self
        · exact registered_withSession unused
            (anchored.byTicket ticket ptr found)
      · intro key ptr found
        rw [withSession_byIdempotency] at found
        split at found
        · cases found
          exact registered_withSession_self
        · exact registered_withSession unused
            (anchored.byIdempotency key ptr found)
  | swept now order _ swept =>
      -- a dead session would have taken its names with it
      constructor
      · intro ticket ptr found
        obtain ⟨was, unnamed⟩ := (swept.byTicket ticket ptr).mp found
        have registered := anchored.byTicket ticket ptr was
        refine (swept.registered_iff ptr).mpr ⟨registered, ?_⟩
        intro dead
        exact unnamed ptr registered dead (named.byTicket ticket ptr was).2
      · intro key ptr found
        obtain ⟨was, unnamed⟩ := (swept.byIdempotency key ptr).mp found
        have registered := anchored.byIdempotency key ptr was
        obtain ⟨_, owns, nonempty⟩ := named.byIdempotency key ptr was
        refine (swept.registered_iff ptr).mpr ⟨registered, ?_⟩
        intro dead
        exact unnamed nonempty ptr registered dead owns

/-- Operations keep registered sessions indexed, unless a new session takes a
ticket that is in use. -/
theorem Indexed.executes
    (indexed : store.Indexed)
    (named : store.Named)
    (unshared : ∀ req draw, operation = .create req draw →
      store.lookupKey req = none → ∀ ptr, ptr < store.allocated →
        (store.objects ptr).ticket ≠ (store.newSession req draw).ticket)
    (effect : Executes store operation next) :
    next.Indexed := by
  cases effect with
  | states _ _ only known =>
      constructor
      · intro ptr registered
        rw [only.byTicket, (only.objects ptr).ticket]
        exact indexed.byTicket ptr ((only.registered_iff ptr).mp registered)
      · intro ptr registered nonempty
        rw [only.byIdempotency, (only.objects ptr).idempotencyKey]
        rw [(only.objects ptr).idempotencyKey] at nonempty
        exact indexed.byIdempotency ptr
          ((only.registered_iff ptr).mp registered) nonempty
  | created req draw missed =>
      constructor
      · intro ptr registered
        rcases registered_of_withSession registered with rfl | was
        · rw [withSession_objects_self, withSession_byTicket, if_pos rfl]
        · obtain ⟨sessionId, found⟩ := was
          have older := (named.byId sessionId ptr found).1
          rw [withSession_objects_of_lt older, withSession_byTicket,
            if_neg (unshared req draw rfl missed ptr older)]
          exact indexed.byTicket ptr ⟨sessionId, found⟩
      · intro ptr registered nonempty
        rcases registered_of_withSession registered with rfl | was
        · rw [withSession_objects_self] at nonempty ⊢
          rw [withSession_byIdempotency, if_pos ⟨rfl, nonempty⟩]
        · obtain ⟨sessionId, found⟩ := was
          have older := (named.byId sessionId ptr found).1
          rw [withSession_objects_of_lt older] at nonempty ⊢
          have present := indexed.byIdempotency ptr ⟨sessionId, found⟩ nonempty
          rw [withSession_byIdempotency, if_neg]
          · exact present
          · rintro ⟨own, _⟩
            rw [own] at present nonempty
            rw [byIdempotency_of_missed missed nonempty] at present
            cases present
  | swept now order _ swept =>
      -- a session that shares the name is the session itself
      constructor
      · intro ptr registered
        obtain ⟨was, alive⟩ := (swept.registered_iff ptr).mp registered
        rw [(swept.sameButState ptr).ticket]
        refine (swept.byTicket _ ptr).mpr ⟨indexed.byTicket ptr was, ?_⟩
        intro other otherRegistered dead same
        have otherIndexed := indexed.byTicket other otherRegistered
        rw [same, indexed.byTicket ptr was] at otherIndexed
        cases otherIndexed
        exact alive dead
      · intro ptr registered nonempty
        obtain ⟨was, alive⟩ := (swept.registered_iff ptr).mp registered
        rw [(swept.sameButState ptr).idempotencyKey] at nonempty ⊢
        have present := indexed.byIdempotency ptr was nonempty
        refine (swept.byIdempotency _ ptr).mpr ⟨present, ?_⟩
        intro _ other otherRegistered dead same
        have otherIndexed := indexed.byIdempotency other otherRegistered
          (by rw [same]; exact nonempty)
        rw [same, present] at otherIndexed
        cases otherIndexed
        exact alive dead

/-! ## Runs with distinct names -/

/-- Operations never take a session's name away, so that names that are
distinct after an operation were so before. -/
theorem Distinct.of_executes
    (distinct : next.Distinct)
    (effect : Executes store operation next) :
    store.Distinct := by
  intro first second firstOlder secondOlder same
  cases effect with
  | states _ _ only known =>
      refine distinct first second ?_ ?_ ?_
      · rwa [only.allocated]
      · rwa [only.allocated]
      · rwa [(only.objects first).sessionId, (only.objects second).sessionId,
          (only.objects first).ticket, (only.objects second).ticket]
  | created req draw missed =>
      refine distinct first second ?_ ?_ ?_
      · rw [withSession_allocated]
        exact Nat.lt_succ_of_lt firstOlder
      · rw [withSession_allocated]
        exact Nat.lt_succ_of_lt secondOlder
      · rwa [withSession_objects_of_lt firstOlder,
          withSession_objects_of_lt secondOlder]
  | swept now order _ swept =>
      refine distinct first second ?_ ?_ ?_
      · rwa [swept.allocated]
      · rwa [swept.allocated]
      · rwa [(swept.sameButState first).sessionId,
          (swept.sameButState second).sessionId,
          (swept.sameButState first).ticket, (swept.sameButState second).ticket]

/-- A new session whose names stay distinct has names that no session has. -/
theorem Distinct.fresh
    {req : OpenSessionParams}
    {draw : Draw}
    {ptr : SessionPtr}
    (distinct : (store.withSession req draw).Distinct)
    (older : ptr < store.allocated) :
    (store.objects ptr).sessionId ≠ (store.newSession req draw).sessionId ∧
      (store.objects ptr).ticket ≠ (store.newSession req draw).ticket := by
  have apart := distinct ptr store.allocated
    (by rw [withSession_allocated]; exact Nat.lt_succ_of_lt older)
    (by rw [withSession_allocated]; exact Nat.lt_succ_self _)
  rw [withSession_objects_of_lt older, withSession_objects_self] at apart
  constructor
  · intro same
    exact Nat.ne_of_lt older (apart (.inl same))
  · intro same
    exact Nat.ne_of_lt older (apart (.inr same))

/-- A creation after which names are distinct took new ones. -/
theorem Distinct.fresh_of_executes
    (distinct : next.Distinct)
    (effect : Executes store operation next)
    {req : OpenSessionParams}
    {draw : Draw}
    (creates : operation = .create req draw)
    (missed : store.lookupKey req = none)
    {ptr : SessionPtr}
    (older : ptr < store.allocated) :
    (store.objects ptr).sessionId ≠ (store.newSession req draw).sessionId ∧
      (store.objects ptr).ticket ≠ (store.newSession req draw).ticket := by
  subst creates
  cases effect with
  | states _ _ only known => exact absurd missed (known req draw rfl)
  | created => exact distinct.fresh older

/-- With distinct names all indexes hold the same sessions. -/
theorem anchored_and_indexed
    (reachable : machine.Reachable Machine.always store)
    (distinct : store.Distinct) :
    store.Anchored ∧ store.Indexed := by
  let property : SessionStore → Prop := fun store =>
    store.Distinct → store.Anchored ∧ store.Indexed
  have holds : property store := by
    refine reachable.induction ?_ ?_
    · rintro start ⟨gatewayId, sessionTtl, rfl⟩ _
      constructor <;> constructor <;> simp [init, Registered]
    · intro state operation next reached before _ executed distinct
      have effect := executes_of_execute executed
      have named := Named.of_reachable reached
      obtain ⟨anchored, indexed⟩ := before (distinct.of_executes effect)
      constructor
      · refine anchored.executes named ?_ effect
        cases operation with
        | create req draw =>
            intro missed
            cases found :
                state.byId.lookup (state.newSession req draw).sessionId with
            | none => rfl
            | some ptr =>
                obtain ⟨older, same⟩ := named.byId _ _ found
                have fresh := distinct.fresh_of_executes effect rfl missed older
                exact absurd same fresh.1
        | find | findByTicket | claim | markActive | bumpActive
        | markCompleted | markFailed | sweepExpired => trivial
      · refine indexed.executes named ?_ effect
        intro req draw creates missed ptr older
        exact (distinct.fresh_of_executes effect creates missed older).2
  exact holds distinct

/-! ## The theorem -/

/-- A session is in the index by ticket. -/
def Ticketed (store : SessionStore) (ptr : SessionPtr) : Prop :=
  ∃ ticket, store.byTicket.lookup ticket = some ptr

/-- A session is in the index by key. -/
def Keyed (store : SessionStore) (ptr : SessionPtr) : Prop :=
  ∃ key, store.byIdempotency.lookup key = some ptr

/-- The three indexes hold the same sessions. -/
structure Coherent (store : SessionStore) : Prop where
  ticketed : ∀ ptr, store.Registered ptr ↔ store.Ticketed ptr
  keyed : ∀ ptr, (store.objects ptr).idempotencyKey ≠ "" →
    (store.Registered ptr ↔
      store.byIdempotency.lookup (store.objects ptr).idempotencyKey = some ptr)
  unkeyed : ∀ ptr, (store.objects ptr).idempotencyKey = "" → ¬store.Keyed ptr

/-- A sweep that removes exactly the dead sessions, counts them, marks those
that have run out of time, and leaves all others as they are. -/
structure SweepsExactly
    (store : SessionStore)
    (now evicted : Nat)
    (next : SessionStore) : Prop where
  registered : ∀ ptr, next.Registered ptr ↔
    store.Registered ptr ∧ ¬(store.objects ptr).Dead now
  ticketed : ∀ ptr, next.Ticketed ptr ↔
    store.Ticketed ptr ∧ ¬(store.objects ptr).Dead now
  keyed : ∀ ptr, next.Keyed ptr ↔
    store.Keyed ptr ∧ ¬(store.objects ptr).Dead now
  counted : evicted =
    Set.ncard {ptr | store.Registered ptr ∧ (store.objects ptr).Dead now}
  marked : ∀ ptr, store.Registered ptr → (store.objects ptr).Dead now →
    (next.objects ptr).state =
      if (store.objects ptr).Terminal then (store.objects ptr).state
      else .expired
  untouched : ∀ ptr,
    ¬(store.Registered ptr ∧ (store.objects ptr).Dead now) →
      next.objects ptr = store.objects ptr
  findable : ∀ ptr, store.Registered ptr → ¬(store.objects ptr).Dead now →
    next.find (next.objects ptr).sessionId = .ok ptr

/-- Entries with names of their own lead to different sessions. -/
theorem Named.dueAt_inj
    {now : Nat}
    {first second : String}
    {ptr : SessionPtr}
    (named : store.Named)
    (firstDue : store.dueAt now first = some ptr)
    (secondDue : store.dueAt now second = some ptr) :
    first = second := by
  have firstFound := (Option.filter_eq_some_iff.mp firstDue).1
  have secondFound := (Option.filter_eq_some_iff.mp secondDue).1
  rw [← (named.byId first ptr firstFound).2,
    (named.byId second ptr secondFound).2]

/-- A sweep counts the sessions it removes. -/
theorem fst_sweepExpired
    {order : List String}
    (now : Nat)
    (named : store.Named)
    (enumerates : store.Enumerates order) :
    (store.sweepExpired now order).1 =
      Set.ncard {ptr | store.Registered ptr ∧ (store.objects ptr).Dead now} := by
  have once : (sweepIds now order store).1.Nodup := by
    rw [fst_sweepIds now store enumerates.1]
    apply enumerates.1.filterMap
    intro first second ptr firstDue secondDue
    exact named.dueAt_inj firstDue secondDue
  have same : {ptr | store.Registered ptr ∧ (store.objects ptr).Dead now} =
      ((sweepIds now order store).1.toFinset : Set SessionPtr) := by
    ext ptr
    rw [List.coe_toFinset]
    exact (mem_fst_sweepIds enumerates ptr).symm
  rw [same, Set.ncard_coe_finset, List.toFinset_card_of_nodup once]
  rfl

/-- A sweep of coherent indexes is exact. -/
theorem sweepsExactly_sweepExpired
    {order : List String}
    (now : Nat)
    (named : store.Named)
    (anchored : store.Anchored)
    (indexed : store.Indexed)
    (enumerates : store.Enumerates order) :
    store.SweepsExactly now (store.sweepExpired now order).1
      (store.sweepExpired now order).2 := by
  have swept := swept_sweepExpired now enumerates
  have effect : Executes store (.sweepExpired now order) _ :=
    .swept now order _ swept
  have undisplacing : store.Undisplacing (.sweepExpired now order) := trivial
  have names := named.executes effect
  have anchors := anchored.executes named undisplacing effect
  have indexes := indexed.executes named (by simp) effect
  constructor
  case registered => exact swept.registered_iff
  case ticketed =>
    intro ptr
    constructor
    · rintro ⟨ticket, found⟩
      have was := ((swept.byTicket ticket ptr).mp found).1
      have stays := anchors.byTicket ticket ptr found
      exact ⟨⟨ticket, was⟩, ((swept.registered_iff ptr).mp stays).2⟩
    · rintro ⟨⟨ticket, found⟩, alive⟩
      have registered := anchored.byTicket ticket ptr found
      exact ⟨_, indexes.byTicket ptr
        ((swept.registered_iff ptr).mpr ⟨registered, alive⟩)⟩
  case keyed =>
    intro ptr
    constructor
    · rintro ⟨key, found⟩
      have was := ((swept.byIdempotency key ptr).mp found).1
      have stays := anchors.byIdempotency key ptr found
      exact ⟨⟨key, was⟩, ((swept.registered_iff ptr).mp stays).2⟩
    · rintro ⟨⟨key, found⟩, alive⟩
      have registered := anchored.byIdempotency key ptr found
      obtain ⟨_, owns, nonempty⟩ := named.byIdempotency key ptr found
      refine ⟨_, indexes.byIdempotency ptr
        ((swept.registered_iff ptr).mpr ⟨registered, alive⟩) ?_⟩
      rw [(swept.sameButState ptr).idempotencyKey, owns]
      exact nonempty
  case counted => exact fst_sweepExpired now named enumerates
  case marked =>
    intro ptr registered dead
    rw [swept.visited ptr registered, Session.state_expireIfDue]
    by_cases terminal : (store.objects ptr).Terminal
    · simp [terminal]
    · have due : (store.objects ptr).expireDeadline ≤ now :=
        dead.resolve_right terminal
      simp [terminal, due]
  case untouched =>
    intro ptr spared
    by_cases registered : store.Registered ptr
    · rw [swept.visited ptr registered]
      apply Session.expireIfDue_of_not_dead
      intro dead
      exact spared ⟨registered, dead⟩
    · exact swept.unvisited ptr registered
  case findable =>
    intro ptr registered alive
    obtain ⟨sessionId, found⟩ :=
      (swept.registered_iff ptr).mpr ⟨registered, alive⟩
    rw [find, (names.byId sessionId ptr found).2, found]

/-- Whatever operations came before, if no two sessions share an identifier or
a ticket, the three indexes hold the same sessions, and a sweep is exact. -/
theorem coherent_and_sweepsExactly
    (reachable : machine.Reachable Machine.always store)
    (distinct : store.Distinct) :
    store.Coherent ∧
      ∀ now order, store.Enumerates order →
        store.SweepsExactly now (store.sweepExpired now order).1
          (store.sweepExpired now order).2 := by
  have named := Named.of_reachable reachable
  obtain ⟨anchored, indexed⟩ := anchored_and_indexed reachable distinct
  refine ⟨⟨?_, ?_, ?_⟩, ?_⟩
  · intro ptr
    constructor
    · intro registered
      exact ⟨_, indexed.byTicket ptr registered⟩
    · rintro ⟨ticket, found⟩
      exact anchored.byTicket ticket ptr found
  · intro ptr nonempty
    constructor
    · intro registered
      exact indexed.byIdempotency ptr registered nonempty
    · exact anchored.byIdempotency _ ptr
  · rintro ptr empty ⟨key, found⟩
    obtain ⟨_, owns, nonempty⟩ := named.byIdempotency key ptr found
    exact nonempty (owns.symm.trans empty)
  · intro now order enumerates
    exact sweepsExactly_sweepExpired now named anchored indexed enumerates

/-- Two sessions created five ticks apart, for ten ticks each. -/
private def twoSessions : SessionStore :=
  let request (sessionId key : String) : OpenSessionParams :=
    ⟨sessionId, "", "bucket", "object", .put, .gpuDirect, "", 0, 1, key, false⟩
  let draw (number : UInt64) (now : Nat) : Draw :=
    ⟨(0, 0), (0, 0), (0, number), "", now⟩
  (((init "gateway" 10).create (request "first" "key") (draw 1 0)).2.create
    (request "second" "") (draw 2 5)).2

/-- The first session has run out of time, the second has not. -/
theorem coherent_and_sweepsExactly_twoSessions :
    twoSessions.Coherent ∧
      (twoSessions.sweepExpired 12 ["first", "second"]).1 = 1 ∧
      twoSessions.SweepsExactly 12
        (twoSessions.sweepExpired 12 ["first", "second"]).1
        (twoSessions.sweepExpired 12 ["first", "second"]).2 := by
  have reachable : machine.Reachable Machine.always twoSessions :=
    ⟨init "gateway" 10, [.create _ _, .create _ _], ⟨"gateway", 10, rfl⟩,
      .cons trivial rfl (.cons trivial rfl .nil)⟩
  obtain ⟨coherent, sweeps⟩ :=
    coherent_and_sweepsExactly reachable (by decide)
  exact ⟨coherent, by decide, sweeps 12 ["first", "second"] (by decide)⟩

end SessionStore
end Gateway
end TurboAccess
