import TurboAccess.Gateway.Session.SessionStore

/-!
# What one operation of the session store can change

A sweep is looked at once: which entries of the three indexes it takes out, and
what it leaves of the sessions.  `Executes` then lists the effects of an
operation: the states of sessions and nothing else, a new session in all
indexes, or a sweep.
-/

namespace TurboAccess
namespace Gateway

namespace Session

/-! ## Expiry of one session -/

/-- Two sessions that differ at most in their state. -/
def SameButState (left right : Session) : Prop :=
  ∃ state, right = { left with state }

theorem SameButState.refl (session : Session) : session.SameButState session :=
  ⟨session.state, rfl⟩

theorem sameButState_expireIfDue (now : Nat) (session : Session) :
    session.SameButState (session.expireIfDue now) := by
  rw [expireIfDue]
  split
  · exact ⟨.expired, rfl⟩
  · exact .refl session

namespace SameButState

variable {left right : Session}

theorem sessionId (same : left.SameButState right) :
    right.sessionId = left.sessionId := by
  obtain ⟨state, rfl⟩ := same
  rfl

theorem ticket (same : left.SameButState right) :
    right.ticket = left.ticket := by
  obtain ⟨state, rfl⟩ := same
  rfl

theorem idempotencyKey (same : left.SameButState right) :
    right.idempotencyKey = left.idempotencyKey := by
  obtain ⟨state, rfl⟩ := same
  rfl

theorem expireDeadline (same : left.SameButState right) :
    right.expireDeadline = left.expireDeadline := by
  obtain ⟨state, rfl⟩ := same
  rfl

end SameButState

/-- The state a sweep leaves a session in. -/
theorem state_expireIfDue (now : Nat) (session : Session) :
    (session.expireIfDue now).state =
      if session.expireDeadline ≤ now ∧ ¬session.Terminal then .expired
      else session.state := by
  rw [expireIfDue]
  split <;> rfl

/-- A session that a sweep has visited is as dead as before. -/
@[simp] theorem dead_expireIfDue (now : Nat) (session : Session) :
    (session.expireIfDue now).Dead now ↔ session.Dead now := by
  rw [expireIfDue]
  split
  · next due => simp [Dead, due.1]
  · rfl

/-- Visiting a session twice is visiting it once. -/
@[simp] theorem expireIfDue_expireIfDue (now : Nat) (session : Session) :
    (session.expireIfDue now).expireIfDue now = session.expireIfDue now := by
  by_cases due : session.expireDeadline ≤ now ∧ ¬session.Terminal
  · have once : session.expireIfDue now = { session with state := .expired } :=
      if_pos due
    rw [once]
    exact if_pos ⟨due.1, by simp [Terminal]⟩
  · have once : session.expireIfDue now = session := if_neg due
    rw [once, once]

/-- A session that is not dead is left alone. -/
theorem expireIfDue_of_not_dead
    {now : Nat}
    {session : Session}
    (alive : ¬session.Dead now) :
    session.expireIfDue now = session := by
  apply if_neg
  rintro ⟨due, _⟩
  exact alive (.inl due)

end Session

namespace SessionStore

/-! ## The first pass of a sweep -/

/-- The session under an identifier, if a sweep removes it. -/
def dueAt (store : SessionStore) (now : Nat) (sessionId : String) :
    Option SessionPtr :=
  (store.byId.lookup sessionId).filter fun ptr =>
    decide ((store.objects ptr).Dead now)

/-- A visit removes the session under an identifier when it is dead. -/
theorem sweepOne_cases
    (store : SessionStore)
    (now : Nat)
    (sessionId : String) :
    (store.dueAt now sessionId = none ∧
        store.sweepOne now sessionId = (none, store)) ∨
      ∃ ptr, store.byId.lookup sessionId = some ptr ∧
        (store.objects ptr).Dead now ∧
        store.dueAt now sessionId = some ptr ∧
        store.sweepOne now sessionId =
          (some ptr,
            { store with
              byId := store.byId.erase sessionId
              objects := Function.update store.objects ptr
                ((store.objects ptr).expireIfDue now) }) := by
  cases found : store.byId.lookup sessionId with
  | none =>
      left
      simp [dueAt, sweepOne, found]
  | some ptr =>
      by_cases dead : (store.objects ptr).Dead now
      · right
        exact ⟨ptr, rfl, dead, by simp [dueAt, found, dead],
          by simp [sweepOne, found, dead]⟩
      · left
        simp [dueAt, sweepOne, found, dead]

/-- A visit leaves dead sessions dead and live ones alive. -/
theorem dead_sweepOne
    (store : SessionStore)
    (now : Nat)
    (sessionId : String)
    (ptr : SessionPtr) :
    ((store.sweepOne now sessionId).2.objects ptr).Dead now ↔
      (store.objects ptr).Dead now := by
  rcases store.sweepOne_cases now sessionId with
    ⟨_, same⟩ | ⟨found, _, _, _, removed⟩
  · rw [same]
  · rw [removed]
    by_cases own : ptr = found
    · subst own
      simp
    · simp [Function.update_of_ne own]

/-- A visit concerns the entry it visits. -/
theorem byId_sweepOne
    (store : SessionStore)
    (now : Nat)
    (sessionId other : String) :
    (store.sweepOne now sessionId).2.byId.lookup other =
      if other = sessionId then
        (store.byId.lookup other).filter fun ptr =>
          decide ¬(store.objects ptr).Dead now
      else store.byId.lookup other := by
  rcases store.sweepOne_cases now sessionId with
    ⟨none, same⟩ | ⟨found, present, dead, _, removed⟩
  · rw [same]
    split
    · next own =>
        subst own
        cases present : store.byId.lookup other with
        | none => rfl
        | some ptr =>
            have alive : ¬(store.objects ptr).Dead now := by
              simpa [dueAt, present] using none
            simp [Option.filter_some, alive]
    · rfl
  · rw [removed]
    simp only [Table.lookup_erase_eq]
    split
    · next own =>
        subst own
        simp [Option.filter_some, present, dead]
    · rfl

/-- What a visit leaves of a session. -/
theorem objects_sweepOne
    (store : SessionStore)
    (now : Nat)
    (sessionId : String)
    (ptr : SessionPtr) :
    (store.sweepOne now sessionId).2.objects ptr =
      if store.byId.lookup sessionId = some ptr then
        (store.objects ptr).expireIfDue now
      else store.objects ptr := by
  rcases store.sweepOne_cases now sessionId with
    ⟨none, same⟩ | ⟨found, present, dead, _, removed⟩
  · rw [same]
    split
    · next present =>
        have alive : ¬(store.objects ptr).Dead now := by
          simpa [dueAt, present] using none
        rw [Session.expireIfDue_of_not_dead alive]
    · rfl
  · rw [removed, present]
    by_cases own : ptr = found
    · subst own
      simp
    · simp [Function.update_of_ne own, Ne.symm own]

/-- A visit leaves the other two indexes alone, and allocates nothing. -/
theorem sweepOne_frame
    (store : SessionStore)
    (now : Nat)
    (sessionId : String) :
    (store.sweepOne now sessionId).2 =
      { store with
        byId := (store.sweepOne now sessionId).2.byId
        objects := (store.sweepOne now sessionId).2.objects } := by
  rcases store.sweepOne_cases now sessionId with
    ⟨_, same⟩ | ⟨found, _, _, _, removed⟩
  · rw [same]
  · rw [removed]

/-- The first pass leaves the other two indexes alone, and allocates
nothing. -/
theorem sweepIds_frame
    (now : Nat)
    (order : List String)
    (store : SessionStore) :
    (sweepIds now order store).2 =
      { store with
        byId := (sweepIds now order store).2.byId
        objects := (sweepIds now order store).2.objects } := by
  induction order generalizing store with
  | nil => rfl
  | cons sessionId rest inductionHypothesis =>
      have first := store.sweepOne_frame now sessionId
      have later := inductionHypothesis (store.sweepOne now sessionId).2
      rw [sweepIds]
      rw [later, first]

/-- The entries that the first pass leaves. -/
theorem byId_sweepIds
    (now : Nat)
    {order : List String}
    (store : SessionStore)
    (other : String) :
    (sweepIds now order store).2.byId.lookup other =
      if other ∈ order then
        (store.byId.lookup other).filter fun ptr =>
          decide ¬(store.objects ptr).Dead now
      else store.byId.lookup other := by
  induction order generalizing store with
  | nil => simp [sweepIds]
  | cons sessionId rest inductionHypothesis =>
      rw [sweepIds]
      dsimp only
      rw [inductionHypothesis]
      simp only [dead_sweepOne, byId_sweepOne, List.mem_cons]
      by_cases own : other = sessionId
      · subst own
        simp only [↓reduceIte, true_or, Option.filter_filter, Bool.and_self,
          ite_self]
      · simp only [own, ↓reduceIte, false_or]

/-- The sessions that the first pass removes, in the order of its visits. -/
theorem fst_sweepIds
    (now : Nat)
    {order : List String}
    (store : SessionStore)
    (once : order.Nodup) :
    (sweepIds now order store).1 = order.filterMap (store.dueAt now) := by
  induction order generalizing store with
  | nil => rfl
  | cons sessionId rest inductionHypothesis =>
      obtain ⟨fresh, once⟩ := List.nodup_cons.mp once
      rw [sweepIds]
      dsimp only
      rw [inductionHypothesis _ once]
      -- the entries still to be visited are as before
      have later : rest.filterMap
            ((store.sweepOne now sessionId).2.dueAt now) =
          rest.filterMap (store.dueAt now) := by
        apply List.filterMap_congr
        intro other member
        have different : other ≠ sessionId := by
          rintro rfl
          exact fresh member
        simp only [dueAt, byId_sweepOne, if_neg different, dead_sweepOne]
      rw [later, List.filterMap_cons]
      rcases store.sweepOne_cases now sessionId with
        ⟨none, same⟩ | ⟨found, _, _, due, removed⟩
      · rw [none, same]
        rfl
      · rw [due, removed]
        rfl

/-- What the first pass leaves of a session. -/
theorem objects_sweepIds
    (now : Nat)
    {order : List String}
    (store : SessionStore)
    (once : order.Nodup)
    (ptr : SessionPtr) :
    (sweepIds now order store).2.objects ptr =
      if ∃ sessionId ∈ order, store.byId.lookup sessionId = some ptr then
        (store.objects ptr).expireIfDue now
      else store.objects ptr := by
  induction order generalizing store with
  | nil => simp [sweepIds]
  | cons sessionId rest inductionHypothesis =>
      obtain ⟨fresh, once⟩ := List.nodup_cons.mp once
      rw [sweepIds]
      dsimp only
      rw [inductionHypothesis _ once]
      have later : (∃ other ∈ rest,
            (store.sweepOne now sessionId).2.byId.lookup other = some ptr) ↔
          ∃ other ∈ rest, store.byId.lookup other = some ptr := by
        constructor <;>
        · rintro ⟨other, member, found⟩
          have different : other ≠ sessionId := by
            rintro rfl
            exact fresh member
          refine ⟨other, member, ?_⟩
          simpa [byId_sweepOne, different] using found
      simp only [later, objects_sweepOne, List.mem_cons, exists_eq_or_imp]
      by_cases first : store.byId.lookup sessionId = some ptr
      · simp [first]
      · simp [first]

/-! ## The second pass -/

/-- Erasing a key leaves everything but the index by key alone. -/
theorem dropKey_frame (store : SessionStore) (ptr : SessionPtr) :
    store.dropKey ptr =
      { store with byIdempotency := (store.dropKey ptr).byIdempotency } := by
  rw [dropKey]
  split <;> rfl

/-- The entry of a key after the key of a session is erased. -/
theorem byIdempotency_dropKey
    (store : SessionStore)
    (ptr : SessionPtr)
    (key : String) :
    (store.dropKey ptr).byIdempotency.lookup key =
      if key ≠ "" ∧ (store.objects ptr).idempotencyKey = key then none
      else store.byIdempotency.lookup key := by
  rw [dropKey]
  split
  · next empty =>
      rw [empty]
      split
      · next own => exact absurd own.2.symm own.1
      · rfl
  · next named =>
      simp only [Table.lookup_erase_eq]
      by_cases own : (store.objects ptr).idempotencyKey = key
      · subst own
        simp [named]
      · simp [own, Ne.symm own]

/-- The second pass takes names out of two indexes. -/
theorem dropAll_frame (expired : List SessionPtr) (store : SessionStore) :
    dropAll expired store =
      { store with
        byTicket := (dropAll expired store).byTicket
        byIdempotency := (dropAll expired store).byIdempotency } := by
  induction expired generalizing store with
  | nil => rfl
  | cons ptr rest inductionHypothesis =>
      rw [dropAll, inductionHypothesis, dropKey_frame]
      rfl

theorem byTicket_dropAll
    (expired : List SessionPtr)
    (store : SessionStore)
    (ticket : String) :
    (dropAll expired store).byTicket.lookup ticket =
      if ∃ ptr ∈ expired, (store.objects ptr).ticket = ticket then none
      else store.byTicket.lookup ticket := by
  induction expired generalizing store with
  | nil => simp [dropAll]
  | cons ptr rest inductionHypothesis =>
      rw [dropAll, inductionHypothesis, dropKey_frame]
      simp only [dropTicket, Table.lookup_erase_eq, List.mem_cons,
        exists_eq_or_imp, eq_comm (a := ticket)]
      by_cases own : (store.objects ptr).ticket = ticket <;> simp [own]

theorem byIdempotency_dropAll
    (expired : List SessionPtr)
    (store : SessionStore)
    (key : String) :
    (dropAll expired store).byIdempotency.lookup key =
      if key ≠ "" ∧
          ∃ ptr ∈ expired, (store.objects ptr).idempotencyKey = key then none
      else store.byIdempotency.lookup key := by
  induction expired generalizing store with
  | nil => simp [dropAll]
  | cons ptr rest inductionHypothesis =>
      have objects : ((store.dropTicket ptr).dropKey ptr).objects =
          store.objects := by
        rw [dropKey_frame]
        rfl
      rw [dropAll, inductionHypothesis, objects, byIdempotency_dropKey]
      simp only [dropTicket, List.mem_cons, exists_eq_or_imp]
      by_cases empty : key = ""
      · simp [empty]
      · by_cases own : (store.objects ptr).idempotencyKey = key <;>
          simp [own, empty]

/-! ## A whole sweep -/

/-- A session is in the index by identifier. -/
def Registered (store : SessionStore) (ptr : SessionPtr) : Prop :=
  ∃ sessionId, store.byId.lookup sessionId = some ptr

/-- What a sweep does. -/
structure Swept (now : Nat) (store next : SessionStore) : Prop where
  byId : ∀ sessionId, next.byId.lookup sessionId =
    (store.byId.lookup sessionId).filter fun ptr =>
      decide ¬(store.objects ptr).Dead now
  byTicket : ∀ ticket ptr, next.byTicket.lookup ticket = some ptr ↔
    store.byTicket.lookup ticket = some ptr ∧
      ∀ other, store.Registered other → (store.objects other).Dead now →
        (store.objects other).ticket ≠ ticket
  byIdempotency : ∀ key ptr, next.byIdempotency.lookup key = some ptr ↔
    store.byIdempotency.lookup key = some ptr ∧
      (key ≠ "" → ∀ other, store.Registered other →
        (store.objects other).Dead now →
          (store.objects other).idempotencyKey ≠ key)
  visited : ∀ ptr, store.Registered ptr →
    next.objects ptr = (store.objects ptr).expireIfDue now
  unvisited : ∀ ptr, ¬store.Registered ptr →
    next.objects ptr = store.objects ptr
  gatewayId : next.gatewayId = store.gatewayId
  sessionTtl : next.sessionTtl = store.sessionTtl
  allocated : next.allocated = store.allocated

/-- An enumeration lists the entries. -/
theorem Enumerates.mem_iff
    {store : SessionStore}
    {order : List String}
    (enumerates : store.Enumerates order)
    (sessionId : String) :
    sessionId ∈ order ↔ ∃ ptr, store.byId.lookup sessionId = some ptr := by
  rw [← List.mem_toFinset, enumerates.2, Finmap.mem_keys,
    ← Finmap.lookup_isSome, Option.isSome_iff_exists]

/-- The sessions that a sweep removes are the registered dead ones. -/
theorem mem_fst_sweepIds
    {store : SessionStore}
    {now : Nat}
    {order : List String}
    (enumerates : store.Enumerates order)
    (ptr : SessionPtr) :
    ptr ∈ (sweepIds now order store).1 ↔
      store.Registered ptr ∧ (store.objects ptr).Dead now := by
  rw [fst_sweepIds now store enumerates.1, List.mem_filterMap]
  constructor
  · rintro ⟨sessionId, _, due⟩
    obtain ⟨found, dead⟩ := Option.filter_eq_some_iff.mp due
    exact ⟨⟨sessionId, found⟩, by simpa using dead⟩
  · rintro ⟨⟨sessionId, found⟩, dead⟩
    refine ⟨sessionId, (enumerates.mem_iff sessionId).mpr ⟨ptr, found⟩, ?_⟩
    simp [dueAt, found, dead]

/-- The first pass of a sweep leaves the names of a session alone. -/
theorem sameButState_sweepIds
    (now : Nat)
    {order : List String}
    (store : SessionStore)
    (once : order.Nodup)
    (ptr : SessionPtr) :
    (store.objects ptr).SameButState
      ((sweepIds now order store).2.objects ptr) := by
  rw [objects_sweepIds now store once]
  split
  · exact Session.sameButState_expireIfDue now _
  · exact .refl _

/-- The names that the second pass of a sweep erases are those of the registered
dead sessions. -/
theorem removedName_iff
    {store : SessionStore}
    {now : Nat}
    {order : List String}
    (enumerates : store.Enumerates order)
    {name : Session → String}
    (kept : ∀ ptr, name ((sweepIds now order store).2.objects ptr) =
      name (store.objects ptr))
    (text : String) :
    (∃ ptr ∈ (sweepIds now order store).1,
        name ((sweepIds now order store).2.objects ptr) = text) ↔
      ∃ ptr, store.Registered ptr ∧ (store.objects ptr).Dead now ∧
        name (store.objects ptr) = text := by
  simp only [mem_fst_sweepIds enumerates, kept, and_assoc]

/-- A sweep is its two passes. -/
theorem snd_sweepExpired
    (store : SessionStore)
    (now : Nat)
    (order : List String) :
    (store.sweepExpired now order).2 =
      dropAll (sweepIds now order store).1 (sweepIds now order store).2 := rfl

/-- A sweep does what is listed. -/
theorem swept_sweepExpired
    {store : SessionStore}
    {order : List String}
    (now : Nat)
    (enumerates : store.Enumerates order) :
    Swept now store (store.sweepExpired now order).2 := by
  have frame := sweepIds_frame now order store
  have visits : ∀ ptr,
      (∃ sessionId ∈ order, store.byId.lookup sessionId = some ptr) ↔
        store.Registered ptr := by
    intro ptr
    constructor
    · rintro ⟨sessionId, _, found⟩
      exact ⟨sessionId, found⟩
    · rintro ⟨sessionId, found⟩
      exact ⟨sessionId, (enumerates.mem_iff sessionId).mpr ⟨ptr, found⟩, found⟩
  have same := sameButState_sweepIds now store enumerates.1
  have objects : (store.sweepExpired now order).2.objects =
      (sweepIds now order store).2.objects := by
    rw [snd_sweepExpired, dropAll_frame]
  constructor
  case byId =>
    intro sessionId
    rw [snd_sweepExpired, dropAll_frame]
    dsimp only
    rw [byId_sweepIds]
    split
    · rfl
    · next absent =>
        rw [enumerates.mem_iff, ← Option.isSome_iff_exists,
          Option.not_isSome_iff_eq_none] at absent
        rw [absent]
        rfl
  case byTicket =>
    intro ticket ptr
    have tickets : (sweepIds now order store).2.byTicket = store.byTicket := by
      rw [frame]
    rw [snd_sweepExpired, byTicket_dropAll, tickets,
      Option.ite_none_left_eq_some,
      removedName_iff enumerates fun other => (same other).ticket, and_comm]
    simp only [not_exists, not_and, ne_eq]
  case byIdempotency =>
    intro key ptr
    have keys : (sweepIds now order store).2.byIdempotency =
        store.byIdempotency := by
      rw [frame]
    rw [snd_sweepExpired, byIdempotency_dropAll, keys,
      Option.ite_none_left_eq_some,
      removedName_iff enumerates fun other => (same other).idempotencyKey,
      and_comm]
    simp only [not_exists, not_and, ne_eq]
  case visited =>
    intro ptr registered
    rw [objects, objects_sweepIds now store enumerates.1,
      if_pos ((visits ptr).mpr registered)]
  case unvisited =>
    intro ptr unregistered
    rw [objects, objects_sweepIds now store enumerates.1,
      if_neg (mt (visits ptr).mp unregistered)]
  case gatewayId => rw [snd_sweepExpired, dropAll_frame, frame]
  case sessionTtl => rw [snd_sweepExpired, dropAll_frame, frame]
  case allocated => rw [snd_sweepExpired, dropAll_frame, frame]

namespace Swept

variable {now : Nat} {store next : SessionStore}

/-- A sweep changes states only. -/
theorem sameButState (swept : Swept now store next) (ptr : SessionPtr) :
    (store.objects ptr).SameButState (next.objects ptr) := by
  by_cases registered : store.Registered ptr
  · rw [swept.visited ptr registered]
    exact Session.sameButState_expireIfDue now _
  · rw [swept.unvisited ptr registered]
    exact .refl _

/-- A sweep leaves the sessions that are not dead. -/
theorem registered_iff (swept : Swept now store next) (ptr : SessionPtr) :
    next.Registered ptr ↔
      store.Registered ptr ∧ ¬(store.objects ptr).Dead now := by
  constructor
  · rintro ⟨sessionId, found⟩
    rw [swept.byId] at found
    obtain ⟨was, alive⟩ := Option.filter_eq_some_iff.mp found
    exact ⟨⟨sessionId, was⟩, by simpa using alive⟩
  · rintro ⟨⟨sessionId, found⟩, alive⟩
    refine ⟨sessionId, ?_⟩
    rw [swept.byId, found]
    simp [Option.filter_some, alive]

end Swept

/-! ## The effects of an operation -/

/-- Only states of sessions differ. -/
structure OnlyStates (store next : SessionStore) : Prop where
  byId : next.byId = store.byId
  byTicket : next.byTicket = store.byTicket
  byIdempotency : next.byIdempotency = store.byIdempotency
  objects : ∀ ptr, (store.objects ptr).SameButState (next.objects ptr)
  gatewayId : next.gatewayId = store.gatewayId
  sessionTtl : next.sessionTtl = store.sessionTtl
  allocated : next.allocated = store.allocated

theorem OnlyStates.refl (store : SessionStore) : store.OnlyStates store :=
  ⟨rfl, rfl, rfl, fun _ => .refl _, rfl, rfl, rfl⟩

theorem state_setState
    (store : SessionStore)
    (ptr other : SessionPtr)
    (state : SessionState) :
    ((store.setState ptr state).objects other).state =
      if other = ptr then state else (store.objects other).state := by
  by_cases own : other = ptr
  · subst own
    simp [setState]
  · simp [setState, own]

theorem onlyStates_setState
    (store : SessionStore)
    (ptr : SessionPtr)
    (state : SessionState) :
    store.OnlyStates (store.setState ptr state) := by
  refine ⟨rfl, rfl, rfl, ?_, rfl, rfl, rfl⟩
  intro other
  by_cases own : other = ptr
  · subst own
    exact ⟨state, by simp [setState]⟩
  · have untouched : (store.setState ptr state).objects other =
        store.objects other := Function.update_of_ne own _ _
    rw [untouched]
    exact .refl _

theorem onlyStates_compareExchange
    (store : SessionStore)
    (ptr : SessionPtr)
    (expected desired : SessionState) :
    store.OnlyStates (store.compareExchange ptr expected desired).2 := by
  rw [compareExchange]
  split
  · exact store.onlyStates_setState ptr desired
  · exact .refl store

/-- Entering a key leaves everything but the index by key alone. -/
theorem indexKey_frame (store : SessionStore) (ptr : SessionPtr) :
    store.indexKey ptr =
      { store with byIdempotency := (store.indexKey ptr).byIdempotency } := by
  rw [indexKey]
  split <;> rfl

/-- A new session in all its indexes. -/
def withSession
    (store : SessionStore)
    (req : OpenSessionParams)
    (draw : Draw) : SessionStore :=
  (((store.allocate req draw).2.indexId store.allocated).indexTicket
    store.allocated).indexKey store.allocated

section WithSession

variable {store : SessionStore} {req : OpenSessionParams} {draw : Draw}

theorem withSession_eq :
    store.withSession req draw =
      { store with
        byId := store.byId.insert (store.newSession req draw).sessionId
          store.allocated
        byTicket := store.byTicket.insert (store.newSession req draw).ticket
          store.allocated
        byIdempotency :=
          if req.idempotencyKey = "" then store.byIdempotency
          else store.byIdempotency.insert req.idempotencyKey store.allocated
        objects := Function.update store.objects store.allocated
          (store.newSession req draw)
        allocated := store.allocated + 1 } := by
  have named : (store.newSession req draw).idempotencyKey =
    req.idempotencyKey := rfl
  by_cases empty : req.idempotencyKey = "" <;>
    simp [withSession, indexKey, indexTicket, indexId, allocate, named, empty]

theorem withSession_byId (sessionId : String) :
    (store.withSession req draw).byId.lookup sessionId =
      if sessionId = (store.newSession req draw).sessionId then
        some store.allocated
      else store.byId.lookup sessionId := by
  rw [withSession_eq, Table.lookup_insert_eq]

theorem withSession_byTicket (ticket : String) :
    (store.withSession req draw).byTicket.lookup ticket =
      if ticket = (store.newSession req draw).ticket then
        some store.allocated
      else store.byTicket.lookup ticket := by
  rw [withSession_eq, Table.lookup_insert_eq]

theorem withSession_byIdempotency (key : String) :
    (store.withSession req draw).byIdempotency.lookup key =
      if key = req.idempotencyKey ∧ key ≠ "" then some store.allocated
      else store.byIdempotency.lookup key := by
  rw [withSession_eq]
  dsimp only
  split
  · next empty =>
      rw [if_neg]
      rintro ⟨rfl, nonempty⟩
      exact nonempty empty
  · next nonempty =>
      rw [Table.lookup_insert_eq]
      by_cases own : key = req.idempotencyKey
      · simp [own, nonempty]
      · simp [own]

theorem withSession_objects :
    (store.withSession req draw).objects =
      Function.update store.objects store.allocated
        (store.newSession req draw) := by
  rw [withSession_eq]

theorem withSession_objects_self :
    (store.withSession req draw).objects store.allocated =
      store.newSession req draw := by
  rw [withSession_objects, Function.update_self]

theorem withSession_objects_of_lt
    {ptr : SessionPtr}
    (older : ptr < store.allocated) :
    (store.withSession req draw).objects ptr = store.objects ptr := by
  rw [withSession_objects, Function.update_of_ne (Nat.ne_of_lt older)]

theorem withSession_allocated :
    (store.withSession req draw).allocated = store.allocated + 1 := by
  rw [withSession_eq]

theorem registered_withSession_self :
    (store.withSession req draw).Registered store.allocated :=
  ⟨(store.newSession req draw).sessionId, by rw [withSession_byId, if_pos rfl]⟩

/-- A registered session stays registered beside a new one that leaves its
identifier alone. -/
theorem registered_withSession
    {ptr : SessionPtr}
    (unused : store.byId.lookup (store.newSession req draw).sessionId = none)
    (registered : store.Registered ptr) :
    (store.withSession req draw).Registered ptr := by
  obtain ⟨sessionId, found⟩ := registered
  have different : sessionId ≠ (store.newSession req draw).sessionId := by
    rintro rfl
    rw [unused] at found
    cases found
  exact ⟨sessionId, by rw [withSession_byId, if_neg different, found]⟩

/-- A session registered beside a new one is the new one, or was registered. -/
theorem registered_of_withSession
    {ptr : SessionPtr}
    (registered : (store.withSession req draw).Registered ptr) :
    ptr = store.allocated ∨ store.Registered ptr := by
  obtain ⟨sessionId, found⟩ := registered
  rw [withSession_byId] at found
  split at found
  · exact .inl (Option.some.inj found).symm
  · exact .inr ⟨sessionId, found⟩

/-- A new session has the identifier it was given, or a random one. -/
theorem sessionId_newSession_ne_empty
    (store : SessionStore)
    (req : OpenSessionParams)
    (draw : Draw) :
    (store.newSession req draw).sessionId ≠ "" := by
  rw [newSession]
  dsimp only
  split
  · simp [makeRandomId]
  · assumption

/-- A key that is missed has no entry. -/
theorem byIdempotency_of_missed
    (missed : store.lookupKey req = none)
    (nonempty : req.idempotencyKey ≠ "") :
    store.byIdempotency.lookup req.idempotencyKey = none := by
  simpa [lookupKey, nonempty] using missed

end WithSession

/-- The effects of an operation. -/
inductive Executes (store : SessionStore) : Operation → SessionStore → Prop
  | states (operation : Operation) (next : SessionStore)
      (only : store.OnlyStates next)
      (known : ∀ req draw, operation = .create req draw →
        store.lookupKey req ≠ none) :
      Executes store operation next
  | created (req : OpenSessionParams) (draw : Draw)
      (missed : store.lookupKey req = none) :
      Executes store (.create req draw) (store.withSession req draw)
  | swept (now : Nat) (order : List String) (next : SessionStore)
      (swept : Swept now store next) :
      Executes store (.sweepExpired now order) next

theorem onlyStates_transition
    (store : SessionStore)
    (sessionId : String)
    (expected desired : SessionState)
    (failureCode : ErrorCode) :
    store.OnlyStates
      (store.transition sessionId expected desired failureCode).2 := by
  rw [transition]
  split
  · exact .refl store
  · next ptr _ =>
      have exchanged :=
        store.onlyStates_compareExchange ptr expected desired
      split <;>
      · next moved =>
          rw [moved] at exchanged
          exact exchanged

theorem onlyStates_claim (store : SessionStore) (ticket : String) :
    store.OnlyStates (store.claim ticket).2 := by
  rw [claim]
  split
  · exact .refl store
  · next ptr _ =>
      have exchanged :=
        store.onlyStates_compareExchange ptr .opened .claimed
      split <;>
      · next moved =>
          rw [moved] at exchanged
          exact exchanged

theorem onlyStates_bumpActive (store : SessionStore) (sessionId : String) :
    store.OnlyStates (store.bumpActive sessionId).2 := by
  rw [bumpActive]
  split
  · exact .refl store
  · exact store.onlyStates_compareExchange _ .opened .active

theorem onlyStates_mark
    (state : SessionState)
    (store : SessionStore)
    (sessionId : String) :
    store.OnlyStates (mark state store sessionId).2 := by
  rw [mark]
  split
  · exact .refl store
  · exact store.onlyStates_setState _ state

/-- Every operation has one of the listed effects. -/
theorem executes_of_execute
    {store next : SessionStore}
    {operation : Operation}
    (executed : store.execute operation = some next) :
    Executes store operation next := by
  cases operation with
  | create req draw =>
      cases executed
      rw [create]
      split
      · next answer known =>
          refine .states _ _ (.refl store) ?_
          rintro req' draw' same
          cases same
          simp [known]
      · next missed => exact .created req draw missed
  | find | findByTicket =>
      cases executed
      exact .states _ _ (.refl store) (by simp)
  | claim ticket =>
      cases executed
      exact .states _ _ (store.onlyStates_claim ticket) (by simp)
  | markActive sessionId =>
      cases executed
      exact .states _ _ (store.onlyStates_transition sessionId _ _ _) (by simp)
  | bumpActive sessionId =>
      cases executed
      exact .states _ _ (store.onlyStates_bumpActive sessionId) (by simp)
  | markCompleted sessionId =>
      cases executed
      exact .states _ _ (onlyStates_mark .completed store sessionId) (by simp)
  | markFailed sessionId =>
      cases executed
      exact .states _ _ (onlyStates_mark .failed store sessionId) (by simp)
  | sweepExpired now order =>
      simp only [execute, Option.ite_none_right_eq_some] at executed
      obtain ⟨enumerates, same⟩ := executed
      cases same
      exact .swept now order _ (swept_sweepExpired now enumerates)

end SessionStore

end Gateway
end TurboAccess
