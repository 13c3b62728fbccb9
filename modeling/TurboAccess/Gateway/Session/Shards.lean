import TurboAccess.Lib.Service
import TurboAccess.Lib.Sharded
import TurboAccess.Gateway.Session.Effects

/-!
# The shards of the session store

The session store has sixty-four shards, each with the three indexes.  A session
is entered under its identifier, its ticket and its key in the shards that the
hashes of these select, which need not be the same.  A sweep goes through the
shards one after the other, and then erases the tickets and keys of the sessions
it has removed, in whatever shards they are.

Whatever the hash, the store answers as one with three whole indexes.
-/

namespace TurboAccess
namespace Gateway

/-- The three indexes of a shard. -/
inductive SessionIndex
  | byId
  | byTicket
  | byIdempotency
  deriving DecidableEq

/-- What the session store has beside the shards. -/
structure SessionRest where
  gatewayId : String
  sessionTtl : Nat
  objects : SessionPtr → Session
  allocated : Nat

namespace SessionStore

/-- The fields and the indexes of a store. -/
def layout : SessionStore ≃
    SessionRest × (SessionIndex → Table String SessionPtr) where
  toFun store :=
    (⟨store.gatewayId, store.sessionTtl, store.objects, store.allocated⟩,
      fun index =>
        match index with
        | .byId => store.byId
        | .byTicket => store.byTicket
        | .byIdempotency => store.byIdempotency)
  invFun parts :=
    { gatewayId := parts.1.gatewayId
      sessionTtl := parts.1.sessionTtl
      byId := parts.2 .byId
      byTicket := parts.2 .byTicket
      byIdempotency := parts.2 .byIdempotency
      objects := parts.1.objects
      allocated := parts.1.allocated }
  left_inv _ := rfl
  right_inv parts := by
    refine Prod.ext rfl ?_
    funext index
    cases index <;> rfl

end SessionStore

/-- The session store as it is. -/
abbrev ShardedSessionStore :=
  Sharded 64 SessionRest SessionIndex String SessionPtr

namespace ShardedSessionStore

open SessionStore (layout)

section Operations

variable (hash : String → Nat)

/-- The shard of a key. -/
def shardFor (key : String) : Fin 64 := shardOf 64 hash key

/-- An empty store. -/
def init (gatewayId : String) (sessionTtl : Nat) : ShardedSessionStore where
  rest := ⟨gatewayId, sessionTtl, fun _ => default, 0⟩
  shards := fun _ _ => ∅

/-- Run an operation on the shard of a key. -/
def onKey
    (key : String)
    (operation : SessionStore → α × SessionStore)
    (store : ShardedSessionStore) : α × ShardedSessionStore :=
  store.onShard layout (shardFor hash key) operation

/-- Enter a session in the three indexes. -/
def index (store : ShardedSessionStore) (ptr : SessionPtr) :
    ShardedSessionStore :=
  let session := store.rest.objects ptr
  let store := (onKey hash session.sessionId
    (fun s => ((), s.indexId ptr)) store).2
  let store := (onKey hash session.ticket
    (fun s => ((), s.indexTicket ptr)) store).2
  (onKey hash session.idempotencyKey (fun s => ((), s.indexKey ptr)) store).2

def create
    (store : ShardedSessionStore)
    (req : OpenSessionParams)
    (draw : Draw) : Result SessionPtr × ShardedSessionStore :=
  -- an empty key is not looked up
  match onKey hash req.idempotencyKey (fun s => (s.lookupKey req, s))
      store with
  | (some answer, store) => (answer, store)
  | (none, store) =>
      let (ptr, store) := store.onRest layout (·.allocate req draw)
      (.ok ptr, index hash store ptr)

def find (store : ShardedSessionStore) (sessionId : String) :
    Result SessionPtr × ShardedSessionStore :=
  onKey hash sessionId (fun s => (s.find sessionId, s)) store

def findByTicket (store : ShardedSessionStore) (ticket : String) :
    Result SessionPtr × ShardedSessionStore :=
  onKey hash ticket (fun s => (s.findByTicket ticket, s)) store

-- these find a session in one shard, and then change its state

def claim (store : ShardedSessionStore) (ticket : String) :
    Result SessionPtr × ShardedSessionStore :=
  onKey hash ticket (·.claim ticket) store

def markActive (store : ShardedSessionStore) (sessionId : String) :
    Result SessionPtr × ShardedSessionStore :=
  onKey hash sessionId (·.markActive sessionId) store

def bumpActive (store : ShardedSessionStore) (sessionId : String) :
    Result SessionPtr × ShardedSessionStore :=
  onKey hash sessionId (·.bumpActive sessionId) store

def markCompleted (store : ShardedSessionStore) (sessionId : String) :
    Result SessionPtr × ShardedSessionStore :=
  onKey hash sessionId (·.markCompleted sessionId) store

def markFailed (store : ShardedSessionStore) (sessionId : String) :
    Result SessionPtr × ShardedSessionStore :=
  onKey hash sessionId (·.markFailed sessionId) store

/-- Erase the ticket and the key of a removed session. -/
def dropNames (store : ShardedSessionStore) (ptr : SessionPtr) :
    ShardedSessionStore :=
  let session := store.rest.objects ptr
  let store := (onKey hash session.ticket
    (fun s => ((), s.dropTicket ptr)) store).2
  (onKey hash session.idempotencyKey (fun s => ((), s.dropKey ptr)) store).2

/-- The second pass of a sweep. -/
def dropAll : List SessionPtr → ShardedSessionStore → ShardedSessionStore
  | [], store => store
  | ptr :: rest, store => dropAll rest (dropNames hash store ptr)

/-- The first pass of a sweep: every shard, each in the given order. -/
def sweepShards
    (store : ShardedSessionStore)
    (now : Nat)
    (orders : Fin 64 → List String) :
    List SessionPtr × ShardedSessionStore :=
  store.onShards layout (fun shard => SessionStore.sweepIds now (orders shard))
    (List.finRange 64)

/-- Remove the dead sessions, visiting the index of every shard in the given
order; their number. -/
def sweepExpired
    (store : ShardedSessionStore)
    (now : Nat)
    (orders : Fin 64 → List String) : Nat × ShardedSessionStore :=
  let (expired, store) := store.sweepShards now orders
  (expired.length, dropAll hash expired store)

end Operations

/-! ## Operations on one key -/

section Locality

variable {rest : SessionRest}

theorem local_lookupKey (req : OpenSessionParams) :
    LocalTo layout rest {req.idempotencyKey}
      fun store => (store.lookupKey req, store) := by
  refine .query ?_
  rintro left right rfl rightRest same
  have found : left.byIdempotency.lookup req.idempotencyKey =
      right.byIdempotency.lookup req.idempotencyKey := same .byIdempotency
  have objects : right.objects = left.objects :=
    congrArg SessionRest.objects rightRest
  simp only [SessionStore.lookupKey, found, objects]

theorem local_find (sessionId : String) :
    LocalTo layout rest {sessionId}
      fun store => (store.find sessionId, store) := by
  refine .query ?_
  intro left right _ _ same
  have found : left.byId.lookup sessionId = right.byId.lookup sessionId :=
    same .byId
  simp only [SessionStore.find, found]

theorem local_findByTicket (ticket : String) :
    LocalTo layout rest {ticket}
      fun store => (store.findByTicket ticket, store) := by
  refine .query ?_
  intro left right _ _ same
  have found : left.byTicket.lookup ticket = right.byTicket.lookup ticket :=
    same .byTicket
  simp only [SessionStore.findByTicket, found]

/-- What becomes of the fields when a state is stored. -/
private def stateStored
    (rest : SessionRest)
    (ptr : SessionPtr)
    (state : SessionState) : SessionRest :=
  { rest with
    objects := Function.update rest.objects ptr
      { rest.objects ptr with state } }

theorem local_setState
    (answer : α)
    (ptr : SessionPtr)
    (state : SessionState) :
    LocalTo layout rest ∅
      fun store => (answer, store.setState ptr state) := by
  refine .offTables answer (stateStored rest ptr state) ?_
  rintro store rfl
  rfl

theorem local_compareExchange
    (ptr : SessionPtr)
    (expected desired : SessionState) :
    LocalTo layout rest ∅
      fun store => store.compareExchange ptr expected desired := by
  by_cases isExpected : (rest.objects ptr).state = expected
  · refine .offTables true (stateStored rest ptr desired) ?_
    rintro store rfl
    exact if_pos isExpected
  · refine .offTables false rest ?_
    rintro store rfl
    exact if_neg isExpected

/-- A replacement that may be rejected. -/
theorem local_exchange
    (ptr : SessionPtr)
    (expected desired : SessionState)
    (rejected : Error) :
    LocalTo layout rest ∅ fun store =>
      match store.compareExchange ptr expected desired with
      | (false, store) => ((.error rejected : Result SessionPtr), store)
      | (true, store) => (.ok ptr, store) := by
  have exchanged : LocalTo layout rest ∅ _ :=
    local_compareExchange ptr expected desired
  refine (exchanged.map fun done =>
    if done then (.ok ptr : Result SessionPtr) else .error rejected).congr ?_
  intro store
  cases store.compareExchange ptr expected desired with
  | mk done next => cases done <;> rfl

/-- An operation that finds a session by a name, and then changes it. -/
theorem local_found
    {name : String}
    {find : SessionStore → Result SessionPtr}
    {change : SessionPtr → SessionStore → Result SessionPtr × SessionStore}
    (isQuery : LocalTo layout rest {name} fun store => (find store, store))
    (isLocal : ∀ ptr rest, LocalTo layout rest ∅ (change ptr)) :
    LocalTo layout rest {name} fun store =>
      match find store with
      | .error error => (.error error, store)
      | .ok ptr => change ptr store := by
  have later : ∀ (found : Result SessionPtr) (rest : SessionRest),
      LocalTo layout rest {name} fun store =>
        match found with
        | .error error => (.error error, store)
        | .ok ptr => change ptr store := by
    intro found rest
    cases found with
    | error error =>
        refine LocalTo.mono (.offTables (.error error) rest ?_)
          (Set.empty_subset _)
        rintro store rfl
        rfl
    | ok ptr => exact (isLocal ptr rest).mono (Set.empty_subset _)
  exact isQuery.bind later

theorem local_claim (ticket : String) :
    LocalTo layout rest {ticket} fun store => store.claim ticket := by
  have found : LocalTo layout rest {ticket} _ := local_findByTicket ticket
  exact local_found found fun ptr rest =>
    local_exchange ptr .opened .claimed
      (makeError .staleState "session not in claimable state")

theorem local_markActive (sessionId : String) :
    LocalTo layout rest {sessionId}
      fun store => store.markActive sessionId := by
  have found : LocalTo layout rest {sessionId} _ := local_find sessionId
  exact local_found found fun ptr rest =>
    local_exchange ptr .claimed .active
      (makeError .staleState "session state transition rejected")

theorem local_bumpActive (sessionId : String) :
    LocalTo layout rest {sessionId}
      fun store => store.bumpActive sessionId := by
  have found : LocalTo layout rest {sessionId} _ := local_find sessionId
  exact local_found found fun ptr rest =>
    (local_compareExchange ptr .opened .active).map
      fun _ => (.ok ptr : Result SessionPtr)

theorem local_mark (state : SessionState) (sessionId : String) :
    LocalTo layout rest {sessionId}
      fun store => SessionStore.mark state store sessionId := by
  have found : LocalTo layout rest {sessionId} _ := local_find sessionId
  exact local_found found fun ptr rest =>
    local_setState (.ok ptr : Result SessionPtr) ptr state

theorem local_allocate (req : OpenSessionParams) (draw : Draw) :
    LocalTo layout rest ∅ fun store => store.allocate req draw := by
  refine .offTables rest.allocated
    (layout ((layout.symm (rest, fun _ => ∅)).allocate req draw).2).1 ?_
  rintro store rfl
  rfl

/-- Edits of the three indexes. -/
def edits (byId byTicket byIdempotency : Edit SessionPtr) :
    SessionIndex → Edit SessionPtr
  | .byId => byId
  | .byTicket => byTicket
  | .byIdempotency => byIdempotency

theorem local_indexId (ptr : SessionPtr) :
    LocalTo layout rest {(rest.objects ptr).sessionId}
      fun store => ((), store.indexId ptr) := by
  refine .atKey fun _ => ⟨(), rest, edits (.put ptr) .keep .keep, ?_⟩
  rintro store rfl _
  rfl

theorem local_indexTicket (ptr : SessionPtr) :
    LocalTo layout rest {(rest.objects ptr).ticket}
      fun store => ((), store.indexTicket ptr) := by
  refine .atKey fun _ => ⟨(), rest, edits .keep (.put ptr) .keep, ?_⟩
  rintro store rfl _
  rfl

theorem local_indexKey (ptr : SessionPtr) :
    LocalTo layout rest {(rest.objects ptr).idempotencyKey}
      fun store => ((), store.indexKey ptr) := by
  by_cases unkeyed : (rest.objects ptr).idempotencyKey = ""
  · refine .atKey fun _ => ⟨(), rest, edits .keep .keep .keep, ?_⟩
    rintro store rfl _
    have empty : (store.objects ptr).idempotencyKey = "" := unkeyed
    rw [SessionStore.indexKey, if_pos empty]
    rfl
  · refine .atKey fun _ => ⟨(), rest, edits .keep .keep (.put ptr), ?_⟩
    rintro store rfl _
    have keyed : (store.objects ptr).idempotencyKey ≠ "" := unkeyed
    rw [SessionStore.indexKey, if_neg keyed]
    rfl

theorem local_dropTicket (ptr : SessionPtr) :
    LocalTo layout rest {(rest.objects ptr).ticket}
      fun store => ((), store.dropTicket ptr) := by
  refine .atKey fun _ => ⟨(), rest, edits .keep .erase .keep, ?_⟩
  rintro store rfl _
  rfl

theorem local_dropKey (ptr : SessionPtr) :
    LocalTo layout rest {(rest.objects ptr).idempotencyKey}
      fun store => ((), store.dropKey ptr) := by
  by_cases unkeyed : (rest.objects ptr).idempotencyKey = ""
  · refine .atKey fun _ => ⟨(), rest, edits .keep .keep .keep, ?_⟩
    rintro store rfl _
    have empty : (store.objects ptr).idempotencyKey = "" := unkeyed
    rw [SessionStore.dropKey, if_pos empty]
    rfl
  · refine .atKey fun _ => ⟨(), rest, edits .keep .keep .erase, ?_⟩
    rintro store rfl _
    have keyed : (store.objects ptr).idempotencyKey ≠ "" := unkeyed
    rw [SessionStore.dropKey, if_neg keyed]
    rfl

/-- A visit of a sweep, with the sessions it removes. -/
def visit (now : Nat) (sessionId : String) (store : SessionStore) :
    List SessionPtr × SessionStore :=
  ((store.sweepOne now sessionId).1.toList, (store.sweepOne now sessionId).2)

theorem local_visit (now : Nat) (sessionId : String) :
    LocalTo layout rest {sessionId} (visit now sessionId) := by
  refine .atKey fun seen => ?_
  cases found : seen .byId with
  | none =>
      refine ⟨[], rest, edits .keep .keep .keep, ?_⟩
      rintro store rfl sees
      have absent : store.byId.lookup sessionId = none :=
        (sees .byId).trans found
      simp only [visit, SessionStore.sweepOne, absent]
      rfl
  | some ptr =>
      by_cases dead : (rest.objects ptr).Dead now
      · refine ⟨[ptr],
          { rest with
            objects := Function.update rest.objects ptr
              ((rest.objects ptr).expireIfDue now) },
          edits .erase .keep .keep, ?_⟩
        rintro store rfl sees
        have present : store.byId.lookup sessionId = some ptr :=
          (sees .byId).trans found
        have isDead : (store.objects ptr).Dead now := dead
        simp only [visit, SessionStore.sweepOne, present, if_pos isDead]
        rfl
      · refine ⟨[], rest, edits .keep .keep .keep, ?_⟩
        rintro store rfl sees
        have present : store.byId.lookup sessionId = some ptr :=
          (sees .byId).trans found
        have alive : ¬(store.objects ptr).Dead now := dead
        simp only [visit, SessionStore.sweepOne, present, if_neg alive]
        rfl

/-- The first pass of a sweep is its visits. -/
theorem sweepIds_eq_collect (now : Nat) (order : List String) :
    SessionStore.sweepIds now order = collect (visit now) order := by
  funext store
  induction order generalizing store with
  | nil => rfl
  | cons sessionId rest inductionHypothesis =>
      rw [SessionStore.sweepIds, collect]
      simp only [inductionHypothesis]
      rfl

end Locality

/-! ## Refinement -/

section Refinement

variable
  {hash : String → Nat}
  {store : ShardedSessionStore}
  {whole : SessionStore}

theorem refines_index
    (refines : Refines layout (shardFor hash) store whole)
    (ptr : SessionPtr) :
    Refines layout (shardFor hash) (index hash store ptr)
      (((whole.indexId ptr).indexTicket ptr).indexKey ptr) := by
  have afterId := (refines.onKey (local_indexId ptr)).2
  have afterTicket := (afterId.onKey (local_indexTicket ptr)).2
  exact (afterTicket.onKey (local_indexKey ptr)).2

theorem refines_create
    (refines : Refines layout (shardFor hash) store whole)
    (req : OpenSessionParams)
    (draw : Draw) :
    (create hash store req draw).1 = (whole.create req draw).1 ∧
      Refines layout (shardFor hash) (create hash store req draw).2
        (whole.create req draw).2 := by
  obtain ⟨known, afterLookup⟩ := refines.onKey (local_lookupKey req)
  rw [create, SessionStore.create, onKey]
  generalize store.onShard layout _ _ = looked at *
  obtain ⟨answer, next⟩ := looked
  dsimp only at known afterLookup ⊢
  rw [← known]
  cases answer with
  | some answer => exact ⟨rfl, afterLookup⟩
  | none =>
      obtain ⟨allocated, afterAllocate⟩ :=
        afterLookup.onRest (local_allocate req draw)
      rw [← allocated]
      exact ⟨rfl, refines_index afterAllocate _⟩

theorem refines_dropAll
    (refines : Refines layout (shardFor hash) store whole)
    (expired : List SessionPtr) :
    Refines layout (shardFor hash) (dropAll hash expired store)
      (SessionStore.dropAll expired whole) := by
  induction expired generalizing store whole with
  | nil => exact refines
  | cons ptr expired inductionHypothesis =>
      have afterTicket := (refines.onKey (local_dropTicket ptr)).2
      have afterKey := (afterTicket.onKey (local_dropKey ptr)).2
      exact inductionHypothesis afterKey

/-- The sessions that a sweep removes, its count and what it leaves are those of
a sweep of the whole index. -/
theorem refines_sweepExpired
    (refines : Refines layout (shardFor hash) store whole)
    {orders : Fin 64 → List String}
    (enumerated : store.Enumerates .byId orders)
    (now : Nat) :
    ∃ order, whole.Enumerates order ∧
      (store.sweepShards now orders).1 =
        (SessionStore.sweepIds now order whole).1 ∧
      (sweepExpired hash store now orders).1 =
        (whole.sweepExpired now order).1 ∧
      Refines layout (shardFor hash) (sweepExpired hash store now orders).2
        (whole.sweepExpired now order).2 := by
  refine ⟨(List.finRange 64).flatMap orders, refines.enumerates enumerated, ?_⟩
  obtain ⟨expired, afterVisits⟩ :=
    refines.visits (fun key rest => local_visit now key) enumerated
  simp only [← sweepIds_eq_collect] at expired afterVisits
  refine ⟨expired, congrArg List.length expired, ?_⟩
  rw [sweepExpired, SessionStore.sweepExpired]
  dsimp only
  rw [sweepShards, expired]
  exact refines_dropAll afterVisits _

end Refinement

end ShardedSessionStore

/-! ## The store as a service -/

/-- Operations that answer with a session. -/
inductive SessionCall
  | create (req : OpenSessionParams) (draw : Draw)
  | find (sessionId : String)
  | findByTicket (ticket : String)
  | claim (ticket : String)
  | markActive (sessionId : String)
  | bumpActive (sessionId : String)
  | markCompleted (sessionId : String)
  | markFailed (sessionId : String)

/-- Operations of the store.  In which order a sweep visits is not up to its
caller. -/
inductive SessionRequest
  | call (call : SessionCall)
  | sweepExpired (now : Nat)

/-- What a caller sees: a session and what it holds, or the number of sessions
that were removed, and which they were. -/
inductive SessionAnswer
  | session (result : Result (SessionPtr × Session))
  | swept (count : Nat) (expired : Finset SessionPtr)

/-- A session as its holder sees it. -/
def SessionAnswer.seen
    (objects : SessionPtr → Session)
    (result : Result SessionPtr) : SessionAnswer :=
  .session (result.map fun ptr => (ptr, objects ptr))

namespace SessionStore

def call (store : SessionStore) :
    SessionCall → Result SessionPtr × SessionStore
  | .create req draw => store.create req draw
  | .find sessionId => (store.find sessionId, store)
  | .findByTicket ticket => (store.findByTicket ticket, store)
  | .claim ticket => store.claim ticket
  | .markActive sessionId => store.markActive sessionId
  | .bumpActive sessionId => store.bumpActive sessionId
  | .markCompleted sessionId => store.markCompleted sessionId
  | .markFailed sessionId => store.markFailed sessionId

/-- What a store with three whole indexes answers. -/
inductive Answers (store : SessionStore) :
    SessionRequest → SessionAnswer → SessionStore → Prop
  | call (call : SessionCall) :
      Answers store (.call call)
        (.seen (store.call call).2.objects (store.call call).1)
        (store.call call).2
  | sweepExpired {order : List String} (now : Nat)
      (enumerates : store.Enumerates order) :
      Answers store (.sweepExpired now)
        (.swept (store.sweepExpired now order).1
          (sweepIds now order store).1.toFinset)
        (store.sweepExpired now order).2

/-- What a sweep leaves does not depend on the order of its visits. -/
theorem Swept.unique
    {now : Nat}
    {store first second : SessionStore}
    (firstSwept : Swept now store first)
    (secondSwept : Swept now store second) :
    first = second := by
  have byId : first.byId = second.byId := by
    apply Finmap.ext_lookup
    intro sessionId
    rw [firstSwept.byId, secondSwept.byId]
  have byTicket : first.byTicket = second.byTicket := by
    apply Finmap.ext_lookup
    intro ticket
    ext ptr
    rw [firstSwept.byTicket, secondSwept.byTicket]
  have byIdempotency : first.byIdempotency = second.byIdempotency := by
    apply Finmap.ext_lookup
    intro key
    ext ptr
    rw [firstSwept.byIdempotency, secondSwept.byIdempotency]
  have objects : first.objects = second.objects := by
    funext ptr
    by_cases registered : store.Registered ptr
    · rw [firstSwept.visited ptr registered, secondSwept.visited ptr registered]
    · rw [firstSwept.unvisited ptr registered,
        secondSwept.unvisited ptr registered]
  have gatewayId := firstSwept.gatewayId.trans secondSwept.gatewayId.symm
  have sessionTtl := firstSwept.sessionTtl.trans secondSwept.sessionTtl.symm
  have allocated := firstSwept.allocated.trans secondSwept.allocated.symm
  cases first
  cases second
  simp_all only

/-- Nor do the sessions that it removes, up to their order. -/
theorem sweepIds_perm
    {store : SessionStore}
    {first second : List String}
    (now : Nat)
    (firstEnumerates : store.Enumerates first)
    (secondEnumerates : store.Enumerates second) :
    (sweepIds now first store).1.Perm (sweepIds now second store).1 := by
  rw [fst_sweepIds now store firstEnumerates.1,
    fst_sweepIds now store secondEnumerates.1]
  apply List.Perm.filterMap _
  refine List.perm_of_nodup_nodup_toFinset_eq firstEnumerates.1
    secondEnumerates.1 ?_
  rw [firstEnumerates.2, secondEnumerates.2]

end SessionStore

namespace ShardedSessionStore

open SessionStore (layout)

section Service

variable (hash : String → Nat)

def call (store : ShardedSessionStore) :
    SessionCall → Result SessionPtr × ShardedSessionStore
  | .create req draw => create hash store req draw
  | .find sessionId => find hash store sessionId
  | .findByTicket ticket => findByTicket hash store ticket
  | .claim ticket => claim hash store ticket
  | .markActive sessionId => markActive hash store sessionId
  | .bumpActive sessionId => bumpActive hash store sessionId
  | .markCompleted sessionId => markCompleted hash store sessionId
  | .markFailed sessionId => markFailed hash store sessionId

/-- What the store with its shards answers. -/
inductive Answers (store : ShardedSessionStore) :
    SessionRequest → SessionAnswer → ShardedSessionStore → Prop
  | call (call : SessionCall) :
      Answers store (.call call)
        (.seen (store.call hash call).2.rest.objects (store.call hash call).1)
        (store.call hash call).2
  | sweepExpired {orders : Fin 64 → List String} (now : Nat)
      (enumerates : store.Enumerates .byId orders) :
      Answers store (.sweepExpired now)
        (.swept (store.sweepExpired hash now orders).1
          (store.sweepShards now orders).1.toFinset)
        (store.sweepExpired hash now orders).2

variable {hash} {store : ShardedSessionStore} {whole : SessionStore}

theorem refines_call
    (refines : Refines layout (shardFor hash) store whole)
    (call : SessionCall) :
    (store.call hash call).1 = (whole.call call).1 ∧
      Refines layout (shardFor hash) (store.call hash call).2
        (whole.call call).2 := by
  cases call with
  | create req draw => exact refines_create refines req draw
  | find sessionId => exact refines.onKey (local_find sessionId)
  | findByTicket ticket =>
      exact refines.onKey (local_findByTicket ticket)
  | claim ticket => exact refines.onKey (local_claim ticket)
  | markActive sessionId =>
      exact refines.onKey (local_markActive sessionId)
  | bumpActive sessionId =>
      exact refines.onKey (local_bumpActive sessionId)
  | markCompleted sessionId =>
      exact refines.onKey (local_mark .completed sessionId)
  | markFailed sessionId =>
      exact refines.onKey (local_mark .failed sessionId)

theorem simulates (hash : String → Nat) :
    Simulates (Answers hash) SessionStore.Answers
      (Refines layout (shardFor hash)) where
  leftServes := by
    intro store request
    cases request with
    | call call => exact ⟨_, _, .call call⟩
    | sweepExpired now =>
        obtain ⟨orders, enumerates⟩ := store.exists_enumerates .byId
        exact ⟨_, _, .sweepExpired now enumerates⟩
  rightServes := by
    intro store request
    cases request with
    | call call => exact ⟨_, _, .call call⟩
    | sweepExpired now =>
        have enumerates : store.Enumerates store.byId.keys.toList :=
          ⟨Finset.nodup_toList _, Finset.toList_toFinset _⟩
        exact ⟨_, _, .sweepExpired now enumerates⟩
  agree := by
    intro store whole request answer wholeAnswer next wholeNext refines served
      wholeServed
    cases served with
    | call call =>
        cases wholeServed
        obtain ⟨same, after⟩ := refines_call refines call
        have objects : (store.call hash call).2.rest.objects =
            (whole.call call).2.objects :=
          congrArg SessionRest.objects after.rest
        rw [same, objects]
        exact ⟨rfl, after⟩
    | sweepExpired now enumerates =>
        cases wholeServed with
        | sweepExpired now wholeEnumerates =>
            obtain ⟨order, ordered, expired, count, after⟩ :=
              refines_sweepExpired refines enumerates now
            have perm := SessionStore.sweepIds_perm now ordered wholeEnumerates
            have left := SessionStore.swept_sweepExpired now ordered
            have right := SessionStore.swept_sweepExpired now wholeEnumerates
            rw [count, expired, List.toFinset_eq_of_perm _ _ perm,
              ← left.unique right]
            exact ⟨congrArg (SessionAnswer.swept · _) perm.length_eq, after⟩

/-- The store answers as one with whole indexes, and keys stay in the shards that
their hashes select. -/
theorem sameAnswers
    (hash : String → Nat)
    (gatewayId : String)
    (sessionTtl : Nat) :
    SameAnswers (Answers hash) SessionStore.Answers (Placed (shardFor hash))
      (init gatewayId sessionTtl) (.init gatewayId sessionTtl) := by
  have start : Refines layout (shardFor hash) (init gatewayId sessionTtl)
      (.init gatewayId sessionTtl) := by
    apply Refines.empty (SessionStore.init gatewayId sessionTtl)
    intro index
    cases index <;> rfl
  exact (simulates hash).sameAnswers Refines.placed start

end Service

end ShardedSessionStore

end Gateway
end TurboAccess
