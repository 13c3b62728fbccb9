import TurboAccess.Lib.Table
import TurboAccess.Lib.Machine
import TurboAccess.Gateway.Types

/-!
# The session store

Sessions are objects on the heap that three indexes point to: by session
identifier, by ticket and by idempotency key.  The sections that the code
executes under the lock of a shard are definitions of their own, and the
operations of the store run them in a row.  What an operation draws from the
random generator and reads from the clocks is an argument, and so is the order
in which a sweep visits the sessions.

The indexes are written here as whole tables; which shard a key belongs to makes
no difference to an operation that looks at one key at a time.
-/

namespace TurboAccess
namespace Gateway

/-- Object operations that the gateway knows. -/
inductive OperationType
  | get
  | put
  | head
  deriving DecidableEq, Repr

/-- The data path of a session. -/
inductive DataFlow
  | none
  | cpuDirect
  | gpuDirect
  deriving DecidableEq, Repr

/-- The name of a data path. -/
def DataFlow.text : DataFlow → String
  | .none => "none"
  | .cpuDirect => "cpu-direct"
  | .gpuDirect => "gpu-direct"

/-- Lifecycle of a transfer session. -/
inductive SessionState
  | opened
  | claimed
  | active
  | completed
  | failed
  | expired
  deriving DecidableEq, Repr

/-- Parameters of a new session. -/
structure OpenSessionParams where
  sessionId : String
  requestId : String
  bucket : String
  objectKey : String
  op : OperationType
  dataFlow : DataFlow
  bufferType : String
  offset : Nat
  expectedSize : Nat
  idempotencyKey : String
  isMultipartPart : Bool
  deriving DecidableEq

/-- A transfer session. -/
structure Session where
  sessionId : String
  requestId : String
  ticket : String
  gatewayId : String
  expireAt : String
  bucket : String
  objectKey : String
  op : OperationType
  dataFlow : DataFlow
  bufferType : String
  offset : Nat
  expectedSize : Nat
  idempotencyKey : String
  isMultipartPart : Bool
  state : SessionState
  expireDeadline : Nat
  deriving DecidableEq

instance : Inhabited Session :=
  ⟨⟨"", "", "", "", "", "", "", .get, .gpuDirect, "", 0, 0, "", false, .opened,
    0⟩⟩

/-- Pointer to a session on the heap. -/
abbrev SessionPtr := Nat

/-! ## Random identifiers -/

/-- Hexadecimal text of a word, padded to sixteen digits. -/
def paddedHexText (word : UInt64) : String :=
  let digits := hexDigits word.toNat
  String.ofList (List.replicate (16 - digits.length) '0' ++ digits)

/-- An identifier from two words of the random generator. -/
def makeRandomId (stem : String) (words : UInt64 × UInt64) : String :=
  stem ++ paddedHexText words.1 ++ paddedHexText words.2

/-- What creating a session draws: three pairs of random words, the text of its
expiry on the wall clock, and a reading of the steady clock. -/
structure Draw where
  sessionWords : UInt64 × UInt64
  requestWords : UInt64 × UInt64
  ticketWords : UInt64 × UInt64
  expireAt : String
  now : Nat
  deriving DecidableEq

/-! ## The store -/

/-- The three indexes of sessions, and the heap of all sessions. -/
structure SessionStore where
  gatewayId : String
  sessionTtl : Nat
  byId : Table String SessionPtr
  byTicket : Table String SessionPtr
  byIdempotency : Table String SessionPtr
  objects : SessionPtr → Session
  allocated : Nat

namespace Session

/-- A session that has failed or completed, as a sweep sees it. -/
def Terminal (session : Session) : Prop :=
  session.state = .failed ∨ session.state = .completed

instance (session : Session) : Decidable session.Terminal :=
  inferInstanceAs (Decidable
    (session.state = .failed ∨ session.state = .completed))

/-- A session that a sweep removes. -/
def Dead (now : Nat) (session : Session) : Prop :=
  session.expireDeadline ≤ now ∨ session.Terminal

instance (now : Nat) (session : Session) : Decidable (session.Dead now) :=
  inferInstanceAs (Decidable
    (session.expireDeadline ≤ now ∨ session.Terminal))

/-- What a sweep leaves of a session it visits. -/
def expireIfDue (now : Nat) (session : Session) : Session :=
  if session.expireDeadline ≤ now ∧ ¬session.Terminal then
    { session with state := .expired }
  else session

end Session

namespace SessionStore

/-- An empty store. -/
def init (gatewayId : String) (sessionTtl : Nat) : SessionStore where
  gatewayId := gatewayId
  sessionTtl := sessionTtl
  byId := ∅
  byTicket := ∅
  byIdempotency := ∅
  objects := fun _ => default
  allocated := 0

/-! ## Creating a session -/

/-- Error of a key that was used for something else. -/
def keyCollides : Error :=
  makeError .badRequest
    "idempotency_key collides with a different bucket/object/op"

/-- The session that a request creates. -/
def newSession
    (store : SessionStore)
    (req : OpenSessionParams)
    (draw : Draw) : Session where
  sessionId :=
    if req.sessionId = "" then makeRandomId "ses-" draw.sessionWords
    else req.sessionId
  requestId :=
    if req.requestId = "" then makeRandomId "req-" draw.requestWords
    else req.requestId
  ticket := makeRandomId "ticket-" draw.ticketWords
  gatewayId := store.gatewayId
  expireAt := draw.expireAt
  bucket := req.bucket
  objectKey := req.objectKey
  op := req.op
  dataFlow := req.dataFlow
  bufferType := if req.bufferType = "" then "host-regular" else req.bufferType
  offset := req.offset
  expectedSize := req.expectedSize
  idempotencyKey := req.idempotencyKey
  isMultipartPart := req.isMultipartPart
  state := .opened
  expireDeadline := draw.now + store.sessionTtl

/-- The section that looks a key up: the answer when it is known. -/
def lookupKey (store : SessionStore) (req : OpenSessionParams) :
    Option (Result SessionPtr) :=
  if req.idempotencyKey = "" then none
  else
    (store.byIdempotency.lookup req.idempotencyKey).map fun ptr =>
      let existing := store.objects ptr
      if existing.bucket ≠ req.bucket ∨ existing.objectKey ≠ req.objectKey ∨
          existing.op ≠ req.op then
        .error keyCollides
      else .ok ptr

/-- Put a new session on the heap. -/
def allocate
    (store : SessionStore)
    (req : OpenSessionParams)
    (draw : Draw) : SessionPtr × SessionStore :=
  (store.allocated,
    { store with
      objects := Function.update store.objects store.allocated
        (store.newSession req draw)
      allocated := store.allocated + 1 })

/-- The section that enters a session under its identifier. -/
def indexId (store : SessionStore) (ptr : SessionPtr) : SessionStore :=
  { store with
    byId := store.byId.insert (store.objects ptr).sessionId ptr }

/-- The section that enters a session under its ticket. -/
def indexTicket (store : SessionStore) (ptr : SessionPtr) : SessionStore :=
  { store with
    byTicket := store.byTicket.insert (store.objects ptr).ticket ptr }

/-- The section that enters a session under its key, if it has one. -/
def indexKey (store : SessionStore) (ptr : SessionPtr) : SessionStore :=
  if (store.objects ptr).idempotencyKey = "" then store
  else
    { store with
      byIdempotency := store.byIdempotency.insert
        (store.objects ptr).idempotencyKey ptr }

def create
    (store : SessionStore)
    (req : OpenSessionParams)
    (draw : Draw) : Result SessionPtr × SessionStore :=
  match store.lookupKey req with
  | some answer => (answer, store)
  | none =>
      let (ptr, store) := store.allocate req draw
      (.ok ptr, ((store.indexId ptr).indexTicket ptr).indexKey ptr)

/-! ## Finding a session and moving it on -/

def find (store : SessionStore) (sessionId : String) : Result SessionPtr :=
  match store.byId.lookup sessionId with
  | none => .error (makeError .sessionNotFound "session not found")
  | some ptr => .ok ptr

def findByTicket (store : SessionStore) (ticket : String) :
    Result SessionPtr :=
  match store.byTicket.lookup ticket with
  | none => .error (makeError .ticketInvalid "ticket not found")
  | some ptr => .ok ptr

/-- Store the state of a session. -/
def setState
    (store : SessionStore)
    (ptr : SessionPtr)
    (state : SessionState) : SessionStore :=
  { store with
    objects := Function.update store.objects ptr
      { store.objects ptr with state } }

/-- Replace the state of a session if it is the expected one. -/
def compareExchange
    (store : SessionStore)
    (ptr : SessionPtr)
    (expected desired : SessionState) : Bool × SessionStore :=
  if (store.objects ptr).state = expected then
    (true, store.setState ptr desired)
  else (false, store)

def claim (store : SessionStore) (ticket : String) :
    Result SessionPtr × SessionStore :=
  match store.findByTicket ticket with
  | .error error => (.error error, store)
  | .ok ptr =>
      match store.compareExchange ptr .opened .claimed with
      | (false, store) =>
          (.error (makeError .staleState "session not in claimable state"),
            store)
      | (true, store) => (.ok ptr, store)

def transition
    (store : SessionStore)
    (sessionId : String)
    (expected desired : SessionState)
    (failureCode : ErrorCode) : Result SessionPtr × SessionStore :=
  match store.find sessionId with
  | .error error => (.error error, store)
  | .ok ptr =>
      match store.compareExchange ptr expected desired with
      | (false, store) =>
          (.error (makeError failureCode "session state transition rejected"),
            store)
      | (true, store) => (.ok ptr, store)

def markActive (store : SessionStore) (sessionId : String) :
    Result SessionPtr × SessionStore :=
  store.transition sessionId .claimed .active .staleState

def bumpActive (store : SessionStore) (sessionId : String) :
    Result SessionPtr × SessionStore :=
  match store.find sessionId with
  | .error error => (.error error, store)
  | .ok ptr => (.ok ptr, (store.compareExchange ptr .opened .active).2)

/-- Find a session and store its state, whatever it was. -/
def mark
    (state : SessionState)
    (store : SessionStore)
    (sessionId : String) : Result SessionPtr × SessionStore :=
  match store.find sessionId with
  | .error error => (.error error, store)
  | .ok ptr => (.ok ptr, store.setState ptr state)

def markCompleted (store : SessionStore) (sessionId : String) :
    Result SessionPtr × SessionStore :=
  mark .completed store sessionId

def markFailed (store : SessionStore) (sessionId : String) :
    Result SessionPtr × SessionStore :=
  mark .failed store sessionId

/-! ## Opening a session -/

/-- Error of a data path without an executor. -/
def noExecutor (dataFlow : DataFlow) : Error :=
  makeError .badRequest
    ("no executor registered for data path: " ++ dataFlow.text)

/-- The end of opening a session that was created or found, once the executor
of its data path has answered; there may be no executor. -/
def finishOpen
    (store : SessionStore)
    (ptr : SessionPtr)
    (hook : Option (Result Bool)) : Result SessionPtr × SessionStore :=
  match hook with
  | none => (.error (noExecutor (store.objects ptr).dataFlow), store)
  | some (.error error) =>
      (.error error, (store.markFailed (store.objects ptr).sessionId).2)
  | some (.ok _) => (.ok ptr, store)

/-! ## Sweeping -/

/-- Visit one entry of the index by identifier. -/
def sweepOne
    (store : SessionStore)
    (now : Nat)
    (sessionId : String) : Option SessionPtr × SessionStore :=
  match store.byId.lookup sessionId with
  | none => (none, store)
  | some ptr =>
      if (store.objects ptr).Dead now then
        (some ptr,
          { store with
            byId := store.byId.erase sessionId
            objects := Function.update store.objects ptr
              ((store.objects ptr).expireIfDue now) })
      else (none, store)

/-- The first pass of a sweep: visit entries in the given order, and collect
the sessions removed. -/
def sweepIds (now : Nat) :
    List String → SessionStore → List SessionPtr × SessionStore
  | [], store => ([], store)
  | sessionId :: rest, store =>
      let (found, store) := store.sweepOne now sessionId
      let (expired, store) := sweepIds now rest store
      (found.toList ++ expired, store)

/-- The section that erases the ticket of a removed session. -/
def dropTicket (store : SessionStore) (ptr : SessionPtr) : SessionStore :=
  { store with byTicket := store.byTicket.erase (store.objects ptr).ticket }

/-- The section that erases the key of a removed session, if it has one. -/
def dropKey (store : SessionStore) (ptr : SessionPtr) : SessionStore :=
  if (store.objects ptr).idempotencyKey = "" then store
  else
    { store with
      byIdempotency := store.byIdempotency.erase
        (store.objects ptr).idempotencyKey }

/-- The second pass of a sweep: the other two indexes. -/
def dropAll : List SessionPtr → SessionStore → SessionStore
  | [], store => store
  | ptr :: rest, store => dropAll rest ((store.dropTicket ptr).dropKey ptr)

/-- Remove the dead sessions, visiting the index in the given order; their
number. -/
def sweepExpired
    (store : SessionStore)
    (now : Nat)
    (order : List String) : Nat × SessionStore :=
  let (expired, store) := sweepIds now order store
  (expired.length, dropAll expired store)

/-! ## The machine of sequential operations -/

/-- Operations of the store. -/
inductive Operation
  | create (req : OpenSessionParams) (draw : Draw)
  | find (sessionId : String)
  | findByTicket (ticket : String)
  | claim (ticket : String)
  | markActive (sessionId : String)
  | bumpActive (sessionId : String)
  | markCompleted (sessionId : String)
  | markFailed (sessionId : String)
  | sweepExpired (now : Nat) (order : List String)
  deriving DecidableEq

/-- An order in which a sweep can visit the store: every entry once. -/
def Enumerates (store : SessionStore) (order : List String) : Prop :=
  order.Nodup ∧ order.toFinset = store.byId.keys

instance (store : SessionStore) (order : List String) :
    Decidable (store.Enumerates order) :=
  inferInstanceAs (Decidable
    (order.Nodup ∧ order.toFinset = store.byId.keys))

/-- Execute an operation. -/
def execute (store : SessionStore) : Operation → Option SessionStore
  | .create req draw => some (store.create req draw).2
  | .find _ => some store
  | .findByTicket _ => some store
  | .claim ticket => some (store.claim ticket).2
  | .markActive sessionId => some (store.markActive sessionId).2
  | .bumpActive sessionId => some (store.bumpActive sessionId).2
  | .markCompleted sessionId => some (store.markCompleted sessionId).2
  | .markFailed sessionId => some (store.markFailed sessionId).2
  | .sweepExpired now order =>
      if store.Enumerates order then some (store.sweepExpired now order).2
      else none

/-- The store as a machine: any operations, in any order. -/
def machine : Machine SessionStore Operation where
  initial store := ∃ gatewayId sessionTtl, store = init gatewayId sessionTtl
  step := execute

end SessionStore

end Gateway
end TurboAccess
