import TurboAccess.Gateway.Gds.FailedOpens
import TurboAccess.Gateway.Session.KeyedCreation
import TurboAccess.Gateway.Backend.ChunkOrder

/-!
# Requests that are sent again

A client that has lost the answer to its request sends it again.  As long as the
session of the first request is live, its key leads to it, whatever calls came
in between, so that the second request is answered with the same session.  The
hook of its data path is run again, however: for a write of a known size it
sizes the object again, and registers it again.
-/

namespace TurboAccess
namespace Gateway
namespace Gds
namespace Calls

open SessionPool

/-! ## Whole calls, one after the other -/

/-- A call on the control plane, what the sweeper or another service does to the
sessions, or what other services do to the uploads and the backend. -/
inductive Operation
  | openSession (req : OpenSessionParams) (draw : Draw)
      (executors : Executors) (now : Nat)
  | chunk (op : ChunkOp) (request : GdsChunkRequest) (available : Bool)
      (transfer : Transfer)
  | abortSession (sessionId : String)
  | change (change : StateChange) (ptr : SessionPtr)
  | sweepExpired (now : Nat) (order : List String)
  | others (media : Media)

/-- A chunk: its preparation and, unless it is refused, its transfer. -/
def chunk
    (config : Config)
    (plane : ControlPlane)
    (op : ChunkOp)
    (request : GdsChunkRequest)
    (available : Bool)
    (transfer : Transfer) : ControlPlane :=
  match prepareGdsChunk plane.sessions request available with
  | (.error _, sessions) => { plane with sessions }
  | (.ok ptr, sessions) =>
      (transferChunk config { plane with sessions } op ptr request
        transfer).2.1

/-- Execute a call. -/
def execute (config : Config) (plane : ControlPlane) :
    Operation → Option ControlPlane
  | .openSession req draw executors now =>
      some (openSession plane req draw executors now).2
  | .chunk op request available transfer =>
      some (chunk config plane op request available transfer)
  | .abortSession sessionId => some (abortSession plane sessionId).2
  | .change change ptr =>
      some { plane with sessions := change.apply plane.sessions ptr }
  | .sweepExpired now order =>
      if plane.sessions.Enumerates order then
        some { plane with
          sessions := (plane.sessions.sweepExpired now order).2 }
      else none
  | .others media => some { plane with media }

/-- All runs of calls over an empty session store. -/
def machine (config : Config) : Machine ControlPlane Operation where
  initial := fun plane => ∃ gatewayId sessionTtl media,
    plane = ⟨.init gatewayId sessionTtl, media⟩
  step := execute config

/-! ## The property and its condition -/

/-- A request that was sent again is answered with the same session, and leaves
the bytes, the length and the tag of every object. -/
structure ReplayHarmless
    (plane : ControlPlane)
    (ptr : SessionPtr)
    (replayed : Result SessionPtr × ControlPlane) : Prop where
  session : replayed.1 = .ok ptr
  bytes : ∀ id, replayed.2.backend.data.bodies.lookup id =
    plane.backend.data.bodies.lookup id
  metadata : ∀ id,
    (replayed.2.backend.index.entries.lookup id).map
        (fun entry => (entry.contentLength, entry.etag)) =
      (plane.backend.index.entries.lookup id).map
        fun entry => (entry.contentLength, entry.etag)

/-- An object has a size, and is registered with it under the tag of a clock
reading. -/
structure Reserved
    (backend : CompositeBackend)
    (id : String)
    (size now : Nat) : Prop where
  bytes : ∃ body, backend.data.bodies.lookup id = some body ∧
    body.length = size
  metadata : ∃ entry, backend.index.entries.lookup id = some entry ∧
    entry.contentLength = size ∧ entry.etag = (makeMeta size now).etag

/-- The hook of a session has nothing to do: its executor is there, and a write
on the GPU path is of unknown size, or its object is as the hook would leave
it. -/
def HookIdle
    (plane : ControlPlane)
    (ptr : SessionPtr)
    (executors : Executors)
    (now : Nat) : Prop :=
  let session := plane.sessions.objects ptr
  match session.dataFlow with
  | .none => False
  | .cpuDirect => executors.ucx = true
  | .gpuDirect =>
      executors.gds = some true ∧
        (session.expectedSize = 0 ∨
          Reserved plane.backend (makeKey session.bucket session.objectKey)
            session.expectedSize now)

/-! ## Keys of live sessions -/

/-- The key of a session that is live or registered leads to it. -/
structure KeysKept (store : SessionStore) : Prop where
  named : store.Named
  entered : ∀ ptr < store.allocated,
    (store.objects ptr).idempotencyKey ≠ "" →
      (store.objects ptr).Live ∨ store.Registered ptr →
        store.byIdempotency.lookup (store.objects ptr).idempotencyKey =
          some ptr

namespace KeysKept

variable {store next : SessionStore}

theorem init (gatewayId : String) (sessionTtl : Nat) :
    KeysKept (.init gatewayId sessionTtl) := by
  refine ⟨by constructor <;> simp [SessionStore.init], ?_⟩
  intro ptr exists_
  exact absurd exists_ (Nat.not_lt_zero ptr)

/-- No change of a state takes a key from a session. -/
theorem touched
    (kept : KeysKept store)
    (touched : Touched store next) :
    KeysKept next := by
  have only := touched.onlyStates
  refine ⟨kept.named.onlyStates only, ?_⟩
  intro ptr exists_ nonempty inUse
  rw [only.allocated] at exists_
  rw [(only.objects ptr).idempotencyKey] at nonempty ⊢
  rw [only.byIdempotency]
  refine kept.entered ptr exists_ nonempty ?_
  exact inUse.imp touched.live (only.registered_iff ptr).mp

/-- A new session takes a key that no session in use has. -/
theorem withSession
    {req : OpenSessionParams}
    {draw : Draw}
    (kept : KeysKept store)
    (missed : store.lookupKey req = none) :
    KeysKept (store.withSession req draw) := by
  refine ⟨kept.named.executes (.created req draw missed), ?_⟩
  intro ptr exists_ nonempty inUse
  rw [SessionStore.withSession_allocated] at exists_
  rcases Nat.lt_succ_iff_lt_or_eq.mp exists_ with older | rfl
  · rw [SessionStore.withSession_objects_of_lt older] at nonempty inUse ⊢
    have was : store.byIdempotency.lookup
        (store.objects ptr).idempotencyKey = some ptr := by
      apply kept.entered ptr older nonempty
      refine inUse.imp_right fun registered => ?_
      rcases SessionStore.registered_of_withSession registered with rfl | was
      · exact absurd older (Nat.lt_irrefl _)
      · exact was
    rw [SessionStore.withSession_byIdempotency, if_neg]
    · exact was
    · rintro ⟨own, _⟩
      rw [own] at was nonempty
      rw [SessionStore.byIdempotency_of_missed missed nonempty] at was
      cases was
  · rw [SessionStore.withSession_objects_self] at nonempty ⊢
    rw [SessionStore.withSession_byIdempotency, if_pos ⟨rfl, nonempty⟩]

/-- A sweep erases the keys of the sessions it removes, which are in use no
more. -/
theorem swept
    {now : Nat}
    (kept : KeysKept store)
    (swept : SessionStore.Swept now store next) :
    KeysKept next := by
  have named : next.Named :=
    kept.named.executes (.swept now [] next swept)
  refine ⟨named, ?_⟩
  intro ptr exists_ nonempty inUse
  rw [swept.allocated] at exists_
  rw [(swept.sameButState ptr).idempotencyKey] at nonempty ⊢
  have stays : ((store.objects ptr).Live ∨ store.Registered ptr) ∧
      ¬(store.Registered ptr ∧ (store.objects ptr).Dead now) := by
    rcases inUse with live | registered
    · by_cases was : store.Registered ptr
      · refine ⟨.inr was, fun removed => ?_⟩
        rw [swept.visited ptr was] at live
        exact not_live_expireIfDue removed.2 live
      · rw [swept.unvisited ptr was] at live
        exact ⟨.inl live, fun removed => was removed.1⟩
    · obtain ⟨was, alive⟩ := (swept.registered_iff ptr).mp registered
      exact ⟨.inr was, fun removed => alive removed.2⟩
  have found := kept.entered ptr exists_ nonempty stays.1
  refine (swept.byIdempotency _ ptr).mpr ⟨found, ?_⟩
  intro _ other registered dead same
  have otherExists : other < store.allocated := by
    obtain ⟨sessionId, entry⟩ := registered
    exact (kept.named.byId sessionId other entry).1
  have otherFound := kept.entered other otherExists
    (by rw [same]; exact nonempty) (.inr registered)
  rw [same, found] at otherFound
  cases otherFound
  exact stays.2 ⟨registered, dead⟩

end KeysKept

/-! ## What calls leave of a session -/

/-- A call keeps the keys of sessions, and of every session all but its state. -/
structure Carries (store next : SessionStore) : Prop where
  kept : KeysKept store → KeysKept next
  allocated : store.allocated ≤ next.allocated
  objects : ∀ ptr < store.allocated,
    (store.objects ptr).SameButState (next.objects ptr)

namespace Carries

variable {store middle next : SessionStore}

theorem refl (store : SessionStore) : Carries store store where
  kept := id
  allocated := le_rfl
  objects := fun _ _ => .refl _

theorem trans
    (first : Carries store middle)
    (second : Carries middle next) :
    Carries store next where
  kept := second.kept ∘ first.kept
  allocated := first.allocated.trans second.allocated
  objects := by
    intro ptr exists_
    obtain ⟨between, seen⟩ := first.objects ptr exists_
    obtain ⟨state, seenLater⟩ :=
      second.objects ptr (exists_.trans_le first.allocated)
    exact ⟨state, by rw [seenLater, seen]⟩

theorem touched (touched : Touched store next) : Carries store next where
  kept := fun kept => kept.touched touched
  allocated := touched.onlyStates.allocated.ge
  objects := fun ptr _ => touched.onlyStates.objects ptr

theorem create
    (store : SessionStore)
    (req : OpenSessionParams)
    (draw : Draw) :
    Carries store (store.create req draw).2 := by
  rw [SessionStore.create]
  split
  · exact .refl store
  · next missed =>
      constructor
      · intro kept
        exact kept.withSession missed
      · change store.allocated ≤ (store.withSession req draw).allocated
        rw [SessionStore.withSession_allocated]
        exact Nat.le_succ _
      · intro ptr older
        change Session.SameButState _
          ((store.withSession req draw).objects ptr)
        rw [SessionStore.withSession_objects_of_lt older]
        exact .refl _

theorem swept
    {now : Nat}
    (swept : SessionStore.Swept now store next) :
    Carries store next where
  kept := fun kept => kept.swept swept
  allocated := swept.allocated.ge
  objects := fun ptr _ => swept.sameButState ptr

/-- Opening a session creates it and may mark it as failed. -/
theorem openSession
    (plane : ControlPlane)
    (req : OpenSessionParams)
    (draw : Draw)
    (executors : Executors)
    (now : Nat) :
    Carries plane.sessions
      (Gds.openSession plane req draw executors now).2.sessions := by
  have created := create plane.sessions req draw
  rw [Gds.openSession]
  split
  · next error sessions failed =>
      rw [failed] at created
      exact created
  · next ptr sessions succeeded =>
      rw [succeeded] at created
      refine created.trans (.touched ?_)
      simp only [openHook]
      exact .finishOpen sessions ptr _

theorem chunk
    (config : Config)
    (plane : ControlPlane)
    (op : ChunkOp)
    (request : GdsChunkRequest)
    (available : Bool)
    (transfer : Transfer) :
    Carries plane.sessions
      (chunk config plane op request available transfer).sessions := by
  have prepared :=
    touched (.prepareGdsChunk plane.sessions request available)
  rw [Calls.chunk]
  split
  · next error sessions refused =>
      rw [refused] at prepared
      exact prepared
  · next ptr sessions resolved =>
      rw [resolved] at prepared
      exact prepared.trans (.touched
        (.transferChunk config { plane with sessions } op ptr request transfer))

theorem execute
    {config : Config}
    {plane later : ControlPlane}
    {operation : Operation}
    (executed : execute config plane operation = some later) :
    Carries plane.sessions later.sessions := by
  cases operation with
  | openSession req draw executors now =>
      cases executed
      exact .openSession plane req draw executors now
  | chunk op request available transfer =>
      cases executed
      exact .chunk config plane op request available transfer
  | abortSession sessionId =>
      cases executed
      exact .touched (.markFailed plane.sessions sessionId)
  | change change ptr =>
      cases executed
      exact .touched (.inr ⟨change, ptr, rfl⟩)
  | sweepExpired now order =>
      simp only [Calls.execute, Option.ite_none_right_eq_some] at executed
      obtain ⟨enumerates, same⟩ := executed
      cases same
      exact .swept (SessionStore.swept_sweepExpired now enumerates)
  | others media =>
      cases executed
      exact .refl _

/-- So does a run of calls. -/
theorem path
    {config : Config}
    {guard : ControlPlane → Operation → Prop}
    {start finish : ControlPlane}
    {labels : List Operation}
    (path : (machine config).Path guard start labels finish) :
    Carries start.sessions finish.sessions := by
  induction path with
  | nil => exact .refl _
  | cons _ stepped _ inductionHypothesis =>
      exact (execute stepped).trans inductionHypothesis

end Carries

theorem KeysKept.of_reachable
    {config : Config}
    {guard : ControlPlane → Operation → Prop}
    {plane : ControlPlane}
    (reachable : (machine config).Reachable guard plane) :
    KeysKept plane.sessions := by
  obtain ⟨start, labels, ⟨gatewayId, sessionTtl, media, rfl⟩, path⟩ := reachable
  exact (Carries.path path).kept (.init gatewayId sessionTtl)

/-! ## The session of a request that is sent again -/

/-- A created session exists, and answers the request. -/
theorem answers_of_create
    {store : SessionStore}
    {req : OpenSessionParams}
    {draw : Draw}
    {ptr : SessionPtr}
    (named : store.Named)
    (created : (store.create req draw).1 = .ok ptr) :
    ptr < (store.create req draw).2.allocated ∧
      ((store.create req draw).2.objects ptr).Answers req := by
  revert created
  rw [SessionStore.create]
  split
  · next answer known =>
      rintro rfl
      have found := named.byIdempotency _ ptr
        (SessionStore.lookupKey_eq_ok known)
      exact ⟨found.1, SessionStore.answers_of_lookupKey named known⟩
  · next missed =>
      intro same
      cases same
      change _ < (store.withSession req draw).allocated ∧
        Session.Answers ((store.withSession req draw).objects _) req
      rw [SessionStore.withSession_allocated,
        SessionStore.withSession_objects_self]
      exact ⟨Nat.lt_succ_self _, store.newSession_answers req draw⟩

/-- An opened session exists, and answers the request. -/
theorem answers_of_openSession
    {plane : ControlPlane}
    {req : OpenSessionParams}
    {draw : Draw}
    {executors : Executors}
    {now : Nat}
    {ptr : SessionPtr}
    (named : plane.sessions.Named)
    (opened : (openSession plane req draw executors now).1 = .ok ptr) :
    ptr < (openSession plane req draw executors now).2.sessions.allocated ∧
      ((openSession plane req draw executors now).2.sessions.objects
        ptr).Answers req := by
  revert opened
  rw [openSession]
  split
  · intro failed
    cases failed
  · next found sessions created =>
      have answered := answers_of_create named (congrArg Prod.fst created)
      rw [created] at answered
      intro opened
      have same : found = ptr := by
        revert opened
        simp only [openHook, SessionStore.finishOpen]
        split
        · intro refused
          cases refused
        · intro refused
          cases refused
        · intro succeeded
          exact Except.ok.inj succeeded
      subst same
      have only : Touched sessions
          (openHook { plane with sessions } found executors now).2.sessions := by
        simp only [openHook]
        exact .finishOpen sessions found _
      rw [only.onlyStates.allocated]
      exact ⟨answered.1,
        answered.2.of_sameButState (only.onlyStates.objects found)⟩

/-- A request that is sent again while its session is live finds it. -/
theorem create_of_live
    {store : SessionStore}
    {req : OpenSessionParams}
    {ptr : SessionPtr}
    (kept : KeysKept store)
    (exists_ : ptr < store.allocated)
    (answers : (store.objects ptr).Answers req)
    (nonempty : req.idempotencyKey ≠ "")
    (live : (store.objects ptr).Live)
    (draw : Draw) :
    store.create req draw = (.ok ptr, store) := by
  have found := kept.entered ptr exists_
    (by rw [answers.idempotencyKey]; exact nonempty) (.inl live)
  rw [answers.idempotencyKey] at found
  have known := SessionStore.lookupKey_of_repeats nonempty
    ⟨rfl, rfl, rfl, rfl⟩ answers found
  rw [SessionStore.create, known]

/-! ## The hook of a session that is opened again -/

/-- Sizing an object is harmless exactly when the object has its size and its
metadata already. -/
theorem reserve_harmless_iff
    {backend after : CompositeBackend}
    {bucket key : String}
    {size now : Nat}
    {result : Result ObjectMetadata}
    (executed : backend.reserve bucket key size now = (result, after)) :
    (result.success = true ∧
        (∀ id, after.data.bodies.lookup id = backend.data.bodies.lookup id) ∧
        ∀ id, (after.index.entries.lookup id).map
            (fun entry => (entry.contentLength, entry.etag)) =
          (backend.index.entries.lookup id).map
            fun entry => (entry.contentLength, entry.etag)) ↔
      Reserved backend (makeKey bucket key) size now := by
  revert executed
  rw [CompositeBackend.reserve, MemoryDataStore.reserve]
  dsimp only
  rcases fit : backend.data.fitBody (makeKey bucket key) size with
    ⟨_ | _, fitted⟩
  · rintro ⟨⟩
    refine iff_of_false (fun harmless => Bool.false_ne_true harmless.1) ?_
    rintro ⟨⟨body, found, sized⟩, _⟩
    have settled := MemoryDataStore.fitBody_of_settled found sized
    rw [fit] at settled
    cases settled
  · have stored := MemoryDataStore.bodies_of_fitBody fit
    have sized := MemoryDataStore.length_body_fitBody fit
    rintro ⟨⟩
    constructor
    · rintro ⟨_, bytes, metadata⟩
      have sameBody := bytes (makeKey bucket key)
      have sameEntry := metadata (makeKey bucket key)
      rw [stored, Table.lookup_insert_eq, if_pos rfl] at sameBody
      rw [MemoryIndexStore.putObjectIndex, Table.lookup_insert_eq,
        if_pos rfl, eq_comm, Option.map_some,
        Option.map_eq_some_iff] at sameEntry
      obtain ⟨entry, present, same⟩ := sameEntry
      exact ⟨⟨_, sameBody.symm, sized⟩,
        ⟨entry, present, congrArg Prod.fst same, congrArg Prod.snd same⟩⟩
    · rintro ⟨⟨body, found, ofSize⟩, entry, present, length, etag⟩
      have settled := MemoryDataStore.fitBody_of_settled found ofSize
      rw [fit] at settled
      cases settled
      refine ⟨rfl, fun _ => rfl, ?_⟩
      intro id
      rw [MemoryIndexStore.putObjectIndex, Table.lookup_insert_eq]
      split
      · next same =>
          rw [same, present, Option.map_some, Option.map_some, length, etag]
          rfl
      · rfl

/-- The hook of a session for a write is harmless exactly when it has nothing to
do. -/
theorem openHook_harmless_iff
    {plane : ControlPlane}
    {ptr : SessionPtr}
    (put : (plane.sessions.objects ptr).op = .put)
    (executors : Executors)
    (now : Nat) :
    ReplayHarmless plane ptr (openHook plane ptr executors now) ↔
      HookIdle plane ptr executors now := by
  have idle : ReplayHarmless plane ptr (.ok ptr, plane) :=
    ⟨rfl, fun _ => rfl, fun _ => rfl⟩
  have refused : ∀ error plane', ¬ReplayHarmless plane ptr
      (.error error, plane') := by
    rintro error plane' ⟨same, _, _⟩
    cases same
  rw [openHook, HookIdle]
  dsimp only
  cases (plane.sessions.objects ptr).dataFlow with
  | none => exact iff_of_false (refused _ _) id
  | cpuDirect =>
      cases executors.ucx with
      | false => exact iff_of_false (refused _ _) Bool.false_ne_true
      | true => exact iff_of_true idle rfl
  | gpuDirect =>
      rcases executors.gds with _ | _ | _
      · apply iff_of_false (refused _ _)
        rintro ⟨ready, -⟩
        cases ready
      · apply iff_of_false (refused _ _)
        rintro ⟨ready, -⟩
        cases ready
      · simp only [onSessionOpened, Bool.true_eq_false, if_false]
        by_cases unsized : (plane.sessions.objects ptr).expectedSize = 0
        · rw [if_neg fun sized => sized.2 unsized]
          exact iff_of_true idle ⟨trivial, .inl unsized⟩
        · rw [if_pos ⟨put, unsized⟩]
          rcases executed : plane.backend.reserve
              (plane.sessions.objects ptr).bucket
              (plane.sessions.objects ptr).objectKey
              (plane.sessions.objects ptr).expectedSize now with
            ⟨result, backend⟩
          simp only [unsized, false_or, true_and]
          rw [← reserve_harmless_iff executed]
          cases result with
          | error =>
              exact iff_of_false (refused _ _) fun harmless =>
                Bool.false_ne_true harmless.1
          | ok =>
              constructor
              · rintro ⟨_, bytes, metadata⟩
                exact ⟨rfl, bytes, metadata⟩
              · rintro ⟨_, bytes, metadata⟩
                exact ⟨rfl, bytes, metadata⟩

/-! ## The theorem -/

/-- After every run of calls, a write request that has opened a session under a
key, and is sent again while the session is live, is harmless exactly when the
hook of the session has nothing to do. -/
theorem replayHarmless_iff
    {config : Config}
    {before finish : ControlPlane}
    {req : OpenSessionParams}
    {draw drawAgain : Draw}
    {executors executorsAgain : Executors}
    {now nowAgain : Nat}
    {ptr : SessionPtr}
    {labels : List Operation}
    (reachable : (machine config).Reachable Machine.always before)
    (put : req.op = .put)
    (nonempty : req.idempotencyKey ≠ "")
    (opened : (openSession before req draw executors now).1 = .ok ptr)
    (path : (machine config).Path Machine.always
      (openSession before req draw executors now).2 labels finish)
    (live : (finish.sessions.objects ptr).Live) :
    ReplayHarmless finish ptr
        (openSession finish req drawAgain executorsAgain nowAgain) ↔
      HookIdle finish ptr executorsAgain nowAgain := by
  have keptBefore := KeysKept.of_reachable reachable
  obtain ⟨exists_, answersThen⟩ :=
    answers_of_openSession keptBefore.named opened
  have carried := Carries.path path
  have kept := carried.kept
    ((Carries.openSession before req draw executors now).kept keptBefore)
  have answers : (finish.sessions.objects ptr).Answers req :=
    answersThen.of_sameButState (carried.objects ptr exists_)
  have found := create_of_live kept (exists_.trans_le carried.allocated)
    answers nonempty live drawAgain
  rw [openSession, found]
  exact openHook_harmless_iff (answers.op.trans put) executorsAgain nowAgain

private def replayConfig : Config := ⟨id, .default, true⟩

/-- A write of four bytes whose client names its attempt. -/
private def namedRequest : OpenSessionParams :=
  ⟨"named", "", "bucket", "object", .put, .gpuDirect, "", 0, 4, "attempt",
    false⟩

/-- A write of six bytes to the same object. -/
private def longerRequest : OpenSessionParams :=
  { namedRequest with
    sessionId := "longer", idempotencyKey := "", expectedSize := 6 }

private def replayDraw : Draw := ⟨(0, 0), (0, 0), (0, 1), "", 0⟩

private def bothExecutors : Executors := ⟨true, some true⟩

private def noPlane : ControlPlane :=
  ⟨.init "gateway" 10, ⟨.init 16 10, fun _ => ∅⟩⟩

private theorem reachable_noPlane :
    (machine replayConfig).Reachable Machine.always noPlane :=
  ⟨noPlane, [], ⟨"gateway", 10, _, rfl⟩, .nil⟩

/-- The state after the first request, and some calls. -/
private def afterRequest (labels : List Operation) : Option ControlPlane :=
  (machine replayConfig).run Machine.always
    (openSession noPlane namedRequest replayDraw bothExecutors 1).2 labels

private def longerOpened : List Operation :=
  [.openSession longerRequest replayDraw bothExecutors 2]

private theorem afterRequest_isSome :
    (afterRequest longerOpened).isSome = true := by
  decide

private theorem path_longerOpened :
    (machine replayConfig).Path Machine.always
      (openSession noPlane namedRequest replayDraw bothExecutors 1).2
      longerOpened ((afterRequest longerOpened).get afterRequest_isSome) :=
  Machine.path_of_run (Option.some_get afterRequest_isSome).symm

/-- The request is sent again after another write of the object. -/
theorem replayHarmless_iff_longer :
    ReplayHarmless ((afterRequest longerOpened).get afterRequest_isSome) 0
        (openSession ((afterRequest longerOpened).get afterRequest_isSome)
          namedRequest replayDraw bothExecutors 1) ↔
      HookIdle ((afterRequest longerOpened).get afterRequest_isSome) 0
        bothExecutors 1 :=
  replayHarmless_iff reachable_noPlane rfl (by decide) rfl path_longerOpened
    (by decide)

/-- The other write is cut to four bytes. -/
theorem replay_truncates :
    ¬∀ before, (machine replayConfig).Reachable Machine.always before →
      ∀ req draw executors now ptr, req.op = .put →
        req.idempotencyKey ≠ "" →
          (openSession before req draw executors now).1 = .ok ptr →
            ∀ labels finish, (machine replayConfig).Path Machine.always
                (openSession before req draw executors now).2 labels finish →
              (finish.sessions.objects ptr).Live →
                ∀ drawAgain executorsAgain nowAgain,
                  ReplayHarmless finish ptr
                    (openSession finish req drawAgain executorsAgain
                      nowAgain) := by
  intro harmless
  have replayed := harmless noPlane reachable_noPlane namedRequest replayDraw
    bothExecutors 1 0 rfl (by decide) rfl longerOpened _ path_longerOpened
    (by decide) replayDraw bothExecutors 3
  have kept := replayed.bytes (makeKey "bucket" "object")
  revert kept
  decide

end Calls
end Gds
end Gateway
end TurboAccess
