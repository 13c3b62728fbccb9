import TurboAccess.Gateway.Ucx.Contamination
import TurboAccess.Gateway.Ucx.Conservation
import TurboAccess.Gateway.Ucx.History

/-!
# The put protocol

Any number of sessions, each with an identifier of its own, open, prepare,
write, announce and commit, in every interleaving in which the steps of one
session are in order, and its message and its commit arrive in either order.  No
session is aborted.  When all of them have been announced and committed, each
has made exactly one backend call, with its own bytes, and has had exactly one
answer, the backend's; the registry is empty, and every buffer is idle or freed.

The fast path of a commit, and the path that the message resumes, are two ways
into the same last stage of a session.
-/

namespace TurboAccess
namespace Gateway
namespace Ucx

variable {β : Type} {iface : IBackend β} {options : UcxOptions}

/-- Whether a step belongs to the plan of putting a transfer. -/
def Input.planned (transfer : Transfer) : Input → Bool
  | .openSession other => other == transfer
  | .abort => false
  | _ => true

/-- The guard of planned runs: sessions below a count put their transfers, and
none is aborted. -/
def Follows
    (count : Nat)
    (transfers : Nat → Transfer)
    (_ : Pool (UcxExecutor β) (Option Attempt))
    (label : Nat × Input) : Prop :=
  label.1 < count ∧ label.2.planned (transfers label.1) = true

instance (count : Nat) (transfers : Nat → Transfer)
    (pool : Pool (UcxExecutor β) (Option Attempt)) (label : Nat × Input) :
    Decidable (Follows count transfers pool label) :=
  inferInstanceAs (Decidable (_ ∧ _))

/-- A session that has been announced and committed. -/
def Attempt.Finished (attempt : Attempt) : Prop :=
  attempt.notified = true ∧ attempt.request ≠ none

/-- The backend call that puts a transfer. -/
def Transfer.call (transfer : Transfer) : BackendCall :=
  match transfer.operation with
  | .object =>
      .writeRange transfer.session.bucket transfer.session.objectKey 0
        transfer.data transfer.data.length
  | .part backendUploadId partNumber =>
      .writePart backendUploadId partNumber 0 transfer.data

/-- A session has made one backend call, with its own bytes, and its callback
has run once, with what the call returned. -/
def Delivered
    (executor : UcxExecutor β)
    (transfer : Transfer)
    (onDone : Nat) : Prop :=
  ∃ write : Write,
    executor.writesOf transfer.sessionId = [write] ∧
      write.request = transfer.request onDone ∧
      write.call = transfer.call ∧
      executor.repliesOf transfer.sessionId =
        [⟨transfer.request onDone, write.result⟩]

/-! ## The stages of a session -/

/-- A session that is open and not over: its entry mirrors what the client has
done, its bytes are in place once they have landed, and nothing is recorded for
it yet. -/
structure Attempt.Underway
    (executor : UcxExecutor β)
    (attempt : Attempt)
    (entry : UcxSessionEntry) : Prop where
  found : executor.registry.lookup attempt.transfer.sessionId = some entry
  bucket : entry.bucket = attempt.transfer.session.bucket
  objectKey : entry.objectKey = attempt.transfer.session.objectKey
  located : attempt.prepared =
    entry.slot.map fun slot => (entry.serial, slot)
  written : entry.writeDone = attempt.notified
  pending : entry.pendingCommit =
    attempt.request.map attempt.transfer.request
  unfinished : attempt.notified = true → attempt.request = none
  intact : attempt.Intact executor
  unwritten : executor.writesOf attempt.transfer.sessionId = []
  unanswered : executor.repliesOf attempt.transfer.sessionId = []

/-- A session that is over: its entry is gone and its transfer delivered. -/
structure Attempt.Over
    (executor : UcxExecutor β)
    (attempt : Attempt) : Prop where
  absent : executor.registry.lookup attempt.transfer.sessionId = none
  notified : attempt.notified = true
  delivered : ∃ onDone, attempt.request = some onDone ∧
    Delivered executor attempt.transfer onDone

/-- The stages of a session. -/
inductive Stage (executor : UcxExecutor β) (transfer : Transfer) :
    Option Attempt → Prop
  | idle
      (absent : executor.registry.lookup transfer.sessionId = none)
      (unwritten : executor.writesOf transfer.sessionId = [])
      (unanswered : executor.repliesOf transfer.sessionId = []) :
      Stage executor transfer none
  | underway (attempt : Attempt) (entry : UcxSessionEntry)
      (planned : attempt.transfer = transfer)
      (state : attempt.Underway executor entry) :
      Stage executor transfer (some attempt)
  | ended (attempt : Attempt)
      (planned : attempt.transfer = transfer)
      (state : attempt.Over executor) :
      Stage executor transfer (some attempt)

/-- A session that runs puts its own transfer. -/
theorem Stage.transfer_eq
    {executor : UcxExecutor β}
    {transfer : Transfer}
    {attempt : Attempt}
    (stage : Stage executor transfer (some attempt)) :
    attempt.transfer = transfer := by
  cases stage with
  | underway _ entry planned state => exact planned
  | ended _ planned state => exact planned

/-! ## Steps of other sessions -/

/-- Events of other sessions, other than remote writes into its buffer, leave a
session at its stage. -/
theorem Stage.other
    {executor next : UcxExecutor β}
    {event : UcxExecutor.Event}
    {transfer : Transfer}
    {frame : Option Attempt}
    (stage : Stage executor transfer frame)
    (effect : UcxExecutor.Handles iface options executor event next)
    (owned : executor.Owned)
    (placed : ∀ attempt, frame = some attempt → attempt.Placed executor)
    (elsewhere : event.sessionId ≠ some transfer.sessionId)
    (alone : ∀ attempt slot data, frame = some attempt →
      attempt.Settled executor slot → event ≠ .remoteWrite slot data) :
    Stage next transfer frame := by
  have lookup := effect.lookup_other elsewhere
  have writes := effect.writesOf_other elsewhere
  have replies := effect.repliesOf_other elsewhere
  cases stage with
  | idle absent unwritten unanswered =>
      exact .idle (lookup.trans absent) (writes.trans unwritten)
        (replies.trans unanswered)
  | underway attempt entry planned state =>
      subst planned
      refine .underway attempt entry rfl { state with
        found := lookup.trans state.found
        intact := ?_
        unwritten := writes.trans state.unwritten
        unanswered := replies.trans state.unanswered }
      exact state.intact.handles owned (placed attempt rfl) effect
        (fun slot data => alone attempt slot data rfl)
  | ended attempt planned state =>
      subst planned
      obtain ⟨onDone, asked, write, called, own, call, answered⟩ :=
        state.delivered
      exact .ended attempt rfl ⟨lookup.trans state.absent, state.notified,
        onDone, asked, write, writes.trans called, own, call,
        replies.trans answered⟩

/-! ## The end of a session -/

/-- A commit of a session whose bytes have landed delivers them and removes the
session. -/
theorem Attempt.Underway.finish
    {executor : UcxExecutor β}
    {attempt : Attempt}
    {entry : UcxSessionEntry}
    {slot onDone : Nat}
    {buffer : RegisteredBuffer}
    (state : attempt.Underway executor entry)
    (landed : attempt.landed = true)
    (held : entry.slot = some slot)
    (registered : executor.buffers.lookup slot = some buffer) :
    let next := executor.finishCommit iface options entry slot buffer
      (attempt.transfer.request onDone)
    next.registry.lookup attempt.transfer.sessionId = none ∧
      Delivered next attempt.transfer onDone := by
  have settled : attempt.Settled executor slot := by
    refine ⟨landed, entry.serial, by rw [state.located, held]; rfl, ?_⟩
    simp [UcxExecutor.location, state.found, held]
  obtain ⟨other, present, shows⟩ := state.intact slot settled
  cases registered.symm.trans present
  have call : UcxExecutor.backendCall entry buffer
      (attempt.transfer.request onDone) = attempt.transfer.call := by
    cases operation : attempt.transfer.operation <;>
      simp [UcxExecutor.backendCall, Transfer.request, Transfer.call,
        operation, state.bucket, state.objectKey, shows]
  intro next
  refine ⟨?_, UcxExecutor.commitWrite iface executor entry slot buffer
    (attempt.transfer.request onDone), ?_, rfl, call, ?_⟩
  · rw [UcxExecutor.registry_finishCommit]
    exact Finmap.lookup_erase _ _
  · have before := state.unwritten
    simp only [UcxExecutor.writesOf] at before
    simp [next, UcxExecutor.writesOf, UcxExecutor.finishCommit_eq,
      UcxExecutor.commitWrite, Transfer.request, before]
  · have before := state.unanswered
    simp only [UcxExecutor.repliesOf] at before
    simp [next, UcxExecutor.repliesOf, UcxExecutor.finishCommit_eq,
      UcxExecutor.commitWrite, Transfer.request, before]

/-! ## Steps of the session itself -/

namespace Attempt.Underway

variable {executor next : UcxExecutor β} {attempt : Attempt}
  {entry : UcxSessionEntry}

/-- A prepared session has the buffer it was told about. -/
theorem prepared
    {info : UcxDiscoverInfo}
    {location : Nat × Nat}
    (state : attempt.Underway executor entry)
    (placed : attempt.Placed executor)
    (unprepared : attempt.prepared = none)
    (outcome : UcxExecutor.Prepares options executor
      attempt.transfer.sessionId attempt.transfer.data.length (.ok info) next)
    (located : next.location attempt.transfer.sessionId = some location) :
    ∃ entry, { attempt with prepared := some location }.Underway next
      entry := by
  have vacant : entry.slot = none := by
    have same := state.located
    rw [unprepared] at same
    exact Option.map_eq_none_iff.mp same.symm
  have airborne : attempt.landed ≠ true := by
    intro landed
    exact placed.posted (placed.landed landed) unprepared
  cases outcome with
  | again other slot info found held same =>
      cases state.found.symm.trans found
      rw [vacant] at held
      cases held
  | reused other slot buffer info before after found _ idle registered large =>
      cases state.found.symm.trans found
      simp only [UcxExecutor.location, UcxExecutor.attach,
        Finmap.lookup_insert, Option.bind_some, Option.map_some,
        Option.some.injEq] at located
      exact ⟨{ entry with
          slot := some slot
          transferBytes := attempt.transfer.data.length },
        Finmap.lookup_insert _, state.bucket, state.objectKey,
        by simp [located], state.written, state.pending, state.unfinished,
        fun _ settled => absurd settled.1 airborne, state.unwritten,
        state.unanswered⟩
  | registered other buffer info found _ large =>
      cases state.found.symm.trans found
      simp only [UcxExecutor.location, UcxExecutor.attach,
        Finmap.lookup_insert, Option.bind_some, Option.map_some,
        Option.some.injEq] at located
      exact ⟨{ entry with
          slot := some executor.allocated
          transferBytes := attempt.transfer.data.length },
        Finmap.lookup_insert _, state.bucket, state.objectKey,
        by simp [located], state.written, state.pending, state.unfinished,
        fun _ settled => absurd settled.1 airborne, state.unwritten,
        state.unanswered⟩

/-- A remote write puts the session's bytes in place. -/
theorem landed
    {serial slot : Nat}
    (state : attempt.Underway executor entry)
    (prepared : attempt.prepared = some (serial, slot))
    (effect : UcxExecutor.Handles iface options executor
      (.remoteWrite slot attempt.transfer.data) next) :
    { attempt with landed := true }.Underway next entry where
  found := (effect.lookup_other nofun).trans state.found
  bucket := state.bucket
  objectKey := state.objectKey
  located := state.located
  written := state.written
  pending := state.pending
  unfinished := state.unfinished
  intact := Attempt.intact_of_landed prepared effect
  unwritten := (effect.writesOf_other nofun).trans state.unwritten
  unanswered := (effect.repliesOf_other nofun).trans state.unanswered

/-- A message marks the entry, or resumes the commit that waits for it. -/
theorem notified
    (state : attempt.Underway executor entry)
    (owned : executor.Owned)
    (placed : attempt.Placed executor)
    (landed : attempt.landed = true)
    (effect : UcxExecutor.Handles iface options executor
      (.amWriteDone attempt.transfer.sessionId) next) :
    (∃ entry, { attempt with notified := true }.Underway next entry) ∨
      { attempt with notified := true }.Over next := by
  have intact := state.intact.handles owned placed effect nofun
  generalize named : attempt.transfer.sessionId = sessionId at effect
  cases effect with
  | unheard _ absent =>
      subst named
      rcases absent with empty | missing
      · exact absurd empty attempt.transfer.session.named
      · rw [state.found] at missing
        cases missing
  | marked _ other found alone =>
      subst named
      cases state.found.symm.trans found
      have unasked : attempt.request = none := by
        have pending := state.pending
        rw [alone] at pending
        exact Option.map_eq_none_iff.mp pending.symm
      refine .inl ⟨entry.marked, Finmap.lookup_insert _, state.bucket,
        state.objectKey, state.located, rfl, ?_, fun _ => unasked, intact,
        state.unwritten, state.unanswered⟩
      simp [UcxSessionEntry.marked, unasked]
  | resumed other slot buffer request found held registered waiting =>
      rw [← named, state.found] at found
      cases found
      have pending := state.pending
      rw [waiting] at pending
      obtain ⟨onDone, asked, rfl⟩ := Option.map_eq_some_iff.mp pending.symm
      obtain ⟨absent, delivered⟩ := state.finish landed held registered
      exact .inr ⟨absent, rfl, onDone, asked, delivered⟩
  | refused event request result requested failed unprepared => cases requested
  | waits event request other slot requested found held unwritten =>
      cases requested
  | finished event request other slot buffer requested found held registered
      written => cases requested

/-- A commit waits for the message, or finishes at once. -/
theorem committed
    {location : Nat × Nat}
    (state : attempt.Underway executor entry)
    (owned : executor.Owned)
    (placed : attempt.Placed executor)
    (prepared : attempt.prepared = some location)
    (effect : UcxExecutor.Handles iface options executor
      attempt.transfer.commitEvent next) :
    let asked := { attempt with request := some executor.requests }
    (∃ entry, asked.Underway next entry) ∨ asked.Over next := by
  have requested :=
    attempt.transfer.request_commitEvent executor.requests
  have intact := state.intact.handles owned placed effect (by
    intro slot data _ same
    rw [same] at requested
    cases requested)
  have commits := effect.commits requested
  cases commits with
  | refused result failed unprepared =>
      have vacant := unprepared entry state.found
      have located := state.located
      rw [prepared, vacant] at located
      cases located
  | waits other slot found held unwritten =>
      cases state.found.symm.trans found
      refine .inl ⟨_, Finmap.lookup_insert _, state.bucket, state.objectKey,
        state.located, state.written, rfl, ?_, intact, state.unwritten,
        state.unanswered⟩
      intro notified
      rw [state.written, notified] at unwritten
      cases unwritten
  | finished other slot buffer found held registered written =>
      cases state.found.symm.trans found
      have notified : attempt.notified = true := state.written ▸ written
      have numbered : attempt.Underway executor.numbered entry :=
        ⟨state.found, state.bucket, state.objectKey, state.located,
          state.written, state.pending, state.unfinished, state.intact,
          state.unwritten, state.unanswered⟩
      obtain ⟨absent, delivered⟩ := numbered.finish
        (placed.notified notified) held registered
      exact .inr ⟨absent, notified, executor.requests, rfl, delivered⟩

end Attempt.Underway

/-- A planned step takes a session to its next stage. -/
theorem Stage.own
    {executor next : UcxExecutor β}
    {transfer : Transfer}
    {frame after : Option Attempt}
    {input : Input}
    (stage : Stage executor transfer frame)
    (owned : executor.Owned)
    (placed : ∀ attempt, frame = some attempt → attempt.Placed executor)
    (planned : input.planned transfer = true)
    (takes : Takes iface options executor frame input next after) :
    Stage next transfer after := by
  cases takes with
  | opened opening =>
      obtain rfl : opening = transfer := by
        simpa [Input.planned] using planned
      cases stage with
      | idle absent unwritten unanswered =>
          exact .underway _ (executor.newEntry opening.session) rfl
            ⟨Finmap.lookup_insert _, rfl, rfl, rfl, rfl, rfl, nofun,
              fun _ settled => absurd settled.1 nofun, unwritten,
              unanswered⟩
  | unanswered attempt allocation unprepared => exact stage
  | prepared attempt allocation info location next unprepared outcome
      located =>
      have known := placed attempt rfl
      cases stage with
      | underway _ entry same state =>
          obtain ⟨entry, state⟩ :=
            state.prepared known unprepared outcome located
          exact .underway _ entry same state
      | ended _ same state =>
          have landed := known.notified state.notified
          exact absurd unprepared (known.posted (known.landed landed))
  | posted attempt location prepared unposted =>
      cases stage with
      | underway _ entry same state =>
          exact .underway _ entry same
            ⟨state.found, state.bucket, state.objectKey, state.located,
              state.written, state.pending, state.unfinished, state.intact,
              state.unwritten, state.unanswered⟩
      | ended _ same state =>
          exact .ended _ same ⟨state.absent, state.notified, state.delivered⟩
  | landed attempt serial slot next prepared posted inFlight effect =>
      cases stage with
      | underway _ entry same state =>
          exact .underway _ entry same (state.landed prepared effect)
      | ended _ same state =>
          rw [(placed attempt rfl).notified state.notified] at inFlight
          cases inFlight
  | notified attempt next landed inFlight effect =>
      cases stage with
      | underway _ entry same state =>
          rcases state.notified owned (placed attempt rfl) landed effect with
            ⟨entry, state⟩ | state
          · exact .underway _ entry same state
          · exact .ended _ same state
      | ended _ same state =>
          rw [state.notified] at inFlight
          cases inFlight
  | committed attempt location next prepared first effect =>
      cases stage with
      | underway _ entry same state =>
          rcases state.committed owned (placed attempt rfl) prepared effect
            with ⟨entry, state⟩ | state
          · exact .underway _ entry same state
          · exact .ended _ same state
      | ended _ same state =>
          obtain ⟨onDone, asked, _⟩ := state.delivered
          rw [first] at asked
          cases asked
  | aborted attempt next effect => cases planned

/-! ## Planned runs -/

section Planned

variable {count : Nat} {transfers : Nat → Transfer}
  {pool : Pool (UcxExecutor β) (Option Attempt)}

/-- Sessions below the count have identifiers of their own. -/
def Distinct (count : Nat) (transfers : Nat → Transfer) : Prop :=
  ∀ first second, first < count → second < count →
    (transfers first).sessionId = (transfers second).sessionId →
      first = second

/-- What planned runs keep: every session is at one of its stages, the registry
holds entries of these sessions only, no buffer is lost, and the backend has
gone through the recorded calls. -/
structure Ordered
    (iface : IBackend β)
    (count : Nat)
    (transfers : Nat → Transfer)
    (backend : β)
    (pool : Pool (UcxExecutor β) (Option Attempt)) : Prop where
  stages : ∀ thread < count,
    Stage pool.shared (transfers thread) (pool.threads thread)
  members : ∀ sessionId entry,
    pool.shared.registry.lookup sessionId = some entry →
      ∃ thread < count, (transfers thread).sessionId = sessionId
  conserved : pool.shared.Conserved
  replays : Replays iface backend pool.shared.writes pool.shared.backend

/-- A planned step names the session of its own transfer, or is a remote write
into the buffer of that session. -/
theorem Stage.event
    {executor next : UcxExecutor β}
    {transfer : Transfer}
    {frame after : Option Attempt}
    {input : Input}
    {event : UcxExecutor.Event}
    (stage : Stage executor transfer frame)
    (placed : ∀ attempt, frame = some attempt → attempt.Placed executor)
    (planned : input.planned transfer = true)
    (takes : Takes iface options executor frame input next after)
    (isEvent : input.event frame = some event) :
    event.sessionId = some transfer.sessionId ∨
      ∃ slot data entry, event = .remoteWrite slot data ∧
        executor.registry.lookup transfer.sessionId = some entry ∧
        entry.slot = some slot := by
  cases takes with
  | opened opening =>
      obtain rfl : opening = transfer := by
        simpa [Input.planned] using planned
      cases isEvent
      exact .inl rfl
  | unanswered attempt allocation unprepared =>
      cases isEvent
      exact .inl (by rw [← stage.transfer_eq]; rfl)
  | prepared attempt allocation info location next unprepared outcome
      located =>
      cases isEvent
      exact .inl (by rw [← stage.transfer_eq]; rfl)
  | posted attempt location prepared unposted => cases isEvent
  | landed attempt serial slot next prepared posted inFlight effect =>
      cases stage with
      | underway _ entry same state =>
          have located := state.located
          rw [prepared] at located
          obtain ⟨held, heldEq, same'⟩ :=
            Option.map_eq_some_iff.mp located.symm
          cases same'
          simp only [Input.event, prepared, Option.map_some,
            Option.some.injEq] at isEvent
          subst same
          exact .inr ⟨slot, _, entry, isEvent.symm, state.found, heldEq⟩
      | ended _ same state =>
          rw [(placed attempt rfl).notified state.notified] at inFlight
          cases inFlight
  | notified attempt next landed inFlight effect =>
      cases isEvent
      exact .inl (by rw [← stage.transfer_eq]; rfl)
  | committed attempt location next prepared first effect =>
      have requested := attempt.transfer.request_commitEvent 0
      cases isEvent
      rw [UcxExecutor.sessionId_of_request requested, ← stage.transfer_eq]
      exact .inl rfl
  | aborted attempt next effect => cases planned

/-- A planned step opens a session only while it is not registered. -/
theorem Stage.absent_of_opening
    {executor next : UcxExecutor β}
    {transfer : Transfer}
    {frame after : Option Attempt}
    {input : Input}
    {session : Session}
    (stage : Stage executor transfer frame)
    (planned : input.planned transfer = true)
    (takes : Takes iface options executor frame input next after)
    (opens : input.event frame = some (.sessionOpened session)) :
    executor.registry.lookup session.sessionId = none := by
  cases takes with
  | opened opening =>
      cases opens
      obtain rfl : opening = transfer := by
        simpa [Input.planned] using planned
      cases stage with
      | idle absent unwritten unanswered => exact absent
  | unanswered attempt allocation unprepared => cases opens
  | prepared attempt allocation info location next unprepared outcome
      located => cases opens
  | posted attempt location prepared unposted => cases opens
  | landed attempt serial slot next prepared posted inFlight effect =>
      simp [Input.event, prepared] at opens
  | notified attempt next landed inFlight effect => cases opens
  | committed attempt location next prepared first effect =>
      have requested := attempt.transfer.request_commitEvent 0
      simp only [Input.event, Option.some.injEq] at opens
      rw [opens] at requested
      cases requested
  | aborted attempt next effect => cases opens

/-- Planned steps keep the sessions ordered. -/
theorem Ordered.step
    {backend : β}
    {mover : Nat}
    {input : Input}
    {shared : UcxExecutor β}
    {after : Option Attempt}
    (ordered : Ordered iface count transfers backend pool)
    (distinct : Distinct count transfers)
    (owned : pool.shared.Owned)
    (placed : ∀ thread attempt, pool.threads thread = some attempt →
      attempt.Placed pool.shared)
    (follows : Follows count transfers pool (mover, input))
    (takes : Takes iface options pool.shared (pool.threads mover) input shared
      after) :
    Ordered iface count transfers backend
      ⟨shared, Function.update pool.threads mover after⟩ := by
  obtain ⟨below, planned⟩ := follows
  have moving := ordered.stages mover below
  have own := moving.own owned (placed mover) planned takes
  rcases takes.effect with unchanged | ⟨event, isEvent, effect⟩
  · subst unchanged
    refine ⟨?_, ordered.members, ordered.conserved, ordered.replays⟩
    intro thread threadBelow
    by_cases moves : thread = mover
    · subst moves
      simpa using own
    · simpa only [Function.update_of_ne moves] using
        ordered.stages thread threadBelow
  have names := moving.event (placed mover) planned takes isEvent
  refine ⟨?_, ?_, ?_, effect.replays ordered.replays⟩
  · intro thread threadBelow
    by_cases moves : thread = mover
    · subst moves
      simpa using own
    have apart : (transfers mover).sessionId ≠
        (transfers thread).sessionId := by
      intro same
      exact moves (distinct mover thread below threadBelow same).symm
    simp only [Function.update_of_ne moves]
    refine (ordered.stages thread threadBelow).other effect owned
      (placed thread) ?_ ?_
    · rcases names with own | ⟨slot, data, entry, rfl, _⟩
      · rw [own]
        simpa using apart
      · exact nofun
    · -- the buffer of another session is not the one that is written to
      rintro attempt slot data running ⟨_, serial, _, located⟩ rfl
      rcases names with own | ⟨slot', data', entry, same, found, held⟩
      · cases own
      · cases same
        obtain ⟨rival, rivalFound, _, rivalHeld⟩ :=
          UcxExecutor.location_eq_some located
        have same := owned.exclusive _ _ _ _ slot found rivalFound held
          rivalHeld
        have transfer : attempt.transfer = transfers thread := by
          have stage := ordered.stages thread threadBelow
          rw [running] at stage
          exact stage.transfer_eq
        rw [transfer] at same
        exact apart same
  · intro sessionId entry found
    rcases effect.entry_origin found with
      ⟨session, opening, named, _⟩ | ⟨before, was, _⟩
    · rcases names with own | ⟨slot, data, entry, write, _⟩
      · rw [opening] at own
        exact ⟨mover, below,
          (Option.some.inj own).symm.trans named⟩
      · rw [opening] at write
        cases write
    · exact ordered.members sessionId before was
  · apply ordered.conserved.handles effect
    intro session opening old found
    subst opening
    have absent := moving.absent_of_opening planned takes isEvent
    cases absent.symm.trans found

/-- Sessions are ordered in every planned run. -/
theorem Ordered.of_path
    {start : Pool (UcxExecutor β) (Option Attempt)}
    {labels : List (Nat × Input)}
    (distinct : Distinct count transfers)
    (initial : (attempts iface options).initial start)
    (path : (attempts iface options).Path (Follows count transfers) start
      labels pool) :
    Ordered iface count transfers start.shared.backend pool := by
  let both : Pool (UcxExecutor β) (Option Attempt) → Prop := fun pool =>
    (attempts iface options).Reachable (Follows count transfers) pool ∧
      Ordered iface count transfers start.shared.backend pool
  have ordered : Ordered iface count transfers start.shared.backend start := by
    obtain ⟨⟨started, backend, same⟩, idle⟩ := initial
    refine ⟨?_, ?_, ?_, ?_⟩
    · intro thread _
      rw [idle thread, same]
      refine .idle ?_ ?_ ?_ <;>
        simp [UcxExecutor.init, UcxExecutor.writesOf, UcxExecutor.repliesOf]
    · intro sessionId entry found
      simp [same, UcxExecutor.init] at found
    · intro slot buffer found
      simp [same, UcxExecutor.init] at found
    · rw [same]
      rfl
  have holds : both pool := by
    refine path.preserves ?_ ⟨⟨start, [], initial, .nil⟩, ordered⟩
    rintro before ⟨mover, input⟩ next ⟨reached, known⟩ follows stepped
    refine ⟨reached.step follows stepped, ?_⟩
    obtain ⟨shared, after, takes, rfl⟩ := takes_of_step reached stepped
    exact known.step distinct
      (UcxExecutor.Owned.of_reachable (reachable_shared reached))
      (fun _ _ => placed_of_reachable reached) follows takes
  exact holds.2

/-- When all sessions have been announced and committed, each has made exactly
one backend call, with its own bytes, and has had the backend's answer exactly
once; no session is left, and every buffer is idle or freed. -/
theorem delivered_of_finished
    {start : Pool (UcxExecutor β) (Option Attempt)}
    {labels : List (Nat × Input)}
    (distinct : Distinct count transfers)
    (objects : ∀ thread < count, (transfers thread).operation = .object)
    (initial : (attempts iface options).initial start)
    (path : (attempts iface options).Path (Follows count transfers) start
      labels pool)
    (finished : ∀ thread < count, ∃ attempt,
      pool.threads thread = some attempt ∧ attempt.Finished) :
    (∀ thread < count, ∃ attempt onDone write,
        pool.threads thread = some attempt ∧
          attempt.request = some onDone ∧
          pool.shared.writesOf (transfers thread).sessionId = [write] ∧
          write.call = .writeRange (transfers thread).session.bucket
            (transfers thread).session.objectKey 0 (transfers thread).data
            (transfers thread).data.length ∧
          pool.shared.repliesOf (transfers thread).sessionId =
            [⟨(transfers thread).request onDone, write.result⟩]) ∧
      Replays iface start.shared.backend pool.shared.writes
        pool.shared.backend ∧
      pool.shared.registry = ∅ ∧
      ∀ slot buffer, pool.shared.buffers.lookup slot = some buffer →
        slot ∈ pool.shared.pool := by
  have ordered := Ordered.of_path distinct initial path
  have finished : ∀ thread < count, ∃ attempt,
      pool.threads thread = some attempt ∧
        attempt.transfer = transfers thread ∧ attempt.Over pool.shared := by
    intro thread below
    obtain ⟨attempt, running, notified, asked⟩ := finished thread below
    have stage := ordered.stages thread below
    rw [running] at stage
    cases stage with
    | underway _ entry same state =>
        exact absurd (state.unfinished notified) asked
    | ended _ same state => exact ⟨attempt, running, same, state⟩
  have empty : pool.shared.registry = ∅ := by
    apply Finmap.ext_lookup
    intro sessionId
    rw [Finmap.lookup_empty]
    cases found : pool.shared.registry.lookup sessionId with
    | none => rfl
    | some entry =>
        obtain ⟨thread, below, rfl⟩ := ordered.members sessionId entry found
        obtain ⟨attempt, _, same, state⟩ := finished thread below
        have absent := state.absent
        rw [same, found] at absent
        cases absent
  refine ⟨?_, ordered.replays, empty, ?_⟩
  · intro thread below
    obtain ⟨attempt, running, same, state⟩ := finished thread below
    obtain ⟨onDone, asked, write, writes, _, call, replies⟩ :=
      state.delivered
    rw [same] at writes call replies
    refine ⟨attempt, onDone, write, running, asked, writes, ?_, replies⟩
    rw [call, Transfer.call, objects thread below]
  · intro slot buffer registered
    rcases ordered.conserved slot buffer registered with
      idle | ⟨sessionId, entry, found, _⟩
    · exact idle
    · rw [empty, Finmap.lookup_empty] at found
      cases found

end Planned

/-! ## Two sessions -/

private theorem firstPut_named : "a" ≠ "" := by decide

private theorem secondPut_named : "b" ≠ "" := by decide

/-- Two transfers. -/
private def twoPuts : Nat → Transfer
  | 0 => ⟨⟨"a", "bucket", "first", 2, firstPut_named⟩, [7, 8], .object, ""⟩
  | _ => ⟨⟨"b", "bucket", "second", 1, secondPut_named⟩, [9], .object, ""⟩

/-- The first session commits before its message arrives, the second after. -/
private def twoPutLabels : List (Nat × Input) :=
  [(0, .openSession (twoPuts 0)), (1, .openSession (twoPuts 1)),
    (0, .prepareTransfer (.registered (fun _ => 0) 4096 [])),
    (0, .commit), (0, .put), (0, .land), (0, .writeDone),
    (1, .prepareTransfer .mlockFailed), (1, .put), (1, .land),
    (1, .writeDone), (1, .commit)]

private def twoPutsRun :
    Option (Pool (UcxExecutor (CompositeBackend × Nat)) (Option Attempt)) :=
  (attempts overComposite (.default "gateway")).run (Follows 2 twoPuts)
    (untouched (CompositeBackend.init 16, 0)) twoPutLabels

private theorem twoPutsRun_isSome : twoPutsRun.isSome = true := by decide

/-- Both sessions deliver their bytes through one buffer. -/
theorem delivered_two_puts :
    let pool := twoPutsRun.get twoPutsRun_isSome
    pool.shared.writes.map (fun write => (write.slot, write.call)) =
        [(0, .writeRange "bucket" "first" 0 [7, 8] 2),
          (0, .writeRange "bucket" "second" 0 [9] 1)] ∧
      pool.shared.registry = ∅ := by
  have path := Machine.path_of_run (Option.some_get twoPutsRun_isSome).symm
  have distinct : Distinct 2 twoPuts := by
    intro first second firstBelow secondBelow
    interval_cases first <;> interval_cases second <;> decide
  have finished : ∀ thread < 2, ∃ attempt,
      (twoPutsRun.get twoPutsRun_isSome).threads thread = some attempt ∧
        attempt.Finished := by
    have checked : ∀ thread < 2,
        ((twoPutsRun.get twoPutsRun_isSome).threads thread).any (fun attempt =>
          attempt.notified && attempt.request.isSome) = true := by
      decide
    intro thread below
    obtain ⟨attempt, running, done⟩ :=
      (Option.any_eq_true ..).mp (checked thread below)
    rw [Bool.and_eq_true, Option.isSome_iff_ne_none] at done
    exact ⟨attempt, running, done⟩
  have result := delivered_of_finished distinct (by decide)
    (initial_untouched overComposite (.default "gateway") _) path finished
  exact ⟨rfl, result.2.2.1⟩

end Ucx
end Gateway
end TurboAccess
