import TurboAccess.EndToEnd.RdmaNetwork
import TurboAccess.EndToEnd.WholeObjects
import TurboAccess.Gateway.Ucx.History

/-!
# Bytes in the buffers of the gateway

A buffer that was written for the entry that holds it shows the bytes of the
client whose session it is, and keeps them until the entry is gone; an entry is
marked only once that is so; and a commit of the session of a client takes all
bytes of its buffer, from the handler of the commit or from that of the message.
So every event of the executor leaves the objects of the clients alone, or
stores all bytes of one of them.
-/

namespace TurboAccess
namespace EndToEnd
namespace Rdma

open Gateway (CompositeBackend MemoryDataStore makeKey)
open Gateway.Gds (SameObject)
open Gateway.Ucx (BackendCall CommitRequest RegisteredBuffer Reply
  UcxExecutor UcxOptions UcxSessionEntry overComposite)

/-! ## What a commit does to the backend -/

/-- Staging a part leaves all objects as they are. -/
theorem sameObject_writePart
    (backend : Backend)
    (uploadId : String)
    (partNumber offset : Nat)
    (source : Bytes)
    (id : String) :
    SameObject id backend.1
      ((BackendCall.writePart uploadId partNumber offset source).run
        overComposite backend).2.1 := by
  have bodies := backend.1.data.writePart_bodies uploadId partNumber offset
    source
  revert bodies
  simp only [BackendCall.run, overComposite, CompositeBackend.writePart]
  rcases backend.1.data.writePart uploadId partNumber offset source with
    ⟨error | reply, data⟩ <;>
    exact fun bodies => ⟨congrArg (fun table => (table.lookup id).getD [])
      bodies, rfl⟩

/-- Writing an object leaves all others as they are. -/
theorem sameObject_writeRange
    (backend : Backend)
    (bucket key : String)
    (offset : Nat)
    (source : Bytes)
    (totalSize : Nat)
    {id : String}
    (other : id ≠ makeKey bucket key) :
    SameObject id backend.1
      ((BackendCall.writeRange bucket key offset source totalSize).run
        overComposite backend).2.1 := by
  apply SameObject.of_touchesOnly _ other
  exact CompositeBackend.touchesOnly_writeRange backend.1 bucket key offset
    source (some totalSize) backend.2

/-- Writing a whole object stores and registers it, or fails and leaves it as it
is. -/
theorem writeRange_whole_cases
    (backend : Backend)
    (bucket key : String)
    (source : Bytes) :
    let answer :=
      (BackendCall.writeRange bucket key 0 source source.length).run
        overComposite backend
    answer.1.Failed ∧
        SameObject (makeKey bucket key) backend.1 answer.2.1 ∨
      answer.2.1.data.body (makeKey bucket key) = source ∧
        ∃ metadata,
          answer.2.1.index.entries.lookup (makeKey bucket key) =
              some metadata ∧
            metadata.contentLength = source.length := by
  have whole : source.length = max ((some source.length).getD
      (addWord 0 source.length)) (addWord 0 source.length) := by
    rw [Option.getD_some, addWord, Nat.zero_add]
    exact (max_eq_left (Nat.mod_le _ _)).symm
  simp only [BackendCall.run, overComposite, CompositeBackend.writeRange]
  rcases backend.1.data.writeRange_cases bucket key 0 source
      (some source.length) whole with
    ⟨written, bytes, answer, _, length, stored⟩ | ⟨refused, answer, _, bodies⟩
  · rw [answer]
    refine .inr ⟨?_, _, Finmap.lookup_insert _, rfl⟩
    rw [MemoryDataStore.body, stored, Finmap.lookup_insert, Option.getD_some,
      Bytes.overwrite_zero_of_length_le length.le]
  · rw [answer]
    refine .inl ⟨trivial, ?_, rfl⟩
    rw [MemoryDataStore.body, MemoryDataStore.body, bodies]
    split
    · next empty => rw [Finmap.lookup_erase, empty]; rfl
    · rfl

/-! ## What is known of the executor -/

section Invariant

variable
  (jobs : Nat → Option PutJob)
  (owner : String → Option Nat)

/-- An object is that of a client, or, for none, of no client. -/
structure Suits (who : Option Nat) (object : String) : Prop where
  known : Target jobs object → who ≠ none
  job : ∀ client, who = some client →
    ∃ job, jobs client = some job ∧ job.object = object

/-- The buffer of an entry shows the bytes of the client whose session it is. -/
def Shows
    (buffers : Table Nat RegisteredBuffer)
    (sessionId : String)
    (entry : UcxSessionEntry) : Prop :=
  ∃ slot buffer, entry.slot = some slot ∧ buffers.lookup slot = some buffer ∧
    ∀ client job, owner sessionId = some client → jobs client = some job →
      buffer.view job.payload.length = job.payload

/-- A commit of a client takes all its bytes for its object. -/
def TakesAll (sessionId : String) (request : CommitRequest) : Prop :=
  ∀ client job, owner sessionId = some client → jobs client = some job →
    request.operation = .object ∧
      request.bytesTransferred = job.payload.length

/-- What is known of an entry. -/
structure EntrySound
    (landed : List (String × Nat))
    (ucx : UcxExecutor Backend)
    (sessionId : String)
    (entry : UcxSessionEntry) : Prop where
  suits : Suits jobs (owner sessionId) (makeKey entry.bucket entry.objectKey)
  shows : (sessionId, entry.serial) ∈ landed →
    Shows jobs owner ucx.buffers sessionId entry
  written : entry.writeDone = true → owner sessionId ≠ none →
    (sessionId, entry.serial) ∈ landed
  waiting : ∀ request, entry.pendingCommit = some request →
    TakesAll jobs owner sessionId request

/-- A commit of a client that was answered has stored its object. -/
def ReplySound (backend : CompositeBackend) (reply : Reply) : Prop :=
  ¬reply.result.Failed → ∀ client job,
    owner reply.request.sessionId = some client → jobs client = some job →
      Written jobs backend job.object ∧ Registered jobs backend job.object

/-- What is known of the executor. -/
structure UcxSound
    (landed : List (String × Nat))
    (ucx : UcxExecutor Backend) : Prop where
  entries : ∀ sessionId entry,
    ucx.registry.lookup sessionId = some entry →
      EntrySound jobs owner landed ucx sessionId entry
  numbered : ucx.Numbered
  below : ∀ sessionId serial, (sessionId, serial) ∈ landed →
    serial < ucx.created
  replies : ∀ reply ∈ ucx.replies, ReplySound jobs owner ucx.backend.1 reply

end Invariant

section Events

variable
  {jobs : Nat → Option PutJob}
  {owner : String → Option Nat}
  {options : UcxOptions}

/-! ## Events -/

/-- What is known of an event that a client, or someone else, causes, and of the
entries whose buffers it reaches. -/
structure Asks
    (jobs : Nat → Option PutJob)
    (owner : String → Option Nat)
    (host : Host)
    (who : Option Nat)
    (new : List (String × Nat))
    (event : UcxExecutor.Event) : Prop where
  named : ∀ sessionId, event.sessionId = some sessionId →
    owner sessionId = who
  opens : ∀ session, event = .sessionOpened session →
    Suits jobs who (makeKey session.bucket session.objectKey)
  writes : ∀ slot data, event = .remoteWrite slot data →
    Misses owner host who slot ∧
      ∀ client job, who = some client → jobs client = some job →
        data = job.payload
  announces : ∀ sessionId, event = .amWriteDone sessionId →
    who ≠ none → Announces host sessionId
  commits : ∀ request,
    event.request host.pool.shared.ucx.requests = some request →
      TakesAll jobs owner request.sessionId request
  reaches : ∀ sessionId serial, (sessionId, serial) ∈ new →
    owner sessionId = who ∧
      ∃ slot data entry, event = .remoteWrite slot data ∧
        host.pool.shared.ucx.registry.lookup sessionId = some entry ∧
        entry.slot = some slot ∧ entry.serial = serial

section Event

variable
  {host : Host}
  {who : Option Nat}
  {new : List (String × Nat)}
  {event : UcxExecutor.Event}
  {next : UcxExecutor Backend}

/-- A write of the bytes of a client into the buffer of its own session shows
them. -/
theorem shows_of_write
    {slot : Nat}
    {data : Bytes}
    {sessionId : String}
    {entry : UcxSessionEntry}
    (effect : UcxExecutor.Handles overComposite options host.pool.shared.ucx
      (.remoteWrite slot data) next)
    (bytes : ∀ client job, who = some client → jobs client = some job →
      data = job.payload)
    (own : owner sessionId = who)
    (held : entry.slot = some slot) :
    Shows jobs owner next.buffers sessionId entry := by
  cases effect with
  | landed _ _ buffer registered fits =>
      refine ⟨slot, buffer.put data, held, Finmap.lookup_insert _, ?_⟩
      intro client job owns known
      rw [← bytes client job (own.symm.trans owns) known]
      exact buffer.view_put data
  | refused _ request _ requested => cases requested
  | waits _ request _ _ requested => cases requested
  | finished _ request _ _ _ requested => cases requested

/-- A buffer that shows the bytes of a client goes on doing so while its entry
stays. -/
theorem Shows.handles
    {sessionId : String}
    {before after : UcxSessionEntry}
    (shows_ : Shows jobs owner host.pool.shared.ucx.buffers sessionId before)
    (owned : host.pool.shared.ucx.Owned)
    (effect : UcxExecutor.Handles overComposite options host.pool.shared.ucx
      event next)
    (asks : Asks jobs owner host who new event)
    (landed : (sessionId, before.serial) ∈ host.landed)
    (was : host.pool.shared.ucx.registry.lookup sessionId = some before)
    (stays : next.registry.lookup sessionId = some after)
    (same : after.slot = before.slot) :
    Shows jobs owner next.buffers sessionId after := by
  obtain ⟨slot, buffer, held, registered, bytes⟩ := shows_
  by_cases writes : ∃ data, event = .remoteWrite slot data
  · obtain ⟨data, rfl⟩ := writes
    obtain ⟨misses, payload⟩ := asks.writes slot data rfl
    have own := misses sessionId before was held landed
    exact shows_of_write effect payload own (same.trans held)
  · have unwritten : ∀ data, event ≠ .remoteWrite slot data :=
      fun data writing => writes ⟨data, writing⟩
    rcases effect.buffer_kept owned registered unwritten with
      kept | ⟨other, entry, found, holds, gone⟩
    · exact ⟨slot, buffer, same.trans held, kept, bytes⟩
    · -- the buffer has one owner, whose entry is still there
      obtain rfl := owned.exclusive other sessionId entry before slot found was
        holds held
      rw [stays] at gone
      cases gone

/-- An event keeps what is known of an entry. -/
theorem UcxSound.entry
    {sessionId : String}
    {entry : UcxSessionEntry}
    (sound : UcxSound jobs owner host.landed host.pool.shared.ucx)
    (owned : host.pool.shared.ucx.Owned)
    (effect : UcxExecutor.Handles overComposite options host.pool.shared.ucx
      event next)
    (asks : Asks jobs owner host who new event)
    (found : next.registry.lookup sessionId = some entry) :
    EntrySound jobs owner (new ++ host.landed) next sessionId entry := by
  have shows_ : (sessionId, entry.serial) ∈ new ++ host.landed →
      Shows jobs owner next.buffers sessionId entry := by
    intro landed
    rcases List.mem_append.mp landed with reached | landed
    · obtain ⟨own, slot, data, before, rfl, was, held, _⟩ :=
        asks.reaches sessionId entry.serial reached
      have same : entry = before := by
        have lookup := effect.entry_origin found
        rcases lookup with ⟨session, opening, _⟩ | ⟨other, wasOther, _⟩
        · cases opening
        · cases effect with
          | landed _ _ buffer registered fits =>
              exact Option.some.inj (found.symm.trans was)
          | refused _ request _ requested => cases requested
          | waits _ request _ _ requested => cases requested
          | finished _ request _ _ _ requested => cases requested
      subst same
      exact shows_of_write effect (asks.writes slot data rfl).2 own held
    · rcases effect.entry_origin found with
        ⟨session, _, _, rfl⟩ | ⟨before, was, serial, origin⟩
      · exact absurd (sound.below _ _ landed) (lt_irrefl _)
      · rw [serial] at landed
        have shown := (sound.entries sessionId before was).shows landed
        have held : ∃ slot, before.slot = some slot := by
          obtain ⟨slot, _, held, _⟩ := shown
          exact ⟨slot, held⟩
        obtain ⟨slot, held⟩ := held
        rcases origin with vacant | ⟨same, _⟩
        · rw [held] at vacant
          cases vacant
        · exact shown.handles owned effect asks landed was found same
  have change := effect.entryChange sessionId
  generalize was : host.pool.shared.ucx.registry.lookup sessionId = old
    at change
  rw [found] at change
  cases change with
  | same =>
      have before := sound.entries sessionId entry was
      exact ⟨before.suits, shows_,
        fun done known => List.mem_append_right _ (before.written done known),
        before.waiting⟩
  | opened _ session opening named =>
      have own := asks.named session.sessionId (by rw [opening]; rfl)
      rw [named] at own
      exact ⟨own ▸ asks.opens session opening, shows_, by rintro ⟨⟩,
        by rintro _ ⟨⟩⟩
  | attached before slot transferBytes allocation preparing vacant =>
      have known := sound.entries sessionId before was
      exact ⟨known.suits, shows_,
        fun done owns => List.mem_append_right _ (known.written done owns),
        known.waiting⟩
  | marked before notified alone =>
      have known := sound.entries sessionId before was
      refine ⟨known.suits, shows_, ?_, by rintro _ ⟨⟩⟩
      intro _ owns
      have own := asks.named sessionId (by rw [notified]; rfl)
      rw [own] at owns
      exact List.mem_append_right _
        (asks.announces sessionId notified owns before was)
  | waits before request slot requested named held =>
      have known := sound.entries sessionId before was
      refine ⟨known.suits, shows_,
        fun done owns => List.mem_append_right _ (known.written done owns), ?_⟩
      intro other same
      cases same
      exact named ▸ asks.commits request requested

/-- A commit, whichever handler ends it, stores all bytes of the client whose
session it is of; one of the session of nobody leaves the objects of the clients
as they are. -/
theorem UcxSound.commit
    {entry : UcxSessionEntry}
    {slot : Nat}
    {buffer : RegisteredBuffer}
    {request : CommitRequest}
    (sound : UcxSound jobs owner host.landed host.pool.shared.ucx)
    (asks : Asks jobs owner host who new event)
    (found : host.pool.shared.ucx.registry.lookup request.sessionId =
      some entry)
    (held : entry.slot = some slot)
    (registered : host.pool.shared.ucx.buffers.lookup slot = some buffer)
    (cause : event = .amWriteDone request.sessionId ∧
        entry.pendingCommit = some request ∨
      event.request host.pool.shared.ucx.requests = some request ∧
        entry.writeDone = true) :
    let answer := (UcxExecutor.backendCall entry buffer request).run
      overComposite host.pool.shared.ucx.backend
    Progress jobs host.pool.shared.ucx.backend.1 answer.2.1 ∧
      ReplySound jobs owner answer.2.1 ⟨request, answer.1⟩ := by
  intro answer
  have known := sound.entries request.sessionId entry found
  cases owns : owner request.sessionId with
  | none =>
      have apart : ∀ id, Target jobs id →
          id ≠ makeKey entry.bucket entry.objectKey := by
        rintro id target rfl
        exact known.suits.known target owns
      refine ⟨.of_sameObject ?_, ?_⟩
      · intro id target
        cases operation : request.operation with
        | object =>
            simp only [answer, UcxExecutor.backendCall, operation]
            exact sameObject_writeRange _ _ _ _ _ _ (apart id target)
        | part backendUploadId partNumber =>
            simp only [answer, UcxExecutor.backendCall, operation]
            exact sameObject_writePart _ _ _ _ _ id
      · intro _ client job own
        rw [owns] at own
        cases own
  | some client =>
      obtain ⟨job, jobKnown, object⟩ := known.suits.job client owns
      have takes : TakesAll jobs owner request.sessionId request :=
        cause.elim (fun resumed => known.waiting request resumed.2)
          fun asked => asks.commits request asked.1
      obtain ⟨operation, length⟩ := takes client job owns jobKnown
      have landed : (request.sessionId, entry.serial) ∈ host.landed := by
        rcases cause with ⟨announced, _⟩ | ⟨_, done⟩
        · have own := asks.named request.sessionId (by rw [announced]; rfl)
          refine asks.announces request.sessionId announced ?_ entry found
          rw [← own, owns]
          exact Option.some_ne_none client
        · exact known.written done (by rw [owns]; exact Option.some_ne_none _)
      obtain ⟨slot', buffer', held', registered', bytes⟩ := known.shows landed
      cases held.symm.trans held'
      cases registered.symm.trans registered'
      have call : UcxExecutor.backendCall entry buffer request =
          .writeRange entry.bucket entry.objectKey 0 job.payload
            job.payload.length := by
        simp only [UcxExecutor.backendCall, operation, length,
          bytes client job owns jobKnown]
      have others : ∀ id, id ≠ job.object →
          SameObject id host.pool.shared.ucx.backend.1 answer.2.1 := by
        intro id other
        simp only [answer, call]
        exact sameObject_writeRange _ _ _ _ _ _ (object ▸ other)
      have stores := writeRange_whole_cases host.pool.shared.ucx.backend
        entry.bucket entry.objectKey job.payload
      rw [← call, ← object] at stores
      rcases stores with ⟨failed, same⟩ | ⟨body, metadata, index, size⟩
      · refine ⟨.of_sameObject ?_, fun succeeded => absurd failed succeeded⟩
        intro id _
        by_cases own : id = job.object
        · exact own ▸ same
        · exact others id own
      · have written : Written jobs answer.2.1 job.object :=
          ⟨client, job, jobKnown, rfl, body⟩
        have entered : Registered jobs answer.2.1 job.object :=
          ⟨client, job, metadata, jobKnown, rfl, index, size⟩
        refine ⟨⟨?_, ?_⟩, ?_⟩
        · intro id _
          by_cases own : id = job.object
          · exact .inr (own ▸ written)
          · exact .inl (others id own).body
        · intro id _
          by_cases own : id = job.object
          · exact .inr (own ▸ entered)
          · exact .inl (others id own).entry
        · intro _ other otherJob own otherKnown
          cases owns.symm.trans own
          cases jobKnown.symm.trans otherKnown
          exact ⟨written, entered⟩

/-- What was answered stays so. -/
theorem ReplySound.progress
    {backend later : CompositeBackend}
    {reply : Reply}
    (sound : ReplySound jobs owner backend reply)
    (progress : Progress jobs backend later) :
    ReplySound jobs owner later reply := by
  intro succeeded client job owns known
  have stored := sound succeeded client job owns known
  exact ⟨progress.written stored.1, progress.registered stored.2⟩

/-- An event leaves objects alone or writes them, and keeps what is known of the
executor. -/
theorem UcxSound.handles
    (sound : UcxSound jobs owner host.landed host.pool.shared.ucx)
    (owned : host.pool.shared.ucx.Owned)
    (effect : UcxExecutor.Handles overComposite options host.pool.shared.ucx
      event next)
    (asks : Asks jobs owner host who new event) :
    UcxSound jobs owner (new ++ host.landed) next ∧
      Progress jobs host.pool.shared.ucx.backend.1 next.backend.1 := by
  have grows : host.pool.shared.ucx.created ≤ next.created := by
    rcases effect.created with taken | ⟨same, _⟩ <;> omega
  have below : ∀ sessionId serial,
      (sessionId, serial) ∈ new ++ host.landed → serial < next.created := by
    intro sessionId serial member
    apply lt_of_lt_of_le _ grows
    rcases List.mem_append.mp member with reached | landed
    · obtain ⟨_, _, _, entry, _, found, _, rfl⟩ :=
        asks.reaches sessionId serial reached
      exact sound.numbered.below sessionId entry found
    · exact sound.below sessionId serial landed
  have finish : Progress jobs host.pool.shared.ucx.backend.1 next.backend.1 →
      (∀ reply ∈ next.replies, reply ∈ host.pool.shared.ucx.replies ∨
        ReplySound jobs owner next.backend.1 reply) →
      UcxSound jobs owner (new ++ host.landed) next ∧
        Progress jobs host.pool.shared.ucx.backend.1 next.backend.1 := by
    intro progress replies
    refine ⟨⟨fun sessionId entry found => sound.entry owned effect asks found,
      sound.numbered.handles effect, below, ?_⟩, progress⟩
    intro reply member
    rcases replies reply member with old | sound'
    · exact (sound.replies reply old).progress progress
    · exact sound'
  rcases effect.outcome with ⟨same, replies⟩ |
    ⟨entry, slot, buffer, request, found, held, registered, cause, backend,
      replies⟩
  · apply finish
    · rw [same]
      exact .of_sameObject fun id _ => .refl id _
    · intro reply member
      exact (replies reply member).imp_right
        fun failed succeeded => absurd failed succeeded
  · obtain ⟨progress, answer⟩ := sound.commit asks found held registered cause
    rw [← backend] at progress answer
    apply finish progress
    intro reply member
    rw [replies] at member
    rcases List.mem_append.mp member with old | last
    · exact .inl old
    · rw [List.mem_singleton.mp last]
      exact .inr answer

end Event

end Events

end Rdma
end EndToEnd
end TurboAccess
