import TurboAccess.Client.Rdma.PoolSound

/-!
# Remote keys are never stale

Any number of writes run at once, and their requests to the pool and to the
transport interleave in any way.  A write uses the key that it has unpacked, on
the endpoint that it holds, from the bytes that the gateway has answered it in
the same attempt, and it destroys every key that it has unpacked.
-/

namespace TurboAccess
namespace Client
namespace UcxEndpointPool

open Gds (BufferView ClientOptions PutObjectRequest)
open RdmaTransferPath (RdmaClientOptions)

/-! ## Concurrent writes -/

/-- A write of a client, with its arguments. -/
inductive ClientPut
  | object (available : Bool) (options : ClientOptions)
      (rdma : RdmaClientOptions) (request : PutObjectRequest)
      (buffer : BufferView) (crcOfBytes : String)
  | part (available : Bool) (options : ClientOptions)
      (rdma : RdmaClientOptions) (request : PutObjectRequest)
      (buffer : BufferView) (crcOfBytes uploadId : String) (partNumber : Nat)

/-- The requests of a write, with those of the operations of the pool. -/
def ClientPut.program : ClientPut → PoolProgram (Result Gds.TransferOutcome)
  | .object available options rdma request buffer crcOfBytes =>
      (RdmaTransferPath.putObject available options rdma request buffer
        crcOfBytes).interpret handler
  | .part available options rdma request buffer crcOfBytes uploadId
      partNumber =>
      (RdmaTransferPath.putObjectPart available options rdma request buffer
        crcOfBytes uploadId partNumber).interpret handler

/-- A write respects what it holds, and holds nothing at its end. -/
theorem ClientPut.follows (put : ClientPut) :
    put.program.Follows calls (fun after _ => after.Empty) {} := by
  cases put with
  | object available options rdma request buffer crcOfBytes =>
      apply Program.Follows.interpret handles
      exact neutral_putObject available options rdma request buffer crcOfBytes
        {} ⟨rfl, rfl⟩
  | part available options rdma request buffer crcOfBytes uploadId partNumber =>
      apply Program.Follows.interpret handles
      exact neutral_putObjectPart available options rdma request buffer
        crcOfBytes uploadId partNumber {} ⟨rfl, rfl⟩

/-- Writes over one pool. -/
abbrev PoolThreads :=
  Threads Transport PoolCall PoolCall.Answer (Result Gds.TransferOutcome)

/-- Writes that have not asked for anything yet, and a new pool. -/
def PoolThreads.new (puts : Nat → ClientPut) : PoolThreads where
  shared := .new
  programs thread := (puts thread).program
  logs _ := []

/-- What a write holds, by what it has asked for and was answered. -/
def PoolThreads.held (state : PoolThreads) : Nat → Holding :=
  state.positions calls {}

theorem obeys_new (puts : Nat → ClientPut) :
    (PoolThreads.new puts).Obeys calls {} fun after _ => after.Empty :=
  ⟨fun _ => .nil, fun thread => (puts thread).follows⟩

/-- A new pool, of which nothing is held. -/
theorem sound_idle (maxIdle : Nat) : Sound maxIdle .new fun _ => {} := by
  refine ⟨?_, ?_, ?_, ?_⟩
  · intro text
    refine ⟨?_, Nat.zero_le maxIdle⟩
    intro slot member
    cases member
  · intro thread
    apply Live.keyless rfl
    intro ep text isHeld
    cases isHeld
  · refine ⟨fun _ => none, ?_, fun _ => ⟨fun _ => rfl, fun _ => rfl⟩⟩
    intro ep holder
    cases holder <;> rfl
  · refine ⟨fun _ => none, ?_, fun _ => ⟨fun _ => rfl, fun _ => rfl⟩⟩
    intro rkey thread
    rfl

theorem sound_new (maxIdle : Nat) (puts : Nat → ClientPut) :
    Sound maxIdle (PoolThreads.new puts).shared (PoolThreads.new puts).held :=
  sound_idle maxIdle

/-! ## Keys that come and go -/

/-- A request has unpacked a key. -/
def unpacks (rkey : Nat) : Request PoolCall PoolCall.Answer → Bool
  | ⟨.unpackRkey _ _, .ok unpacked⟩ => unpacked = rkey
  | _ => false

/-- A request has destroyed a key. -/
def destroys (rkey : Nat) : Request PoolCall PoolCall.Answer → Bool
  | ⟨.destroyRkey destroyed, _⟩ => destroyed = rkey
  | _ => false

/-- What one request does to the number of keys with a handle. -/
theorem unpacks_balance
    {holding : Holding}
    {event : Request PoolCall PoolCall.Answer}
    (allowed : calls.allows holding event.request)
    (expected : calls.expects holding event)
    (rkey : Nat) :
    (unpacks rkey event).toNat + occurrences holding.rkey rkey =
      (destroys rkey event).toNat +
        occurrences (calls.next holding event).rkey rkey := by
  obtain ⟨request, reply⟩ := event
  cases request with
  | takeIdle text =>
      cases reply with
      | none => rfl
      | some slot =>
          have bare : holding.rkey = none := allowed.rkey
          have taken : slot.rkey = none := expected.2
          simp [unpacks, destroys, calls, bare, taken]
  | inetPton host => rfl
  | createEp host port => cases reply <;> rfl
  | unpackRkey ep packedRkey =>
      have bare : holding.rkey = none := allowed.rkey
      cases reply with
      | error status => rfl
      | ok unpacked =>
          by_cases same : unpacked = rkey <;>
            simp [unpacks, destroys, calls, bare, same]
  | destroyRkey destroyed =>
      have isHeld : holding.rkey = some destroyed := allowed
      by_cases same : destroyed = rkey <;>
        simp [unpacks, destroys, calls, isHeld, same]
  | giveIdle text slot => rfl
  | closeEp ep => rfl
  | transfer call =>
      cases call with
      | acquire host port packedRkey => exact allowed.elim
      | unpackRkey ep packedRkey => exact allowed.elim
      | giveBack host port slot => exact allowed.elim
      | discard slot => exact allowed.elim
      | prepareTransfer sessionId transferBytes => cases reply <;> rfl
      | _ => rfl

/-- Every key that was unpacked was destroyed, but for the one that is held. -/
theorem countP_unpacks
    {log : List (Request PoolCall PoolCall.Answer)}
    (accepted : calls.Accepts {} log)
    (rkey : Nat) :
    log.countP (unpacks rkey) =
      log.countP (destroys rkey) +
        occurrences (calls.after {} log).rkey rkey := by
  induction accepted with
  | nil => rfl
  | @append log event before allowed expected inductionHypothesis =>
      have balance := unpacks_balance allowed expected rkey
      rw [calls.after_append, List.countP_append, List.countP_append,
        List.countP_singleton, List.countP_singleton]
      cases unpacked : unpacks rkey event <;>
        cases destroyed : destroys rkey event <;>
        simp only [unpacked, destroyed, Bool.toNat_true, Bool.toNat_false]
          at balance ⊢ <;>
        simp <;> omega

/-! ## Every reachable state -/

/-- Idle slots have live endpoints of their own peers and no keys, and no
endpoint is in two places.  A write goes through a live endpoint with a live key
that was unpacked on it from the bytes of the same attempt, and a key is
destroyed once. -/
structure NeverStale (maxIdle : Nat) (state : PoolThreads) : Prop where
  idle : ∀ host port, ∀ slot ∈ state.shared.idle (key host port),
    ∃ ep, slot = ⟨some ep, none⟩ ∧
      state.shared.endpoints ep = some (host, port)
  peers : ∀ text, state.shared.idle text ≠ [] →
    ∃ host port, text = key host port
  room : ∀ text, (state.shared.idle text).length ≤ maxIdle
  once : ∀ text, (state.shared.idle text).Nodup
  oneQueue : ∀ first second, ∀ slot ∈ state.shared.idle first,
    slot ∈ state.shared.idle second → first = second
  unused : ∀ text, ∀ slot ∈ state.shared.idle text, ∀ thread ep usedText,
    (state.held thread).ep = some (ep, usedText) → slot.ep ≠ some ep
  oneWrite : ∀ first second ep firstText secondText,
    (state.held first).ep = some (ep, firstText) →
      (state.held second).ep = some (ep, secondText) → first = second
  written : ∀ thread ep data size gwRaddr gwRkey sessionId deadline rest,
    state.programs thread =
        .call (.transfer
          (.putAndNotify ep data size gwRaddr gwRkey sessionId deadline)) rest →
      ∃ used text peer packed,
        ep = some used ∧
          (state.held thread).ep = some (used, text) ∧
          state.shared.endpoints used = some peer ∧
          state.shared.rkeys gwRkey = some (used, packed) ∧
          (state.held thread).packed = some packed
  destroyed : ∀ thread rkey,
    (state.logs thread).countP (unpacks rkey) =
      (state.logs thread).countP (destroys rkey) +
        occurrences (state.held thread).rkey rkey
  live : ∀ thread rkey rest,
    state.programs thread = .call (.destroyRkey rkey) rest →
      state.shared.rkeys rkey ≠ none
  ended : ∀ thread result, state.programs thread = .done result →
    ∀ rkey, (state.logs thread).countP (unpacks rkey) =
      (state.logs thread).countP (destroys rkey)
  quiet : (∀ thread, ∃ result, state.programs thread = .done result) →
    ∀ rkey, state.shared.rkeys rkey = none

/-- Between any two requests of any writes, no key is stale. -/
theorem rkeys_never_stale
    (maxIdle : Nat)
    (puts : Nat → ClientPut)
    {state : PoolThreads}
    (reached : Threads.Reaches (Effect maxIdle) (PoolThreads.new puts) state) :
    NeverStale maxIdle state := by
  obtain ⟨obeys, sound⟩ :=
    (obeys_new puts).reaches (sound_new maxIdle puts) sound_step reached
  have sound : Sound maxIdle state.shared state.held := sound
  have balance : ∀ thread rkey,
      (state.logs thread).countP (unpacks rkey) =
        (state.logs thread).countP (destroys rkey) +
          occurrences (state.held thread).rkey rkey :=
    fun thread => countP_unpacks (obeys.accepted thread)
  have empty : ∀ thread result, state.programs thread = .done result →
      (state.held thread).Empty := by
    intro thread result done
    have follows := obeys.follows thread
    rwa [done] at follows
  refine
    { idle := ?_
      peers := ?_
      room := fun text => (sound.queues text).room
      once := sound.idle_nodup
      oneQueue := fun _ _ _ => sound.queue_inj
      unused := ?_
      oneWrite := ?_
      written := ?_
      destroyed := balance
      live := ?_
      ended := ?_
      quiet := ?_ }
  · intro host port slot member
    obtain ⟨ep, isEp, otherHost, otherPort, isLive, same⟩ :=
      (sound.queues _).bare slot member
    obtain ⟨rfl, rfl⟩ := key_inj same
    exact ⟨ep, isEp, isLive⟩
  · intro text nonempty
    obtain ⟨slot, member⟩ := List.exists_mem_of_ne_nil _ nonempty
    obtain ⟨_, -, host, port, -, same⟩ := (sound.queues text).bare slot member
    exact ⟨host, port, same⟩
  · intro text slot member thread ep usedText isHeld isEp
    exact sound.idle_ne_held member isEp isHeld rfl
  · intro first second ep firstText secondText isFirst isSecond
    exact sound.held_inj isSecond isFirst
  · intro thread ep data size gwRaddr gwRkey sessionId deadline rest running
    have follows := obeys.follows thread
    rw [running] at follows
    obtain ⟨⟨used, text, isEp, hasEp⟩, hasKey⟩ := follows.1
    obtain ⟨host, port, isLive, -⟩ := (sound.writes thread).ep used text hasEp
    obtain ⟨unpackedOn, unpackedText, packed, sameEp, hasPacked, keyLive⟩ :=
      (sound.writes thread).rkey gwRkey hasKey
    obtain ⟨rfl, rfl⟩ : used = unpackedOn ∧ text = unpackedText := by
      simpa using hasEp.symm.trans sameEp
    exact ⟨used, text, (host, port), packed, isEp, hasEp, isLive, keyLive,
      hasPacked⟩
  · intro thread rkey rest running
    have follows := obeys.follows thread
    rw [running] at follows
    obtain ⟨_, _, _, -, -, isLive⟩ := (sound.writes thread).rkey rkey follows.1
    rw [isLive]
    exact Option.some_ne_none _
  · intro thread result done rkey
    rw [balance, (empty thread result done).rkey, occurrences_none, add_zero]
  · intro ended rkey
    obtain ⟨place, kept, dead⟩ := sound.rkeys
    rw [← dead]
    by_contra placed
    obtain ⟨thread, isPlace⟩ := Option.ne_none_iff_exists'.mp placed
    obtain ⟨result, done⟩ := ended thread
    have keeps := kept rkey
    rw [isPlace] at keeps
    have member := keeps.mem
    rw [keysAt, (empty thread result done).rkey] at member
    cases member

/-- Answers of requests that all succeed, with an empty pool. -/
def smoothCalls : (call : PoolCall) → call.Answer
  | .takeIdle _ => none
  | .inetPton _ => true
  | .createEp _ _ => .ok 0
  | .unpackRkey _ _ => .ok 0
  | .destroyRkey _ => ()
  | .giveIdle _ _ => ()
  | .closeEp _ => ()
  | .transfer call => RdmaTransferPath.smoothAnswers call

/-- One of many writes commits, and its endpoint is idle. -/
theorem rkeys_never_stale_smooth :
    let puts : Nat → ClientPut := fun _ =>
      .object true {} {} ⟨"bucket", "key", 0, ""⟩ ⟨1, 4, .hostRegular⟩ ""
    ∃ state, Threads.Reaches (Effect 8) (PoolThreads.new puts) state ∧
      state.shared.idle (key "10.0.0.1" 5000) = [⟨some 0, none⟩] ∧
      NeverStale 8 state := by
  intro puts
  have run := Program.run_runWith smoothCalls (puts 0).program
  have happens : Threads.Happens (Effect 8) Transport.new
      ((puts 0).program.runWith smoothCalls).1 _ :=
    .cons .transferred <| .cons .transferred <| .cons .transferred <|
    .cons .transferred <| .cons .transferred <| .cons .transferred <|
    .cons .transferred <| .cons .transferred <| .cons .transferred <|
    .cons (.missed rfl) <| .cons .parsed <| .cons (.created rfl) <|
    .cons (.unpacked rfl) <| .cons .transferred <| .cons .transferred <|
    .cons .transferred <| .cons .destroyed <| .cons (.kept (by decide)) .nil
  have running : (PoolThreads.new puts).programs 0 = (puts 0).program := rfl
  have reached := Threads.reaches_of_run run running happens
  exact ⟨_, reached, rfl, rkeys_never_stale 8 puts reached⟩

end UcxEndpointPool
end Client
end TurboAccess
