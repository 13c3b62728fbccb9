import TurboAccess.Client.Rdma.Holdings
import TurboAccess.Lib.Custody

/-!
# The pool and what the writes hold

Any number of writes share the pool.  Every live endpoint is idle in one queue or
held by one write, and every live key is held by one write, together with the
endpoint that it was unpacked on.  Every request that respects what its write
holds keeps this.
-/

namespace TurboAccess
namespace Client
namespace UcxEndpointPool

open RdmaTransferPath (EpSlot PutCall)

/-! ## Who has an endpoint or a key -/

/-- An endpoint is live, and its peer is the one of a queue. -/
def Located (transport : Transport) (text : String) (ep : Nat) : Prop :=
  ∃ host port, transport.endpoints ep = some (host, port) ∧
    text = key host port

/-- The endpoints of a queue, or of a write. -/
def endpointsAt
    (transport : Transport)
    (holdings : Nat → Holding) : String ⊕ Nat → List Nat
  | .inl text => (transport.idle text).filterMap (·.ep)
  | .inr thread => (holdings thread).ep.toList.map Prod.fst

/-- The key of a write. -/
def keysAt (holdings : Nat → Holding) (thread : Nat) : List Nat :=
  (holdings thread).rkey.toList

/-- A queue has room for its slots, which have no keys, and live endpoints of
its peer. -/
structure Queued
    (maxIdle : Nat)
    (transport : Transport)
    (text : String)
    (slots : List EpSlot) : Prop where
  bare : ∀ slot ∈ slots,
    ∃ ep, slot = ⟨some ep, none⟩ ∧ Located transport text ep
  room : slots.length ≤ maxIdle

/-- The endpoint of a write is live, and its key was unpacked on it from the
bytes that the gateway has answered. -/
structure Live (transport : Transport) (holding : Holding) : Prop where
  ep : ∀ ep text, holding.ep = some (ep, text) → Located transport text ep
  rkey : ∀ rkey, holding.rkey = some rkey →
    ∃ ep text packed, holding.ep = some (ep, text) ∧
      holding.packed = some packed ∧ transport.rkeys rkey = some (ep, packed)

/-- A write without a key. -/
theorem Live.keyless
    {transport : Transport}
    {holding : Holding}
    (bare : holding.rkey = none)
    (ep : ∀ ep text, holding.ep = some (ep, text) →
      Located transport text ep) :
    Live transport holding := by
  refine ⟨ep, ?_⟩
  intro rkey isHeld
  rw [bare] at isHeld
  cases isHeld

/-- What is true of the pool and of what the writes hold, at any time. -/
structure Sound
    (maxIdle : Nat)
    (transport : Transport)
    (holdings : Nat → Holding) : Prop where
  queues : ∀ text, Queued maxIdle transport text (transport.idle text)
  writes : ∀ thread, Live transport (holdings thread)
  endpoints : ∃ place, Kept (endpointsAt transport holdings) place ∧
    ∀ ep, place ep = none ↔ transport.endpoints ep = none
  rkeys : ∃ place, Kept (keysAt holdings) place ∧
    ∀ rkey, place rkey = none ↔ transport.rkeys rkey = none

section

variable
  {maxIdle : Nat}
  {transport : Transport}
  {holdings : Nat → Holding}
  {thread : Nat}

@[simp] theorem endpointsAt_update_holding (holding : Holding) :
    endpointsAt transport (Function.update holdings thread holding) =
      Function.update (endpointsAt transport holdings) (.inr thread)
        (holding.ep.toList.map Prod.fst) := by
  funext holder
  cases holder with
  | inl text => rfl
  | inr other =>
      by_cases same : other = thread
      · subst same
        simp [endpointsAt]
      · have apart : (Sum.inr other : String ⊕ Nat) ≠ .inr thread :=
          fun equal => same (Sum.inr.inj equal)
        simp [endpointsAt, Function.update_of_ne same,
          Function.update_of_ne apart]

@[simp] theorem endpointsAt_update_idle (text : String) (slots : List EpSlot) :
    endpointsAt { transport with
        idle := Function.update transport.idle text slots } holdings =
      Function.update (endpointsAt transport holdings) (.inl text)
        (slots.filterMap (·.ep)) := by
  funext holder
  cases holder with
  | inr other => rfl
  | inl other =>
      by_cases same : other = text
      · subst same
        simp [endpointsAt]
      · have apart : (Sum.inl other : String ⊕ Nat) ≠ .inl text :=
          fun equal => same (Sum.inl.inj equal)
        simp [endpointsAt, Function.update_of_ne same,
          Function.update_of_ne apart]

@[simp] theorem keysAt_update (holding : Holding) :
    keysAt (Function.update holdings thread holding) =
      Function.update (keysAt holdings) thread holding.rkey.toList := by
  funext other
  by_cases same : other = thread
  · subst same
    simp [keysAt]
  · simp [keysAt, Function.update_of_ne same]

/-- A write that keeps its endpoint. -/
theorem endpointsAt_of_ep
    {holding : Holding}
    (same : holding.ep = (holdings thread).ep) :
    endpointsAt transport (Function.update holdings thread holding) =
      endpointsAt transport holdings := by
  rw [endpointsAt_update_holding, same]
  exact Function.update_eq_self (Sum.inr thread) _

/-- A write that keeps its key. -/
theorem keysAt_of_rkey
    {holding : Holding}
    (same : holding.rkey = (holdings thread).rkey) :
    keysAt (Function.update holdings thread holding) = keysAt holdings := by
  rw [keysAt_update, same]
  exact Function.update_eq_self thread _

/-! ## Nothing is in two places -/

theorem mem_endpointsAt_idle
    {text : String}
    {slot : EpSlot}
    {ep : Nat}
    (member : slot ∈ transport.idle text)
    (isEp : slot.ep = some ep) :
    ep ∈ endpointsAt transport holdings (.inl text) :=
  List.mem_filterMap.mpr ⟨slot, member, isEp⟩

theorem mem_endpointsAt_held
    {text : String}
    {ep : Nat}
    (isHeld : (holdings thread).ep = some (ep, text)) :
    ep ∈ endpointsAt transport holdings (.inr thread) := by
  simp [endpointsAt, isHeld]

theorem mem_keysAt
    {rkey : Nat}
    (isHeld : (holdings thread).rkey = some rkey) :
    rkey ∈ keysAt holdings thread := by
  simp [keysAt, isHeld]

/-- An endpoint of a queue is not that of a write. -/
theorem Sound.idle_ne_held
    (sound : Sound maxIdle transport holdings)
    {text heldText : String}
    {slot : EpSlot}
    {ep held : Nat}
    (member : slot ∈ transport.idle text)
    (isEp : slot.ep = some ep)
    (isHeld : (holdings thread).ep = some (held, heldText)) :
    ep ≠ held := by
  rintro rfl
  obtain ⟨place, kept, -⟩ := sound.endpoints
  have same := kept.holder_inj (mem_endpointsAt_idle member isEp)
    (mem_endpointsAt_held isHeld)
  cases same

/-- No slot is in a queue twice. -/
theorem Sound.idle_nodup
    (sound : Sound maxIdle transport holdings)
    (text : String) :
    (transport.idle text).Nodup := by
  obtain ⟨place, kept, -⟩ := sound.endpoints
  have endpoints : ((transport.idle text).filterMap (·.ep)).Nodup :=
    kept.nodup (.inl text)
  apply (List.pairwise_filterMap.mp endpoints).imp_of_mem
  intro first second member _ apart same
  obtain ⟨ep, rfl, -⟩ := (sound.queues text).bare first member
  exact apart ep rfl ep (by rw [← same]) rfl

/-- No slot is in two queues. -/
theorem Sound.queue_inj
    (sound : Sound maxIdle transport holdings)
    {first second : String}
    {slot : EpSlot}
    (inFirst : slot ∈ transport.idle first)
    (inSecond : slot ∈ transport.idle second) :
    first = second := by
  obtain ⟨ep, rfl, -⟩ := (sound.queues first).bare slot inFirst
  obtain ⟨place, kept, -⟩ := sound.endpoints
  apply Sum.inl_injective
  exact kept.holder_inj (mem_endpointsAt_idle inFirst rfl)
    (mem_endpointsAt_idle inSecond rfl)

/-- Two writes do not hold one endpoint. -/
theorem Sound.held_inj
    (sound : Sound maxIdle transport holdings)
    {other ep : Nat}
    {text otherText : String}
    (isHeld : (holdings thread).ep = some (ep, text))
    (otherHeld : (holdings other).ep = some (ep, otherText)) :
    other = thread := by
  obtain ⟨place, kept, -⟩ := sound.endpoints
  apply Sum.inr_injective
  exact kept.holder_inj (mem_endpointsAt_held otherHeld)
    (mem_endpointsAt_held isHeld)

/-- Two writes do not hold one key. -/
theorem Sound.rkey_inj
    (sound : Sound maxIdle transport holdings)
    {other rkey : Nat}
    (isHeld : (holdings thread).rkey = some rkey)
    (otherHeld : (holdings other).rkey = some rkey) :
    other = thread := by
  obtain ⟨place, kept, -⟩ := sound.rkeys
  exact kept.holder_inj (mem_keysAt otherHeld) (mem_keysAt isHeld)

/-! ## Steps -/

/-- What every thread has, when one of them changes. -/
theorem forall_update
    {property : Holding → Prop}
    {holding : Holding}
    (own : property holding)
    (others : ∀ other, other ≠ thread → property (holdings other)) :
    ∀ other, property (Function.update holdings thread holding other) :=
  (Function.forall_update_iff _ fun _ => property).mpr ⟨own, others⟩

/-- A thread without a key may learn other bytes. -/
theorem Sound.repacked
    (sound : Sound maxIdle transport holdings)
    (bare : (holdings thread).rkey = none)
    (packed : Option Bytes) :
    Sound maxIdle transport
      (Function.update holdings thread { holdings thread with packed }) where
  queues := sound.queues
  writes := by
    apply forall_update
    · exact .keyless bare (sound.writes thread).ep
    · exact fun other _ => sound.writes other
  endpoints := by
    rw [endpointsAt_of_ep]
    · exact sound.endpoints
    · rfl
  rkeys := by
    rw [keysAt_of_rkey]
    · exact sound.rkeys
    · rfl

/-- Two tables have the same items when both are changed at one of them. -/
theorem update_eq_none_iff
    {α β : Type}
    {first : Nat → Option α}
    {second : Nat → Option β}
    (same : ∀ item, first item = none ↔ second item = none)
    {changed : Nat}
    {left : Option α}
    {right : Option β}
    (both : left = none ↔ right = none)
    (item : Nat) :
    Function.update first changed left item = none ↔
      Function.update second changed right item = none := by
  by_cases here : item = changed
  · subst here
    simpa using both
  · simpa [Function.update_of_ne here] using same item

/-- An endpoint that is moved stays live. -/
theorem dead_of_moved
    {η : Type}
    {place : Nat → Option η}
    (dead : ∀ ep, place ep = none ↔ transport.endpoints ep = none)
    {text : String}
    {ep : Nat}
    (located : Located transport text ep)
    (holder : η)
    (other : Nat) :
    Function.update place ep (some holder) other = none ↔
      transport.endpoints other = none := by
  obtain ⟨host, port, isLive, -⟩ := located
  rw [← Function.update_eq_self ep transport.endpoints]
  exact update_eq_none_iff dead (by simp [isLive]) other

/-- One queue changes. -/
theorem Sound.requeued
    (sound : Sound maxIdle transport holdings)
    {text : String}
    {slots : List EpSlot}
    (queued : Queued maxIdle transport text slots)
    (other : String) :
    Queued maxIdle
      { transport with idle := Function.update transport.idle text slots }
      other (Function.update transport.idle text slots other) := by
  by_cases same : other = text
  · subst same
    rw [Function.update_self]
    exact ⟨queued.bare, queued.room⟩
  · rw [Function.update_of_ne same]
    exact ⟨(sound.queues other).bare, (sound.queues other).room⟩

/-- A write takes an endpoint from a queue. -/
theorem Sound.taken
    (sound : Sound maxIdle transport holdings)
    (empty : (holdings thread).Empty)
    {text : String}
    {ep : Nat}
    {rest : List EpSlot}
    (found : transport.idle text = ⟨some ep, none⟩ :: rest) :
    Sound maxIdle
      { transport with idle := Function.update transport.idle text rest }
      (Function.update holdings thread
        { holdings thread with ep := some (ep, text), rkey := none }) := by
  have queued := sound.queues text
  rw [found] at queued
  have located : Located transport text ep := by
    obtain ⟨_, same, located⟩ := queued.bare _ List.mem_cons_self
    cases same
    exact located
  refine ⟨?_, ?_, ?_, ?_⟩
  · apply sound.requeued
    refine ⟨?_, Nat.le_of_succ_le queued.room⟩
    exact fun slot member => queued.bare slot (List.mem_cons_of_mem _ member)
  · apply forall_update
    · apply Live.keyless rfl
      intro other otherText isHeld
      cases isHeld
      exact located
    · exact fun other _ => ⟨(sound.writes other).ep, (sound.writes other).rkey⟩
  · obtain ⟨place, kept, dead⟩ := sound.endpoints
    rw [endpointsAt_update_holding, endpointsAt_update_idle]
    refine ⟨Function.update place ep (some (.inr thread)), ?_,
      dead_of_moved dead located _⟩
    apply kept.move
    · simp [endpointsAt, found]
    · simp [endpointsAt, empty.ep]
  · rw [keysAt_of_rkey empty.rkey.symm]
    exact sound.rkeys

/-! ### Other endpoints and keys -/

theorem Located.update
    {text : String}
    {ep other : Nat}
    {peer : Option (String × UInt16)}
    (located : Located transport text other)
    (apart : other ≠ ep) :
    Located
      { transport with
        endpoints := Function.update transport.endpoints ep peer }
      text other := by
  obtain ⟨host, port, isLive, same⟩ := located
  exact ⟨host, port, by rw [← isLive]; exact Function.update_of_ne apart _ _,
    same⟩

theorem Queued.update
    {text : String}
    {slots : List EpSlot}
    {ep : Nat}
    {peer : Option (String × UInt16)}
    (queued : Queued maxIdle transport text slots)
    (apart : ∀ slot ∈ slots, slot.ep ≠ some ep) :
    Queued maxIdle
      { transport with
        endpoints := Function.update transport.endpoints ep peer }
      text slots := by
  refine ⟨?_, queued.room⟩
  intro slot member
  obtain ⟨other, rfl, located⟩ := queued.bare slot member
  refine ⟨other, rfl, located.update ?_⟩
  rintro rfl
  exact apart _ member rfl

theorem Live.update
    {holding : Holding}
    {ep : Nat}
    {peer : Option (String × UInt16)}
    (live : Live transport holding)
    (apart : ∀ text, holding.ep ≠ some (ep, text)) :
    Live
      { transport with
        endpoints := Function.update transport.endpoints ep peer }
      holding := by
  refine ⟨?_, live.rkey⟩
  intro other text isHeld
  refine (live.ep other text isHeld).update ?_
  rintro rfl
  exact apart text isHeld

theorem Live.update_rkey
    {holding : Holding}
    {rkey : Nat}
    {source : Option (Nat × Bytes)}
    (live : Live transport holding)
    (apart : holding.rkey ≠ some rkey) :
    Live
      { transport with rkeys := Function.update transport.rkeys rkey source }
      holding := by
  refine ⟨live.ep, ?_⟩
  intro other isHeld
  obtain ⟨ep, text, packed, hasEp, hasPacked, isLive⟩ := live.rkey other isHeld
  refine ⟨ep, text, packed, hasEp, hasPacked, ?_⟩
  rw [← isLive]
  apply Function.update_of_ne
  rintro rfl
  exact apart isHeld

/-- What is dead is in no queue, and held by nobody. -/
theorem Sound.apart_of_dead
    (sound : Sound maxIdle transport holdings)
    {ep : Nat}
    (dead : transport.endpoints ep = none) :
    (∀ text, ∀ slot ∈ transport.idle text, slot.ep ≠ some ep) ∧
      ∀ other text, (holdings other).ep ≠ some (ep, text) := by
  constructor
  · intro text slot member isEp
    obtain ⟨_, rfl, host, port, isLive, -⟩ :=
      (sound.queues text).bare slot member
    cases isEp
    rw [dead] at isLive
    cases isLive
  · intro other text isHeld
    obtain ⟨host, port, isLive, -⟩ := (sound.writes other).ep ep text isHeld
    rw [dead] at isLive
    cases isLive

/-! ### The other steps -/

/-- A write holds the endpoint that it has created. -/
theorem Sound.created
    (sound : Sound maxIdle transport holdings)
    (empty : (holdings thread).Empty)
    {ep : Nat}
    (fresh : transport.endpoints ep = none)
    (host : String)
    (port : UInt16) :
    Sound maxIdle
      { transport with
        endpoints :=
          Function.update transport.endpoints ep (some (host, port)) }
      (Function.update holdings thread
        { holdings thread with ep := some (ep, key host port) }) := by
  obtain ⟨noQueue, noWrite⟩ := sound.apart_of_dead fresh
  refine ⟨?_, ?_, ?_, ?_⟩
  · exact fun text => (sound.queues text).update (noQueue text)
  · apply forall_update
    · apply Live.keyless
      · exact empty.rkey
      · intro other text isHeld
        cases isHeld
        exact ⟨host, port, Function.update_self _ _ _, rfl⟩
    · exact fun other _ => (sound.writes other).update (noWrite other)
  · obtain ⟨place, kept, dead⟩ := sound.endpoints
    rw [endpointsAt_update_holding]
    refine ⟨Function.update place ep (some (.inr thread)), ?_,
      update_eq_none_iff dead (by simp)⟩
    apply Kept.put kept ((dead ep).mpr fresh)
    simp [endpointsAt, empty.ep]
  · rw [keysAt_of_rkey]
    · exact sound.rkeys
    · rfl

/-- A write holds the key that it has unpacked. -/
theorem Sound.unpacked
    (sound : Sound maxIdle transport holdings)
    {ep rkey : Nat}
    {text : String}
    {packed : Bytes}
    (hasEp : (holdings thread).ep = some (ep, text))
    (bare : (holdings thread).rkey = none)
    (hasPacked : (holdings thread).packed = some packed)
    (fresh : transport.rkeys rkey = none) :
    Sound maxIdle
      { transport with
        rkeys := Function.update transport.rkeys rkey (some (ep, packed)) }
      (Function.update holdings thread
        { holdings thread with rkey := some rkey }) := by
  refine ⟨?_, ?_, ?_, ?_⟩
  · exact fun other => ⟨(sound.queues other).bare, (sound.queues other).room⟩
  · apply forall_update
    · refine ⟨(sound.writes thread).ep, ?_⟩
      intro other isHeld
      cases isHeld
      exact ⟨ep, text, packed, hasEp, hasPacked, Function.update_self _ _ _⟩
    · intro other _
      apply (sound.writes other).update_rkey
      intro isHeld
      obtain ⟨_, _, _, -, -, isLive⟩ := (sound.writes other).rkey rkey isHeld
      rw [fresh] at isLive
      cases isLive
  · obtain ⟨place, kept, dead⟩ := sound.endpoints
    refine ⟨place, ?_, dead⟩
    change Kept (endpointsAt transport _) place
    rw [endpointsAt_of_ep]
    · exact kept
    · rfl
  · obtain ⟨place, kept, dead⟩ := sound.rkeys
    rw [keysAt_update]
    refine ⟨Function.update place rkey (some thread), ?_,
      update_eq_none_iff dead (by simp)⟩
    apply Kept.put kept ((dead rkey).mpr fresh)
    simp [keysAt, bare]

/-- A key that a write destroys was its own. -/
theorem Sound.destroyed
    (sound : Sound maxIdle transport holdings)
    {rkey : Nat}
    (isHeld : (holdings thread).rkey = some rkey) :
    Sound maxIdle
      { transport with rkeys := Function.update transport.rkeys rkey none }
      (Function.update holdings thread
        { holdings thread with rkey := none }) := by
  refine ⟨?_, ?_, ?_, ?_⟩
  · exact fun other => ⟨(sound.queues other).bare, (sound.queues other).room⟩
  · apply forall_update
    · exact .keyless rfl (sound.writes thread).ep
    · intro other apart
      apply (sound.writes other).update_rkey
      exact fun otherHeld => apart (sound.rkey_inj isHeld otherHeld)
  · obtain ⟨place, kept, dead⟩ := sound.endpoints
    refine ⟨place, ?_, dead⟩
    change Kept (endpointsAt transport _) place
    rw [endpointsAt_of_ep]
    · exact kept
    · rfl
  · obtain ⟨place, kept, dead⟩ := sound.rkeys
    rw [keysAt_update]
    refine ⟨Function.update place rkey none, ?_,
      update_eq_none_iff dead (by simp)⟩
    apply Kept.take kept
    simp [keysAt, isHeld]

/-- A write returns its endpoint to the queue that it is from. -/
theorem Sound.returned
    (sound : Sound maxIdle transport holdings)
    {ep : Nat}
    {text : String}
    (hasEp : (holdings thread).ep = some (ep, text))
    (bare : (holdings thread).rkey = none)
    (room : (transport.idle text).length < maxIdle) :
    Sound maxIdle
      { transport with
        idle := Function.update transport.idle text
          (transport.idle text ++ [⟨some ep, none⟩]) }
      (Function.update holdings thread
        { holdings thread with ep := none }) := by
  have located := (sound.writes thread).ep ep text hasEp
  refine ⟨?_, ?_, ?_, ?_⟩
  · apply sound.requeued
    refine ⟨?_, by simpa using room⟩
    intro slot member
    rcases List.mem_append.mp member with member | member
    · exact (sound.queues text).bare slot member
    · obtain rfl := List.mem_singleton.mp member
      exact ⟨ep, rfl, located⟩
  · apply forall_update
    · apply Live.keyless
      · exact bare
      · intro ep text isHeld
        cases isHeld
    · exact fun other _ => ⟨(sound.writes other).ep, (sound.writes other).rkey⟩
  · obtain ⟨place, kept, dead⟩ := sound.endpoints
    rw [endpointsAt_update_idle, endpointsAt_update_holding]
    refine ⟨Function.update place ep (some (.inl text)), ?_,
      dead_of_moved dead located _⟩
    apply kept.move
    · simp [endpointsAt, hasEp]
    · simp [endpointsAt]
  · rw [keysAt_of_rkey]
    · exact sound.rkeys
    · rfl

/-- A write closes its endpoint. -/
theorem Sound.closed
    (sound : Sound maxIdle transport holdings)
    {ep : Nat}
    {text : String}
    (hasEp : (holdings thread).ep = some (ep, text))
    (bare : (holdings thread).rkey = none) :
    Sound maxIdle (transport.close (some ep))
      (Function.update holdings thread
        { holdings thread with ep := none }) := by
  refine ⟨?_, ?_, ?_, ?_⟩
  · intro other
    apply (sound.queues other).update
    intro slot member isEp
    exact sound.idle_ne_held member isEp hasEp rfl
  · apply forall_update
    · apply Live.keyless
      · exact bare
      · intro ep text isHeld
        cases isHeld
    · intro other apart
      apply (sound.writes other).update
      exact fun _ otherHeld => apart (sound.held_inj hasEp otherHeld)
  · obtain ⟨place, kept, dead⟩ := sound.endpoints
    rw [endpointsAt_update_holding]
    refine ⟨Function.update place ep none, ?_,
      update_eq_none_iff dead (by simp)⟩
    apply Kept.take kept
    simp [endpointsAt, hasEp]
  · rw [keysAt_of_rkey]
    · exact sound.rkeys
    · rfl

/-- What the gateway answers changes only what is known of its bytes. -/
theorem Sound.transferred
    (sound : Sound maxIdle transport holdings)
    {call : PutCall}
    (allowed : calls.allows (holdings thread) (.transfer call))
    (reply : call.Answer) :
    Sound maxIdle transport
      (Function.update holdings thread
        (calls.next (holdings thread) ⟨.transfer call, reply⟩)) := by
  have unchanged : Sound maxIdle transport
      (Function.update holdings thread (holdings thread)) := by
    rwa [Function.update_eq_self]
  cases call with
  | acquire host port packedRkey => exact allowed.elim
  | unpackRkey ep packedRkey => exact allowed.elim
  | giveBack host port slot => exact allowed.elim
  | discard slot => exact allowed.elim
  | openSession opening => exact sound.repacked allowed.rkey none
  | prepareTransfer sessionId transferBytes =>
      cases reply with
      | notInitialized => exact unchanged
      | failed controller => exact unchanged
      | answered info => exact sound.repacked allowed.rkey _
  | now => exact unchanged
  | randomWord => exact unchanged
  | putAndNotify ep data size gwRaddr gwRkey sessionId deadline =>
      exact unchanged
  | commitObject request => exact unchanged
  | commitPart request => exact unchanged
  | abortSession sessionId => exact unchanged

end

/-- An allowed request is answered as the protocol expects, and keeps the pool
and the writes as they should be. -/
theorem sound_step
    {maxIdle : Nat}
    (transport : Transport)
    (holdings : Nat → Holding)
    (thread : Nat)
    (event : Request PoolCall PoolCall.Answer)
    (after : Transport)
    (sound : Sound maxIdle transport holdings)
    (allowed : calls.allows (holdings thread) event.request)
    (happens : Effect maxIdle transport event after) :
    calls.expects (holdings thread) event ∧
      Sound maxIdle after
        (Function.update holdings thread
          (calls.next (holdings thread) event)) := by
  have unchanged : Sound maxIdle transport
      (Function.update holdings thread (holdings thread)) := by
    rwa [Function.update_eq_self]
  cases happens with
  | @taken text slot rest found =>
      obtain ⟨ep, rfl, -⟩ := (sound.queues text).bare slot
        (by rw [found]; exact List.mem_cons_self)
      exact ⟨⟨Option.some_ne_none ep, rfl⟩, sound.taken allowed found⟩
  | missed empty => exact ⟨trivial, unchanged⟩
  | parsed => exact ⟨trivial, unchanged⟩
  | notCreated => exact ⟨trivial, unchanged⟩
  | notUnpacked => exact ⟨trivial, unchanged⟩
  | @created host port ep fresh =>
      exact ⟨trivial, sound.created allowed fresh host port⟩
  | @unpacked ep packedRkey rkey fresh =>
      obtain ⟨⟨held, text, same, hasEp⟩, bare, hasPacked⟩ := allowed
      cases same
      exact ⟨trivial, sound.unpacked hasEp bare hasPacked fresh⟩
  | destroyed => exact ⟨trivial, sound.destroyed allowed⟩
  | @kept text slot room =>
      obtain ⟨noKey, ⟨held, isHeld, hasEp⟩, sameKey⟩ := allowed
      obtain ⟨ep, rkey⟩ := slot
      cases isHeld
      cases noKey
      exact ⟨trivial, sound.returned hasEp sameKey.symm room⟩
  | @full text slot full =>
      obtain ⟨noKey, ⟨held, isHeld, hasEp⟩, sameKey⟩ := allowed
      rw [isHeld]
      exact ⟨trivial, sound.closed hasEp (sameKey.symm.trans noKey)⟩
  | @closed ep =>
      obtain ⟨⟨held, text, rfl, hasEp⟩, bare⟩ := allowed
      exact ⟨trivial, sound.closed hasEp bare⟩
  | @transferred call reply => exact ⟨trivial, sound.transferred allowed reply⟩

end UcxEndpointPool
end Client
end TurboAccess
