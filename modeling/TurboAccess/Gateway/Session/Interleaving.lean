import TurboAccess.Lib.Machine
import TurboAccess.Gateway.Session.Displacement

/-!
# Interleaved calls of the session store

Any number of concurrent calls over one store.  A frame is what one call has
still to do, and a step of a frame is one section the code executes under the
lock of a shard.  Frames that have finished keep their outcome.

A new session is on the heap from the section that misses its key on, and
nothing leads to it before it is entered under its identifier.  The sweeper
visits one entry of the index in a step, in any order, and may stop at any time;
the code visits all entries of a shard under one lock, so that these are more
runs than it has.  A state change is one step on a session that the caller has
found earlier, registered or not.
-/

namespace TurboAccess
namespace Gateway

/-- A session that is still open for use. -/
def Session.Live (session : Session) : Prop :=
  session.state ≠ .completed ∧ session.state ≠ .failed ∧
    session.state ≠ .expired

instance (session : Session) : Decidable session.Live :=
  inferInstanceAs (Decidable (_ ∧ _ ∧ _))

namespace SessionPool

/-! ## Frames -/

/-- How far a new session is entered in the indexes. -/
inductive CreateStage
  | made
  | identified
  | ticketed
  deriving DecidableEq

/-- What a call has still to do. -/
inductive Frame
  | idle
  | creating (req : OpenSessionParams) (ptr : SessionPtr) (stage : CreateStage)
  | created (req : OpenSessionParams) (result : Result SessionPtr)
  | scanning (now : Nat) (expired : List SessionPtr)
  | dropping (evicted : Nat) (pending : List SessionPtr)
  | droppingKey (evicted : Nat) (ptr : SessionPtr) (pending : List SessionPtr)
  | swept (evicted : Nat)
  deriving DecidableEq

/-- The changes of state that the store offers. -/
inductive StateChange
  | claim
  | markActive
  | bumpActive
  | markCompleted
  | markFailed
  deriving DecidableEq

/-- Change the state of a session. -/
def StateChange.apply (change : StateChange) (store : SessionStore)
    (ptr : SessionPtr) : SessionStore :=
  match change with
  | .claim => (store.compareExchange ptr .opened .claimed).2
  | .markActive => (store.compareExchange ptr .claimed .active).2
  | .bumpActive => (store.compareExchange ptr .opened .active).2
  | .markCompleted => store.setState ptr .completed
  | .markFailed => store.setState ptr .failed

/-- What drives a frame: a new call, a state change, the next entry a sweeper
visits, or its own next section. -/
inductive Input
  | create (req : OpenSessionParams) (draw : Draw)
  | change (change : StateChange) (ptr : SessionPtr)
  | sweep (now : Nat)
  | visit (sessionId : String)
  | proceed

/-! ## Sections -/

/-- Next section of a frame. -/
def advance (store : SessionStore) :
    Frame → Input → Option (SessionStore × Frame)
  | .idle, .create req draw =>
      match store.lookupKey req with
      | some answer => some (store, .created req answer)
      | none =>
          let (ptr, store) := store.allocate req draw
          some (store, .creating req ptr .made)
  | .idle, .change change ptr =>
      if ptr < store.allocated then some (change.apply store ptr, .idle)
      else none
  | .idle, .sweep now => some (store, .scanning now [])
  | .creating req ptr .made, .proceed =>
      some (store.indexId ptr, .creating req ptr .identified)
  | .creating req ptr .identified, .proceed =>
      some (store.indexTicket ptr, .creating req ptr .ticketed)
  | .creating req ptr .ticketed, .proceed =>
      some (store.indexKey ptr, .created req (.ok ptr))
  | .scanning now expired, .visit sessionId =>
      let (found, store) := store.sweepOne now sessionId
      some (store, .scanning now (expired ++ found.toList))
  | .scanning _ expired, .proceed =>
      some (store, .dropping expired.length expired)
  | .dropping evicted (ptr :: pending), .proceed =>
      some (store.dropTicket ptr, .droppingKey evicted ptr pending)
  | .droppingKey evicted ptr pending, .proceed =>
      some (store.dropKey ptr, .dropping evicted pending)
  | .dropping evicted [], .proceed => some (store, .swept evicted)
  | _, _ => none

/-- All interleavings of calls over an empty store. -/
def machine : Machine (Pool SessionStore Frame) (Nat × Input) where
  initial := fun pool => ∃ gatewayId sessionTtl,
    pool = ⟨.init gatewayId sessionTtl, fun _ => .idle⟩
  step := Pool.step advance

namespace Frame

/-- The session that a frame has made and not yet returned. -/
def inFlight : Frame → Option SessionPtr
  | .creating _ ptr _ => some ptr
  | _ => none

/-- The session that a frame has made or returned. -/
def session : Frame → Option SessionPtr
  | .creating _ ptr _ => some ptr
  | .created _ (.ok ptr) => some ptr
  | _ => none

/-- The removed sessions whose keys a frame has still to erase. -/
def pending : Frame → List SessionPtr
  | .scanning _ expired => expired
  | .dropping _ pending => pending
  | .droppingKey _ ptr pending => ptr :: pending
  | _ => []

end Frame

/-! ## What one section can do -/

/-- The sections of a frame: the frame and the store after each. -/
inductive Moves (store : SessionStore) :
    Frame → SessionStore → Frame → Prop
  | answer (req : OpenSessionParams) (result : Result SessionPtr)
      (known : store.lookupKey req = some result) :
      Moves store .idle store (.created req result)
  | make (req : OpenSessionParams) (draw : Draw)
      (missed : store.lookupKey req = none) :
      Moves store .idle (store.allocate req draw).2
        (.creating req store.allocated .made)
  | change (change : StateChange) (ptr : SessionPtr)
      (exists_ : ptr < store.allocated) :
      Moves store .idle (change.apply store ptr) .idle
  | startSweep (now : Nat) : Moves store .idle store (.scanning now [])
  | indexId (req : OpenSessionParams) (ptr : SessionPtr) :
      Moves store (.creating req ptr .made) (store.indexId ptr)
        (.creating req ptr .identified)
  | indexTicket (req : OpenSessionParams) (ptr : SessionPtr) :
      Moves store (.creating req ptr .identified) (store.indexTicket ptr)
        (.creating req ptr .ticketed)
  | indexKey (req : OpenSessionParams) (ptr : SessionPtr) :
      Moves store (.creating req ptr .ticketed) (store.indexKey ptr)
        (.created req (.ok ptr))
  | visit (now : Nat) (expired : List SessionPtr) (sessionId : String) :
      Moves store (.scanning now expired) (store.sweepOne now sessionId).2
        (.scanning now
          (expired ++ (store.sweepOne now sessionId).1.toList))
  | endScan (now : Nat) (expired : List SessionPtr) :
      Moves store (.scanning now expired) store
        (.dropping expired.length expired)
  | dropTicket (evicted : Nat) (ptr : SessionPtr)
      (pending : List SessionPtr) :
      Moves store (.dropping evicted (ptr :: pending)) (store.dropTicket ptr)
        (.droppingKey evicted ptr pending)
  | dropKey (evicted : Nat) (ptr : SessionPtr) (pending : List SessionPtr) :
      Moves store (.droppingKey evicted ptr pending) (store.dropKey ptr)
        (.dropping evicted pending)
  | endSweep (evicted : Nat) :
      Moves store (.dropping evicted []) store (.swept evicted)

/-- A step of a frame is one of its sections. -/
theorem moves_of_advance
    {store next : SessionStore}
    {before after : Frame}
    {input : Input}
    (moved : advance store before input = some (next, after)) :
    Moves store before next after := by
  revert moved
  fun_cases advance store before input
  all_goals
    intro moved
    simp only [Option.some.injEq, Prod.mk.injEq, reduceCtorEq] at moved
  all_goals obtain ⟨rfl, rfl⟩ := moved
  case case1 req draw answer known => exact .answer req answer known
  case case2 req draw missed ptr store' made =>
    cases made
    exact .make req draw missed
  case case3 change ptr exists_ => exact .change change ptr exists_
  case case5 now => exact .startSweep now
  case case6 req ptr => exact .indexId req ptr
  case case7 req ptr => exact .indexTicket req ptr
  case case8 req ptr => exact .indexKey req ptr
  case case9 now expired sessionId found store' visited =>
    have moves : Moves store _ _ _ := .visit now expired sessionId
    rw [visited] at moves
    exact moves
  case case10 now expired => exact .endScan now expired
  case case11 evicted ptr pending => exact .dropTicket evicted ptr pending
  case case12 evicted ptr pending => exact .dropKey evicted ptr pending
  case case13 evicted => exact .endSweep evicted

/-! ## Views of a section -/

variable
  {store next : SessionStore}
  {before after : Frame}

theorem live_setState
    {ptr other : SessionPtr}
    {state : SessionState}
    (live : ((store.setState ptr state).objects other).Live)
    (keeps : (store.objects ptr).Live ∨ state = .completed ∨
      state = .failed) :
    (store.objects other).Live := by
  rw [Session.Live, SessionStore.state_setState] at live
  by_cases own : other = ptr
  · rw [if_pos own] at live
    rw [own]
    apply keeps.resolve_right
    rintro (rfl | rfl) <;> simp at live
  · rwa [if_neg own] at live

/-- No change of state brings a session back to life. -/
theorem live_of_change
    {change : StateChange}
    {ptr other : SessionPtr}
    (live : ((change.apply store ptr).objects other).Live) :
    (store.objects other).Live := by
  -- an exchange needs one of the live states
  have exchange : ∀ expected desired,
      expected = .opened ∨ expected = .claimed →
        ((store.compareExchange ptr expected desired).2.objects other).Live →
          (store.objects other).Live := by
    intro expected desired usable live
    rw [SessionStore.compareExchange] at live
    split at live
    · next same =>
        refine live_setState live (.inl ?_)
        rcases usable with rfl | rfl <;> simp [Session.Live, same]
    · exact live
  cases change with
  | claim => exact exchange _ _ (.inl rfl) live
  | markActive => exact exchange _ _ (.inr rfl) live
  | bumpActive => exact exchange _ _ (.inl rfl) live
  | markCompleted => exact live_setState live (.inr (.inl rfl))
  | markFailed => exact live_setState live (.inr (.inr rfl))

/-- A change of state changes a state. -/
theorem onlyStates_change
    (change : StateChange)
    (store : SessionStore)
    (ptr : SessionPtr) :
    store.OnlyStates (change.apply store ptr) := by
  cases change with
  | claim | markActive | bumpActive =>
      exact store.onlyStates_compareExchange ptr _ _
  | markCompleted | markFailed => exact store.onlyStates_setState ptr _

/-- A dead session is not live once it is visited. -/
theorem not_live_expireIfDue
    {now : Nat}
    {session : Session}
    (dead : session.Dead now) :
    ¬(session.expireIfDue now).Live := by
  intro live
  rw [Session.Live, Session.state_expireIfDue] at live
  by_cases terminal : session.Terminal
  · rcases terminal with failed | completed
    · simp [Session.Terminal, failed] at live
    · simp [Session.Terminal, completed] at live
  · have due : session.expireDeadline ≤ now := dead.resolve_right terminal
    simp [due, terminal] at live

/-- A section changes at most the states of the sessions that exist. -/
theorem Moves.sameButState
    (moves : Moves store before next after)
    {ptr : SessionPtr}
    (exists_ : ptr < store.allocated) :
    (store.objects ptr).SameButState (next.objects ptr) := by
  cases moves with
  | make req draw missed =>
      have kept : (store.allocate req draw).2.objects ptr =
          store.objects ptr := Function.update_of_ne (Nat.ne_of_lt exists_) _ _
      rw [kept]
      exact .refl _
  | change change other _ =>
      exact (onlyStates_change change store other).objects ptr
  | visit now expired sessionId =>
      rw [SessionStore.objects_sweepOne]
      split
      · exact Session.sameButState_expireIfDue now _
      · exact .refl _
  | indexKey req other =>
      rw [SessionStore.indexKey_frame]
      exact .refl _
  | dropKey evicted other pending =>
      rw [SessionStore.dropKey_frame]
      exact .refl _
  | answer | startSweep | indexId | indexTicket | endScan | dropTicket
  | endSweep => exact .refl _

/-- No section brings a session back to life. -/
theorem Moves.live
    (moves : Moves store before next after)
    {ptr : SessionPtr}
    (exists_ : ptr < store.allocated)
    (live : (next.objects ptr).Live) :
    (store.objects ptr).Live := by
  cases moves with
  | make req draw missed =>
      have kept : (store.allocate req draw).2.objects ptr =
          store.objects ptr := Function.update_of_ne (Nat.ne_of_lt exists_) _ _
      rwa [kept] at live
  | change change other _ => exact live_of_change live
  | visit now expired sessionId =>
      rw [SessionStore.objects_sweepOne] at live
      split at live
      · by_cases dead : (store.objects ptr).Dead now
        · exact absurd live (not_live_expireIfDue dead)
        · rwa [Session.expireIfDue_of_not_dead dead] at live
      · exact live
  | indexKey req other =>
      rw [SessionStore.indexKey_frame] at live
      exact live
  | dropKey evicted other pending =>
      rw [SessionStore.dropKey_frame] at live
      exact live
  | answer | startSweep | indexId | indexTicket | endScan | dropTicket
  | endSweep => exact live

/-- Sessions are only ever added to the heap. -/
theorem Moves.allocated_cases (moves : Moves store before next after) :
    next.allocated = store.allocated ∨
      ∃ req draw, store.lookupKey req = none ∧ before = .idle ∧
        next = (store.allocate req draw).2 ∧
        after = .creating req store.allocated .made := by
  cases moves with
  | make req draw missed => exact .inr ⟨req, draw, missed, rfl, rfl, rfl⟩
  | change change ptr exists_ =>
      exact .inl (onlyStates_change change store ptr).allocated
  | visit now expired sessionId =>
      left
      rw [SessionStore.sweepOne_frame]
  | indexKey req ptr =>
      left
      rw [SessionStore.indexKey_frame]
  | dropKey evicted ptr pending =>
      left
      rw [SessionStore.dropKey_frame]
  | answer | startSweep | indexId | indexTicket | endScan | dropTicket
  | endSweep => exact .inl rfl

theorem Moves.allocated_le (moves : Moves store before next after) :
    store.allocated ≤ next.allocated := by
  rcases moves.allocated_cases with same | ⟨req, draw, _, _, rfl, _⟩
  · exact same.ge
  · exact Nat.le_succ _

/-- An entry under an identifier was there before, or is that of the session
just entered. -/
theorem Moves.byId_eq_some
    (moves : Moves store before next after)
    {sessionId : String}
    {ptr : SessionPtr}
    (found : next.byId.lookup sessionId = some ptr) :
    store.byId.lookup sessionId = some ptr ∨
      (store.objects ptr).sessionId = sessionId ∧
        next.objects ptr = store.objects ptr ∧
        ∃ req, before = .creating req ptr .made ∧
          after = .creating req ptr .identified := by
  cases moves with
  | change change other _ =>
      rw [(onlyStates_change change store other).byId] at found
      exact .inl found
  | indexId req other =>
      simp only [SessionStore.indexId, Table.lookup_insert_eq] at found
      split at found
      · next own =>
          cases found
          exact .inr ⟨own.symm, rfl, req, rfl, rfl⟩
      · exact .inl found
  | visit now expired other =>
      rw [SessionStore.byId_sweepOne] at found
      split at found
      · exact .inl (Option.filter_eq_some_iff.mp found).1
      · exact .inl found
  | indexKey req other =>
      rw [SessionStore.indexKey_frame] at found
      exact .inl found
  | dropKey evicted other pending =>
      rw [SessionStore.dropKey_frame] at found
      exact .inl found
  | answer | make | startSweep | indexTicket | endScan | dropTicket
  | endSweep => exact .inl found

/-- An entry under a ticket was there before, or is that of the session just
entered. -/
theorem Moves.byTicket_eq_some
    (moves : Moves store before next after)
    {ticket : String}
    {ptr : SessionPtr}
    (found : next.byTicket.lookup ticket = some ptr) :
    store.byTicket.lookup ticket = some ptr ∨
      (store.objects ptr).ticket = ticket ∧
        next.objects ptr = store.objects ptr ∧
        ∃ req, before = .creating req ptr .identified := by
  cases moves with
  | change change other _ =>
      rw [(onlyStates_change change store other).byTicket] at found
      exact .inl found
  | indexTicket req other =>
      simp only [SessionStore.indexTicket, Table.lookup_insert_eq] at found
      split at found
      · next own =>
          cases found
          exact .inr ⟨own.symm, rfl, req, rfl⟩
      · exact .inl found
  | visit now expired other =>
      rw [SessionStore.sweepOne_frame] at found
      exact .inl found
  | indexKey req other =>
      rw [SessionStore.indexKey_frame] at found
      exact .inl found
  | dropTicket evicted other pending =>
      simp only [SessionStore.dropTicket, Table.lookup_erase_eq] at found
      split at found
      · cases found
      · exact .inl found
  | dropKey evicted other pending =>
      rw [SessionStore.dropKey_frame] at found
      exact .inl found
  | answer | make | startSweep | indexId | endScan | endSweep =>
      exact .inl found

/-- Changes of the entry of a key. -/
inductive KeyChange (store : SessionStore) (key : String) :
    Frame → Frame → Option SessionPtr → Prop
  | unchanged {before after : Frame} :
      KeyChange store key before after (store.byIdempotency.lookup key)
  | entered (req : OpenSessionParams) (ptr : SessionPtr)
      (owns : (store.objects ptr).idempotencyKey = key)
      (nonempty : key ≠ "") :
      KeyChange store key (.creating req ptr .ticketed)
        (.created req (.ok ptr)) (some ptr)
  | erased (evicted : Nat) (ptr : SessionPtr) (pending : List SessionPtr)
      (owns : (store.objects ptr).idempotencyKey = key)
      (nonempty : key ≠ "") :
      KeyChange store key (.droppingKey evicted ptr pending)
        (.dropping evicted pending) none

/-- What one section can do to the entry of a key. -/
theorem Moves.keyChange
    (moves : Moves store before next after)
    (key : String) :
    KeyChange store key before after (next.byIdempotency.lookup key) := by
  cases moves with
  | change change other _ =>
      rw [(onlyStates_change change store other).byIdempotency]
      exact .unchanged
  | visit now expired other =>
      rw [SessionStore.sweepOne_frame]
      exact .unchanged
  | indexKey req ptr =>
      rw [SessionStore.indexKey]
      split
      · exact .unchanged
      · next nonempty =>
          simp only [Table.lookup_insert_eq]
          split
          · next own =>
              subst own
              exact .entered req ptr rfl nonempty
          · exact .unchanged
  | dropKey evicted ptr pending =>
      rw [SessionStore.dropKey]
      split
      · exact .unchanged
      · next nonempty =>
          simp only [Table.lookup_erase_eq]
          split
          · next own =>
              subst own
              exact .erased evicted ptr pending rfl nonempty
          · exact .unchanged
  | answer | make | startSweep | indexId | indexTicket | endScan | dropTicket
  | endSweep => exact .unchanged

/-- The store after a section still names sessions as it should. -/
theorem Moves.named
    (moves : Moves store before next after)
    (named : store.Named)
    (bound : ∀ ptr, before.inFlight = some ptr → ptr < store.allocated) :
    next.Named := by
  have older : ∀ ptr, ptr < store.allocated → ptr < next.allocated :=
    fun ptr exists_ => Nat.lt_of_lt_of_le exists_ moves.allocated_le
  constructor
  · intro sessionId ptr found
    rcases moves.byId_eq_some found with was | ⟨owns, same, req, rfl, _⟩
    · obtain ⟨exists_, owns⟩ := named.byId sessionId ptr was
      exact ⟨older ptr exists_,
        (moves.sameButState exists_).sessionId.trans owns⟩
    · exact ⟨older ptr (bound ptr rfl), same ▸ owns⟩
  · intro ticket ptr found
    rcases moves.byTicket_eq_some found with was | ⟨owns, same, req, rfl⟩
    · obtain ⟨exists_, owns⟩ := named.byTicket ticket ptr was
      exact ⟨older ptr exists_, (moves.sameButState exists_).ticket.trans owns⟩
    · exact ⟨older ptr (bound ptr rfl), same ▸ owns⟩
  · intro key ptr found
    have change := moves.keyChange key
    generalize next.byIdempotency.lookup key = entry at change found
    cases change with
    | unchanged =>
        obtain ⟨exists_, owns, nonempty⟩ := named.byIdempotency key ptr found
        exact ⟨older ptr exists_,
          (moves.sameButState exists_).idempotencyKey.trans owns, nonempty⟩
    | entered req other owns nonempty =>
        cases found
        have exists_ := bound ptr rfl
        exact ⟨older ptr exists_,
          (moves.sameButState exists_).idempotencyKey.trans owns, nonempty⟩
    | erased => cases found

/-- A frame has the session it had, that of a key, or a new one. -/
theorem Moves.session_bound
    (moves : Moves store before next after)
    (named : store.Named)
    (bound : ∀ ptr, before.session = some ptr → ptr < store.allocated)
    {ptr : SessionPtr}
    (has : after.session = some ptr) :
    ptr < next.allocated := by
  have older : ptr < store.allocated → ptr < next.allocated :=
    fun exists_ => Nat.lt_of_lt_of_le exists_ moves.allocated_le
  cases moves with
  | answer req result known =>
      cases result with
      | error => cases has
      | ok found =>
          cases has
          exact (named.byIdempotency _ ptr
            (SessionStore.lookupKey_eq_ok known)).1
  | make =>
      cases has
      exact Nat.lt_succ_self _
  | indexId | indexTicket | indexKey => exact older (bound ptr has)
  | change | startSweep | visit | endScan | dropTicket | dropKey | endSweep =>
      cases has

/-- Sessions have identifiers, their own or random ones. -/
theorem Moves.identified
    (moves : Moves store before next after)
    (identified : ∀ ptr < store.allocated,
      (store.objects ptr).sessionId ≠ "")
    {ptr : SessionPtr}
    (exists_ : ptr < next.allocated) :
    (next.objects ptr).sessionId ≠ "" := by
  by_cases older : ptr < store.allocated
  · rw [(moves.sameButState older).sessionId]
    exact identified ptr older
  · rcases moves.allocated_cases with same | ⟨req, draw, _, _, rfl, _⟩
    · rw [same] at exists_
      exact absurd exists_ older
    · have new : ptr = store.allocated :=
        Nat.le_antisymm (Nat.le_of_lt_succ exists_) (Nat.le_of_not_lt older)
      subst new
      simp only [SessionStore.allocate, Function.update_self]
      exact store.sessionId_newSession_ne_empty req draw

/-- Only a sweeper's visit removes an identifier. -/
theorem byId_kept_of_advance
    {input : Input}
    {sessionId : String}
    {ptr : SessionPtr}
    (moved : advance store before input = some (next, after))
    (other : ∀ visited, input ≠ .visit visited)
    (found : store.byId.lookup sessionId = some ptr) :
    ∃ found, next.byId.lookup sessionId = some found := by
  revert moved
  fun_cases advance store before input
  all_goals
    intro moved
    simp only [Option.some.injEq, Prod.mk.injEq, reduceCtorEq] at moved
  all_goals obtain ⟨rfl, rfl⟩ := moved
  case case1 | case5 | case7 | case10 | case11 | case13 => exact ⟨ptr, found⟩
  case case2 req draw missed made store' allocated =>
    cases allocated
    exact ⟨ptr, found⟩
  case case3 change changed exists_ =>
    rw [(onlyStates_change change store changed).byId]
    exact ⟨ptr, found⟩
  case case6 req made =>
    simp only [SessionStore.indexId, Table.lookup_insert_eq]
    split
    · exact ⟨made, rfl⟩
    · exact ⟨ptr, found⟩
  case case8 req made =>
    rw [SessionStore.indexKey_frame]
    exact ⟨ptr, found⟩
  case case9 now expired visited _ _ _ => exact absurd rfl (other visited)
  case case12 evicted removed pending =>
    rw [SessionStore.dropKey_frame]
    exact ⟨ptr, found⟩

/-- A frame has the session it had in flight, or a new one. -/
theorem Moves.inFlight_eq_some
    (moves : Moves store before next after)
    {ptr : SessionPtr}
    (flies : after.inFlight = some ptr) :
    before.inFlight = some ptr ∨
      ∃ req draw, store.lookupKey req = none ∧
        next = (store.allocate req draw).2 ∧ ptr = store.allocated ∧
        after = .creating req ptr .made := by
  cases moves with
  | make req draw missed =>
      cases flies
      exact .inr ⟨req, draw, missed, rfl, rfl, rfl⟩
  | indexId | indexTicket => exact .inl flies
  | answer | change | startSweep | indexKey | visit | endScan | dropTicket
  | dropKey | endSweep => cases flies

/-- A session in flight stays so until it is entered under its key. -/
theorem Moves.inFlight_kept
    (moves : Moves store before next after)
    {ptr : SessionPtr}
    (flies : before.inFlight = some ptr) :
    after.inFlight = some ptr ∨
      ∃ req, before = .creating req ptr .ticketed ∧
        after = .created req (.ok ptr) ∧ next = store.indexKey ptr := by
  cases moves with
  | indexId | indexTicket => exact .inl flies
  | indexKey req other =>
      cases flies
      exact .inr ⟨req, rfl, rfl, rfl⟩
  | answer | make | change | startSweep | visit | endScan | dropTicket
  | dropKey | endSweep => cases flies

/-- The keys that a frame has still to erase are those it had, and that of the
session it has just removed from the index. -/
theorem Moves.pending_cases
    (moves : Moves store before next after)
    (named : store.Named) :
    after.pending.Sublist before.pending ∨
      ∃ ptr, after.pending = before.pending ++ [ptr] ∧
        store.Registered ptr ∧ ¬next.Registered ptr ∧
        ¬(next.objects ptr).Live := by
  cases moves with
  | visit now expired sessionId =>
      rcases store.sweepOne_cases now sessionId with
        ⟨_, same⟩ | ⟨ptr, found, dead, _, removed⟩
      · left
        rw [same]
        simp [Frame.pending]
      · right
        refine ⟨ptr, by rw [removed]; rfl, ⟨sessionId, found⟩, ?_, ?_⟩
        · -- a session is registered under its own identifier only
          rintro ⟨other, still⟩
          rw [SessionStore.byId_sweepOne] at still
          split at still
          · have alive := (Option.filter_eq_some_iff.mp still).2
            simp [dead] at alive
          · next different =>
              have own := (named.byId other ptr still).2
              exact different
                (own.symm.trans (named.byId sessionId ptr found).2)
        · rw [SessionStore.objects_sweepOne, if_pos found]
          exact not_live_expireIfDue dead
  | endScan | dropTicket => exact .inl (List.Sublist.refl _)
  | dropKey evicted ptr pending => exact .inl (List.sublist_cons_self _ _)
  | answer | make | change | startSweep | indexId | indexTicket | indexKey
  | endSweep => exact .inl (List.nil_sublist _)

/-- A session is made by a creation that misses its key. -/
theorem advance_eq_made
    {input : Input}
    {req : OpenSessionParams}
    {ptr : SessionPtr}
    (moved : advance store before input = some (next, .creating req ptr .made)) :
    ∃ draw, input = .create req draw ∧ store.lookupKey req = none := by
  revert moved
  fun_cases advance store before input
  all_goals
    intro moved
    simp only [Option.some.injEq, Prod.mk.injEq, reduceCtorEq, and_false,
      Frame.creating.injEq] at moved
  case case2 req' draw missed other made allocated =>
    obtain ⟨_, rfl, _⟩ := moved
    exact ⟨draw, rfl, missed⟩

/-! ## Runs -/

/-- A step of the pool is a section of one of its frames. -/
theorem moves_of_step
    {pool later : Pool SessionStore Frame}
    {label : Nat × Input}
    (stepped : machine.step pool label = some later) :
    ∃ store frame,
      Moves pool.shared (pool.threads label.1) store frame ∧
        later = ⟨store, Function.update pool.threads label.1 frame⟩ := by
  obtain ⟨store, frame, moved, rfl⟩ := Pool.step_eq_some stepped
  exact ⟨store, frame, moves_of_advance moved, rfl⟩

/-! ## Sessions on the heap -/

/-- The indexes lead to sessions under their own names, every session has an
identifier, and the sessions that calls have in hand exist. -/
structure Grounded (store : SessionStore) (frames : Nat → Frame) : Prop where
  named : store.Named
  identified : ∀ ptr < store.allocated, (store.objects ptr).sessionId ≠ ""
  bound : ∀ thread ptr, (frames thread).session = some ptr →
    ptr < store.allocated

namespace Grounded

variable {frames : Nat → Frame}

theorem init (gatewayId : String) (sessionTtl : Nat) :
    Grounded (.init gatewayId sessionTtl) fun _ => .idle := by
  refine ⟨?_, by simp [SessionStore.init], by simp [Frame.session]⟩
  constructor <;> simp [SessionStore.init]

/-- A section keeps sessions on the heap. -/
theorem moves
    {mover : Nat}
    (grounded : Grounded store frames)
    (moves : Moves store (frames mover) next after) :
    Grounded next (Function.update frames mover after) where
  named := by
    apply moves.named grounded.named
    intro ptr flies
    apply grounded.bound mover ptr
    generalize frames mover = frame at flies
    cases frame with
    | creating => exact flies
    | idle | created | scanning | dropping | droppingKey | swept => cases flies
  identified := fun _ exists_ => moves.identified grounded.identified exists_
  bound := by
    intro thread ptr has
    by_cases moving : thread = mover
    · subst moving
      rw [Function.update_self] at has
      exact moves.session_bound grounded.named (grounded.bound thread) has
    · rw [Function.update_of_ne moving] at has
      exact Nat.lt_of_lt_of_le (grounded.bound thread ptr has)
        moves.allocated_le

/-- So does a change of states by a call that ends or has not begun. -/
theorem onlyStates
    {mover : Nat}
    (grounded : Grounded store frames)
    (only : store.OnlyStates next) :
    Grounded next (Function.update frames mover .idle) where
  named := grounded.named.onlyStates only
  identified := by
    intro ptr exists_
    rw [(only.objects ptr).sessionId]
    exact grounded.identified ptr (only.allocated ▸ exists_)
  bound := by
    intro thread ptr has
    rw [only.allocated]
    by_cases moving : thread = mover
    · subst moving
      rw [Function.update_self] at has
      cases has
    · rw [Function.update_of_ne moving] at has
      exact grounded.bound thread ptr has

end Grounded

end SessionPool
end Gateway
end TurboAccess
