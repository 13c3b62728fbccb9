import TurboAccess.Gateway.Session.Interleaving

/-!
# Terminal states of sessions

The changes of a session's state, one atomic access at a time.  A call looks the
session up and then accesses its state; a sweeper loads the state, decides by
what it has loaded, and stores in a step of its own.  Between the steps of one
thread all others can take theirs.  (The lock of a shard, which a sweeper holds
while it visits an entry, only takes interleavings away.)

Three of the changes compare before they store; the other two, and the sweeper,
store whatever is there.
-/

namespace TurboAccess
namespace Gateway
namespace SessionAccess

open SessionStore SessionPool

/-! ## Accesses -/

/-- Look up the session of a change: by ticket for a claim, by identifier
otherwise. -/
def lookup (store : SessionStore) (name : String) :
    StateChange → Result SessionPtr
  | .claim => store.findByTicket name
  | .markActive | .bumpActive | .markCompleted | .markFailed =>
      store.find name

/-- How far a thread is: idle, with a session it has found, between the visits
of a sweep, with a state it has loaded, with an entry to erase, or in the second
pass of a sweep. -/
inductive Frame
  | idle
  | found (change : StateChange) (ptr : SessionPtr)
  | scanning (now : Nat) (expired : List SessionPtr)
  | loaded (now : Nat) (expired : List SessionPtr) (sessionId : String)
      (ptr : SessionPtr) (seen : SessionState)
  | erasing (now : Nat) (expired : List SessionPtr) (sessionId : String)
      (ptr : SessionPtr)
  | dropping (pending : List SessionPtr)
  | droppingKey (ptr : SessionPtr) (pending : List SessionPtr)
  deriving DecidableEq

/-- What drives a frame: a new call, a new sweep, the next entry of a sweep, or
its own next step. -/
inductive Input
  | call (change : StateChange) (name : String)
  | sweep (now : Nat)
  | visit (sessionId : String)
  | proceed

/-- A loaded state of a session that has failed or completed. -/
def Ended (seen : SessionState) : Prop :=
  seen = .failed ∨ seen = .completed

instance (seen : SessionState) : Decidable (Ended seen) :=
  inferInstanceAs (Decidable (_ ∨ _))

/-- A sweeper that has loaded a state stores that the session is expired. -/
def Expires
    (store : SessionStore)
    (now : Nat)
    (ptr : SessionPtr)
    (seen : SessionState) : Prop :=
  (store.objects ptr).expireDeadline ≤ now ∧ ¬Ended seen

instance
    (store : SessionStore)
    (now : Nat)
    (ptr : SessionPtr)
    (seen : SessionState) : Decidable (Expires store now ptr seen) :=
  inferInstanceAs (Decidable (_ ∧ _))

/-- Next step of a frame. -/
def advance (store : SessionStore) :
    Frame → Input → Option (SessionStore × Frame)
  | .idle, .call change name =>
      match lookup store name change with
      | .error _ => some (store, .idle)
      | .ok ptr => some (store, .found change ptr)
  | .found change ptr, .proceed => some (change.apply store ptr, .idle)
  | .idle, .sweep now => some (store, .scanning now [])
  | .scanning now expired, .visit sessionId =>
      match store.byId.lookup sessionId with
      | none => some (store, .scanning now expired)
      | some ptr =>
          some (store,
            .loaded now expired sessionId ptr (store.objects ptr).state)
  | .loaded now expired sessionId ptr seen, .proceed =>
      if (store.objects ptr).expireDeadline ≤ now ∨ Ended seen then
        some (if Expires store now ptr seen then store.setState ptr .expired
          else store, .erasing now expired sessionId ptr)
      else some (store, .scanning now expired)
  | .erasing now expired sessionId ptr, .proceed =>
      some ({ store with byId := store.byId.erase sessionId },
        .scanning now (expired ++ [ptr]))
  | .scanning _ expired, .proceed => some (store, .dropping expired)
  | .dropping (ptr :: pending), .proceed =>
      some (store.dropTicket ptr, .droppingKey ptr pending)
  | .droppingKey ptr pending, .proceed =>
      some (store.dropKey ptr, .dropping pending)
  | .dropping [], .proceed => some (store, .idle)
  | _, _ => none

/-- All interleavings of accesses to the sessions of a store. -/
def machine : Machine (Pool SessionStore Frame) (Nat × Input) where
  initial := fun pool => ∀ thread, pool.threads thread = .idle
  step := Pool.step advance

/-! ## The property and its condition -/

/-- Whatever the state of a session is at some point of a run, if it is terminal
it is the same at every later point. -/
def TerminalKept
    (start : Pool SessionStore Frame)
    (labels : List (Nat × Input)) : Prop :=
  ∀ first second middle finish ptr,
    first ++ second <+: labels →
      machine.Path Machine.always start first middle →
        machine.Path Machine.always middle second finish →
          ¬(middle.shared.objects ptr).Live →
            (finish.shared.objects ptr).state =
              (middle.shared.objects ptr).state

/-- The state that the next step of a frame stores, whatever is there. -/
def storesNext (store : SessionStore) :
    Frame → Input → Option (SessionPtr × SessionState)
  | .found .markCompleted ptr, .proceed => some (ptr, .completed)
  | .found .markFailed ptr, .proceed => some (ptr, .failed)
  | .loaded now _ _ ptr seen, .proceed =>
      if Expires store now ptr seen then some (ptr, .expired) else none
  | _, _ => none

/-- A step that stores a state whatever is there finds no other terminal
state. -/
def SparesTerminal
    (pool : Pool SessionStore Frame)
    (label : Nat × Input) : Prop :=
  ∀ ptr state,
    storesNext pool.shared (pool.threads label.1) label.2 =
        some (ptr, state) →
      (pool.shared.objects ptr).Live ∨
        (pool.shared.objects ptr).state = state

/-! ## What one step does to states -/

/-- An exchange that expects a session in use leaves a terminal state. -/
theorem state_compareExchange_of_terminal
    {store : SessionStore}
    {ptr other : SessionPtr}
    {expected : SessionState}
    (desired : SessionState)
    (terminal : ¬(store.objects other).Live)
    (inUse : expected = .opened ∨ expected = .claimed) :
    ((store.compareExchange ptr expected desired).2.objects other).state =
      (store.objects other).state := by
  rw [compareExchange]
  split
  · next found =>
      rw [state_setState, if_neg]
      rintro rfl
      apply terminal
      rcases inUse with rfl | rfl <;> simp [Session.Live, found]
  · rfl

/-- What a store of a state does to the state of a session. -/
theorem state_stored
    (store : SessionStore)
    (ptr other : SessionPtr)
    (state : SessionState) :
    (other = ptr ∧ ((store.setState ptr state).objects other).state = state) ∨
      other ≠ ptr ∧ ((store.setState ptr state).objects other).state =
        (store.objects other).state := by
  rw [state_setState]
  by_cases own : other = ptr
  · exact .inl ⟨own, if_pos own⟩
  · exact .inr ⟨own, if_neg own⟩

/-- A step stores a state into a session, or leaves the session's state when it
is terminal. -/
theorem state_of_advance
    {store next : SessionStore}
    {before after : Frame}
    {input : Input}
    (moved : advance store before input = some (next, after))
    (ptr : SessionPtr) :
    (∃ state, storesNext store before input = some (ptr, state) ∧
        (next.objects ptr).state = state) ∨
      (∀ state, storesNext store before input ≠ some (ptr, state)) ∧
        (¬(store.objects ptr).Live →
          (next.objects ptr).state = (store.objects ptr).state) := by
  revert moved
  fun_cases advance store before input
  all_goals
    intro moved
    simp only [Option.some.injEq, Prod.mk.injEq, reduceCtorEq] at moved
  all_goals obtain ⟨rfl, rfl⟩ := moved
  case case3 change target =>
    cases change with
    | claim | markActive | bumpActive =>
        refine .inr ⟨by simp [storesNext], fun terminal => ?_⟩
        exact state_compareExchange_of_terminal _ terminal (by simp)
    | markCompleted | markFailed =>
        rcases state_stored store target ptr _ with ⟨rfl, stored⟩ | ⟨other, kept⟩
        · exact .inl ⟨_, rfl, stored⟩
        · exact .inr ⟨by simp [storesNext, Ne.symm other], fun _ => kept⟩
  case case7 now expired sessionId target seen _ =>
    by_cases expires : Expires store now target seen
    · rw [storesNext, if_pos expires, if_pos expires]
      rcases state_stored store target ptr .expired with
        ⟨rfl, stored⟩ | ⟨other, kept⟩
      · exact .inl ⟨_, rfl, stored⟩
      · exact .inr ⟨by simp [Ne.symm other], fun _ => kept⟩
    · rw [storesNext, if_neg expires, if_neg expires]
      exact .inr ⟨by simp, fun _ => rfl⟩
  case case8 now expired sessionId target seen alive =>
    have keeps : ¬Expires store now target seen :=
      fun expires => alive (.inl expires.1)
    rw [storesNext, if_neg keeps]
    exact .inr ⟨by simp, fun _ => rfl⟩
  case case12 target pending =>
    rw [dropKey_frame]
    exact .inr ⟨by simp [storesNext], fun _ => rfl⟩
  all_goals exact .inr ⟨by simp [storesNext], fun _ => rfl⟩

/-- One step keeps all terminal states exactly when it stores over none of
them. -/
theorem terminalKept_step_iff
    {pool next : Pool SessionStore Frame}
    {label : Nat × Input}
    (stepped : machine.step pool label = some next) :
    (∀ ptr, ¬(pool.shared.objects ptr).Live →
        (next.shared.objects ptr).state = (pool.shared.objects ptr).state) ↔
      SparesTerminal pool label := by
  obtain ⟨shared, frame, moved, rfl⟩ := Pool.step_eq_some stepped
  have effect := state_of_advance moved
  constructor
  · intro kept ptr state stores
    by_cases live : (pool.shared.objects ptr).Live
    · exact .inl live
    · rcases effect ptr with ⟨stored, own, written⟩ | ⟨unstored, _⟩
      · rw [stores] at own
        cases own
        exact .inr ((kept ptr live).symm.trans written)
      · exact absurd stores (unstored state)
  · intro spares ptr terminal
    rcases effect ptr with ⟨state, stores, written⟩ | ⟨_, kept⟩
    · have same := (spares ptr state stores).resolve_left terminal
      exact written.trans same.symm
    · exact kept terminal

/-! ## The theorem -/

/-- In the runs in which every store spares the terminal states, they stay. -/
theorem state_of_path
    {pool finish : Pool SessionStore Frame}
    {labels : List (Nat × Input)}
    {ptr : SessionPtr}
    (path : machine.Path SparesTerminal pool labels finish)
    (terminal : ¬(pool.shared.objects ptr).Live) :
    (finish.shared.objects ptr).state = (pool.shared.objects ptr).state := by
  induction path with
  | nil => rfl
  | @cons pool next _ _ _ spares stepped _ inductionHypothesis =>
      have kept := (terminalKept_step_iff stepped).mpr spares ptr terminal
      have still : ¬(next.shared.objects ptr).Live := by
        unfold Session.Live at terminal ⊢
        rwa [kept]
      exact (inductionHypothesis still).trans kept

/-- In every run, all terminal states are kept exactly when every step that
stores a state whatever is there finds no other terminal state. -/
theorem terminalKept_iff
    {start finish : Pool SessionStore Frame}
    {labels : List (Nat × Input)}
    (path : machine.Path Machine.always start labels finish) :
    TerminalKept start labels ↔
      machine.Path SparesTerminal start labels finish := by
  constructor
  · intro kept
    induction path with
    | nil => exact .nil
    | cons allowed stepped rest inductionHypothesis =>
        refine .cons ?_ stepped (inductionHypothesis ?_)
        · rw [← terminalKept_step_iff stepped]
          intro ptr terminal
          exact kept [] [_] _ _ ptr (by simp) .nil
            (.cons trivial stepped .nil) terminal
        · intro first second middle last ptr listed left right terminal
          exact kept (_ :: first) second middle last ptr
            (by simpa using listed) (.cons trivial stepped left) right
            terminal
  · rintro spares first second middle last ptr ⟨later, rfl⟩ left right
      terminal
    obtain ⟨before, toBefore, _⟩ := Machine.Path.split spares
    obtain ⟨other, toOther, fromOther⟩ := Machine.Path.split toBefore
    cases left.finish_unique toOther
    cases right.finish_unique fromOther
    exact state_of_path fromOther terminal

private def accessRequest : OpenSessionParams :=
  ⟨"ses", "", "bucket", "object", .put, .gpuDirect, "", 0, 1, "", false⟩

/-- One session of ten ticks, and no call yet. -/
private def oneSession : Pool SessionStore Frame :=
  ⟨((init "gateway" 10).create accessRequest
      ⟨(0, 0), (0, 0), (0, 1), "", 0⟩).2,
    fun _ => .idle⟩

/-- A call that completes the session. -/
theorem terminalKept_iff_completion :
    ∃ finish, TerminalKept oneSession
        [(0, .call .markCompleted "ses"), (0, .proceed)] ↔
      machine.Path SparesTerminal oneSession
        [(0, .call .markCompleted "ses"), (0, .proceed)] finish :=
  ⟨_, terminalKept_iff (.cons trivial rfl (.cons trivial rfl .nil))⟩

/-- A sweeper has loaded that the session is open when the call completes it, and
then stores that it is expired. -/
theorem completion_expired :
    ¬∀ start labels finish, machine.initial start →
      machine.Path Machine.always start labels finish →
        TerminalKept start labels := by
  intro kept
  obtain ⟨middle, finish, before, after, completed, expired⟩ :
      ∃ middle finish,
        machine.Path Machine.always oneSession
          [(0, .call .markCompleted "ses"), (1, .sweep 20), (1, .visit "ses"),
            (0, .proceed)] middle ∧
        machine.Path Machine.always middle [(1, .proceed)] finish ∧
        (middle.shared.objects 0).state = .completed ∧
        (finish.shared.objects 0).state = .expired :=
    ⟨_, _, .cons trivial rfl (.cons trivial rfl (.cons trivial rfl
      (.cons trivial rfl .nil))), .cons trivial rfl .nil, rfl, rfl⟩
  have same := kept oneSession _ finish (fun _ => rfl) (before.append after)
    _ _ middle finish 0 List.prefix_rfl before after
    (fun live => live.1 completed)
  rw [completed, expired] at same
  cases same

end SessionAccess
end Gateway
end TurboAccess
