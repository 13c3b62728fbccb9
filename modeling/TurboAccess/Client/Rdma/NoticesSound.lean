import TurboAccess.Client.Rdma.Notices

/-!
# Chains that go on

Every context is in flight or in the hands of one thread, and what has happened
to its chain is what the one that has it expects.  While its promise is not set,
the thread that waits for it holds its endpoint; once the deadline has passed,
that thread closes the endpoint before it does anything else with the pool.
Every request that respects what its thread has keeps this.
-/

namespace TurboAccess
namespace Client
namespace UcxEndpointOps

open UcxEndpointPool (Holding PoolCall Transport calls leavesCalls)

/-! ## Chains -/

/-- What happens to a chain that ends well. -/
def chain : List Mark := [.written, .announced, .delivered]

/-- A status tells whether all of it has happened. -/
def Tells (marks : List Mark) (status : Status) : Prop :=
  status = .ok () ↔ marks = chain

/-- What is true of contexts and of what has happened to their chains.  Every
promise that was not set yet has a context. -/
structure Chains (worker : Worker) : Prop where
  distinct : ∀ first second firstRecord secondRecord,
    worker.contexts first = some firstRecord →
      worker.contexts second = some secondRecord →
        firstRecord.future = secondRecord.future → first = second
  made : ∀ ctx record, worker.contexts ctx = some record →
    worker.futures record.future ≠ none
  owned : ∀ future, worker.futures future = some none →
    ∃ ctx record, worker.contexts ctx = some record ∧ record.future = future
  prefixes : ∀ future, worker.marks future <+: chain
  fresh : ∀ future, worker.futures future = none → worker.marks future = []
  told : ∀ future status, worker.futures future = some (some status) →
    Tells (worker.marks future) status

/-- What is true of a context that a thread has in hand. -/
def Fits (worker : Worker) (record : Ctx) : Stage → Prop
  | .made ep future =>
      record.ep = ep ∧ record.future = future ∧
        worker.marks record.future = [] ∧
        worker.futures record.future = some none
  | .written =>
      worker.marks record.future = [.written] ∧
        worker.futures record.future = some none
  | .ending status =>
      Tells (worker.marks record.future) status ∧
        worker.futures record.future = some none
  | .ended => worker.futures record.future ≠ some none

/-- What is true of a context in flight. -/
structure Carries
    (worker : Worker)
    (record : Ctx)
    (operation : Operation) : Prop where
  ep : operation.ep = record.ep
  unset : worker.futures record.future = some none
  marks :
    match operation with
    | .put _ _ _ _ _ _ => worker.marks record.future = []
    | .message _ header _ =>
        header = record.sessionId ∧
          worker.marks record.future = [.written, .announced]

/-! ## Threads -/

/-- Who has which contexts: `none` is the transport. -/
def contextsAt
    (worker : Worker)
    (positions : Nat → Position) : Option Nat → List Nat
  | none => worker.inFlight.map (·.userData)
  | some thread => (positions thread).notice.toList.map Prod.fst

/-- What the threads hold. -/
def holdings (positions : Nat → Position) (thread : Nat) : Holding :=
  (positions thread).holding

/-- The endpoint of a context is held by the thread of its write; or that thread
has closed it after the deadline of the write, and does not wait any more. -/
def Cared
    (worker : Worker)
    (positions : Nat → Position)
    (record : Ctx) : Prop :=
  (∃ thread, (positions thread).phase.future = some record.future ∧
    (positions thread).holding.HoldsEp record.ep) ∨
  (record.future ∈ worker.expired ∧
    (∀ thread, (positions thread).phase.future ≠ some record.future) ∧
      ∀ ep, record.ep = some ep → worker.transport.endpoints ep = none)

/-- What is true of the writes of the threads. -/
structure Waits (worker : Worker) (positions : Nat → Position) : Prop where
  made : ∀ thread future, (positions thread).phase.future = some future →
    worker.futures future ≠ none
  alone : ∀ first second future,
    (positions first).phase.future = some future →
      (positions second).phase.future = some future → first = second
  expired : ∀ thread future, (positions thread).phase = .expired future →
    future ∈ worker.expired
  cared : ∀ ctx record, worker.Active ctx record →
    Cared worker positions record
  keyed : ∀ ep data size gwRaddr gwRkey ctx,
    .put ep data size gwRaddr gwRkey ctx ∈ worker.inFlight →
      ∀ record, worker.contexts ctx = some record →
        ∀ thread, (positions thread).phase = .writing record.future →
          (positions thread).holding.rkey = some gwRkey

/-- What is true of the worker and of what the threads have, at any time. -/
structure Sound
    (maxIdle : Nat)
    (worker : Worker)
    (positions : Nat → Position) : Prop where
  pool : UcxEndpointPool.Sound maxIdle worker.transport (holdings positions)
  custody : ∃ place, Kept (contextsAt worker positions) place ∧
    ∀ ctx, place ctx = none ↔ worker.contexts ctx = none
  inHand : ∀ thread ctx stage, (positions thread).notice = some (ctx, stage) →
    ∀ record, worker.contexts ctx = some record → Fits worker record stage
  inFlight : ∀ operation ∈ worker.inFlight,
    ∀ record, worker.contexts operation.userData = some record →
      Carries worker record operation
  chains : Chains worker
  waits : Waits worker positions

section

variable
  {maxIdle : Nat}
  {worker later : Worker}
  {positions : Nat → Position}
  {thread : Nat}

@[simp] theorem contextsAt_update (position : Position) :
    contextsAt worker (Function.update positions thread position) =
      Function.update (contextsAt worker positions) (some thread)
        (position.notice.toList.map Prod.fst) := by
  funext holder
  cases holder with
  | none => rfl
  | some other =>
      by_cases same : other = thread
      · subst same
        simp [contextsAt]
      · have apart : (some other : Option Nat) ≠ some thread :=
          fun equal => same (Option.some.inj equal)
        simp [contextsAt, Function.update_of_ne same,
          Function.update_of_ne apart]

@[simp] theorem holdings_update (position : Position) :
    holdings (Function.update positions thread position) =
      Function.update (holdings positions) thread position.holding := by
  funext other
  by_cases same : other = thread
  · subst same
    simp [holdings]
  · simp [holdings, Function.update_of_ne same]

/-- A thread that holds what it has held. -/
theorem holdings_of_holding
    {position : Position}
    (same : position.holding = (positions thread).holding) :
    holdings (Function.update positions thread position) =
      holdings positions := by
  rw [holdings_update, same]
  exact Function.update_eq_self thread (holdings positions)

/-! ## Who has a context -/

theorem mem_contextsAt_thread
    {ctx : Nat}
    {stage : Stage}
    (inHand : (positions thread).notice = some (ctx, stage)) :
    ctx ∈ contextsAt worker positions (some thread) := by
  simp [contextsAt, inHand]

theorem mem_contextsAt_inFlight
    {operation : Operation}
    (member : operation ∈ worker.inFlight) :
    operation.userData ∈ contextsAt worker positions none :=
  List.mem_map_of_mem member

/-- Whoever has a context, it is allocated. -/
theorem Sound.allocated_of_mem
    (sound : Sound maxIdle worker positions)
    {holder : Option Nat}
    {ctx : Nat}
    (member : ctx ∈ contextsAt worker positions holder) :
    ∃ record, worker.contexts ctx = some record := by
  obtain ⟨place, kept, dead⟩ := sound.custody
  apply Option.ne_none_iff_exists'.mp
  intro absent
  have placed := (kept ctx).place_of_mem member
  rw [(dead ctx).mpr absent] at placed
  cases placed

/-- Two threads do not have one context. -/
theorem Sound.thread_inj
    (sound : Sound maxIdle worker positions)
    {other ctx : Nat}
    {stage otherStage : Stage}
    (inHand : (positions thread).notice = some (ctx, stage))
    (otherInHand : (positions other).notice = some (ctx, otherStage)) :
    other = thread := by
  obtain ⟨place, kept, -⟩ := sound.custody
  apply Option.some_injective
  exact kept.holder_inj (mem_contextsAt_thread otherInHand)
    (mem_contextsAt_thread inHand)

/-- A context in flight is in no hand. -/
theorem Sound.inFlight_ne
    (sound : Sound maxIdle worker positions)
    {ctx : Nat}
    {stage : Stage}
    {operation : Operation}
    (inHand : (positions thread).notice = some (ctx, stage))
    (member : operation ∈ worker.inFlight) :
    operation.userData ≠ ctx := by
  rintro rfl
  obtain ⟨place, kept, -⟩ := sound.custody
  cases kept.holder_inj (mem_contextsAt_inFlight member)
    (mem_contextsAt_thread inHand)

/-- No context is in flight twice. -/
theorem Sound.inFlight_nodup (sound : Sound maxIdle worker positions) :
    (worker.inFlight.map (·.userData)).Nodup := by
  obtain ⟨place, kept, -⟩ := sound.custody
  exact kept.nodup none

/-! ## One chain goes on -/

/-- Only one future is different. -/
structure Touches (worker later : Worker) (future : Nat) : Prop where
  transport : later.transport = worker.transport
  contexts : later.contexts = worker.contexts
  expired : later.expired = worker.expired
  marks : ∀ other ≠ future, later.marks other = worker.marks other
  futures : ∀ other ≠ future, later.futures other = worker.futures other

/-- What has happened to the chain is a part of a chain that ends well, and a
status that was set tells how it has ended. -/
structure Consistent (later : Worker) (future : Nat) : Prop where
  made : later.futures future ≠ none
  prefixes : later.marks future <+: chain
  told : ∀ status, later.futures future = some (some status) →
    Tells (later.marks future) status

theorem Chains.touches
    {ctx : Nat}
    {record : Ctx}
    (chains : Chains worker)
    (known : worker.contexts ctx = some record)
    (touches : Touches worker later record.future)
    (consistent : Consistent later record.future) :
    Chains later := by
  refine ⟨?_, ?_, ?_, ?_, ?_, ?_⟩
  · rw [touches.contexts]
    exact chains.distinct
  · intro other otherRecord otherKnown
    rw [touches.contexts] at otherKnown
    by_cases same : otherRecord.future = record.future
    · rw [same]
      exact consistent.made
    · rw [touches.futures _ same]
      exact chains.made other otherRecord otherKnown
  · intro future unset
    rw [touches.contexts]
    by_cases same : future = record.future
    · exact ⟨ctx, record, known, same.symm⟩
    · rw [touches.futures _ same] at unset
      exact chains.owned future unset
  · intro future
    by_cases same : future = record.future
    · rw [same]
      exact consistent.prefixes
    · rw [touches.marks _ same]
      exact chains.prefixes future
  · intro future absent
    by_cases same : future = record.future
    · rw [same] at absent
      exact (consistent.made absent).elim
    · rw [touches.futures _ same] at absent
      rw [touches.marks _ same]
      exact chains.fresh future absent
  · intro future status isSet
    by_cases same : future = record.future
    · rw [same] at isSet ⊢
      exact consistent.told status isSet
    · rw [touches.futures _ same] at isSet
      rw [touches.marks _ same]
      exact chains.told future status isSet

/-- What is true of a context depends on its chain only. -/
theorem Fits.congr
    {record : Ctx}
    {stage : Stage}
    (fits : Fits worker record stage)
    (marks : later.marks record.future = worker.marks record.future)
    (futures : later.futures record.future = worker.futures record.future) :
    Fits later record stage := by
  cases stage <;> simpa only [Fits, marks, futures] using fits

theorem Carries.congr
    {record : Ctx}
    {operation : Operation}
    (carries : Carries worker record operation)
    (marks : later.marks record.future = worker.marks record.future)
    (futures : later.futures record.future = worker.futures record.future) :
    Carries later record operation := by
  obtain ⟨ep, unset, happened⟩ := carries
  refine ⟨ep, futures.trans unset, ?_⟩
  cases operation <;> simpa only [marks] using happened

/-- A context whose promise is not set is not set before, either. -/
theorem Touches.active
    {future ctx : Nat}
    {record : Ctx}
    (touches : Touches worker later future)
    (unset : worker.futures future = some none)
    (active : later.Active ctx record) :
    worker.Active ctx record := by
  refine ⟨?_, ?_⟩
  · rw [← touches.contexts]
    exact active.allocated
  · by_cases same : record.future = future
    · rw [same]
      exact unset
    · rw [← touches.futures _ same]
      exact active.unset

/-- The phases and what is held stay as they are. -/
structure Stays (positions next : Nat → Position) : Prop where
  phase : ∀ thread, (next thread).phase = (positions thread).phase
  holding : ∀ thread, (next thread).holding = (positions thread).holding

theorem Stays.update
    {position : Position}
    (phase : position.phase = (positions thread).phase)
    (holding : position.holding = (positions thread).holding) :
    Stays positions (Function.update positions thread position) := by
  refine ⟨fun other => ?_, fun other => ?_⟩
  · by_cases same : other = thread
    · subst same
      rw [Function.update_self, phase]
    · rw [Function.update_of_ne same]
  · by_cases same : other = thread
    · subst same
      rw [Function.update_self, holding]
    · rw [Function.update_of_ne same]

/-- Writes wait for their futures, whatever happens to one of them.  A put that
was posted goes through with the key of its write. -/
theorem Waits.touches
    {next : Nat → Position}
    {future : Nat}
    (waits : Waits worker positions)
    (touches : Touches worker later future)
    (unset : worker.futures future = some none)
    (made : later.futures future ≠ none)
    (stays : Stays positions next)
    (keyed : ∀ ep data size gwRaddr gwRkey ctx,
      .put ep data size gwRaddr gwRkey ctx ∈ later.inFlight →
        .put ep data size gwRaddr gwRkey ctx ∈ worker.inFlight ∨
        ∀ record, worker.contexts ctx = some record →
          ∀ thread, (positions thread).phase = .writing record.future →
            (positions thread).holding.rkey = some gwRkey) :
    Waits later next := by
  refine ⟨?_, ?_, ?_, ?_, ?_⟩
  · intro thread other waiting
    rw [stays.phase] at waiting
    by_cases same : other = future
    · rw [same]
      exact made
    · rw [touches.futures _ same]
      exact waits.made thread other waiting
  · intro first second other
    rw [stays.phase, stays.phase]
    exact waits.alone first second other
  · intro thread other
    rw [stays.phase, touches.expired]
    exact waits.expired thread other
  · intro ctx record active
    rcases waits.cared ctx record (touches.active unset active) with
      ⟨thread, waiting, holds⟩ | ⟨late, gone, closed⟩
    · left
      refine ⟨thread, ?_, ?_⟩
      · rw [stays.phase]
        exact waiting
      · rw [stays.holding]
        exact holds
    · right
      rw [touches.expired, touches.transport]
      refine ⟨late, fun thread => ?_, closed⟩
      rw [stays.phase]
      exact gone thread
  · intro ep data size gwRaddr gwRkey ctx posted record known thread writing
    rw [touches.contexts] at known
    rw [stays.phase] at writing
    rw [stays.holding]
    rcases keyed ep data size gwRaddr gwRkey ctx posted with older | holds
    · exact waits.keyed ep data size gwRaddr gwRkey ctx older record known
        thread writing
    · exact holds record known thread writing

/-- Writes wait for their futures when contexts are deleted. -/
theorem Waits.stays
    {next : Nat → Position}
    {contexts : Nat → Option Ctx}
    (waits : Waits worker positions)
    (stays : Stays positions next)
    (active : ∀ ctx record,
      ({ worker with contexts } : Worker).Active ctx record →
        worker.Active ctx record)
    (remains : ∀ ctx record, contexts ctx = some record →
      worker.contexts ctx = some record) :
    Waits { worker with contexts } next := by
  refine ⟨?_, ?_, ?_, ?_, ?_⟩
  · intro thread future waiting
    rw [stays.phase] at waiting
    exact waits.made thread future waiting
  · intro first second future
    rw [stays.phase, stays.phase]
    exact waits.alone first second future
  · intro thread future
    rw [stays.phase]
    exact waits.expired thread future
  · intro ctx record still
    rcases waits.cared ctx record (active ctx record still) with
      ⟨thread, waiting, holds⟩ | ⟨late, gone, closed⟩
    · left
      refine ⟨thread, ?_, ?_⟩
      · rw [stays.phase]
        exact waiting
      · rw [stays.holding]
        exact holds
    · right
      refine ⟨late, fun thread => ?_, closed⟩
      rw [stays.phase]
      exact gone thread
  · intro ep data size gwRaddr gwRkey ctx posted record known thread writing
    rw [stays.phase] at writing
    rw [stays.holding]
    exact waits.keyed ep data size gwRaddr gwRkey ctx posted record
      (remains ctx record known) thread writing

/-- A context goes from one to another, or stays where it is, and something
happens to its chain only. -/
theorem Sound.hands
    {next : Nat → Position}
    {ctx : Nat}
    {record : Ctx}
    (sound : Sound maxIdle worker positions)
    (known : worker.contexts ctx = some record)
    (unset : worker.futures record.future = some none)
    (touches : Touches worker later record.future)
    (consistent : Consistent later record.future)
    (stays : Stays positions next)
    (custody : ∃ place, Kept (contextsAt later next) place ∧
      ∀ ctx, place ctx = none ↔ worker.contexts ctx = none)
    (inHand : ∀ thread other stage,
      (next thread).notice = some (other, stage) →
        (other ≠ ctx ∧ (positions thread).notice = some (other, stage)) ∨
        (other = ctx ∧ Fits later record stage))
    (inFlight : ∀ operation ∈ later.inFlight,
      (operation.userData ≠ ctx ∧ operation ∈ worker.inFlight) ∨
      (operation.userData = ctx ∧ Carries later record operation ∧
        ∀ ep data size gwRaddr gwRkey,
          operation = .put ep data size gwRaddr gwRkey ctx →
            ∀ thread, (positions thread).phase = .writing record.future →
              (positions thread).holding.rkey = some gwRkey)) :
    Sound maxIdle later next := by
  have others : ∀ other otherRecord, other ≠ ctx →
      worker.contexts other = some otherRecord →
        otherRecord.future ≠ record.future := by
    intro other otherRecord apart otherKnown same
    exact apart (sound.chains.distinct _ _ _ _ otherKnown known same)
  have held : holdings next = holdings positions := funext stays.holding
  refine ⟨?_, ?_, ?_, ?_, sound.chains.touches known touches consistent, ?_⟩
  · rw [held, touches.transport]
    exact sound.pool
  · rw [touches.contexts]
    exact custody
  · intro thread other stage noticed otherRecord otherKnown
    rw [touches.contexts] at otherKnown
    rcases inHand thread other stage noticed with ⟨apart, before⟩ | ⟨rfl, fits⟩
    · have apart := others other otherRecord apart otherKnown
      exact (sound.inHand thread other stage before otherRecord
        otherKnown).congr (touches.marks _ apart) (touches.futures _ apart)
    · cases known.symm.trans otherKnown
      exact fits
  · intro operation member otherRecord otherKnown
    rw [touches.contexts] at otherKnown
    rcases inFlight operation member with ⟨apart, before⟩ | ⟨same, carries, -⟩
    · have apart := others _ otherRecord apart otherKnown
      exact (sound.inFlight operation before otherRecord otherKnown).congr
        (touches.marks _ apart) (touches.futures _ apart)
    · rw [same] at otherKnown
      cases known.symm.trans otherKnown
      exact carries
  · apply sound.waits.touches touches unset consistent.made stays
    intro ep data size gwRaddr gwRkey other posted
    rcases inFlight _ posted with ⟨-, before⟩ | ⟨same, -, keyed⟩
    · exact .inl before
    · right
      intro otherRecord otherKnown
      obtain rfl : other = ctx := same
      cases known.symm.trans otherKnown
      exact keyed ep data size gwRaddr gwRkey rfl

/-- A context that is handed over stays allocated. -/
theorem dead_of_handed
    {place : Nat → Option (Option Nat)}
    {ctx : Nat}
    {record : Ctx}
    (dead : ∀ ctx, place ctx = none ↔ worker.contexts ctx = none)
    (known : worker.contexts ctx = some record)
    (holder : Option Nat)
    (other : Nat) :
    Function.update place ctx (some holder) other = none ↔
      worker.contexts other = none := by
  rw [← Function.update_eq_self ctx worker.contexts]
  exact UcxEndpointPool.update_eq_none_iff dead (by simp [known]) other

/-- A thread goes on with the context that it has in hand. -/
theorem Sound.advances
    {ctx : Nat}
    {record : Ctx}
    {stage after : Stage}
    (sound : Sound maxIdle worker positions)
    (has : (positions thread).notice = some (ctx, stage))
    (known : worker.contexts ctx = some record)
    (unset : worker.futures record.future = some none)
    (touches : Touches worker later record.future)
    (same : later.inFlight = worker.inFlight)
    (consistent : Consistent later record.future)
    (fits : Fits later record after) :
    Sound maxIdle later (Function.update positions thread
      { positions thread with notice := some (ctx, after) }) := by
  refine sound.hands known unset touches consistent (.update ?_ ?_) ?_ ?_ ?_
  · rfl
  · rfl
  · obtain ⟨place, kept, dead⟩ := sound.custody
    refine ⟨place, kept.perm fun holder => ?_, dead⟩
    cases holder with
    | none =>
        rw [contextsAt, contextsAt, same]
    | some other =>
        by_cases own : other = thread
        · subst own
          simp [contextsAt, has]
        · simp [contextsAt, Function.update_of_ne own]
  · intro other held otherStage noticed
    by_cases own : other = thread
    · subst own
      rw [Function.update_self] at noticed
      cases noticed
      exact .inr ⟨rfl, fits⟩
    · rw [Function.update_of_ne own] at noticed
      refine .inl ⟨?_, noticed⟩
      rintro rfl
      exact own (sound.thread_inj has noticed)
  · rw [same]
    exact fun operation member => .inl ⟨sound.inFlight_ne has member, member⟩

/-- A thread posts an operation with the context that it has in hand. -/
theorem Sound.posts
    {ctx : Nat}
    {record : Ctx}
    {stage : Stage}
    {operation : Operation}
    (sound : Sound maxIdle worker positions)
    (has : (positions thread).notice = some (ctx, stage))
    (known : worker.contexts ctx = some record)
    (unset : worker.futures record.future = some none)
    (touches : Touches worker later record.future)
    (own : operation.userData = ctx)
    (posted : later.inFlight = operation :: worker.inFlight)
    (consistent : Consistent later record.future)
    (carries : Carries later record operation)
    (keyed : ∀ ep data size gwRaddr gwRkey,
      operation = .put ep data size gwRaddr gwRkey ctx →
        ∀ thread, (positions thread).phase = .writing record.future →
          (positions thread).holding.rkey = some gwRkey) :
    Sound maxIdle later (Function.update positions thread
      { positions thread with notice := none }) := by
  refine sound.hands known unset touches consistent (.update ?_ ?_) ?_ ?_ ?_
  · rfl
  · rfl
  · obtain ⟨place, kept, dead⟩ := sound.custody
    refine ⟨_, ?_, dead_of_handed dead known none⟩
    have moved : Kept (Function.update
        (Function.update (contextsAt worker positions) (some thread) []) none
        (ctx :: worker.inFlight.map (·.userData)))
        (Function.update place ctx (some none)) :=
      kept.move (by simp [contextsAt, has]) (by simp [contextsAt])
    refine moved.perm fun holder => ?_
    cases holder with
    | none => simp [contextsAt, posted, own]
    | some other =>
        by_cases mine : other = thread
        · subst mine
          simp [contextsAt]
        · simp [contextsAt, mine]
  · intro other held otherStage noticed
    by_cases mine : other = thread
    · subst mine
      rw [Function.update_self] at noticed
      cases noticed
    · rw [Function.update_of_ne mine] at noticed
      refine .inl ⟨?_, noticed⟩
      rintro rfl
      exact mine (sound.thread_inj has noticed)
  · rw [posted]
    intro other member
    rcases List.mem_cons.mp member with rfl | older
    · exact .inr ⟨own, carries, keyed⟩
    · exact .inl ⟨sound.inFlight_ne has older, older⟩

/-- A callback takes the context of an operation in hand. -/
theorem Sound.takes
    {record : Ctx}
    {operation : Operation}
    {before after : List Operation}
    {stage : Stage}
    (sound : Sound maxIdle worker positions)
    (free : (positions thread).notice = none)
    (found : worker.inFlight = before ++ operation :: after)
    (known : worker.contexts operation.userData = some record)
    (unset : worker.futures record.future = some none)
    (touches : Touches worker later record.future)
    (rest : later.inFlight = before ++ after)
    (consistent : Consistent later record.future)
    (fits : Fits later record stage) :
    Sound maxIdle later (Function.update positions thread
      { positions thread with
        notice := some (operation.userData, stage) }) := by
  have member : operation ∈ worker.inFlight := by
    rw [found]
    exact List.mem_append_right _ List.mem_cons_self
  have once := sound.inFlight_nodup
  rw [found, List.map_append, List.map_cons, List.nodup_middle] at once
  refine sound.hands known unset touches consistent (.update ?_ ?_) ?_ ?_ ?_
  · rfl
  · rfl
  · obtain ⟨place, kept, dead⟩ := sound.custody
    refine ⟨_, ?_, dead_of_handed dead known (some thread)⟩
    have front : Kept (Function.update (contextsAt worker positions) none
        (operation.userData :: (before ++ after).map (·.userData))) place := by
      refine kept.perm fun holder => ?_
      cases holder with
      | none =>
          rw [Function.update_self, contextsAt, found, ← List.map_cons]
          exact (List.perm_middle.map _).symm
      | some other => simp
    have moved : Kept (Function.update (Function.update
        (Function.update (contextsAt worker positions) none
          (operation.userData :: (before ++ after).map (·.userData)))
        none ((before ++ after).map (·.userData))) (some thread)
        [operation.userData])
        (Function.update place operation.userData (some (some thread))) :=
      front.move (by simp) (by simp [contextsAt, free])
    refine moved.perm fun holder => ?_
    cases holder with
    | none => simp [contextsAt, rest]
    | some other =>
        by_cases mine : other = thread
        · subst mine
          simp [contextsAt]
        · simp [contextsAt, mine]
  · intro other held otherStage noticed
    by_cases mine : other = thread
    · subst mine
      rw [Function.update_self] at noticed
      cases noticed
      exact .inr ⟨rfl, fits⟩
    · rw [Function.update_of_ne mine] at noticed
      refine .inl ⟨?_, noticed⟩
      rintro rfl
      exact sound.inFlight_ne noticed member rfl
  · rw [rest]
    intro other remains
    refine .inl ⟨?_, ?_⟩
    · intro same
      apply once.notMem
      rw [← List.map_append, ← same]
      exact List.mem_map_of_mem remains
    · rw [found]
      rcases List.mem_append.mp remains with early | late
      · exact List.mem_append_left _ early
      · exact List.mem_append_right _ (List.mem_cons_of_mem _ late)

/-! ## What happens to a chain -/

/-- What has happened to the chain of a future, and what is in flight. -/
def Worker.marked
    (worker : Worker)
    (future : Nat)
    (marks : List Mark)
    (inFlight : List Operation) : Worker :=
  { worker with
    marks := Function.update worker.marks future marks
    inFlight }

theorem touches_marked
    (future : Nat)
    (marks : List Mark)
    (inFlight : List Operation) :
    Touches worker (worker.marked future marks inFlight) future :=
  ⟨rfl, rfl, rfl, fun _ apart => Function.update_of_ne apart _ _,
    fun _ _ => rfl⟩

theorem marks_marked
    (future : Nat)
    (marks : List Mark)
    (inFlight : List Operation) :
    (worker.marked future marks inFlight).marks future = marks := by
  simp [Worker.marked]

/-- What has happened so far, as long as the promise is not set. -/
theorem consistent_marked
    {future : Nat}
    {marks : List Mark}
    (unset : worker.futures future = some none)
    (prefixes : marks <+: chain)
    (inFlight : List Operation) :
    Consistent (worker.marked future marks inFlight) future := by
  refine ⟨?_, ?_, ?_⟩
  · change worker.futures future ≠ none
    rw [unset]
    exact Option.some_ne_none none
  · rw [marks_marked]
    exact prefixes
  · intro status isSet
    change worker.futures future = _ at isSet
    rw [unset] at isSet
    cases isSet

theorem marked_self (worker : Worker) (future : Nat) :
    worker.marked future (worker.marks future) worker.inFlight = worker := by
  rw [Worker.marked, Function.update_eq_self]

theorem marked_marked
    (worker : Worker)
    (future : Nat)
    (first second : List Mark)
    (inFlight after : List Operation) :
    (worker.marked future first inFlight).marked future second after =
      worker.marked future second after := by
  simp only [Worker.marked, Function.update_idem]

theorem mark_eq
    {ctx : Nat}
    {record : Ctx}
    (known : worker.contexts ctx = some record)
    (mark : Mark) :
    worker.mark ctx mark =
      worker.marked record.future (worker.marks record.future ++ [mark])
        worker.inFlight := by
  rw [Worker.mark, known, Worker.marked]

/-- A thread goes on with its context, and its chain has come so far. -/
theorem Sound.advances_marked
    {ctx : Nat}
    {record : Ctx}
    {stage after : Stage}
    {marks : List Mark}
    (sound : Sound maxIdle worker positions)
    (has : (positions thread).notice = some (ctx, stage))
    (known : worker.contexts ctx = some record)
    (unset : worker.futures record.future = some none)
    (prefixes : marks <+: chain)
    (fits : Fits (worker.marked record.future marks worker.inFlight) record
      after) :
    Sound maxIdle (worker.marked record.future marks worker.inFlight)
      (Function.update positions thread
        { positions thread with notice := some (ctx, after) }) :=
  sound.advances has known unset (touches_marked _ _ _) rfl
    (consistent_marked unset prefixes _) fits

/-- A put was posted. -/
theorem Sound.putPosted
    {ep : Option Nat}
    {data size gwRaddr gwRkey ctx future : Nat}
    (sound : Sound maxIdle worker positions)
    (writing : (positions thread).phase = .writing future)
    (has : (positions thread).notice = some (ctx, .made ep future))
    (hasKey : (positions thread).holding.rkey = some gwRkey)
    {posted : Posted}
    {after : Worker}
    (happens : Effect maxIdle worker
      ⟨.putNbx ep data size gwRaddr gwRkey ctx, posted⟩ after) :
    Sound maxIdle after (Function.update positions thread
      { positions thread with
        notice := (Stage.afterPut posted).map (ctx, ·) }) := by
  obtain ⟨record, known⟩ := sound.allocated_of_mem (mem_contextsAt_thread has)
  obtain ⟨rfl, rfl, unmarked, unset⟩ := sound.inHand thread ctx _ has record
    known
  cases happens with
  | putCompleted =>
      rw [mark_eq known, unmarked]
      apply sound.advances_marked has known unset (by decide)
      exact ⟨marks_marked _ _ _, unset⟩
  | putFailed =>
      rw [← marked_self worker record.future, unmarked]
      apply sound.advances_marked has known unset (by decide)
      refine ⟨?_, unset⟩
      rw [marks_marked]
      simp [Tells, chain]
  | putPending =>
      refine sound.posts has known unset ?_ ?_ rfl ?_ ?_ ?_
      · exact ⟨rfl, rfl, rfl, fun _ _ => rfl, fun _ _ => rfl⟩
      · rfl
      · have unchanged := consistent_marked unset
          (sound.chains.prefixes record.future) worker.inFlight
        rw [marked_self] at unchanged
        exact ⟨unchanged.made, unchanged.prefixes, unchanged.told⟩
      · exact ⟨rfl, unset, unmarked⟩
      · rintro _ _ _ _ _ ⟨⟩ other waiting
        obtain rfl := sound.waits.alone thread other record.future
          (by rw [writing]; rfl) (by rw [waiting]; rfl)
        exact hasKey

/-- A message was posted. -/
theorem Sound.messagePosted
    {ctx : Nat}
    (sound : Sound maxIdle worker positions)
    (has : (positions thread).notice = some (ctx, .written))
    {posted : Posted}
    {after : Worker}
    (happens : Effect maxIdle worker ⟨.amSendNbx ctx, posted⟩ after) :
    Sound maxIdle after (Function.update positions thread
      { positions thread with
        notice := (Stage.afterMessage posted).map (ctx, ·) }) := by
  obtain ⟨record, known⟩ := sound.allocated_of_mem (mem_contextsAt_thread has)
  obtain ⟨marks, unset⟩ := sound.inHand thread ctx _ has record known
  cases happens with
  | messageCompleted =>
      have still : (worker.marked record.future
          (worker.marks record.future ++ [.announced])
          worker.inFlight).contexts ctx = some record := known
      rw [mark_eq known, mark_eq still, marks_marked, marked_marked, marks]
      apply sound.advances_marked has known unset (by decide)
      refine ⟨?_, unset⟩
      rw [marks_marked]
      simp [Tells, chain]
  | messageFailed =>
      rw [← marked_self worker record.future, marks]
      apply sound.advances_marked has known unset (by decide)
      refine ⟨?_, unset⟩
      rw [marks_marked]
      simp [Tells, chain]
  | @messagePending _ other otherKnown =>
      cases known.symm.trans otherKnown
      rw [mark_eq known, marks]
      refine sound.posts has known unset (touches_marked _ _ _) ?_ rfl
        (consistent_marked unset (by decide) _) ?_ ?_
      · rfl
      · exact ⟨rfl, unset, rfl, marks_marked _ _ _⟩
      · rintro _ _ _ _ _ ⟨⟩

/-- An operation has completed, and its callback is called. -/
theorem Sound.called
    {operation : Operation}
    {status : Status}
    {before after : List Operation}
    (sound : Sound maxIdle worker positions)
    (free : (positions thread).notice = none)
    (found : worker.inFlight = before ++ operation :: after) :
    Sound maxIdle
      { worker.complete operation status with inFlight := before ++ after }
      (Function.update positions thread
        { positions thread with
          notice :=
            some (operation.userData, .called operation status) }) := by
  have member : operation ∈ worker.inFlight := by
    rw [found]
    exact List.mem_append_right _ List.mem_cons_self
  obtain ⟨record, known⟩ := sound.allocated_of_mem
    (mem_contextsAt_inFlight member)
  have carries := sound.inFlight operation member record known
  have unset := carries.unset
  have happened := carries.marks
  have takes : ∀ marks stage, marks <+: chain →
      Fits (worker.marked record.future marks (before ++ after)) record stage →
        Sound maxIdle (worker.marked record.future marks (before ++ after))
          (Function.update positions thread
            { positions thread with
              notice := some (operation.userData, stage) }) :=
    fun marks stage prefixes fits =>
      sound.takes free found known unset (touches_marked _ _ _) rfl
        (consistent_marked unset prefixes _) fits
  have still : worker.marked record.future (worker.marks record.future)
      (before ++ after) = { worker with inFlight := before ++ after } := by
    rw [Worker.marked, Function.update_eq_self]
  cases status with
  | error status =>
      have failed : worker.complete operation (.error status) = worker := by
        cases operation <;> rfl
      have ending : Stage.called operation (.error status) =
          .ending (.error status) := by
        cases operation <;> rfl
      rw [failed, ending, ← still]
      refine takes _ _ (sound.chains.prefixes _) ⟨?_, unset⟩
      rw [marks_marked]
      cases operation with
      | put ep data size gwRaddr gwRkey userData =>
          rw [happened]
          simp [Tells, chain]
      | message ep header userData =>
          rw [happened.2]
          simp [Tells, chain]
  | ok done =>
      cases operation with
      | put ep data size gwRaddr gwRkey userData =>
          have known : worker.contexts userData = some record := known
          rw [Worker.complete, mark_eq known, happened]
          exact takes [.written] .written (by decide)
            ⟨marks_marked _ _ _, unset⟩
      | message ep header userData =>
          have known : worker.contexts userData = some record := known
          rw [Worker.complete, mark_eq known, happened.2]
          refine takes chain (.ending (.ok ())) (by decide) ⟨?_, unset⟩
          rw [marks_marked]
          simp [Tells]

/-! ## Promises -/

/-- The promise of a context is set. -/
theorem Sound.valueSet
    {ctx : Nat}
    {status : Status}
    {after : Worker}
    (sound : Sound maxIdle worker positions)
    (has : (positions thread).notice = some (ctx, .ending status))
    (happens : Effect maxIdle worker ⟨.setValue ctx status, ()⟩ after) :
    Sound maxIdle after (Function.update positions thread
      { positions thread with notice := some (ctx, .ended) }) := by
  cases happens with
  | @valueSet _ record _ active =>
      obtain ⟨known, unset⟩ := active
      obtain ⟨tells, -⟩ := sound.inHand thread ctx _ has record known
      refine sound.advances has known unset ?_ rfl ?_ ?_
      · exact ⟨rfl, rfl, rfl, fun _ _ => rfl,
          fun _ apart => Function.update_of_ne apart _ _⟩
      · refine ⟨?_, sound.chains.prefixes _, ?_⟩
        · simp
        · intro other isSet
          simp only [Function.update_self] at isSet
          cases isSet
          exact tells
      · simp [Fits]

/-- A context whose promise was set is deleted. -/
theorem Sound.deleted
    {ctx : Nat}
    {after : Worker}
    (sound : Sound maxIdle worker positions)
    (has : (positions thread).notice = some (ctx, .ended))
    (happens : Effect maxIdle worker ⟨.deleteCtx ctx, ()⟩ after) :
    Sound maxIdle after (Function.update positions thread
      { positions thread with notice := none }) := by
  cases happens with
  | @deleted _ record known =>
      have remains : ∀ other otherRecord,
          Function.update worker.contexts ctx none other = some otherRecord →
            worker.contexts other = some otherRecord := by
        intro other otherRecord still
        by_cases same : other = ctx
        · subst same
          rw [Function.update_self] at still
          cases still
        · rwa [Function.update_of_ne same] at still
      refine ⟨?_, ?_, ?_, ?_, ?_, ?_⟩
      · rw [holdings_of_holding]
        · exact sound.pool
        · rfl
      · obtain ⟨place, kept, dead⟩ := sound.custody
        rw [contextsAt_update]
        refine ⟨_, kept.take ?_, UcxEndpointPool.update_eq_none_iff dead ?_⟩
        · simp [contextsAt, has]
        · exact iff_of_true rfl rfl
      · intro other held stage noticed otherRecord still
        by_cases mine : other = thread
        · subst mine
          rw [Function.update_self] at noticed
          cases noticed
        · rw [Function.update_of_ne mine] at noticed
          exact sound.inHand other held stage noticed otherRecord
            (remains held otherRecord still)
      · intro operation member otherRecord still
        obtain ⟨ep, unset, happened⟩ := sound.inFlight operation member
          otherRecord (remains _ otherRecord still)
        exact ⟨ep, unset, happened⟩
      · refine ⟨?_, ?_, ?_, sound.chains.prefixes, sound.chains.fresh,
          sound.chains.told⟩
        · intro first second firstRecord secondRecord isFirst isSecond
          exact sound.chains.distinct first second firstRecord secondRecord
            (remains _ _ isFirst) (remains _ _ isSecond)
        · intro other otherRecord still
          exact sound.chains.made other otherRecord (remains _ _ still)
        · intro future unset
          obtain ⟨other, otherRecord, otherKnown, rfl⟩ :=
            sound.chains.owned future unset
          refine ⟨other, otherRecord, ?_, rfl⟩
          refine (Function.update_of_ne ?_ _ _).trans otherKnown
          rintro rfl
          exact sound.inHand thread other _ has otherRecord otherKnown unset
      · refine sound.waits.stays (.update rfl rfl) ?_ ?_
        · exact fun other otherRecord active =>
            ⟨remains _ _ active.allocated, active.unset⟩
        · exact remains

/-! ## Writes -/

/-- Contexts that were there before have other futures than the new one. -/
theorem Chains.older
    {ctx other : Nat}
    {made record : Ctx}
    (chains : Chains worker)
    (fresh : worker.futures made.future = none)
    (known : Function.update worker.contexts ctx (some made) other =
      some record) :
    (other = ctx ∧ record = made) ∨
    (other ≠ ctx ∧ worker.contexts other = some record ∧
      record.future ≠ made.future) := by
  by_cases same : other = ctx
  · subst same
    rw [Function.update_self] at known
    exact .inl ⟨rfl, (Option.some.inj known).symm⟩
  · rw [Function.update_of_ne same] at known
    refine .inr ⟨same, known, fun isFuture => ?_⟩
    apply chains.made other record known
    rw [isFuture]
    exact fresh

/-- A context that was just made is a new one, and so is its future. -/
theorem Chains.allocated
    {ctx future : Nat}
    {ep : Option Nat}
    {sessionId : String}
    (chains : Chains worker)
    (freshCtx : worker.contexts ctx = none)
    (freshFuture : worker.futures future = none) :
    Chains
      { worker with
        contexts := Function.update worker.contexts ctx
          (some ⟨future, ep, sessionId⟩)
        futures := Function.update worker.futures future (some none) } := by
  refine ⟨?_, ?_, ?_, chains.prefixes, ?_, ?_⟩
  · intro first second firstRecord secondRecord isFirst isSecond same
    rcases chains.older freshFuture isFirst with
        ⟨rfl, rfl⟩ | ⟨-, before, apart⟩ <;>
      rcases chains.older freshFuture isSecond with
        ⟨rfl, rfl⟩ | ⟨-, otherBefore, otherApart⟩
    · rfl
    · exact (otherApart same.symm).elim
    · exact (apart same).elim
    · exact chains.distinct _ _ _ _ before otherBefore same
  · intro other record known
    rcases chains.older freshFuture known with ⟨-, rfl⟩ | ⟨-, before, apart⟩
    · simp
    · exact (Function.update_of_ne apart _ _).trans_ne
        (chains.made other record before)
  · intro other unset
    by_cases same : other = future
    · subst same
      exact ⟨ctx, _, Function.update_self _ _ _, rfl⟩
    · obtain ⟨before, record, known, isFuture⟩ :=
        chains.owned other ((Function.update_of_ne same _ _).symm.trans unset)
      refine ⟨before, record, ?_, isFuture⟩
      refine (Function.update_of_ne ?_ _ _).trans known
      rintro rfl
      rw [freshCtx] at known
      cases known
  · intro other absent
    by_cases same : other = future
    · subst same
      exact chains.fresh other freshFuture
    · exact chains.fresh other
        ((Function.update_of_ne same _ _).symm.trans absent)
  · intro other status isSet
    by_cases same : other = future
    · subst same
      simp at isSet
    · exact chains.told other status
        ((Function.update_of_ne same _ _).symm.trans isSet)

/-- A write waits for its own future, with its endpoint in its hands. -/
theorem Waits.allocated
    {ctx future : Nat}
    {ep : Option Nat}
    {sessionId : String}
    {position : Position}
    (waits : Waits worker positions)
    (chains : Chains worker)
    (freshCtx : worker.contexts ctx = none)
    (freshFuture : worker.futures future = none)
    (idle : (positions thread).phase = .idle)
    (writing : position.phase = .writing future)
    (holds : position.holding.HoldsEp ep)
    (inFlight : ∀ operation ∈ worker.inFlight, operation.userData ≠ ctx) :
    Waits
      { worker with
        contexts := Function.update worker.contexts ctx
          (some ⟨future, ep, sessionId⟩)
        futures := Function.update worker.futures future (some none) }
      (Function.update positions thread position) := by
  have known : ∀ other waited,
      (Function.update positions thread position other).phase.future =
          some waited →
        (other = thread ∧ waited = future) ∨
        (other ≠ thread ∧ waited ≠ future ∧
          (positions other).phase.future = some waited) := by
    intro other waited waiting
    by_cases same : other = thread
    · subst same
      rw [Function.update_self, writing] at waiting
      cases waiting
      exact .inl ⟨rfl, rfl⟩
    · rw [Function.update_of_ne same] at waiting
      refine .inr ⟨same, ?_, waiting⟩
      rintro rfl
      exact waits.made other waited waiting freshFuture
  refine ⟨?_, ?_, ?_, ?_, ?_⟩
  · intro other waited waiting
    rcases known other waited waiting with ⟨-, rfl⟩ | ⟨-, apart, before⟩
    · simp
    · exact (Function.update_of_ne apart _ _).trans_ne
        (waits.made other waited before)
  · intro first second waited isFirst isSecond
    rcases known first waited isFirst with ⟨rfl, rfl⟩ | ⟨-, apart, before⟩ <;>
      rcases known second _ isSecond with
        ⟨rfl, same⟩ | ⟨-, otherApart, otherBefore⟩
    · rfl
    · exact (otherApart rfl).elim
    · exact (apart same).elim
    · exact waits.alone first second waited before otherBefore
  · intro other waited late
    by_cases same : other = thread
    · subst same
      rw [Function.update_self, writing] at late
      cases late
    · rw [Function.update_of_ne same] at late
      exact waits.expired other waited late
  · intro other record active
    rcases chains.older freshFuture active.allocated with
      ⟨rfl, rfl⟩ | ⟨-, isKnown, apart⟩
    · left
      refine ⟨thread, ?_, ?_⟩
      · rw [Function.update_self, writing]
        rfl
      · rw [Function.update_self]
        exact holds
    · have unset := (Function.update_of_ne apart _ _).symm.trans active.unset
      rcases waits.cared other record ⟨isKnown, unset⟩ with
        ⟨waiter, waiting, holdsEp⟩ | ⟨late, gone, closed⟩
      · left
        have mine : waiter ≠ thread := by
          rintro rfl
          rw [idle] at waiting
          cases waiting
        refine ⟨waiter, ?_, ?_⟩ <;> rwa [Function.update_of_ne mine]
      · right
        refine ⟨late, fun waiter waiting => ?_, closed⟩
        rcases known waiter _ waiting with ⟨-, same⟩ | ⟨-, -, before⟩
        · exact apart same
        · exact gone waiter before
  · intro putEp data size gwRaddr gwRkey other posted record isKnown waiter late
    rcases chains.older freshFuture isKnown with
      ⟨rfl, -⟩ | ⟨-, isKnown, apart⟩
    · exact (inFlight _ posted rfl).elim
    · have mine : waiter ≠ thread := by
        rintro rfl
        rw [Function.update_self, writing] at late
        cases late
        exact apart rfl
      rw [Function.update_of_ne mine] at late ⊢
      exact waits.keyed putEp data size gwRaddr gwRkey other posted record
        isKnown waiter late

/-- A context was made for a write. -/
theorem Sound.allocated
    {ep : Option Nat}
    {sessionId : String}
    {made : Nat × Nat}
    {after : Worker}
    (sound : Sound maxIdle worker positions)
    (idle : (positions thread).phase = .idle)
    (free : (positions thread).notice = none)
    (holds : (positions thread).holding.HoldsEp ep)
    (happens : Effect maxIdle worker ⟨.newCtx ep sessionId, made⟩ after) :
    Sound maxIdle after (Function.update positions thread
      { positions thread with
        phase := .writing made.2
        notice := some (made.1, .made ep made.2) }) := by
  cases happens with
  | @allocated _ _ ctx future freshCtx freshFuture =>
      have older : ∀ {holder other}, other ∈ contextsAt worker positions holder →
          other ≠ ctx := by
        rintro holder other member rfl
        obtain ⟨record, known⟩ := sound.allocated_of_mem member
        rw [freshCtx] at known
        cases known
      refine ⟨?_, ?_, ?_, ?_, sound.chains.allocated freshCtx freshFuture, ?_⟩
      · rw [holdings_of_holding]
        · exact sound.pool
        · rfl
      · obtain ⟨place, kept, dead⟩ := sound.custody
        rw [contextsAt_update]
        refine ⟨_, kept.put ((dead ctx).mpr freshCtx) ?_,
          UcxEndpointPool.update_eq_none_iff dead ?_⟩
        · simp [contextsAt, free]
        · simp
      · intro other held stage noticed record known
        by_cases mine : other = thread
        · subst mine
          rw [Function.update_self] at noticed
          cases noticed
          cases (Function.update_self _ _ _).symm.trans known
          exact ⟨rfl, rfl, sound.chains.fresh future freshFuture,
            Function.update_self _ _ _⟩
        · rw [Function.update_of_ne mine] at noticed
          rcases sound.chains.older freshFuture known with
            ⟨same, -⟩ | ⟨-, known, apart⟩
          · exact (older (mem_contextsAt_thread noticed) same).elim
          · exact (sound.inHand other held stage noticed record known).congr rfl
              (Function.update_of_ne apart _ _)
      · intro operation member record known
        rcases sound.chains.older freshFuture known with
          ⟨same, -⟩ | ⟨-, known, apart⟩
        · exact (older (mem_contextsAt_inFlight member) same).elim
        · exact (sound.inFlight operation member record known).congr rfl
            (Function.update_of_ne apart _ _)
      · refine sound.waits.allocated sound.chains freshCtx freshFuture idle rfl
          holds ?_
        exact fun operation member => older (mem_contextsAt_inFlight member)

/-- A write ends, or is left unfinished. -/
theorem Waits.rephased
    {phase : Phase}
    {expired : List Nat}
    (waits : Waits worker positions)
    (grows : ∀ future ∈ worker.expired, future ∈ expired)
    (older : ∀ future, phase.future = some future →
      (positions thread).phase.future = some future)
    (late : ∀ future, phase = .expired future → future ∈ expired)
    (between : phase.Between)
    (goesOn : ∀ ctx record, worker.Active ctx record →
      (positions thread).phase.future = some record.future →
        phase.future = some record.future) :
    Waits { worker with expired }
      (Function.update positions thread { positions thread with phase }) := by
  have before : ∀ other future,
      (Function.update positions thread
        { positions thread with phase } other).phase.future = some future →
          (positions other).phase.future = some future := by
    intro other future waiting
    by_cases same : other = thread
    · subst same
      rw [Function.update_self] at waiting
      exact older future waiting
    · rwa [Function.update_of_ne same] at waiting
  refine ⟨?_, ?_, ?_, ?_, ?_⟩
  · exact fun other future waiting =>
      waits.made other future (before other future waiting)
  · exact fun first second future isFirst isSecond =>
      waits.alone first second future (before first future isFirst)
        (before second future isSecond)
  · intro other future isLate
    by_cases same : other = thread
    · subst same
      rw [Function.update_self] at isLate
      exact late future isLate
    · rw [Function.update_of_ne same] at isLate
      exact grows future (waits.expired other future isLate)
  · intro ctx record active
    rcases waits.cared ctx record ⟨active.allocated, active.unset⟩ with
      ⟨waiter, waiting, holds⟩ | ⟨isLate, gone, closed⟩
    · left
      refine ⟨waiter, ?_⟩
      by_cases same : waiter = thread
      · subst same
        rw [Function.update_self]
        exact ⟨goesOn ctx record ⟨active.allocated, active.unset⟩ waiting,
          holds⟩
      · rw [Function.update_of_ne same]
        exact ⟨waiting, holds⟩
    · right
      refine ⟨grows _ isLate, fun waiter waiting => ?_, closed⟩
      exact gone waiter (before waiter _ waiting)
  · intro ep data size gwRaddr gwRkey ctx posted record known waiter writing
    have apart : waiter ≠ thread := by
      rintro rfl
      rw [Function.update_self] at writing
      have writing : phase = .writing record.future := writing
      rw [writing] at between
      exact between
    rw [Function.update_of_ne apart] at writing ⊢
    exact waits.keyed ep data size gwRaddr gwRkey ctx posted record known
      waiter writing

/-- Threads that have the contexts that they have had. -/
theorem contextsAt_of_notice
    {position : Position}
    (same : position.notice = (positions thread).notice) :
    contextsAt worker (Function.update positions thread position) =
      contextsAt worker positions := by
  rw [contextsAt_update, same]
  exact Function.update_eq_self (some thread) (contextsAt worker positions)

/-- Contexts and chains stay as they are when a thread does something else. -/
theorem Sound.elsewhere
    {position : Position}
    {transport : Transport}
    {expired : List Nat}
    (sound : Sound maxIdle worker positions)
    (same : position.notice = (positions thread).notice)
    (pool : UcxEndpointPool.Sound maxIdle transport
      (Function.update (holdings positions) thread position.holding))
    (waits : Waits { worker with transport, expired }
      (Function.update positions thread position)) :
    Sound maxIdle { worker with transport, expired }
      (Function.update positions thread position) := by
  refine ⟨?_, ?_, ?_, ?_, ?_, waits⟩
  · rw [holdings_update]
    exact pool
  · rw [contextsAt_of_notice same]
    exact sound.custody
  · intro other ctx stage noticed record known
    have noticed : (positions other).notice = some (ctx, stage) := by
      by_cases mine : other = thread
      · subst mine
        rwa [Function.update_self, same] at noticed
      · rwa [Function.update_of_ne mine] at noticed
    exact (sound.inHand other ctx stage noticed record known).congr rfl rfl
  · intro operation member record known
    exact (sound.inFlight operation member record known).congr rfl rfl
  · exact ⟨sound.chains.distinct, sound.chains.made, sound.chains.owned,
      sound.chains.prefixes, sound.chains.fresh, sound.chains.told⟩

/-- A thread gets the status of its write, or waits no longer. -/
theorem Sound.waited
    {future : Nat}
    {deadline : Int}
    {answer : Option Status}
    {after : Worker}
    (sound : Sound maxIdle worker positions)
    (writing : (positions thread).phase = .writing future)
    (happens : Effect maxIdle worker ⟨.waitUntil future deadline, answer⟩
      after) :
    Sound maxIdle after (Function.update positions thread
      (works.next (positions thread)
        ⟨.waitUntil future deadline, answer⟩)) := by
  have pool : UcxEndpointPool.Sound maxIdle worker.transport
      (Function.update (holdings positions) thread
        (positions thread).holding) := by
    have same : Function.update (holdings positions) thread
        (positions thread).holding = holdings positions :=
      Function.update_eq_self thread (holdings positions)
    rw [same]
    exact sound.pool
  cases happens with
  | ready isSet =>
      refine sound.elsewhere ?_ pool ?_
      · rfl
      refine sound.waits.rephased (fun _ known => known) ?_ ?_ trivial ?_
      · rintro _ ⟨⟩
      · rintro _ ⟨⟩
      · intro ctx record active waiting
        rw [writing] at waiting
        cases waiting
        cases active.unset.symm.trans isSet
  | timedOut unset =>
      refine sound.elsewhere ?_ pool ?_
      · rfl
      refine sound.waits.rephased
        (fun _ known => List.mem_cons_of_mem future known) ?_ ?_ trivial ?_
      · rintro _ ⟨⟩
        rw [writing]
        rfl
      · rintro _ ⟨⟩
        exact List.mem_cons_self
      · intro ctx record active waiting
        rw [writing] at waiting
        exact waiting

/-! ## The pool -/

/-- An endpoint that a write was left unfinished on is still held, or was closed
by its thread, which is idle then. -/
theorem holds_or_closed
    {transport after : Transport}
    {holding : Holding}
    {call : PoolCall}
    {reply : call.Answer}
    {phase : Phase}
    {future : Nat}
    {ep : Option Nat}
    (expired : phase = .expired future)
    (holds : holding.HoldsEp ep)
    (allowed : calls.allows holding call)
    (leaves : leavesCalls.allows phase.left call)
    (noWrite : ¬IsWrite call)
    (happens : UcxEndpointPool.Effect maxIdle transport ⟨call, reply⟩ after) :
    ((phase.afterCall call).future = some future ∧
      (calls.next holding ⟨call, reply⟩).HoldsEp ep) ∨
    phase.afterCall call = .idle ∧
      ∀ closed, ep = some closed → after.endpoints closed = none := by
  obtain ⟨held, text, rfl, hasEp⟩ := holds
  have stays : ((phase.afterCall call).future = some future ∧
      (calls.next holding ⟨call, reply⟩).ep = some (held, text)) →
      ((phase.afterCall call).future = some future ∧
        (calls.next holding ⟨call, reply⟩).HoldsEp (some held)) :=
    fun ⟨waiting, still⟩ => ⟨waiting, held, text, rfl, still⟩
  have empty : ¬holding.Empty := by
    intro empty
    rw [empty.ep] at hasEp
    cases hasEp
  subst expired
  cases happens with
  | taken => exact (empty allowed).elim
  | missed => exact (empty allowed).elim
  | created => exact (empty allowed).elim
  | notCreated => exact (empty allowed).elim
  | parsed => exact .inl (stays ⟨rfl, hasEp⟩)
  | unpacked => exact .inl (stays ⟨rfl, hasEp⟩)
  | notUnpacked => exact .inl (stays ⟨rfl, hasEp⟩)
  | destroyed => exact .inl (stays ⟨rfl, hasEp⟩)
  | kept => cases leaves
  | full => cases leaves
  | closed =>
      obtain ⟨⟨other, otherText, rfl, otherHas⟩, -⟩ := allowed
      cases hasEp.symm.trans otherHas
      refine .inr ⟨rfl, ?_⟩
      rintro _ ⟨⟩
      exact Function.update_self _ _ _
  | @transferred call reply =>
      cases call with
      | acquire host port packedRkey => exact allowed.elim
      | unpackRkey ep packedRkey => exact allowed.elim
      | giveBack host port slot => exact allowed.elim
      | discard slot => exact allowed.elim
      | putAndNotify ep data size gwRaddr gwRkey sessionId deadline =>
          exact (noWrite trivial).elim
      | prepareTransfer sessionId transferBytes =>
          cases reply <;> exact .inl (stays ⟨rfl, hasEp⟩)
      | _ => exact .inl (stays ⟨rfl, hasEp⟩)

/-- What is asked of the pool keeps chains as they are. -/
theorem Waits.pooled
    {call : PoolCall}
    {reply : call.Answer}
    {transport : Transport}
    (waits : Waits worker positions)
    (allowed : works.allows (positions thread) (.pool call))
    (happens : UcxEndpointPool.Effect maxIdle worker.transport ⟨call, reply⟩
      transport)
    (fresh : ∀ ep, transport.endpoints ep ≠ none →
      worker.transport.endpoints ep = none →
        ∀ ctx record, worker.Active ctx record → record.ep ≠ some ep) :
    Waits { worker with transport } (Function.update positions thread
      (works.next (positions thread) ⟨.pool call, reply⟩)) := by
  obtain ⟨holdsAllowed, leaves, between, -, noWrite⟩ := allowed
  have kept : (positions thread).phase.afterCall call = .idle ∨
      (positions thread).phase.afterCall call = (positions thread).phase := by
    cases call with
    | closeEp ep => exact .inl rfl
    | _ => exact .inr rfl
  have before : ∀ other future,
      (Function.update positions thread (works.next (positions thread)
        ⟨.pool call, reply⟩) other).phase.future = some future →
          (positions other).phase.future = some future := by
    intro other future waiting
    by_cases same : other = thread
    · subst same
      rw [Function.update_self] at waiting
      change ((positions other).phase.afterCall call).future = _ at waiting
      rcases kept with idle | kept
      · rw [idle] at waiting
        cases waiting
      · rwa [kept] at waiting
    · rwa [Function.update_of_ne same] at waiting
  refine ⟨?_, ?_, ?_, ?_, ?_⟩
  · exact fun other future waiting =>
      waits.made other future (before other future waiting)
  · exact fun first second future isFirst isSecond =>
      waits.alone first second future (before first future isFirst)
        (before second future isSecond)
  · intro other future isLate
    by_cases same : other = thread
    · subst same
      rw [Function.update_self] at isLate
      change (positions other).phase.afterCall call = _ at isLate
      rcases kept with idle | kept
      · cases idle.symm.trans isLate
      · exact waits.expired other future (kept.symm.trans isLate)
    · rw [Function.update_of_ne same] at isLate
      exact waits.expired other future isLate
  · intro ctx record active
    have active : worker.Active ctx record := ⟨active.allocated, active.unset⟩
    rcases waits.cared ctx record active with
      ⟨waiter, waiting, holds⟩ | ⟨isLate, gone, closed⟩
    · by_cases same : waiter = thread
      · subst same
        have late : (positions waiter).phase = .expired record.future := by
          cases current : (positions waiter).phase with
          | idle =>
              rw [current] at waiting
              cases waiting
          | writing future =>
              rw [current] at between
              exact between.elim
          | expired future =>
              rw [current] at waiting
              cases waiting
              rfl
        rcases holds_or_closed late holds holdsAllowed leaves noWrite
          happens with still | ⟨ends, closed⟩
        · left
          refine ⟨waiter, ?_⟩
          rw [Function.update_self]
          exact still
        · right
          refine ⟨waits.expired waiter record.future late, ?_, closed⟩
          intro other still
          obtain rfl := waits.alone waiter other record.future waiting
            (before other _ still)
          rw [Function.update_self] at still
          change ((positions waiter).phase.afterCall call).future = _ at still
          rw [ends] at still
          cases still
      · left
        refine ⟨waiter, ?_⟩
        rw [Function.update_of_ne same]
        exact ⟨waiting, holds⟩
    · right
      refine ⟨isLate, ?_, fun ep isEp => ?_⟩
      · exact fun other waiting => gone other (before other _ waiting)
      by_contra live
      exact fresh ep live (closed ep isEp) ctx record active isEp
  · intro ep data size gwRaddr gwRkey ctx posted record known waiter writing
    have apart : waiter ≠ thread := by
      rintro rfl
      rw [Function.update_self] at writing
      change (positions waiter).phase.afterCall call = _ at writing
      rcases kept with idle | kept
      · cases idle.symm.trans writing
      · rw [← kept, writing] at between
        exact between
    rw [Function.update_of_ne apart] at writing ⊢
    exact waits.keyed ep data size gwRaddr gwRkey ctx posted record known
      waiter writing

/-! ## Every request -/

/-- A request that respects what its thread has keeps everything sound. -/
theorem sound_step
    (worker : Worker)
    (positions : Nat → Position)
    (thread : Nat)
    (event : Request WorkerCall WorkerCall.Answer)
    (after : Worker)
    (sound : Sound maxIdle worker positions)
    (allowed : works.allows (positions thread) event.request)
    (happens : Effect maxIdle worker event after) :
    works.expects (positions thread) event ∧
      Sound maxIdle after (Function.update positions thread
        (works.next (positions thread) event)) := by
  obtain ⟨request, reply⟩ := event
  cases request with
  | newCtx ep sessionId =>
      obtain ⟨idle, free, holds⟩ := allowed
      exact ⟨trivial, sound.allocated idle free holds happens⟩
  | putNbx ep data size gwRaddr gwRkey ctx =>
      obtain ⟨future, writing, has, hasKey⟩ := allowed
      exact ⟨trivial, sound.putPosted writing has hasKey happens⟩
  | amSendNbx ctx => exact ⟨trivial, sound.messagePosted allowed happens⟩
  | setValue ctx status => exact ⟨trivial, sound.valueSet allowed happens⟩
  | deleteCtx ctx => exact ⟨trivial, sound.deleted allowed happens⟩
  | waitUntil future deadline =>
      refine ⟨?_, sound.waited allowed.1 happens⟩
      trivial
  | progress =>
      refine ⟨trivial, ?_⟩
      cases happens with
      | called found => exact sound.called allowed.2 found
      | idle =>
          have same : Function.update positions thread (positions thread) =
              positions := Function.update_eq_self thread positions
          change Sound maxIdle worker
            (Function.update positions thread (positions thread))
          rwa [same]
  | pool call =>
      cases happens with
      | pooled happens fresh =>
          have pool := UcxEndpointPool.sound_step worker.transport
            (holdings positions) thread ⟨call, reply⟩ _ sound.pool allowed.1
            happens
          exact ⟨pool.1, sound.elsewhere rfl pool.2
            (sound.waits.pooled allowed happens fresh)⟩

end

end UcxEndpointOps
end Client
end TurboAccess
