import TurboAccess.Gateway.Session.Interleaving
import TurboAccess.Gateway.Ucx.Gauge

/-!
# Registry entries and their sessions

The session store and the registry of the UCX executor are two tables of one
thing.  Opening a session enters it in the store and then, from the hook of its
data path, in the registry.  It leaves the store when it is swept, and the
registry when it is committed or aborted on the data plane; neither tells the
other.

The machine is made of any number of concurrent calls.  Opening a session and
sweeping run section by section, and the handlers of the executor are atomic.
An abort on the control plane is the change of a state.  In the runs in which no
sweep removes a session with an entry, and the hook is run for sessions that are
in the store and have no buffer, every entry and every buffer in use has its
session.
-/

namespace TurboAccess
namespace Gateway
namespace Rdma

variable {β : Type}

/-! ## Calls over the store and the executor -/

/-- The session store and the executor beside it. -/
structure State (β : Type) where
  sessions : SessionStore
  ucx : Ucx.UcxExecutor β

/-- A call: in the session store, or with an opened session. -/
inductive Frame
  | call (frame : SessionPool.Frame)
  | opened (result : Result SessionPtr)
  deriving DecidableEq

/-- A frame of which nothing is left to do. -/
def Frame.quiet : Frame → Bool
  | .call .idle => true
  | .call (.created _ (.error _)) => true
  | .call (.swept _) => true
  | .opened _ => true
  | _ => false

/-- What the session store sees of a frame. -/
def Frame.inStore : Frame → SessionPool.Frame
  | .call frame => frame
  | .opened _ => .idle

/-- What drives a frame.  The hook of a session on the GPU path answers what the
GDS executor answers, if there is one; everything else that happens to the
backend is a step of its own. -/
inductive Input (β : Type)
  | session (input : SessionPool.Input)
  | hook (gds : Option (Result Bool))
  | ucx (event : Ucx.UcxExecutor.Event)
  | backend (backend : β)

/-- What the executor reads of a session.  Every session has an identifier. -/
def ucxSession (session : Session) : Option Ucx.Session :=
  if named : session.sessionId ≠ "" then
    some ⟨session.sessionId, session.bucket, session.objectKey,
      session.expectedSize, named⟩
  else none

/-- The UCX executor after the hook of a session on the CPU path. -/
def hookUcx (ucx : Ucx.UcxExecutor β) (session : Session) :
    Ucx.UcxExecutor β :=
  match ucxSession session with
  | none => ucx
  | some view => ucx.onSessionOpened view

/-- The hook of the data path of a session, and the end of opening it. -/
def openHook
    (state : State β)
    (ptr : SessionPtr)
    (gds : Option (Result Bool)) : Result SessionPtr × State β :=
  let session := state.sessions.objects ptr
  let (hook, ucx) : Option (Result Bool) × Ucx.UcxExecutor β :=
    match session.dataFlow with
    | .gpuDirect => (gds, state.ucx)
    | .cpuDirect => (some (.ok true), hookUcx state.ucx session)
    | .none => (none, state.ucx)
  let (result, sessions) := state.sessions.finishOpen ptr hook
  (result, ⟨sessions, ucx⟩)

section Machine

variable (iface : Ucx.IBackend β) (options : Ucx.UcxOptions)

/-- Whether an event is the hook of an opened session. -/
def isOpening : Ucx.UcxExecutor.Event → Bool
  | .sessionOpened _ => true
  | _ => false

/-- Next section of a frame. -/
def advance (state : State β) : Frame → Input β → Option (State β × Frame)
  | .call frame, .session input =>
      (SessionPool.advance state.sessions frame input).map
        fun (sessions, frame) => ({ state with sessions }, .call frame)
  | .call (.created _ (.ok ptr)), .hook gds =>
      let (result, state) := openHook state ptr gds
      some (state, .opened result)
  | .call .idle, .ucx event =>
      if isOpening event then none
      else
        (state.ucx.handle iface options event).map
          fun ucx => ({ state with ucx }, .call .idle)
  | .call .idle, .backend backend =>
      some ({ state with ucx := { state.ucx with backend } }, .call .idle)
  | _, _ => none

/-- All interleavings of calls over an empty store and executor. -/
def machine : Machine (Pool (State β) Frame) (Nat × Input β) where
  initial := fun pool => ∃ gatewayId sessionTtl started backend,
    pool = ⟨⟨.init gatewayId sessionTtl, .init started backend⟩,
      fun _ => .call .idle⟩
  step := Pool.step (advance iface options)

end Machine

/-! ## The property and its condition -/

/-- Every entry has its session in the store, and every buffer is idle or
belongs to an entry. -/
structure Coupled (state : State β) : Prop where
  entries : ∀ sessionId entry,
    state.ucx.registry.lookup sessionId = some entry →
      ∃ ptr, state.sessions.byId.lookup sessionId = some ptr
  slots : state.ucx.Conserved

/-- No sweep removes a session with an entry, and the hook of the CPU path is
run for sessions that are in the store and have no buffer. -/
def Couples (pool : Pool (State β) Frame) (label : Nat × Input β) : Prop :=
  match pool.threads label.1, label.2 with
  | .call (.scanning now _), .session (.visit sessionId) =>
      ∀ ptr ∈ pool.shared.sessions.byId.lookup sessionId,
        (pool.shared.sessions.objects ptr).Dead now →
          pool.shared.ucx.registry.lookup sessionId = none
  | .call (.created _ (.ok ptr)), .hook _ =>
      (pool.shared.sessions.objects ptr).dataFlow = .cpuDirect →
        pool.shared.sessions.byId.lookup
            (pool.shared.sessions.objects ptr).sessionId ≠ none ∧
          pool.shared.ucx.slotOf
            (pool.shared.sessions.objects ptr).sessionId = none
  | _, _ => True

/-! ## What one step can do -/

/-- The steps of a frame. -/
inductive Steps
    (iface : Ucx.IBackend β)
    (options : Ucx.UcxOptions)
    (state : State β) : Frame → Input β → State β → Frame → Prop
  | session (before after : SessionPool.Frame) (input : SessionPool.Input)
      (sessions : SessionStore)
      (moved : SessionPool.advance state.sessions before input =
        some (sessions, after)) :
      Steps iface options state (.call before) (.session input)
        { state with sessions } (.call after)
  | hook (req : OpenSessionParams) (ptr : SessionPtr)
      (gds : Option (Result Bool)) :
      Steps iface options state (.call (.created req (.ok ptr))) (.hook gds)
        (openHook state ptr gds).2 (.opened (openHook state ptr gds).1)
  | ucx (event : Ucx.UcxExecutor.Event) (ucx : Ucx.UcxExecutor β)
      (other : isOpening event = false)
      (handled : state.ucx.handle iface options event = some ucx) :
      Steps iface options state (.call .idle) (.ucx event)
        { state with ucx } (.call .idle)
  | backend (backend : β) :
      Steps iface options state (.call .idle) (.backend backend)
        { state with ucx := { state.ucx with backend } } (.call .idle)

variable {iface : Ucx.IBackend β} {options : Ucx.UcxOptions}

theorem steps_of_advance
    {state next : State β}
    {before after : Frame}
    {input : Input β}
    (moved : advance iface options state before input = some (next, after)) :
    Steps iface options state before input next after := by
  revert moved
  fun_cases advance iface options state before input
  all_goals
    intro moved
    simp only [Option.map_eq_some_iff, Option.some.injEq, Prod.mk.injEq,
      Prod.exists, reduceCtorEq] at moved
  case case1 frame input =>
    obtain ⟨sessions, frame', moved, rfl, rfl⟩ := moved
    exact .session frame frame' input sessions moved
  case case2 req ptr gds result opened hooked =>
    obtain ⟨rfl, rfl⟩ := moved
    have step : Steps iface options state _ _ _ _ := .hook req ptr gds
    rw [hooked] at step
    exact step
  case case4 event other =>
    obtain ⟨ucx, handled, rfl, rfl⟩ := moved
    exact .ucx event ucx (by simpa using other) handled
  case case5 backend =>
    obtain ⟨rfl, rfl⟩ := moved
    exact .backend backend

/-- The hook of the CPU path enters the session in the registry, and every other
hook leaves the registry alone. -/
theorem openHook_cases
    (state : State β)
    (ptr : SessionPtr)
    (gds : Option (Result Bool)) :
    (state.sessions.objects ptr).dataFlow = .cpuDirect ∧
        (openHook state ptr gds).2 =
          { state with
            ucx := hookUcx state.ucx (state.sessions.objects ptr) } ∨
      (state.sessions.objects ptr).dataFlow ≠ .cpuDirect ∧
        ∃ sessions, state.sessions.OnlyStates sessions ∧
          (openHook state ptr gds).2 = { state with sessions } := by
  cases path : (state.sessions.objects ptr).dataFlow with
  | cpuDirect =>
      left
      simp only [openHook, path, SessionStore.finishOpen, true_and]
  | gpuDirect =>
      refine .inr ⟨nofun, ?_⟩
      rcases gds with _ | _ | _
      · exact ⟨state.sessions, .refl _, by
          simp only [openHook, path, SessionStore.finishOpen]⟩
      · have only := SessionStore.onlyStates_mark .failed state.sessions
          (state.sessions.objects ptr).sessionId
        exact ⟨_, only, by
          simp only [openHook, path, SessionStore.finishOpen,
            SessionStore.markFailed]⟩
      · exact ⟨state.sessions, .refl _, by
          simp only [openHook, path, SessionStore.finishOpen]⟩
  | none =>
      refine .inr ⟨nofun, state.sessions, .refl _, ?_⟩
      simp only [openHook, path, SessionStore.finishOpen]

/-! ## What holds in every run -/

/-- The executor owns its buffers, and the sessions that calls have in hand are
on the heap under identifiers of their own. -/
structure Sound (pool : Pool (State β) Frame) : Prop where
  owned : pool.shared.ucx.Owned
  grounded : SessionPool.Grounded pool.shared.sessions
    (Frame.inStore ∘ pool.threads)

/-- Every step keeps what is sound. -/
theorem Sound.steps
    {pool : Pool (State β) Frame}
    {mover : Nat}
    {input : Input β}
    {next : State β}
    {after : Frame}
    (sound : Sound pool)
    (steps : Steps iface options pool.shared (pool.threads mover) input next
      after) :
    Sound ⟨next, Function.update pool.threads mover after⟩ := by
  have unchanged : ∀ after : Frame, after.inStore = .idle →
      SessionPool.Grounded pool.shared.sessions
        (Frame.inStore ∘ Function.update pool.threads mover after) := by
    intro after outside
    rw [Function.comp_update, outside]
    exact sound.grounded.onlyStates (.refl _)
  generalize movingEq : pool.threads mover = before at steps
  cases steps with
  | session before after input sessions moved =>
      refine ⟨sound.owned, ?_⟩
      have moves := SessionPool.moves_of_advance moved
      have inStore : (Frame.inStore ∘ pool.threads) mover = before := by
        rw [Function.comp_apply, movingEq]
        rfl
      rw [← inStore] at moves
      rw [Function.comp_update]
      exact sound.grounded.moves moves
  | hook req ptr gds =>
      rcases openHook_cases pool.shared ptr gds with
        ⟨_, same⟩ | ⟨_, sessions, only, same⟩
      · rw [same]
        refine ⟨?_, unchanged _ rfl⟩
        simp only [hookUcx]
        split
        · exact sound.owned
        · exact sound.owned.opened _
      · rw [same]
        refine ⟨sound.owned, ?_⟩
        rw [Function.comp_update]
        exact sound.grounded.onlyStates only
  | ucx event ucx other handled =>
      exact ⟨sound.owned.handles
        (Ucx.UcxExecutor.handles_of_handle sound.owned handled),
        unchanged _ rfl⟩
  | backend backend =>
      exact ⟨sound.owned.congr rfl rfl rfl rfl le_rfl, unchanged _ rfl⟩

/-- Every reachable pool is sound. -/
theorem Sound.of_reachable
    {guard : Pool (State β) Frame → Nat × Input β → Prop}
    {pool : Pool (State β) Frame}
    (reachable : (machine iface options).Reachable guard pool) :
    Sound pool := by
  refine reachable.invariant ?_ ?_
  · rintro start ⟨gatewayId, sessionTtl, started, backend, rfl⟩
    exact ⟨.init started backend, .init gatewayId sessionTtl⟩
  · intro state label next sound _ stepped
    obtain ⟨shared, frame, moved, rfl⟩ := Pool.step_eq_some stepped
    exact sound.steps (steps_of_advance moved)

/-! ## The coupling -/

/-- A visit of the sweeper keeps the coupling exactly when the session it
removes has no entry. -/
theorem coupled_visit_iff
    {state : State β}
    (coupled : Coupled state)
    (now : Nat)
    (sessionId : String) :
    Coupled { state with
        sessions := (state.sessions.sweepOne now sessionId).2 } ↔
      ∀ ptr ∈ state.sessions.byId.lookup sessionId,
        (state.sessions.objects ptr).Dead now →
          state.ucx.registry.lookup sessionId = none := by
  constructor
  · intro after ptr found dead
    cases entryEq : state.ucx.registry.lookup sessionId with
    | none => rfl
    | some entry =>
        obtain ⟨still, stays⟩ := after.entries sessionId entry entryEq
        rw [SessionStore.byId_sweepOne, if_pos rfl, found,
          Option.filter_eq_some_iff] at stays
        cases stays.1
        simp [dead] at stays
  · intro released
    refine ⟨?_, coupled.slots⟩
    intro other entry found
    obtain ⟨ptr, present⟩ := coupled.entries other entry found
    refine ⟨ptr, ?_⟩
    rw [SessionStore.byId_sweepOne]
    split
    · next own =>
        subst own
        have alive : ¬(state.sessions.objects ptr).Dead now := by
          intro dead
          rw [released ptr present dead] at found
          cases found
        simp [present, Option.filter_some, alive]
    · exact present

/-- The hook of the CPU path keeps the coupling exactly when the session is in
the store and has no buffer. -/
theorem coupled_hook_iff
    {state : State β}
    {session : Session}
    (coupled : Coupled state)
    (owned : state.ucx.Owned)
    (named : session.sessionId ≠ "") :
    Coupled { state with ucx := hookUcx state.ucx session } ↔
      state.sessions.byId.lookup session.sessionId ≠ none ∧
        state.ucx.slotOf session.sessionId = none := by
  have view : ucxSession session = some ⟨session.sessionId, session.bucket,
    session.objectKey, session.expectedSize, named⟩ := dif_pos named
  simp only [hookUcx, view]
  constructor
  · intro after
    constructor
    · obtain ⟨ptr, found⟩ := after.entries session.sessionId _
        (Finmap.lookup_insert _)
      rw [found]
      exact nofun
    · -- a buffer of the entry that was replaced would have no owner
      rw [Ucx.UcxExecutor.slotOf]
      cases entryEq : state.ucx.registry.lookup session.sessionId with
      | none => rfl
      | some entry =>
          cases held : entry.slot with
          | none => exact held
          | some slot =>
              obtain ⟨buffer, registered, _⟩ :=
                owned.held session.sessionId entry slot entryEq held
              rcases after.slots slot buffer registered with
                idle | ⟨other, owner, found, holds⟩
              · exact absurd idle
                  (owned.busy session.sessionId entry slot entryEq held)
              · simp only [Ucx.UcxExecutor.onSessionOpened,
                  Table.lookup_insert_eq] at found
                split at found
                · cases found
                  cases holds
                · next different =>
                    exact absurd (owned.exclusive other session.sessionId owner
                      entry slot found entryEq holds held) different
  · rintro ⟨present, vacant⟩
    constructor
    · intro sessionId entry found
      simp only [Ucx.UcxExecutor.onSessionOpened,
        Table.lookup_insert_eq] at found
      split at found
      · next own =>
          rw [own]
          exact Option.ne_none_iff_exists'.mp present
      · exact coupled.entries sessionId entry found
    · intro slot buffer registered
      apply (coupled.slots slot buffer registered).insert _ _
      intro old found
      exact .inl (by simpa [Ucx.UcxExecutor.slotOf, found] using vacant)

/-- The handlers of the executor keep the coupling. -/
theorem Coupled.handles
    {state : State β}
    {event : Ucx.UcxExecutor.Event}
    {ucx : Ucx.UcxExecutor β}
    (coupled : Coupled state)
    (effect : Ucx.UcxExecutor.Handles iface options state.ucx event ucx)
    (other : isOpening event = false) :
    Coupled { state with ucx } := by
  have unopened : ∀ session, event ≠ .sessionOpened session := by
    rintro session rfl
    cases other
  constructor
  · intro sessionId entry found
    rcases effect.entry_origin found with
      ⟨session, opened, _⟩ | ⟨before, was, _⟩
    · exact absurd opened (unopened session)
    · exact coupled.entries sessionId before was
  · apply coupled.slots.handles effect
    intro session opened
    exact absurd opened (unopened session)

/-- A step keeps the coupling exactly when it meets the condition. -/
theorem Coupled.steps_iff
    {pool : Pool (State β) Frame}
    {label : Nat × Input β}
    {next : State β}
    {after : Frame}
    (coupled : Coupled pool.shared)
    (sound : Sound pool)
    (steps : Steps iface options pool.shared (pool.threads label.1) label.2
      next after) :
    Coupled next ↔ Couples pool label := by
  obtain ⟨mover, input⟩ := label
  dsimp only at steps
  rw [Couples]
  generalize movingEq : pool.threads mover = before at steps
  cases steps with
  | session before after input sessions moved =>
      by_cases visits : ∃ sessionId, input = .visit sessionId
      · obtain ⟨sessionId, rfl⟩ := visits
        cases before with
        | scanning now expired =>
            simp only [SessionPool.advance, Option.some.injEq,
              Prod.mk.injEq] at moved
            rw [← moved.1]
            exact coupled_visit_iff coupled now sessionId
        | idle | creating | created | dropping | droppingKey | swept =>
            simp [SessionPool.advance] at moved
      · have other : ∀ sessionId, input ≠ .visit sessionId :=
          fun sessionId visit => visits ⟨sessionId, visit⟩
        refine iff_of_true ⟨?_, coupled.slots⟩ ?_
        · intro sessionId entry found
          obtain ⟨ptr, present⟩ := coupled.entries sessionId entry found
          exact SessionPool.byId_kept_of_advance moved other present
        · split
          · next visit => cases visit; exact absurd rfl (other _)
          · next hook => cases hook
          · trivial
  | hook req ptr gds =>
      have exists_ := sound.grounded.bound mover ptr
        (by rw [Function.comp_apply, movingEq]; rfl)
      have named := sound.grounded.identified ptr exists_
      rcases openHook_cases pool.shared ptr gds with
        ⟨path, same⟩ | ⟨path, sessions, only, same⟩
      · rw [same, coupled_hook_iff coupled sound.owned named]
        simp only [path, forall_const]
      · rw [same]
        refine iff_of_true ⟨?_, coupled.slots⟩ fun cpu => absurd cpu path
        intro sessionId entry found
        rw [only.byId]
        exact coupled.entries sessionId entry found
  | ucx event ucx other handled =>
      have effect := Ucx.UcxExecutor.handles_of_handle sound.owned handled
      exact iff_of_true (coupled.handles effect other) trivial
  | backend backend => exact iff_of_true ⟨coupled.entries, coupled.slots⟩ trivial

/-- In the runs that meet the condition, in every state each entry has its
session in the store, and each buffer is idle or belongs to an entry; and from
each of these states a step keeps it so exactly when it meets the condition. -/
theorem coupled_of_couples
    {pool : Pool (State β) Frame}
    (reachable : (machine iface options).Reachable Couples pool) :
    Coupled pool.shared ∧
      ∀ label next,
        (machine iface options).step pool label = some next →
          (Coupled next.shared ↔ Couples pool label) := by
  have exact_ : ∀ pool : Pool (State β) Frame,
      (machine iface options).Reachable Couples pool → Coupled pool.shared →
        ∀ label next, (machine iface options).step pool label = some next →
          (Coupled next.shared ↔ Couples pool label) := by
    intro pool reachable coupled label next stepped
    obtain ⟨shared, frame, moved, rfl⟩ := Pool.step_eq_some stepped
    exact coupled.steps_iff (.of_reachable reachable) (steps_of_advance moved)
  let property : Pool (State β) Frame → Prop := fun pool => Coupled pool.shared
  have coupled : property pool := by
    refine reachable.induction ?_ ?_
    · rintro start ⟨gatewayId, sessionTtl, started, backend, rfl⟩
      constructor <;>
        simp [Ucx.UcxExecutor.Conserved, Ucx.UcxExecutor.init]
    · intro pool label next reached coupled couples stepped
      exact (exact_ pool reached coupled label next stepped).mpr couples
  exact ⟨coupled, exact_ pool reachable coupled⟩

/-- The condition, computed. -/
private def couplesNow
    (pool : Pool (State β) Frame)
    (label : Nat × Input β) : Bool :=
  match pool.threads label.1, label.2 with
  | .call (.scanning now _), .session (.visit sessionId) =>
      decide (∀ ptr ∈ pool.shared.sessions.byId.lookup sessionId,
        (pool.shared.sessions.objects ptr).Dead now →
          pool.shared.ucx.registry.lookup sessionId = none)
  | .call (.created _ (.ok ptr)), .hook _ =>
      decide ((pool.shared.sessions.objects ptr).dataFlow = .cpuDirect →
        pool.shared.sessions.byId.lookup
            (pool.shared.sessions.objects ptr).sessionId ≠ none ∧
          pool.shared.ucx.slotOf
            (pool.shared.sessions.objects ptr).sessionId = none)
  | _, _ => true

private theorem couples_of_now
    (pool : Pool (State β) Frame)
    (label : Nat × Input β)
    (holds : couplesNow pool label = true) :
    Couples pool label := by
  rw [couplesNow] at holds
  rw [Couples]
  split at holds
  · exact of_decide_eq_true holds
  · exact of_decide_eq_true holds
  · trivial

/-- A session on the CPU path. -/
private def cpuRequest : OpenSessionParams :=
  ⟨"ses", "", "bucket", "object", .put, .cpuDirect, "", 0, 1, "", false⟩

private def cpuDraw : Draw := ⟨(0, 0), (0, 0), (0, 0), "", 0⟩

private def quietPool : Pool (State (CompositeBackend × Nat)) Frame :=
  ⟨⟨.init "gateway" 10, .init true (.init 16, 0)⟩, fun _ => .call .idle⟩

/-- A session is opened and has a buffer prepared. -/
private def preparedLabels : List (Nat × Input (CompositeBackend × Nat)) :=
  [(0, .session (.create cpuRequest cpuDraw)), (0, .session .proceed),
    (0, .session .proceed), (0, .session .proceed), (0, .hook none),
    (1, .ucx (.prepareTransfer "ses" 1 (.registered (fun _ => 0) 4096 [1])))]

/-- The write is announced and committed. -/
private def committedLabels : List (Nat × Input (CompositeBackend × Nat)) :=
  [(1, .ucx (.amWriteDone "ses")), (1, .ucx (.commitObject "ses" 1 ""))]

/-- A sweep after the session has run out of time. -/
private def sweepLabels : List (Nat × Input (CompositeBackend × Nat)) :=
  [(2, .session (.sweep 20)), (2, .session (.visit "ses")),
    (2, .session .proceed), (2, .session .proceed), (2, .session .proceed),
    (2, .session .proceed)]

/-- A session that is swept after its commit: its buffer is idle. -/
theorem coupled_after_commit :
    ∃ pool : Pool (State (CompositeBackend × Nat)) Frame,
      (machine Ucx.overComposite (.default "gateway")).Reachable Couples
          pool ∧
        (pool.shared.sessions.byId.lookup "ses",
          pool.shared.ucx.pool) = (none, [0]) ∧
        Coupled pool.shared := by
  have executed : ((machine Ucx.overComposite (.default "gateway")).run
      (fun pool label => couplesNow pool label = true) quietPool
      (preparedLabels ++ committedLabels ++ sweepLabels)).map
        (fun pool => (pool.shared.sessions.byId.lookup "ses",
          pool.shared.ucx.pool)) = some (none, [0]) := by
    decide
  obtain ⟨pool, ended, observed⟩ := Option.map_eq_some_iff.mp executed
  have reachable : (machine Ucx.overComposite (.default "gateway")).Reachable
      Couples pool :=
    ⟨quietPool, _, ⟨"gateway", 10, true, _, rfl⟩,
      (Machine.path_of_run ended).mono couples_of_now⟩
  exact ⟨pool, reachable, observed, (coupled_of_couples reachable).1⟩

/-- A session that is swept before its commit: its entry stays, with its
buffer, and no call is left to release it. -/
theorem entry_outlives_session :
    ¬∀ pool : Pool (State (CompositeBackend × Nat)) Frame,
      (machine Ucx.overComposite (.default "gateway")).Reachable
          Machine.always pool →
        (∀ thread, (pool.threads thread).quiet = true) →
          Coupled pool.shared := by
  intro always
  have executed : ((machine Ucx.overComposite (.default "gateway")).run
      Machine.always quietPool (preparedLabels ++ sweepLabels)).map
        (fun pool => (pool.shared.sessions.byId.lookup "ses",
          pool.shared.ucx.slotOf "ses",
          decide (∀ thread : Nat, thread < 3 →
            (pool.threads thread).quiet = true))) =
      some (none, some 0, true) := by
    decide
  obtain ⟨pool, ended, observed⟩ := Option.map_eq_some_iff.mp executed
  simp only [Prod.mk.injEq, decide_eq_true_eq] at observed
  obtain ⟨path, rest⟩ := Pool.path_of_run_below 3 (.call .idle) rfl
    (fun _ _ _ allowed => allowed) (fun _ _ => rfl) (by decide) ended
  have reachable : (machine Ucx.overComposite (.default "gateway")).Reachable
      Machine.always pool := ⟨quietPool, _, ⟨"gateway", 10, true, _, rfl⟩, path⟩
  have silent := rest.forall (fun frame => frame.quiet = true) rfl
    observed.2.2
  have coupled := always pool reachable silent
  obtain ⟨entry, found, _⟩ := Option.bind_eq_some_iff.mp observed.2.1
  obtain ⟨ptr, present⟩ := coupled.entries "ses" entry found
  rw [observed.1] at present
  cases present

end Rdma
end Gateway
end TurboAccess
