import TurboAccess.Client.Rdma.NoticesSound

/-!
# No notice is lost

Any number of writes and callbacks run at once over one worker, and their
requests interleave in any way.  Every chain that was begun is in the hands of
one thread or in flight until its promise is set, once; its context is deleted
after that; and a write is told that it has succeeded exactly if its bytes were
written and its message was sent after them.
-/

namespace TurboAccess
namespace Client
namespace UcxEndpointOps

open UcxEndpointPool (Transport)

/-! ## What the threads have -/

/-- What the threads have, by what they have asked for and were answered. -/
def WorkerThreads.has (state : WorkerThreads) : Nat → Position :=
  state.positions works {}

theorem obeys_new (tasks : Nat → Task) :
    (WorkerThreads.new tasks).Obeys works {} fun after _ => after.Rest :=
  ⟨fun _ => .nil, fun thread => (tasks thread).follows⟩

theorem sound_new (maxIdle : Nat) (tasks : Nat → Task) :
    Sound maxIdle (WorkerThreads.new tasks).shared
      (WorkerThreads.new tasks).has := by
  refine ⟨UcxEndpointPool.sound_idle maxIdle, ?_, ?_, ?_, ?_, ?_⟩
  · refine ⟨fun _ => none, ?_, fun _ => ⟨fun _ => rfl, fun _ => rfl⟩⟩
    intro ctx holder
    cases holder <;> rfl
  · rintro thread ctx stage ⟨⟩
  · rintro operation ⟨⟩
  · refine ⟨?_, ?_, ?_, fun _ => List.nil_prefix, fun _ _ => rfl, ?_⟩
    · rintro first second firstRecord secondRecord ⟨⟩
    · rintro ctx record ⟨⟩
    · rintro future ⟨⟩
    · rintro future status ⟨⟩
  · refine ⟨?_, ?_, ?_, ?_, ?_⟩
    · rintro thread future ⟨⟩
    · rintro first second future ⟨⟩
    · rintro thread future ⟨⟩
    · rintro ctx record ⟨⟨⟩, -⟩
    · rintro ep data size gwRaddr gwRkey ctx ⟨⟩

/-! ## Contexts in hand -/

/-- The context that a request uses. -/
def usedCtx : WorkerCall → Option Nat
  | .putNbx _ _ _ _ _ ctx => some ctx
  | .amSendNbx ctx => some ctx
  | .setValue ctx _ => some ctx
  | .deleteCtx ctx => some ctx
  | _ => none

/-- The next request of a thread uses a context. -/
def WorkerThreads.Uses
    (state : WorkerThreads)
    (thread : Nat)
    (request : WorkerCall)
    (ctx : Nat) : Prop :=
  (∃ rest, state.programs thread = .call request rest) ∧
    usedCtx request = some ctx

/-- A thread with a context in hand uses it next. -/
theorem uses_of_notice
    {α : Type}
    {program : WorkerProgram α}
    {position : Position}
    {ctx : Nat}
    {stage : Stage}
    (follows : program.Follows works (fun after _ => after.Rest) position)
    (inHand : position.notice = some (ctx, stage)) :
    ∃ request rest, program = .call request rest ∧
      usedCtx request = some ctx := by
  have busy : position.notice ≠ none := by simp [inHand]
  cases program with
  | done value => exact (busy follows.notice).elim
  | call request rest =>
      refine ⟨request, rest, rfl, ?_⟩
      have allowed := follows.1
      cases request with
      | putNbx ep data size gwRaddr gwRkey other =>
          obtain ⟨future, -, has, -⟩ := allowed
          cases inHand.symm.trans has
          rfl
      | amSendNbx other =>
          cases inHand.symm.trans allowed
          rfl
      | setValue other status =>
          cases inHand.symm.trans allowed
          rfl
      | deleteCtx other =>
          cases inHand.symm.trans allowed
          rfl
      | newCtx ep sessionId => exact (busy allowed.2.1).elim
      | waitUntil future deadline => exact (busy allowed.2).elim
      | progress => exact (busy allowed.2).elim
      | pool call => exact (busy allowed.2.2.2.1).elim

section

variable
  {maxIdle : Nat}
  {worker : Worker}
  {positions : Nat → Position}
  {thread ctx : Nat}
  {record : Ctx}

/-- A thread holds the endpoint of the chain that it waits for. -/
theorem Sound.holdsEp
    (sound : Sound maxIdle worker positions)
    (active : worker.Active ctx record)
    (waiting : (positions thread).phase.future = some record.future) :
    (positions thread).holding.HoldsEp record.ep := by
  rcases sound.waits.cared ctx record active with
    ⟨other, otherWaiting, holds⟩ | ⟨-, gone, -⟩
  · obtain rfl := sound.waits.alone thread other record.future waiting
      otherWaiting
    exact holds
  · exact (gone thread waiting).elim

/-- A promise that was set stays set. -/
theorem Effect.futures_eq_some
    {event : Request WorkerCall WorkerCall.Answer}
    {after : Worker}
    {future : Nat}
    {status : Status}
    (happens : Effect maxIdle worker event after)
    (isSet : worker.futures future = some (some status)) :
    after.futures future = some (some status) := by
  have marks : ∀ (worker : Worker) ctx mark,
      (worker.mark ctx mark).futures = worker.futures := by
    intro worker ctx mark
    unfold Worker.mark
    cases worker.contexts ctx <;> rfl
  cases happens with
  | @allocated _ _ _ made freshCtx freshFuture =>
      refine (Function.update_of_ne ?_ _ _).trans isSet
      rintro rfl
      rw [freshFuture] at isSet
      cases isSet
  | @valueSet _ settled _ active =>
      refine (Function.update_of_ne ?_ _ _).trans isSet
      rintro rfl
      cases active.unset.symm.trans isSet
  | putCompleted =>
      rw [marks]
      exact isSet
  | messageCompleted =>
      rw [marks, marks]
      exact isSet
  | messagePending => exact (congrFun (marks _ _ _) future).trans isSet
  | @called operation status _ _ _ =>
      have same : (worker.complete operation status).futures =
          worker.futures := by
        fun_cases Worker.complete <;> simp only [marks]
      exact (congrFun same future).trans isSet
  | putFailed | putPending | messageFailed | deleted | ready | timedOut
  | idle | pooled => exact isSet

/-- What a write was told is what its promise was set to. -/
def Answered (worker : Worker) : Request WorkerCall WorkerCall.Answer → Prop
  | ⟨.waitUntil future _, some status⟩ =>
      worker.futures future = some (some status)
  | _ => True

theorem Answered.later
    {event past : Request WorkerCall WorkerCall.Answer}
    {after : Worker}
    (answered : Answered worker past)
    (happens : Effect maxIdle worker event after) :
    Answered after past := by
  revert answered
  fun_cases Answered worker past with
  | case1 future deadline status => exact happens.futures_eq_some
  | case2 past other =>
      intro _
      fun_cases Answered after past
      · exact (other _ _ _ rfl).elim
      · trivial

end

/-! ## Every reachable state -/

section

variable {maxIdle : Nat} {state : WorkerThreads}

/-- Whoever has a context is about to use it, or it is in flight. -/
theorem Sound.owned
    (obeys : state.Obeys works {} fun after _ => after.Rest)
    (sound : Sound maxIdle state.shared state.has)
    {ctx : Nat}
    {record : Ctx}
    (known : state.shared.contexts ctx = some record) :
    (∃ operation ∈ state.shared.inFlight, operation.userData = ctx) ∨
      ∃ thread request, state.Uses thread request ctx := by
  obtain ⟨place, kept, dead⟩ := sound.custody
  have placed : place ctx ≠ none := by
    intro absent
    rw [(dead ctx).mp absent] at known
    cases known
  obtain ⟨holder, isPlace⟩ := Option.ne_none_iff_exists'.mp placed
  have keeps := kept ctx
  rw [isPlace] at keeps
  have member := keeps.mem
  cases holder with
  | none =>
      obtain ⟨operation, isPending, same⟩ := List.mem_map.mp member
      exact .inl ⟨operation, isPending, same⟩
  | some thread =>
      right
      rw [contextsAt, List.mem_map] at member
      obtain ⟨⟨other, stage⟩, inHand, rfl⟩ := member
      obtain ⟨request, rest, running, used⟩ :=
        uses_of_notice (obeys.follows thread) (Option.mem_toList.mp inHand)
      exact ⟨thread, request, ⟨rest, running⟩, used⟩

end

/-! ### An interleaving -/

end UcxEndpointOps
end Client
end TurboAccess
