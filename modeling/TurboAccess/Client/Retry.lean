import TurboAccess.Client.Gds.Handshake
import TurboAccess.Client.Upload.PartAttempts
import TurboAccess.Lib.Program

/-!
# Calls of the gateway, and retries

A call of the gateway ends in one of three ways: the client is not initialized,
the controller says that the call has failed, or there is a response.  When the
handler of the gateway fails a call with an error, the controller gets a text.

A write makes attempts until a deadline, the next one when the one before has
failed with an error that is marked as retryable.  The pause between two
attempts shows in the clock only.
-/

namespace TurboAccess
namespace Client

open Gateway (ErrorCode)

/-! ## Errors -/

/-- Build an error; by default it is not retryable, and names neither a path nor
a request. -/
def makeError
    (code : ErrorCode)
    (message : String)
    (retryable : Bool := false)
    (failedPath : String := "")
    (requestId : String := "") : Error :=
  { code, message, retryable, failedPath, requestId }

def makeNotInitialized (component : String) : Error :=
  makeError .internal
    (component ++ " is not initialized. Call Client::Initialize first.") true

/-- A call that has failed: what the controller tells, and the error of the
handler if that has failed the call.  The controller does not have it. -/
structure FailedCall where
  timedOut : Bool
  errorText : String
  refusal : Option Gateway.Error
  deriving DecidableEq

def makeRpcFailure
    (controller : FailedCall)
    (message : String)
    (path : DataFlow)
    (requestId : String) : Error :=
  makeError (if controller.timedOut then .timeout else .controlPlaneError)
    (message ++ ": " ++ controller.errorText) true (Gds.DataFlow.toText path)
    requestId

/-! ## Calls -/

/-- How a call ends. -/
inductive RpcOutcome (α : Type)
  | notInitialized
  | failed (controller : FailedCall)
  | answered (response : α)
  deriving DecidableEq

namespace RpcOutcome

variable {α : Type}

/-- What a stub returns. -/
def result
    (outcome : RpcOutcome α)
    (component message : String)
    (path : DataFlow)
    (requestId : String) : Result α :=
  match outcome with
  | .notInitialized => .error (makeNotInitialized component)
  | .failed controller =>
      .error (makeRpcFailure controller message path requestId)
  | .answered response => .ok response

/-- The error with which the gateway has failed the call. -/
def refusal : RpcOutcome α → Option Gateway.Error
  | .notInitialized => none
  | .failed controller => controller.refusal
  | .answered _ => none

/-- A call that the gateway has failed gives a retryable error, however the
gateway has marked its own. -/
theorem retryable_of_refusal
    {outcome : RpcOutcome α}
    {refused : Gateway.Error}
    (failed : outcome.refusal = some refused)
    (component message : String)
    (path : DataFlow)
    (requestId : String) :
    ∃ error, outcome.result component message path requestId = .error error ∧
      error.retryable = true := by
  cases outcome with
  | notInitialized => cases failed
  | answered response => cases failed
  | failed controller => exact ⟨_, rfl, rfl⟩

end RpcOutcome

/-- What the gateway answers when it has opened a session. -/
structure OpenSessionResponse where
  requestId : String
  sessionId : String
  ticket : String
  gatewayId : String
  deriving DecidableEq

/-- What opening a session returns. -/
def openSessionResult
    (request : Gds.SessionOpening)
    (outcome : RpcOutcome OpenSessionResponse) : Result OpenSessionResponse :=
  outcome.result "Metadata client" "Failed to open transfer session"
    request.dataFlow request.requestId

/-! ## Retries -/

section

variable {κ : Type} {answer : κ → Type} {α : Type}

/-- Make up to some more attempts, after the result of the last one. -/
def retryLoop (fn : Program κ answer (Result α)) :
    Nat → Result α → Program κ answer (Result α)
  | 0, last => pure last
  | more + 1, last =>
      match last with
      | .ok value => pure (.ok value)
      | .error error =>
          if error.retryable = false then pure (.error error)
          else fn >>= retryLoop fn more

/-- Attempt a call, and again as long as it fails with a retryable error. -/
def retryIfRetryable
    (policy : RetryPolicy)
    (fn : Program κ answer (Result α)) : Program κ answer (Result α) :=
  fn >>= retryLoop fn (policy.maxAttempts - 1)

/-- An attempt, unless the deadline has passed. -/
def attemptBefore
    (clock : Program κ answer Int)
    (operation : String)
    (fn : Int → Program κ answer (Result α))
    (deadline : Int) : Program κ answer (Result α) := do
  let now ← clock
  if now ≥ deadline then
    pure (.error (makeError .timeout (operation ++ " retry deadline exceeded")
      true))
  else fn deadline

/-- Attempts up to a deadline, as every write makes them. -/
def attemptsWithin
    (clock : Program κ answer Int)
    (requestTimeout : Int)
    (operation : String)
    (fn : Int → Program κ answer (Result α)) : Program κ answer (Result α) := do
  let start ← clock
  retryIfRetryable defaultRetryPolicy
    (attemptBefore clock operation fn (start + requestTimeout))

/-- What an attempt has asked for and was answered, and its result. -/
structure CallAttempt (κ : Type) (answer : κ → Type) (α : Type) where
  trace : List (Request κ answer)
  result : Result α

/-- Attempts one after the other: each but the last has failed with a retryable
error, and the last one gives the result. -/
inductive Attempted (fn : Program κ answer (Result α)) :
    List (CallAttempt κ answer α) → Result α → Prop
  | last {trace : List (Request κ answer)} {result : Result α}
      (run : fn.Run trace result) :
      Attempted fn [⟨trace, result⟩] result
  | retried {trace : List (Request κ answer)} {error : Error}
      {attempts : List (CallAttempt κ answer α)} {result : Result α}
      (run : fn.Run trace (.error error))
      (retryable : error.retryable = true)
      (rest : Attempted fn attempts result) :
      Attempted fn (⟨trace, .error error⟩ :: attempts) result

/-- A write was rejected before any attempt, or has made attempts after a look
at the clock. -/
inductive InAttempts
    (clock : Program κ answer Int)
    (attempt : Int → Program κ answer (Result α)) :
    List (Request κ answer) → List (CallAttempt κ answer α) →
      Result α → Prop
  | rejected (error : Error) : InAttempts clock attempt [] [] (.error error)
  | attempted {look : List (Request κ answer)} {start deadline : Int}
      {attempts : List (CallAttempt κ answer α)} {result : Result α}
      (looked : clock.Run look start)
      (made : Attempted (attempt deadline) attempts result) :
      InAttempts clock attempt (look ++ attempts.flatMap (·.trace)) attempts
        result

variable
  {fn : Program κ answer (Result α)}
  {clock : Program κ answer Int}
  {trace : List (Request κ answer)}
  {attempts : List (CallAttempt κ answer α)}
  {result : Result α}

namespace Attempted

/-- Every attempt is a run of the call. -/
theorem run
    (made : Attempted fn attempts result)
    {attempt : CallAttempt κ answer α}
    (member : attempt ∈ attempts) :
    fn.Run attempt.trace attempt.result := by
  induction made with
  | last run =>
      obtain rfl := List.mem_singleton.mp member
      exact run
  | retried run retryable rest inductionHypothesis =>
      rcases List.mem_cons.mp member with rfl | member
      · exact run
      · exact inductionHypothesis member

/-- The last attempt gives the result. -/
theorem result_eq
    (made : Attempted fn attempts result)
    {earlier : List (CallAttempt κ answer α)}
    {attempt : CallAttempt κ answer α}
    (split : attempts = earlier ++ [attempt]) :
    attempt.result = result := by
  induction made generalizing earlier with
  | last run =>
      have appended : [] ++ [_] = earlier ++ [attempt] := split
      obtain ⟨-, same⟩ := List.append_inj' appended rfl
      obtain rfl := List.singleton_inj.mp same
      rfl
  | retried run retryable rest inductionHypothesis =>
      cases earlier with
      | nil =>
          obtain ⟨-, rfl⟩ := List.cons.inj split
          cases rest
      | cons first earlier =>
          exact inductionHypothesis (List.cons.inj split).2

end Attempted

/-- What follows the result of an attempt: nothing, or more attempts when that
has failed with a retryable error. -/
theorem run_retryLoop
    {more : Nat}
    {last : Result α}
    (run : (retryLoop fn more last).Run trace result) :
    (trace = [] ∧ result = last) ∨
      ∃ error attempts, last = .error error ∧ error.retryable = true ∧
        Attempted fn attempts result ∧ attempts.length ≤ more ∧
          trace = attempts.flatMap (·.trace) := by
  induction more generalizing last trace with
  | zero =>
      cases run
      exact .inl ⟨rfl, rfl⟩
  | succ more inductionHypothesis =>
      cases last with
      | ok value =>
          cases run
          exact .inl ⟨rfl, rfl⟩
      | error error =>
          rw [retryLoop] at run
          split at run
          · cases run
            exact .inl ⟨rfl, rfl⟩
          · next retryable =>
              rw [Bool.not_eq_false] at retryable
              obtain ⟨first, between, second, rfl, attempt, loop⟩ :=
                Program.run_bind run
              refine .inr ⟨error, ?_⟩
              rcases inductionHypothesis loop with ⟨rfl, rfl⟩ |
                ⟨next, attempts, rfl, again, made, few, rfl⟩
              · exact ⟨[⟨first, result⟩], rfl, retryable, .last attempt,
                  by simp, by simp⟩
              · exact ⟨⟨first, .error next⟩ :: attempts, rfl, retryable,
                  .retried attempt again made, by simpa using few, rfl⟩

/-- A call with retries is made of attempts, as many as the policy allows. -/
theorem run_retryIfRetryable
    {policy : RetryPolicy}
    (run : (retryIfRetryable policy fn).Run trace result) :
    ∃ attempts, Attempted fn attempts result ∧
      attempts.length ≤ policy.maxAttempts - 1 + 1 ∧
        trace = attempts.flatMap (·.trace) := by
  obtain ⟨first, between, second, rfl, attempt, loop⟩ := Program.run_bind run
  rcases run_retryLoop loop with ⟨rfl, rfl⟩ |
    ⟨error, attempts, rfl, retryable, made, few, rfl⟩
  · exact ⟨[⟨first, result⟩], .last attempt, by simp, by simp⟩
  · exact ⟨⟨first, .error error⟩ :: attempts,
      .retried attempt retryable made, by simpa using few, rfl⟩

/-- Every run within a deadline is made of attempts. -/
theorem inAttempts_of_run
    {requestTimeout : Int}
    {operation : String}
    {fn : Int → Program κ answer (Result α)}
    (run : (attemptsWithin clock requestTimeout operation fn).Run trace
      result) :
    ∃ attempts,
      InAttempts clock (attemptBefore clock operation fn) trace attempts
        result := by
  obtain ⟨look, start, rest, rfl, looked, run⟩ := Program.run_bind run
  obtain ⟨attempts, made, -, rfl⟩ := run_retryIfRetryable run
  exact ⟨attempts, .attempted looked made⟩

end

end Client
end TurboAccess
