import TurboAccess.Lib.Table

/-!
# Sessions of the proxy

The proxy keeps its sessions in one table under their identifiers.  An
identifier is the hint of the client, if it gave one, and is generated from a
sequence number otherwise.  The text of the deadline is an argument, and so is
the order in which the hash table is walked.
-/

namespace TurboAccess
namespace Proxy

/-- Status of a session; nothing sets `failed`. -/
inductive Status
  | pending
  | completed
  | failed
  deriving DecidableEq, Repr

structure Session where
  sessionId : String
  ticket : String
  expireAt : String
  bucket : String
  objectKey : String
  expectedSize : Nat
  status : Status
  etag : String
  crc32c : UInt32
  bytesTransferred : Nat
  deriving DecidableEq

/-- The sessions by their identifiers, and the next sequence number. -/
structure SessionManager where
  seq : Nat
  sessions : Table String Session

/-! ## Identifiers -/

def sessionIdPrefix : String := "pxs-"

/-- Identifier generated from a sequence number. -/
def generatedId (seq : Nat) : String := sessionIdPrefix ++ toString seq

/-- Ticket of a session. -/
def ticketOf (sessionId : String) : String := "tkt-" ++ sessionId

theorem ticketOf_injective : Function.Injective ticketOf := by
  intro left right equal
  have texts := congrArg String.toList equal
  simp only [ticketOf, String.toList_append] at texts
  exact String.toList_injective (List.append_cancel_left texts)

theorem generatedId_injective : Function.Injective generatedId := by
  intro left right equal
  have texts := congrArg String.toList equal
  simp only [generatedId, String.toList_append] at texts
  have digits : Nat.toDigits 10 left = Nat.toDigits 10 right := by
    simpa [Nat.toString_eq_repr, Nat.toList_repr] using
      List.append_cancel_left texts
  rw [← @Nat.ofDigitChars_ten_toDigits left, digits,
    Nat.ofDigitChars_ten_toDigits]

theorem generatedId_ne_empty (seq : Nat) : generatedId seq ≠ "" := by
  intro empty
  have texts := congrArg String.toList empty
  simp [generatedId, sessionIdPrefix] at texts

namespace SessionManager

def new : SessionManager := ⟨0, ∅⟩

/-! ## Operations -/

/-- What a client asks for when it opens a session. -/
structure Creation where
  sessionIdHint : String
  bucket : String
  objectKey : String
  expectedSize : Nat
  expireAt : String
  deriving DecidableEq

/-- Identifier that a creation is given. -/
def identify (manager : SessionManager) (creation : Creation) : String :=
  if creation.sessionIdHint ≠ "" then creation.sessionIdHint
  else generatedId manager.seq

/-- Sequence number after a creation; it is a 64-bit word. -/
def nextSeq (manager : SessionManager) (creation : Creation) : Nat :=
  if creation.sessionIdHint ≠ "" then manager.seq
  else (manager.seq + 1) % 2 ^ 64

/-- Store a pending session under its identifier. -/
def createSession
    (manager : SessionManager)
    (creation : Creation) : Session × SessionManager :=
  let sessionId := manager.identify creation
  let session : Session :=
    { sessionId
      ticket := ticketOf sessionId
      expireAt := creation.expireAt
      bucket := creation.bucket
      objectKey := creation.objectKey
      expectedSize := creation.expectedSize
      status := .pending
      etag := ""
      crc32c := 0
      bytesTransferred := 0 }
  (session,
    { seq := manager.nextSeq creation
      sessions := manager.sessions.insert sessionId session })

/-- What the backend reports of a transfer. -/
structure Report where
  sessionId : String
  etag : String
  crc32c : UInt32
  bytesTransferred : Nat
  deriving DecidableEq

/-- A session with a report noted in it. -/
def Session.complete (session : Session) (report : Report) : Session :=
  { session with
    status := .completed
    etag := report.etag
    crc32c := report.crc32c
    bytesTransferred := report.bytesTransferred }

/-- Mark a session as completed; false when there is no such session. -/
def completeSession
    (manager : SessionManager)
    (report : Report) : Bool × SessionManager :=
  match manager.sessions.lookup report.sessionId with
  | none => (false, manager)
  | some session =>
      (true, { manager with
        sessions := manager.sessions.insert report.sessionId
          (Session.complete session report) })

/-- Whether a session is completed and has a ticket. -/
def isCompletedFor (ticket : String) (session : Session) : Bool :=
  session.ticket = ticket ∧ session.status = .completed

/-- The first completed session with a ticket. -/
def getCompletedSession
    (manager : SessionManager)
    (keys : List String)
    (ticket : String) : Option Session :=
  manager.sessions.firstWhere keys (isCompletedFor ticket)

/-! ## Effects of the operations -/

/-- Lookup after a creation. -/
theorem lookup_createSession
    (manager : SessionManager)
    (creation : Creation)
    (sessionId : String) :
    (manager.createSession creation).2.sessions.lookup sessionId =
      if sessionId = manager.identify creation then
        some (manager.createSession creation).1
      else manager.sessions.lookup sessionId :=
  Table.lookup_insert_eq _ _ _ _

/-- A completion is accepted exactly when there is a session. -/
theorem completeSession_accepted
    (manager : SessionManager)
    (report : Report) :
    (manager.completeSession report).1 =
      (manager.sessions.lookup report.sessionId).isSome := by
  cases found : manager.sessions.lookup report.sessionId <;>
    simp [completeSession, found]

/-- Lookup after a completion. -/
theorem lookup_completeSession
    (manager : SessionManager)
    (report : Report)
    (sessionId : String) :
    (manager.completeSession report).2.sessions.lookup sessionId =
      if sessionId = report.sessionId then
        (manager.sessions.lookup sessionId).map (Session.complete · report)
      else manager.sessions.lookup sessionId := by
  cases found : manager.sessions.lookup report.sessionId with
  | none =>
      simp only [completeSession, found]
      split
      · next same => rw [same, found, Option.map_none]
      · rfl
  | some session =>
      simp only [completeSession, found, Table.lookup_insert_eq]
      split
      · next same => rw [same, found, Option.map_some]
      · rfl

@[simp] theorem completeSession_seq (manager : SessionManager) (report : Report) :
    (manager.completeSession report).2.seq = manager.seq := by
  unfold completeSession
  split <;> rfl

/-- Every session is stored under its identifier, and its ticket is the one made
from it. -/
def Filed (manager : SessionManager) : Prop :=
  ∀ sessionId session, manager.sessions.lookup sessionId = some session →
    session.sessionId = sessionId ∧ session.ticket = ticketOf sessionId

theorem filed_new : Filed new := by
  intro sessionId session found
  simp [new] at found

theorem Filed.createSession
    {manager : SessionManager}
    (filed : manager.Filed)
    (creation : Creation) :
    (manager.createSession creation).2.Filed := by
  intro sessionId session found
  rw [lookup_createSession] at found
  split at found
  · next same =>
      rw [← Option.some.inj found, same]
      exact ⟨rfl, rfl⟩
  · exact filed sessionId session found

theorem Filed.completeSession
    {manager : SessionManager}
    (filed : manager.Filed)
    (report : Report) :
    (manager.completeSession report).2.Filed := by
  intro sessionId session found
  rw [lookup_completeSession] at found
  split at found
  · obtain ⟨old, stored, rfl⟩ := Option.map_eq_some_iff.mp found
    exact filed sessionId old stored
  · exact filed sessionId session found

/-- The scan for a ticket finds the session whose identifier the ticket was made
from, whatever the order of the table. -/
theorem getCompletedSession_eq_some_iff
    {manager : SessionManager}
    (filed : manager.Filed)
    (order : Table.ScanOrder manager.sessions)
    (ticket : String)
    (session : Session) :
    manager.getCompletedSession order.keys ticket = some session ↔
      session.status = .completed ∧ ∃ sessionId, ticket = ticketOf sessionId ∧
        manager.sessions.lookup sessionId = some session := by
  have unique : ∀ key other value otherValue,
      manager.sessions.lookup key = some value →
      manager.sessions.lookup other = some otherValue →
      isCompletedFor ticket value = true →
      isCompletedFor ticket otherValue = true → key = other := by
    intro key other value otherValue stored otherStored accepted otherAccepted
    simp only [isCompletedFor, decide_eq_true_eq] at accepted otherAccepted
    apply ticketOf_injective
    rw [← (filed key value stored).2, ← (filed other otherValue otherStored).2,
      accepted.1, otherAccepted.1]
  rw [getCompletedSession, Table.firstWhere_eq_some_iff order unique]
  simp only [isCompletedFor, decide_eq_true_eq]
  constructor
  · rintro ⟨⟨rfl, completed⟩, sessionId, stored⟩
    exact ⟨completed, sessionId, (filed sessionId session stored).2, stored⟩
  · rintro ⟨completed, sessionId, rfl, stored⟩
    exact ⟨⟨(filed sessionId session stored).2, completed⟩, sessionId, stored⟩

/-! ## Identifiers across calls -/

/-- A call of the session manager. -/
inductive Call
  | createSession (creation : Creation)
  | completeSession (report : Report)
  | getCompletedSession (keys : List String) (ticket : String)
  deriving DecidableEq

def apply (manager : SessionManager) : Call → SessionManager
  | .createSession creation => (manager.createSession creation).2
  | .completeSession report => (manager.completeSession report).2
  | .getCompletedSession _ _ => manager

/-- The manager after calls made one after the other. -/
def after (manager : SessionManager) (calls : List Call) : SessionManager :=
  calls.foldl apply manager

/-- Session that a creation returns after calls to a new manager. -/
def issued (calls : List Call) (creation : Creation) : Session :=
  ((new.after calls).createSession creation).1

/-- Whether a call takes a sequence number. -/
def Call.generates : Call → Bool
  | .createSession creation => creation.sessionIdHint = ""
  | _ => false

/-- Number of calls that take a sequence number. -/
def generatedIn (calls : List Call) : Nat := calls.countP Call.generates

theorem apply_seq
    {manager : SessionManager}
    (bounded : manager.seq < 2 ^ 64)
    (call : Call) :
    (manager.apply call).seq =
      (manager.seq + if call.generates then 1 else 0) % 2 ^ 64 := by
  have unchanged : manager.seq = (manager.seq + 0) % 2 ^ 64 :=
    (Nat.mod_eq_of_lt bounded).symm
  cases call with
  | createSession creation =>
      by_cases hintless : creation.sessionIdHint = ""
      · have taken : Call.generates (.createSession creation) = true :=
          decide_eq_true hintless
        rw [if_pos taken]
        exact if_neg (not_not.mpr hintless)
      · have untaken : ¬ Call.generates (.createSession creation) = true :=
          fun taken => hintless (of_decide_eq_true taken)
        rw [if_neg untaken]
        exact (if_pos hintless).trans unchanged
  | completeSession report =>
      exact (completeSession_seq manager report).trans unchanged
  | getCompletedSession keys ticket => exact unchanged

/-- The sequence number counts the generated identifiers. -/
theorem after_seq
    {manager : SessionManager}
    (bounded : manager.seq < 2 ^ 64)
    (calls : List Call) :
    (manager.after calls).seq =
      (manager.seq + generatedIn calls) % 2 ^ 64 := by
  induction calls generalizing manager with
  | nil => exact (Nat.mod_eq_of_lt bounded).symm
  | cons call calls inductionHypothesis =>
      have step := apply_seq bounded call
      have next : (manager.apply call).seq < 2 ^ 64 := by
        rw [step]
        exact Nat.mod_lt _ (by norm_num)
      have counted : generatedIn (call :: calls) =
          generatedIn calls + if call.generates then 1 else 0 :=
        List.countP_cons
      rw [after, List.foldl_cons, ← after, inductionHypothesis next, step,
        counted]
      omega

theorem identify_ne_empty (manager : SessionManager) (creation : Creation) :
    manager.identify creation ≠ "" := by
  unfold identify
  split
  · next hinted => exact hinted
  · exact generatedId_ne_empty _

theorem identify_of_hint
    (manager : SessionManager)
    {creation : Creation}
    (hinted : creation.sessionIdHint ≠ "") :
    manager.identify creation = creation.sessionIdHint :=
  if_pos hinted

theorem identify_of_noHint
    (manager : SessionManager)
    {creation : Creation}
    (hintless : creation.sessionIdHint = "") :
    manager.identify creation = generatedId manager.seq :=
  if_neg (not_not.mpr hintless)

/-- Two creations give the same identifier when one of them was given it as its
hint, or when both took the same sequence number. -/
theorem identify_eq_identify_iff
    (earlier later : SessionManager)
    (first second : Creation) :
    earlier.identify first = later.identify second ↔
      first.sessionIdHint = later.identify second ∨
        second.sessionIdHint = earlier.identify first ∨
          first.sessionIdHint = "" ∧ second.sessionIdHint = "" ∧
            earlier.seq = later.seq := by
  by_cases firstHinted : first.sessionIdHint = ""
  · by_cases secondHinted : second.sessionIdHint = ""
    · have generated : earlier.identify first = later.identify second ↔
          earlier.seq = later.seq := by
        rw [identify_of_noHint earlier firstHinted,
          identify_of_noHint later secondHinted, generatedId_injective.eq_iff]
      simp [firstHinted, secondHinted, generated,
        (identify_ne_empty later second).symm,
        (identify_ne_empty earlier first).symm]
    · rw [identify_of_hint later secondHinted]
      simp [firstHinted, secondHinted, Ne.symm secondHinted, eq_comm]
  · rw [identify_of_hint earlier firstHinted]
    simp only [firstHinted, false_and, or_false]
    constructor
    · exact Or.inl
    · rintro (same | same)
      · exact same
      · have secondHinted : second.sessionIdHint ≠ "" := same ▸ firstHinted
        rw [identify_of_hint later secondHinted, same]

/-- Two creations are given the same identifier, and the same ticket, only when
one of them asked for it by its hint, or when the sequence number went round
between them; and a creation leaves every session with another identifier as it
was. -/
theorem createSession_aliases_only_by_hint
    (before between : List Call)
    (first second : Creation) :
    ((issued before first).sessionId =
        (issued (before ++ .createSession first :: between) second).sessionId ↔
      first.sessionIdHint =
          (issued (before ++ .createSession first :: between)
            second).sessionId ∨
        second.sessionIdHint = (issued before first).sessionId ∨
          first.sessionIdHint = "" ∧ second.sessionIdHint = "" ∧
            2 ^ 64 ∣ generatedIn (.createSession first :: between)) ∧
      ((issued before first).ticket =
          (issued (before ++ .createSession first :: between) second).ticket ↔
        (issued before first).sessionId =
          (issued (before ++ .createSession first :: between)
            second).sessionId) ∧
        ∀ sessionId, sessionId ≠ (issued before first).sessionId →
          ((new.after before).apply (.createSession first)).sessions.lookup
              sessionId =
            (new.after before).sessions.lookup sessionId := by
  have bounded : (new.after before).seq < 2 ^ 64 := by
    rw [after_seq (by decide)]
    exact Nat.mod_lt _ (by norm_num)
  have later : new.after (before ++ .createSession first :: between) =
      (new.after before).after (.createSession first :: between) :=
    List.foldl_append
  have wrapped : (new.after before).seq =
        (new.after (before ++ .createSession first :: between)).seq ↔
      2 ^ 64 ∣ generatedIn (.createSession first :: between) := by
    rw [later, after_seq bounded]
    omega
  refine ⟨?_, ?_, ?_⟩
  · rw [← wrapped]
    exact identify_eq_identify_iff _ _ first second
  · exact ticketOf_injective.eq_iff
  · intro sessionId different
    exact (lookup_createSession _ first sessionId).trans (if_neg different)

/-- A hint that is used again takes the identifier of a completed session and
resets it, and so does a generated identifier that was a hint before. -/
theorem createSession_resets_completed :
    let creation : String → Creation := fun hint =>
      ⟨hint, "bucket", "key", 1, "2026-06-18T09:00:00Z"⟩
    let finished : String → List Call := fun hint =>
      [.createSession (creation hint), .completeSession ⟨hint, "etag", 7, 1⟩]
    ((issued [] (creation "pxs-0")).sessionId =
        (issued (finished "pxs-0") (creation "pxs-0")).sessionId ∧
      (issued [] (creation "pxs-0")).sessionId =
        (issued (finished "pxs-0") (creation "")).sessionId) ∧
      ((new.after (finished "pxs-0")).sessions.lookup "pxs-0").map
          (·.status) = some .completed ∧
        ((new.after (finished "pxs-0" ++
            [.createSession (creation "")])).sessions.lookup "pxs-0").map
          (·.status) = some .pending := by
  decide

end SessionManager
end Proxy
end TurboAccess
