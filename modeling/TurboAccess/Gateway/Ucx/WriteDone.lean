import TurboAccess.Gateway.Ucx.Attempts

/-!
# What a write-done message proves

The active message of a finished write carries the session identifier only.  A
message of an earlier attempt, delivered after the session was opened again,
marks the new entry as written before its own data has landed.

In every run in which a message is delivered to the entry its attempt was
prepared with, or to none, a commit runs only after a remote write into the
buffer of its entry has landed and has been announced.
-/

namespace TurboAccess
namespace Gateway
namespace Ucx

variable {β : Type} {iface : IBackend β} {options : UcxOptions}

/-- Some attempt was prepared with this entry and this buffer, its remote write
has landed, and its message has been delivered. -/
def Announced
    (pool : Pool (UcxExecutor β) (Option Attempt))
    (serial slot : Nat) : Prop :=
  ∃ thread attempt,
    pool.threads thread = some attempt ∧
      attempt.prepared = some (serial, slot) ∧
      attempt.landed = true ∧ attempt.notified = true

/-- Every commit that has run was announced for its entry and its buffer. -/
def CommitsAnnounced (pool : Pool (UcxExecutor β) (Option Attempt)) : Prop :=
  ∀ write ∈ pool.shared.writes, Announced pool write.serial write.slot

/-- The guard on message delivery: the session has no entry, or the one that
the sender's transfer was prepared with. -/
def ownAnnouncement
    (pool : Pool (UcxExecutor β) (Option Attempt))
    (label : Nat × Input) : Bool :=
  match label.2, pool.threads label.1 with
  | .writeDone, some attempt =>
      match pool.shared.registry.lookup attempt.transfer.sessionId with
      | some entry => attempt.prepared.map Prod.fst == some entry.serial
      | none => true
  | _, _ => true

/-- What an attempt has announced stays announced. -/
theorem Takes.announced
    {executor shared : UcxExecutor β}
    {attempt : Attempt}
    {input : Input}
    {after : Option Attempt}
    {location : Nat × Nat}
    (takes : Takes iface options executor (some attempt) input shared after)
    (prepared : attempt.prepared = some location)
    (landed : attempt.landed = true)
    (notified : attempt.notified = true) :
    ∃ next, after = some next ∧ next.prepared = some location ∧
      next.landed = true ∧ next.notified = true := by
  cases takes with
  | unanswered _ allocation unprepared =>
      exact ⟨attempt, rfl, prepared, landed, notified⟩
  | prepared _ allocation info given shared unprepared outcome located =>
      rw [unprepared] at prepared
      cases prepared
  | posted _ given again unposted => exact ⟨_, rfl, prepared, landed, notified⟩
  | landed _ serial slot next again posted inFlight effect =>
      exact ⟨_, rfl, prepared, rfl, notified⟩
  | notified _ next again inFlight effect =>
      exact ⟨_, rfl, prepared, landed, rfl⟩
  | committed _ given next again first effect =>
      exact ⟨_, rfl, prepared, landed, notified⟩
  | aborted _ next effect => exact ⟨_, rfl, prepared, landed, notified⟩

/-- Announcements survive every step. -/
theorem Announced.step
    {pool : Pool (UcxExecutor β) (Option Attempt)}
    {mover serial slot : Nat}
    {input : Input}
    {shared : UcxExecutor β}
    {after : Option Attempt}
    (announced : Announced pool serial slot)
    (takes : Takes iface options pool.shared (pool.threads mover) input shared
      after) :
    Announced ⟨shared, Function.update pool.threads mover after⟩ serial
      slot := by
  obtain ⟨thread, attempt, running, prepared, landed, notified⟩ := announced
  by_cases own : thread = mover
  · subst own
    rw [running] at takes
    obtain ⟨next, rfl, kept⟩ := takes.announced prepared landed notified
    exact ⟨thread, next, by simp, kept⟩
  · refine ⟨thread, attempt, ?_, prepared, landed, notified⟩
    simpa only [Function.update_of_ne own] using running

/-- A message delivered to a registered entry, under the guard, announces that
entry and its buffer. -/
theorem announced_of_amWriteDone
    {pool : Pool (UcxExecutor β) (Option Attempt)}
    {mover : Nat}
    {input : Input}
    {shared : UcxExecutor β}
    {after : Option Attempt}
    {sessionId : String}
    {entry : UcxSessionEntry}
    (placed : ∀ attempt, pool.threads mover = some attempt →
      attempt.Placed pool.shared)
    (guarded : ownAnnouncement pool (mover, input) = true)
    (takes : Takes iface options pool.shared (pool.threads mover) input shared
      after)
    (delivered : input.event (pool.threads mover) =
      some (.amWriteDone sessionId))
    (found : pool.shared.registry.lookup sessionId = some entry) :
    ∃ slot, entry.slot = some slot ∧
      Announced ⟨shared, Function.update pool.threads mover after⟩
        entry.serial slot := by
  generalize running : pool.threads mover = frame at takes delivered
  cases takes with
  | opened transfer => cases delivered
  | unanswered attempt allocation unprepared => cases delivered
  | prepared attempt allocation info location shared unprepared outcome
      located => cases delivered
  | posted attempt location prepared unposted => cases delivered
  | landed attempt serial slot next prepared posted inFlight effect =>
      simp [Input.event, prepared] at delivered
  | notified attempt next landed inFlight effect =>
      cases delivered
      simp only [ownAnnouncement, running, found, beq_iff_eq,
        Option.map_eq_some_iff, Prod.exists, exists_and_right,
        exists_eq_right] at guarded
      obtain ⟨slot, prepared⟩ := guarded
      have held := ((placed attempt running).located _ slot _ entry prepared
        found rfl).2
      exact ⟨slot, held, mover, _, Function.update_self .., prepared, landed,
        rfl⟩
  | committed attempt location next prepared first effect =>
      cases operation : attempt.transfer.operation <;>
        simp [Input.event, Transfer.commitEvent, operation] at delivered
  | aborted attempt next effect => cases delivered

/-- A marked entry is announced for its buffer, and so is every commit that has
run. -/
structure SoundMarks (pool : Pool (UcxExecutor β) (Option Attempt)) : Prop where
  marked : ∀ sessionId entry,
    pool.shared.registry.lookup sessionId = some entry →
      entry.writeDone = true →
        ∃ slot, entry.slot = some slot ∧ Announced pool entry.serial slot
  written : CommitsAnnounced pool

/-- Guarded steps keep marks sound. -/
theorem SoundMarks.step
    {pool : Pool (UcxExecutor β) (Option Attempt)}
    {mover : Nat}
    {input : Input}
    {shared : UcxExecutor β}
    {after : Option Attempt}
    (sound : SoundMarks pool)
    (placed : ∀ attempt, pool.threads mover = some attempt →
      attempt.Placed pool.shared)
    (guarded : ownAnnouncement pool (mover, input) = true)
    (takes : Takes iface options pool.shared (pool.threads mover) input shared
      after) :
    SoundMarks ⟨shared, Function.update pool.threads mover after⟩ := by
  have stays : ∀ serial slot, Announced pool serial slot →
      Announced ⟨shared, Function.update pool.threads mover after⟩ serial
        slot := fun _ _ announced => announced.step takes
  rcases takes.effect with unchanged | ⟨event, isEvent, effect⟩
  · subst unchanged
    constructor
    · intro sessionId entry found written
      obtain ⟨slot, held, announced⟩ := sound.marked sessionId entry found
        written
      exact ⟨slot, held, stays _ _ announced⟩
    · intro write member
      exact stays _ _ (sound.written write member)
  constructor
  · intro sessionId entry found written
    have change := effect.entryChange sessionId
    generalize was : pool.shared.registry.lookup sessionId = old at change
    rw [found] at change
    cases change with
    | same =>
        obtain ⟨slot, held, announced⟩ := sound.marked sessionId entry was
          written
        exact ⟨slot, held, stays _ _ announced⟩
    | opened _ session opening named => cases written
    | attached before slot transferBytes allocation preparing vacant =>
        obtain ⟨slot, held, _⟩ := sound.marked sessionId before was written
        rw [vacant] at held
        cases held
    | marked before notified alone =>
        subst notified
        obtain ⟨slot, held, announced⟩ :=
          announced_of_amWriteDone placed guarded takes isEvent was
        exact ⟨slot, held, announced⟩
    | waits before request slot requested named held =>
        obtain ⟨slot, held, announced⟩ := sound.marked sessionId before was
          written
        exact ⟨slot, held, stays _ _ announced⟩
  · intro write member
    rcases effect.writes with unchanged | ⟨entry, slot, buffer, request, found,
        held, registered, appended, cause⟩
    · rw [unchanged] at member
      exact stays _ _ (sound.written write member)
    · rw [appended, List.mem_append, List.mem_singleton] at member
      rcases member with old | rfl
      · exact stays _ _ (sound.written write old)
      · rcases cause with ⟨rfl, _⟩ | ⟨_, written⟩
        · obtain ⟨given, heldGiven, announced⟩ :=
            announced_of_amWriteDone placed guarded takes isEvent found
          cases held.symm.trans heldGiven
          exact announced
        · obtain ⟨given, heldGiven, announced⟩ :=
            sound.marked _ entry found written
          cases held.symm.trans heldGiven
          exact stays _ _ announced

/-- In every run whose messages reach the entries they are about, a commit runs
only after the remote write into its entry's buffer has been announced. -/
theorem commitsAnnounced_of_ownAnnouncements
    {pool : Pool (UcxExecutor β) (Option Attempt)}
    (reachable : (attempts iface options).Reachable
      (fun pool label => ownAnnouncement pool label = true) pool) :
    CommitsAnnounced pool := by
  have sound : SoundMarks pool := by
    refine reachable.induction ?_ ?_
    · rintro start ⟨⟨started, backend, initial⟩, idle⟩
      constructor
      · intro sessionId entry found
        simp [initial, UcxExecutor.init] at found
      · intro write member
        simp [initial, UcxExecutor.init] at member
    · rintro before ⟨mover, input⟩ next reached sound guarded stepped
      obtain ⟨shared, after, takes, rfl⟩ := takes_of_step reached stepped
      exact sound.step (fun attempt => placed_of_reachable reached) guarded
        takes
  exact sound.written

/-! ## A retry -/

private theorem retriedPut_named : "ses" ≠ "" := by decide

/-- A transfer of one byte. -/
private def retriedPut : Transfer where
  session := ⟨"ses", "bucket", "key", 1, retriedPut_named⟩
  data := [7]
  operation := .object
  clientCrc32c := ""

/-- One attempt that runs through. -/
private def announcedLabels : List (Nat × Input) :=
  [(0, .openSession retriedPut),
    (0, .prepareTransfer (.registered (fun _ => 0) 4096 [])),
    (0, .put), (0, .land), (0, .commit), (0, .writeDone)]

/-- A committed transfer was announced. -/
theorem commitsAnnounced_one_attempt :
    ∃ pool,
      (attempts overComposite (.default "gateway")).Reachable
          (fun pool label => ownAnnouncement pool label = true) pool ∧
        pool.shared.writes.map Write.call =
          [.writeRange "bucket" "key" 0 [7] 1] ∧
        CommitsAnnounced pool := by
  have executed : ((attempts overComposite (.default "gateway")).run
        (fun pool label => ownAnnouncement pool label = true)
        (untouched (CompositeBackend.init 16, 0)) announcedLabels).map
        (fun pool => pool.shared.writes.map Write.call) =
      some [.writeRange "bucket" "key" 0 [7] 1] := by
    decide
  obtain ⟨pool, reachable, calls⟩ := Machine.Reachable.of_run_map
    (initial_untouched overComposite (.default "gateway") _) executed
  exact ⟨pool, reachable, calls, commitsAnnounced_of_ownAnnouncements reachable⟩

/-- The first attempt is aborted while its message is on the way.  The message
arrives once the second attempt is prepared, and the second attempt's commit
runs before it has written anything. -/
private def staleLabels : List (Nat × Input) :=
  [(0, .openSession retriedPut),
    (0, .prepareTransfer (.registered (fun _ => 0) 4096 [])),
    (0, .put), (0, .land), (0, .abort),
    (1, .openSession retriedPut),
    (1, .prepareTransfer .allocFailed),
    (0, .writeDone), (1, .commit)]

private def stale :
    Option (Pool (UcxExecutor (CompositeBackend × Nat)) (Option Attempt)) :=
  (attempts overComposite (.default "gateway")).run Machine.always
    (untouched (CompositeBackend.init 16, 0)) staleLabels

private theorem stale_isSome : stale.isSome = true := by decide

/-- A late message makes the commit of another attempt run. -/
theorem stale_message_commits :
    ∃ pool,
      (attempts overComposite (.default "gateway")).Reachable Machine.always
          pool ∧
        ¬ CommitsAnnounced pool := by
  obtain ⟨path, rest⟩ := Pool.path_of_run_below 2 none rfl
    (fun _ _ _ allowed => allowed) (fun _ _ => rfl) (by decide)
    (Option.some_get stale_isSome).symm
  refine ⟨stale.get stale_isSome,
    ⟨_, _, initial_untouched overComposite (.default "gateway") _, path⟩, ?_⟩
  intro announced
  -- no attempt has announced the entry and the buffer of the commit that ran
  have nobody := rest.forall (fun frame => frame.all (fun attempt =>
    attempt.prepared ≠ some (1, 0) || attempt.notified = false) = true) rfl
    (by decide)
  have made : (1, 0) ∈ (stale.get stale_isSome).shared.writes.map
      (fun write => (write.serial, write.slot)) := by
    decide
  obtain ⟨write, member, same⟩ := List.mem_map.mp made
  obtain ⟨serial, slot⟩ := Prod.mk.inj same
  obtain ⟨thread, attempt, running, prepared, _, notified⟩ :=
    announced write member
  have silent := nobody thread
  rw [running] at silent
  simp [prepared, serial, slot, notified] at silent

end Ucx
end Gateway
end TurboAccess
