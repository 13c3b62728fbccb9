import TurboAccess.Gateway.Ucx.Attempts
import TurboAccess.Gateway.Ucx.Callbacks

/-!
# Bytes of other sessions

A buffer keeps its address and its registration when its session is aborted or
committed, and the next session gets it while a remote write of the previous one
may still be on the way.  When that write is delivered after the new owner's
own, the new owner commits bytes it never wrote.

In every run in which no remote write is delivered into a buffer that belongs to
another attempt whose own write has landed, the bytes that a commit hands to the
backend after its attempt's own message are the bytes of that attempt.
-/

namespace TurboAccess
namespace Gateway
namespace Ucx

variable {β : Type} {iface : IBackend β} {options : UcxOptions}

/-- The remote write of an attempt has landed in a buffer that the entry of the
attempt still holds. -/
def Attempt.Settled
    (executor : UcxExecutor β)
    (attempt : Attempt)
    (slot : Nat) : Prop :=
  attempt.landed = true ∧
    ∃ serial, attempt.prepared = some (serial, slot) ∧
      executor.location attempt.transfer.sessionId = some (serial, slot)

/-- The guard on remote writes: none is delivered into a buffer in which another
attempt is settled. -/
def LandsAlone
    (pool : Pool (UcxExecutor β) (Option Attempt))
    (label : Nat × Input) : Prop :=
  ∀ slot data, label.2.event (pool.threads label.1) =
      some (.remoteWrite slot data) →
    ∀ other rival, other ≠ label.1 → pool.threads other = some rival →
      ¬ rival.Settled pool.shared slot

/-- A step hands the backend no foreign bytes: when it runs the commit of an
attempt, from the entry and the buffer that the attempt's transfer was prepared
with, and the attempt's own message has been delivered, then the bytes are the
attempt's. -/
def Uncontaminated
    (pool next : Pool (UcxExecutor β) (Option Attempt)) : Prop :=
  ∀ write thread attempt,
    next.shared.writes = pool.shared.writes ++ [write] →
      next.threads thread = some attempt →
        attempt.request = some write.request.onDone →
          attempt.prepared = some (write.serial, write.slot) →
            attempt.notified = true →
              write.call.source = attempt.transfer.data

/-! ## Settled bytes stay -/

/-- Where an attempt is settled, the buffer shows its bytes. -/
def Attempt.Intact (executor : UcxExecutor β) (attempt : Attempt) : Prop :=
  ∀ slot, attempt.Settled executor slot →
    ∃ buffer, executor.buffers.lookup slot = some buffer ∧
      buffer.view attempt.transfer.data.length = attempt.transfer.data

/-- A located session has an entry with that number and that buffer. -/
theorem UcxExecutor.location_eq_some
    {executor : UcxExecutor β}
    {sessionId : String}
    {serial slot : Nat}
    (located : executor.location sessionId = some (serial, slot)) :
    ∃ entry, executor.registry.lookup sessionId = some entry ∧
      entry.serial = serial ∧ entry.slot = some slot := by
  simp only [location, Option.bind_eq_some_iff, Option.map_eq_some_iff,
    Prod.mk.injEq] at located
  obtain ⟨entry, found, held, heldEq, sameSerial, sameSlot⟩ := located
  exact ⟨entry, found, sameSerial, sameSlot ▸ heldEq⟩

/-- An attempt that is settled after an event, and whose write had landed, was
settled before. -/
theorem Attempt.Placed.settled_before
    {executor next : UcxExecutor β}
    {event : UcxExecutor.Event}
    {attempt : Attempt}
    {slot : Nat}
    (placed : attempt.Placed executor)
    (effect : UcxExecutor.Handles iface options executor event next)
    (settled : attempt.Settled next slot) :
    attempt.Settled executor slot := by
  obtain ⟨landed, serial, prepared, located⟩ := settled
  refine ⟨landed, serial, prepared, ?_⟩
  obtain ⟨entry, found, sameSerial, held⟩ :=
    UcxExecutor.location_eq_some located
  rcases effect.entry_origin found with
    ⟨session, _, _, rfl⟩ | ⟨before, was, same, _⟩
  · cases held
  · have heldBefore := (placed.located serial slot _ before prepared was
      (same.symm.trans sameSerial)).2
    simp [UcxExecutor.location, was, heldBefore, ← same, sameSerial]

/-- Settled bytes survive every event that is not a remote write into their
buffer. -/
theorem Attempt.Intact.handles
    {executor next : UcxExecutor β}
    {event : UcxExecutor.Event}
    {attempt : Attempt}
    (intact : attempt.Intact executor)
    (owned : executor.Owned)
    (placed : attempt.Placed executor)
    (effect : UcxExecutor.Handles iface options executor event next)
    (alone : ∀ slot data, attempt.Settled executor slot →
      event ≠ .remoteWrite slot data) :
    attempt.Intact next := by
  intro slot settled
  have before := placed.settled_before effect settled
  obtain ⟨buffer, registered, shows⟩ := intact slot before
  rcases effect.buffer_kept owned registered
      (fun data => alone slot data before) with
    kept | ⟨sessionId, entry, found, held, erased⟩
  · exact ⟨buffer, kept, shows⟩
  -- the entry that was erased is the attempt's own
  obtain ⟨_, serial, _, locatedBefore⟩ := before
  obtain ⟨own, ownFound, _, ownHeld⟩ :=
    UcxExecutor.location_eq_some locatedBefore
  have same := owned.exclusive _ _ _ _ slot found ownFound held ownHeld
  subst same
  obtain ⟨_, serial, _, located⟩ := settled
  obtain ⟨after, afterFound, _, _⟩ := UcxExecutor.location_eq_some located
  rw [erased] at afterFound
  cases afterFound

/-- A remote write settles the bytes of its own attempt. -/
theorem Attempt.intact_of_landed
    {executor next : UcxExecutor β}
    {attempt : Attempt}
    {serial slot : Nat}
    (prepared : attempt.prepared = some (serial, slot))
    (effect : UcxExecutor.Handles iface options executor
      (.remoteWrite slot attempt.transfer.data) next) :
    { attempt with landed := true }.Intact next := by
  rintro other ⟨_, otherSerial, same, _⟩
  cases prepared.symm.trans same
  cases effect with
  | landed slot data buffer registered fits =>
      exact ⟨buffer.put attempt.transfer.data, Finmap.lookup_insert _,
        buffer.view_put attempt.transfer.data⟩
  | refused event request result requested failed unprepared =>
      cases requested
  | waits event request entry held requested found heldEq unwritten =>
      cases requested
  | finished event request entry held buffer requested found heldEq registered
      written => cases requested

/-! ## The requests of attempts -/

/-- The commits made for an attempt's callback, and the one waiting with it, are
the attempt's. -/
def Attempt.Asked (executor : UcxExecutor β) (attempt : Attempt) : Prop :=
  ∀ onDone, attempt.request = some onDone →
    UcxExecutor.Traced onDone
      (fun request _ => request = attempt.transfer.request onDone) executor

/-- Events keep the commits of an attempt its own. -/
theorem Attempt.Asked.handles
    {executor next : UcxExecutor β}
    {event : UcxExecutor.Event}
    {attempt : Attempt}
    (asked : attempt.Asked executor)
    (owned : executor.Owned)
    (effect : UcxExecutor.Handles iface options executor event next) :
    attempt.Asked next :=
  fun onDone same => (asked onDone same).handles owned effect

/-- A commit is asked for by its attempt. -/
theorem Attempt.asked_of_committed
    {executor next : UcxExecutor β}
    {attempt : Attempt}
    (owned : executor.Owned)
    (counted : executor.Counted)
    (effect : UcxExecutor.Handles iface options executor
      attempt.transfer.commitEvent next) :
    { attempt with request := some executor.requests }.Asked next := by
  intro onDone same
  cases same
  have traced := UcxExecutor.Traced.of_request owned counted
    (attempt.transfer.request_commitEvent executor.requests) effect
  exact traced.mono fun request slot known => known.1

/-- What the commits of an attempt rest on. -/
structure Attempt.Clean
    (executor : UcxExecutor β)
    (attempt : Attempt) : Prop where
  intact : attempt.Intact executor
  asked : attempt.Asked executor

/-- In guarded runs, the bytes and the requests of every attempt are its own. -/
theorem clean_of_reachable
    {pool : Pool (UcxExecutor β) (Option Attempt)}
    (reachable : (attempts iface options).Reachable LandsAlone pool)
    {thread : Nat}
    {attempt : Attempt}
    (running : pool.threads thread = some attempt) :
    attempt.Clean pool.shared := by
  refine forall_attempts reachable ?_ ?_ running
  · intro before mover input shared after reached _ takes known attempt moved
    have executorReached := reachable_shared reached
    have owned := UcxExecutor.Owned.of_reachable executorReached
    have counted := UcxExecutor.Counted.of_reachable executorReached
    have placed : ∀ attempt, before.threads mover = some attempt →
        attempt.Placed before.shared := fun _ => placed_of_reachable reached
    generalize before.threads mover = frame at takes known placed
    subst moved
    cases takes with
    | opened transfer =>
        refine ⟨?_, nofun⟩
        rintro slot ⟨landed, _⟩
        cases landed
    | unanswered attempt allocation unprepared => exact known attempt rfl
    | prepared attempt allocation info location next unprepared outcome
        located =>
        have effect : UcxExecutor.Handles iface options before.shared
            (.prepareTransfer attempt.transfer.sessionId
              attempt.transfer.data.length allocation) shared :=
          .prepared _ _ _ _ _ outcome
        refine ⟨?_, (known attempt rfl).asked.handles owned effect⟩
        rintro slot ⟨landed, _⟩
        have old := placed attempt rfl
        exact absurd unprepared (old.posted (old.landed landed))
    | posted attempt location prepared unposted =>
        exact ⟨(known attempt rfl).intact, (known attempt rfl).asked⟩
    | landed attempt serial slot next prepared posted inFlight effect =>
        exact ⟨Attempt.intact_of_landed prepared effect,
          (known attempt rfl).asked.handles owned effect⟩
    | notified attempt next landed inFlight effect =>
        exact ⟨(known attempt rfl).intact.handles owned (placed attempt rfl)
          effect nofun, (known attempt rfl).asked.handles owned effect⟩
    | committed attempt location next prepared first effect =>
        refine ⟨(known attempt rfl).intact.handles owned (placed attempt rfl)
          effect ?_, Attempt.asked_of_committed owned counted effect⟩
        intro slot data _ same
        have requested := attempt.transfer.request_commitEvent 0
        rw [same] at requested
        cases requested
    | aborted attempt next effect =>
        exact ⟨(known attempt rfl).intact.handles owned (placed attempt rfl)
          effect nofun, (known attempt rfl).asked.handles owned effect⟩
  · intro before mover input shared after thread attempt reached guarded takes
      different running known
    have owned := UcxExecutor.Owned.of_reachable (reachable_shared reached)
    rcases takes.effect with rfl | ⟨event, isEvent, effect⟩
    · exact known
    · refine ⟨known.intact.handles owned (placed_of_reachable reached running)
        effect ?_, known.asked.handles owned effect⟩
      rintro slot data settled rfl
      exact guarded slot data isEvent thread attempt different running settled

/-! ## Commits of uncontaminated bytes -/

/-- A commit made from the entry and the buffer of a landed attempt hands over
the attempt's bytes. -/
theorem Attempt.Clean.source_eq
    {executor : UcxExecutor β}
    {attempt : Attempt}
    {entry : UcxSessionEntry}
    {slot onDone : Nat}
    {buffer : RegisteredBuffer}
    {request : CommitRequest}
    (clean : attempt.Clean executor)
    (placed : attempt.Placed executor)
    (landed : attempt.landed = true)
    (prepared : attempt.prepared = some (entry.serial, slot))
    (found : executor.registry.lookup request.sessionId = some entry)
    (registered : executor.buffers.lookup slot = some buffer)
    (asked : request = attempt.transfer.request onDone) :
    (UcxExecutor.backendCall entry buffer request).source =
      attempt.transfer.data := by
  obtain ⟨named, held⟩ := placed.located _ _ _ entry prepared found rfl
  have settled : attempt.Settled executor slot := by
    refine ⟨landed, entry.serial, prepared, ?_⟩
    rw [named] at found
    simp [UcxExecutor.location, found, held]
  obtain ⟨other, present, shows⟩ := clean.intact slot settled
  cases registered.symm.trans present
  rw [UcxExecutor.source_backendCall, asked]
  exact shows

/-- In every run in which no remote write is delivered into a buffer where
another attempt is settled, no commit hands over foreign bytes. -/
theorem uncontaminated_of_landsAlone
    {pool next : Pool (UcxExecutor β) (Option Attempt)}
    {label : Nat × Input}
    (reachable : (attempts iface options).Reachable LandsAlone pool)
    (stepped : (attempts iface options).step pool label = some next) :
    Uncontaminated pool next := by
  obtain ⟨mover, input⟩ := label
  have owned := UcxExecutor.Owned.of_reachable (reachable_shared reachable)
  have clean : ∀ thread attempt, pool.threads thread = some attempt →
      attempt.Clean pool.shared ∧ attempt.Placed pool.shared :=
    fun _ _ running => ⟨clean_of_reachable reachable running,
      placed_of_reachable reachable running⟩
  obtain ⟨shared, after, takes, rfl⟩ := takes_of_step reachable stepped
  intro write thread attempt appended running asked prepared notified
  -- the write is the one of a commit
  rcases takes.effect with unchanged | ⟨event, isEvent, effect⟩
  · have lengths := congrArg List.length appended
    simp [unchanged] at lengths
  rcases effect.writes with unchanged | ⟨entry, slot, buffer, request, found,
      held, registered, made, cause⟩
  · have lengths := congrArg List.length appended
    simp [unchanged] at lengths
  have same : write = UcxExecutor.commitWrite iface pool.shared entry slot
      buffer request := by
    have lists := appended.symm.trans made
    simpa using lists
  subst same
  -- a commit that waited was asked for before, and a new one has a new callback
  have waited : ∀ attempt : Attempt, attempt.Clean pool.shared →
      attempt.request = some request.onDone →
        request = attempt.transfer.request request.onDone := by
    intro attempt known asked
    have traced := known.asked request.onDone asked
    rcases cause with ⟨_, waiting⟩ | ⟨requested, _⟩
    · exact traced.waiting _ _ _ _ found waiting held rfl
    · have number := UcxExecutor.onDone_of_request requested
      have older := traced.numbered
      omega
  by_cases moves : thread = mover
  · subst moves
    simp only [Function.update_self] at running
    subst running
    have known := clean thread
    dsimp only at takes isEvent
    generalize pool.threads thread = frame at takes isEvent known
    cases takes with
    | opened transfer => cases asked
    | unanswered attempt allocation unprepared =>
        rw [unprepared] at prepared
        cases prepared
    | prepared attempt allocation info location next unprepared outcome
        located =>
        have old := (known attempt rfl).2
        have landed := old.notified notified
        exact absurd unprepared (old.posted (old.landed landed))
    | posted attempt location given unposted => cases isEvent
    | landed attempt serial slot next given posted inFlight effect =>
        have old := (known attempt rfl).2
        rw [old.notified notified] at inFlight
        cases inFlight
    | notified attempt next landed inFlight effect =>
        exact (known attempt rfl).1.source_eq (known attempt rfl).2 landed
          prepared found registered (waited attempt (known attempt rfl).1 asked)
    | committed attempt location next given first effect =>
        have landed := (known attempt rfl).2.notified notified
        have requested :=
          attempt.transfer.request_commitEvent pool.shared.requests
        cases isEvent
        have own : request =
            attempt.transfer.request pool.shared.requests := by
          rcases cause with ⟨message, _⟩ | ⟨again, _⟩
          · rw [message] at requested
            cases requested
          · exact Option.some.inj (again.symm.trans requested)
        exact (known attempt rfl).1.source_eq (known attempt rfl).2 landed
          prepared found registered own
    | aborted attempt next effect =>
        exact (known attempt rfl).1.source_eq (known attempt rfl).2
          ((known attempt rfl).2.notified notified) prepared found registered
          (waited attempt (known attempt rfl).1 asked)
  · simp only [Function.update_of_ne moves] at running
    obtain ⟨known, placed⟩ := clean thread attempt running
    exact known.source_eq placed (placed.notified notified) prepared found
      registered (waited attempt known asked)

/-! ## Two sessions and one buffer -/

/-- The guard on remote writes, checked for the attempts below a bound. -/
def landsAloneBelow
    (bound : Nat)
    (pool : Pool (UcxExecutor β) (Option Attempt))
    (label : Nat × Input) : Bool :=
  match label.2.event (pool.threads label.1) with
  | some (.remoteWrite slot _) =>
      (List.range bound).all fun other =>
        other == label.1 || (pool.threads other).all fun rival =>
          !rival.landed ||
            rival.prepared ≠
              pool.shared.location rival.transfer.sessionId ||
            rival.prepared.map Prod.snd ≠ some slot
  | _ => true

/-- Attempts beyond the bound that do not run cannot be disturbed. -/
theorem landsAlone_of_below
    {bound : Nat}
    {pool : Pool (UcxExecutor β) (Option Attempt)}
    {label : Nat × Input}
    (rest : pool.RestAt bound none)
    (checked : landsAloneBelow bound pool label = true) :
    LandsAlone pool label := by
  rintro slot data isWrite other rival different running
    ⟨landed, serial, prepared, located⟩
  have below : other < bound := by
    by_contra beyond
    rw [rest other (not_lt.mp beyond)] at running
    cases running
  simp only [landsAloneBelow, isWrite, List.all_eq_true,
    List.mem_range] at checked
  have disturbed := checked other below
  simp [different, running, landed, prepared, located] at disturbed

/-- Transfers of one byte each. -/
private def firstPut : Transfer where
  session := ⟨"a", "bucket", "first", 1, by decide⟩
  data := [7]
  operation := .object
  clientCrc32c := ""

private def secondPut : Transfer where
  session := ⟨"b", "bucket", "second", 1, by decide⟩
  data := [9]
  operation := .object
  clientCrc32c := ""

/-- The second session reuses the buffer of the first after its commit. -/
private def reuseLabels : List (Nat × Input) :=
  [(0, .openSession firstPut),
    (0, .prepareTransfer (.registered (fun _ => 0) 4096 [])),
    (0, .put), (0, .land), (0, .writeDone), (0, .commit),
    (1, .openSession secondPut), (1, .prepareTransfer .allocFailed),
    (1, .put), (1, .land), (1, .writeDone)]

private def reuse :=
  (attempts overComposite (.default "gateway")).runAround
    (fun pool label => landsAloneBelow 2 pool label = true)
    (untouched (CompositeBackend.init 16, 0)) reuseLabels (1, .commit) []

private theorem reuse_isSome : reuse.isSome = true := by decide

/-- A reused buffer hands over the bytes of its new owner. -/
theorem uncontaminated_reused_buffer :
    ∃ pool next,
      (attempts overComposite (.default "gateway")).Reachable LandsAlone
          pool ∧
        (attempts overComposite (.default "gateway")).step pool (1, .commit) =
          some next ∧
        next.shared.writes.map (fun write => (write.slot, write.call)) =
          [(0, .writeRange "bucket" "first" 0 [7] 1),
            (0, .writeRange "bucket" "second" 0 [9] 1)] ∧
        Uncontaminated pool next := by
  obtain ⟨path, _, stepped, _, _⟩ := Pool.path_of_runAround_below 2 none rfl
    (fun _ _ => landsAlone_of_below) (fun _ _ => rfl) (by decide)
    (Option.some_get reuse_isSome).symm
  have reachable : (attempts overComposite (.default "gateway")).Reachable
      LandsAlone (reuse.get reuse_isSome).1 :=
    ⟨_, _, initial_untouched overComposite (.default "gateway") _, path⟩
  exact ⟨_, _, reachable, stepped, by decide,
    uncontaminated_of_landsAlone reachable stepped⟩

/-- The first session is aborted with its write on the way, and the write is
delivered after that of the second session, which got the same buffer. -/
private def lateLabels : List (Nat × Input) :=
  [(0, .openSession firstPut),
    (0, .prepareTransfer (.registered (fun _ => 0) 4096 [])),
    (0, .put), (0, .abort),
    (1, .openSession secondPut), (1, .prepareTransfer .allocFailed),
    (1, .put), (1, .land), (1, .writeDone),
    (0, .land)]

private def late :=
  (attempts overComposite (.default "gateway")).runAround Machine.always
    (untouched (CompositeBackend.init 16, 0)) lateLabels (1, .commit) []

private theorem late_isSome : late.isSome = true := by decide

/-- The second session commits the byte of the first. -/
theorem late_write_contaminates :
    ∃ pool next,
      (attempts overComposite (.default "gateway")).Reachable Machine.always
          pool ∧
        (attempts overComposite (.default "gateway")).step pool (1, .commit) =
          some next ∧
        next.shared.writes.map Write.call =
          [.writeRange "bucket" "second" 0 [7] 1] ∧
        ¬ Uncontaminated pool next := by
  obtain ⟨path, _, stepped, _, _⟩ := Pool.path_of_runAround_below 2 none rfl
    (fun _ _ _ allowed => allowed) (fun _ _ => rfl) (by decide)
    (Option.some_get late_isSome).symm
  refine ⟨_, _, ⟨_, _, initial_untouched overComposite (.default "gateway") _,
    path⟩, stepped, by decide, ?_⟩
  intro clean
  have nothing : (late.get late_isSome).1.shared.writes.length = 0 := by decide
  have observed : (late.get late_isSome).2.1.shared.writes.map (fun write =>
      (write.request.onDone, write.serial, write.slot, write.call.source)) =
      [(0, 1, 0, [7])] := by
    decide
  have owner : (late.get late_isSome).2.1.threads 1 =
      some ⟨secondPut, some (1, 0), true, true, true, some 0, false⟩ := by
    decide
  obtain ⟨write, single, same⟩ := List.map_eq_singleton_iff.mp observed
  simp only [Prod.mk.injEq] at same
  obtain ⟨onDone, serial, slot, source⟩ := same
  have bytes := clean write 1 _ (by
      rw [List.length_eq_zero_iff.mp nothing, single]
      rfl) owner (by rw [onDone]) (by rw [serial, slot]) rfl
  rw [source] at bytes
  cases bytes

end Ucx
end Gateway
end TurboAccess
