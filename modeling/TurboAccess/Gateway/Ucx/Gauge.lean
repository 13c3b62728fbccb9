import TurboAccess.Gateway.Ucx.Conservation

/-!
# Slots and the gauge of prepared transfers

The slots that are registered and not freed are the idle ones and those of the
entries, and the gauge counts the entries with a slot.  A commit gives its slot
back and takes it off the gauge.  An abort forgets the gauge, and opening a
session again forgets both; in the runs in which neither finds a slot in the
entry it removes, the account is right in every state.
-/

namespace TurboAccess
namespace Gateway
namespace Ucx
namespace UcxExecutor

variable {β : Type} {iface : IBackend β} {options : UcxOptions}

/-! ## The property and its condition -/

/-- One for an entry with a slot. -/
def slotCount (entry : UcxSessionEntry) : Nat :=
  if entry.slot.isSome then 1 else 0

/-- The number of entries with a slot. -/
def heldSlots (executor : UcxExecutor β) : Nat :=
  Table.weight slotCount executor.registry

/-- No slot is lost, and the gauge is right. -/
structure Accounted (executor : UcxExecutor β) : Prop where
  slots : ∀ slot, (∃ buffer, executor.buffers.lookup slot = some buffer) ↔
    executor.Kept slot
  gauge : executor.putInflight = executor.heldSlots

/-- The slot of a session's entry. -/
def slotOf (executor : UcxExecutor β) (sessionId : String) : Option Nat :=
  (executor.registry.lookup sessionId).bind UcxSessionEntry.slot

/-- A session that is opened or aborted has no slot. -/
def Vacates (executor : UcxExecutor β) : Event → Prop
  | .sessionOpened session => executor.slotOf session.sessionId = none
  | .abortSession sessionId => executor.slotOf sessionId = none
  | _ => True

instance (executor : UcxExecutor β) (event : Event) :
    Decidable (executor.Vacates event) :=
  match event with
  | .sessionOpened session =>
      inferInstanceAs (Decidable (executor.slotOf session.sessionId = none))
  | .abortSession sessionId =>
      inferInstanceAs (Decidable (executor.slotOf sessionId = none))
  | .prepareTransfer _ _ _ | .remoteWrite _ _ | .amWriteDone _
  | .commitObject _ _ _ | .commitPart _ _ _ _ _ => .isTrue trivial

/-! ## The gauge -/

/-- The slots that an event takes out of the registry behind the gauge. -/
def forgotten (executor : UcxExecutor β) : Event → Nat
  | .sessionOpened session =>
      Table.weightAt slotCount session.sessionId executor.registry
  | .abortSession sessionId =>
      Table.weightAt slotCount sessionId executor.registry
  | _ => 0

/-- A session weighs nothing when it has no slot. -/
theorem weightAt_slots_eq_zero_iff
    (executor : UcxExecutor β)
    (sessionId : String) :
    Table.weightAt slotCount sessionId executor.registry = 0 ↔
      executor.slotOf sessionId = none := by
  rw [Table.weightAt, slotOf]
  cases found : executor.registry.lookup sessionId with
  | none => simp
  | some entry =>
      cases held : entry.slot <;> simp [slotCount, held]

/-- Nothing is forgotten exactly when the condition holds. -/
theorem forgotten_eq_zero_iff
    (executor : UcxExecutor β)
    (event : Event) :
    executor.forgotten event = 0 ↔ executor.Vacates event := by
  cases event with
  | sessionOpened session =>
      exact weightAt_slots_eq_zero_iff executor session.sessionId
  | abortSession sessionId => exact weightAt_slots_eq_zero_iff executor sessionId
  | prepareTransfer | remoteWrite | amWriteDone | commitObject | commitPart =>
      exact ⟨fun _ => trivial, fun _ => rfl⟩

/-- An entry that is replaced by one with as many slots weighs the same. -/
theorem heldSlots_replace
    {executor : UcxExecutor β}
    {key : String}
    {old new : UcxSessionEntry}
    (found : executor.registry.lookup key = some old)
    (same : new.slot = old.slot) :
    Table.weight slotCount (executor.registry.insert key new) =
      executor.heldSlots := by
  have split := Table.weight_insert_add_weightAt slotCount key new
    executor.registry
  rw [Table.weightAt_of_lookup_some _ found, slotCount,
    slotCount, same] at split
  exact Nat.add_right_cancel split

/-- An entry that takes a slot adds one to the count and one to the gauge. -/
theorem gauge_attach
    {executor : UcxExecutor β}
    {sessionId : String}
    {entry : UcxSessionEntry}
    (found : executor.registry.lookup sessionId = some entry)
    (vacant : entry.slot = none)
    (slot transferBytes : Nat) :
    (executor.attach sessionId entry slot transferBytes).putInflight -
        (executor.attach sessionId entry slot transferBytes).heldSlots =
      executor.putInflight - executor.heldSlots := by
  have split := Table.weight_insert_add_weightAt slotCount
    sessionId { entry with slot := some slot, transferBytes } executor.registry
  rw [Table.weightAt_of_lookup_some _ found, slotCount,
    slotCount, vacant] at split
  have count : (executor.attach sessionId entry slot transferBytes).heldSlots =
    executor.heldSlots + 1 := split
  have gauge : (executor.attach sessionId entry slot
    transferBytes).putInflight = executor.putInflight + 1 := rfl
  omega

/-- A finished commit takes its slot out of the registry and off the gauge. -/
theorem heldSlots_finishCommit
    {executor : UcxExecutor β}
    {entry : UcxSessionEntry}
    {slot : Nat}
    {buffer : RegisteredBuffer}
    {request : CommitRequest}
    (found : executor.registry.lookup request.sessionId = some entry)
    (held : entry.slot = some slot) :
    (executor.finishCommit iface options entry slot buffer
        request).heldSlots + 1 = executor.heldSlots ∧
      (executor.finishCommit iface options entry slot buffer
        request).putInflight = executor.putInflight - 1 := by
  have split := Table.weight_erase_add_weightAt slotCount
    request.sessionId executor.registry
  rw [Table.weightAt_of_lookup_some _ found, slotCount,
    held] at split
  constructor
  · rw [heldSlots, registry_finishCommit]
    exact split
  · rw [finishCommit_eq]

/-- A commit request forgets nothing by itself. -/
theorem forgotten_of_request
    {executor : UcxExecutor β}
    {event : Event}
    {onDone : Nat}
    {request : CommitRequest}
    (requested : event.request onDone = some request) :
    executor.forgotten event = 0 := by
  cases event with
  | sessionOpened | abortSession => cases requested
  | prepareTransfer | remoteWrite | amWriteDone | commitObject | commitPart =>
      rfl

/-- The gauge drifts from the count by what an event forgets. -/
theorem Handles.gauge
    {executor next : UcxExecutor β}
    {event : Event}
    (effect : Handles iface options executor event next) :
    next.putInflight - next.heldSlots =
      executor.putInflight - executor.heldSlots +
        executor.forgotten event := by
  cases effect with
  | opened session =>
      have split := Table.weight_insert_add_weightAt slotCount
        session.sessionId (executor.newEntry session) executor.registry
      have empty : slotCount (executor.newEntry session) = 0 := rfl
      simp only [onSessionOpened, heldSlots, forgotten]
      omega
  | prepared sessionId transferBytes allocation result next outcome =>
      have nothing : executor.forgotten
        (.prepareTransfer sessionId transferBytes allocation) = 0 := rfl
      cases outcome with
      | refused | again => rw [nothing, Nat.cast_zero, add_zero]
      | reused entry slot buffer info before after found vacant idle
          registered large =>
          rw [nothing, Nat.cast_zero, add_zero]
          exact gauge_attach found vacant slot transferBytes
      | registered entry buffer info found vacant large =>
          rw [nothing, Nat.cast_zero, add_zero]
          exact gauge_attach found vacant executor.allocated transferBytes
  | marked sessionId entry found alone =>
      have same : entry.marked.slot = entry.slot := rfl
      have count := heldSlots_replace found same
      simp only [heldSlots, forgotten] at count ⊢
      omega
  | resumed entry slot buffer request found held registered waiting =>
      obtain ⟨count, gauge⟩ : _ ∧ (executor.finishCommit iface options entry
        slot buffer request).putInflight = _ :=
        heldSlots_finishCommit found held
      simp only [forgotten]
      omega
  | finished event request entry slot buffer requested found held registered
      written =>
      obtain ⟨count, gauge⟩ : _ ∧ (executor.numbered.finishCommit iface options
        entry slot buffer request).putInflight = _ :=
        heldSlots_finishCommit found held
      have nothing : executor.forgotten event = 0 :=
        forgotten_of_request requested
      have before : executor.numbered.heldSlots = executor.heldSlots ∧
          executor.numbered.putInflight = executor.putInflight := ⟨rfl, rfl⟩
      omega
  | refused event request result requested failed unprepared =>
      have nothing : executor.forgotten event = 0 :=
        forgotten_of_request requested
      rw [nothing, Nat.cast_zero, add_zero]
      rfl
  | waits event request entry slot requested found held unwritten =>
      have nothing : executor.forgotten event = 0 :=
        forgotten_of_request requested
      have same : ({ entry with pendingCommit := some request } :
        UcxSessionEntry).slot = entry.slot := rfl
      have count := heldSlots_replace found same
      rw [nothing, Nat.cast_zero, add_zero]
      simp only [heldSlots, numbered] at count ⊢
      omega
  | unknown sessionId absent =>
      have nothing : executor.forgotten (.abortSession sessionId) = 0 :=
        Table.weightAt_of_lookup_none slotCount absent
      rw [nothing, Nat.cast_zero, add_zero]
  | aborted sessionId entry found =>
      have split := Table.weight_erase_add_weightAt slotCount sessionId
        executor.registry
      rw [without_eq]
      simp only [heldSlots, forgotten]
      omega
  | landed =>
      simp only [forgotten, Nat.cast_zero, add_zero]
      rfl
  | unheard => simp only [forgotten, Nat.cast_zero, add_zero]

/-! ## The account -/

/-- A slot that is idle or has an owner is registered. -/
theorem Owned.registered_of_kept
    {executor : UcxExecutor β}
    {slot : Nat}
    (owned : executor.Owned)
    (kept : executor.Kept slot) :
    ∃ buffer, executor.buffers.lookup slot = some buffer := by
  rcases kept with idle | ⟨sessionId, entry, found, held⟩
  · exact owned.idle slot idle
  · obtain ⟨buffer, registered, _⟩ := owned.held sessionId entry slot found held
    exact ⟨buffer, registered⟩

/-- An event keeps the account exactly when it forgets no slot. -/
theorem Accounted.handles_iff
    {executor next : UcxExecutor β}
    {event : Event}
    (accounted : executor.Accounted)
    (owned : executor.Owned)
    (effect : Handles iface options executor event next) :
    next.Accounted ↔ executor.Vacates event := by
  have drift := effect.gauge
  have right := accounted.gauge
  rw [← forgotten_eq_zero_iff]
  constructor
  · intro after
    have rightAfter := after.gauge
    omega
  · intro nothing
    refine ⟨?_, by omega⟩
    have conserved : executor.Conserved := by
      intro slot buffer registered
      exact (accounted.slots slot).mp ⟨buffer, registered⟩
    have conservedAfter : next.Conserved := by
      apply conserved.handles effect
      rintro session rfl old found
      have vacant := (forgotten_eq_zero_iff _ _).mp nothing
      simpa [Vacates, slotOf, found] using vacant
    intro slot
    constructor
    · rintro ⟨buffer, registered⟩
      exact conservedAfter slot buffer registered
    · exact (owned.handles effect).registered_of_kept

/-- In the runs in which no session is opened or aborted while its entry has a
slot, no slot is lost and the gauge is right in every state; and from each of
these states an event keeps it so exactly when it meets the condition. -/
theorem accounted_of_vacates
    {executor : UcxExecutor β}
    (reachable : (machine iface options).Reachable Vacates executor) :
    executor.Accounted ∧
      ∀ event next,
        (machine iface options).step executor event = some next →
          (next.Accounted ↔ executor.Vacates event) := by
  have unguarded : ∀ state : UcxExecutor β,
      (machine iface options).Reachable Vacates state → state.Owned := by
    intro state reached
    exact Owned.of_reachable (reached.mono fun _ _ _ => trivial)
  have accounted : executor.Accounted := by
    refine reachable.induction ?_ ?_
    · rintro start ⟨started, backend, rfl⟩
      refine ⟨?_, rfl⟩
      intro slot
      simp [init, Kept]
    · intro state event next reached accounted vacates handled
      have owned := unguarded state reached
      exact (accounted.handles_iff owned
        (handles_of_handle owned handled)).mpr vacates
  refine ⟨accounted, ?_⟩
  intro event next handled
  have owned := unguarded executor reachable
  exact accounted.handles_iff owned (handles_of_handle owned handled)

private theorem prepared_named : "ses" ≠ "" := by decide

/-- A session is opened and prepared. -/
private def prepared : List Event :=
  [.sessionOpened ⟨"ses", "bucket", "key", 1, prepared_named⟩,
    .prepareTransfer "ses" 1 (.registered (fun _ => 0) 4096 [1])]

private def gateway : UcxExecutor (CompositeBackend × Nat) :=
  init true (.init 16, 0)

private theorem initial_gateway :
    (machine overComposite (.default "gateway")).initial gateway :=
  ⟨true, _, rfl⟩

/-- A prepared transfer is counted until its commit is done. -/
theorem accounted_after_commit :
    ∃ executor : UcxExecutor (CompositeBackend × Nat),
      (machine overComposite (.default "gateway")).Reachable Vacates
          executor ∧
        (executor.putInflight, executor.pool) = (0, [0]) ∧
        executor.Accounted := by
  have executed : ((machine overComposite (.default "gateway")).run Vacates
      gateway (prepared ++ [.amWriteDone "ses", .commitObject "ses" 1 ""])).map
        (fun executor => (executor.putInflight, executor.pool)) =
      some (0, [0]) := by
    decide
  obtain ⟨executor, reachable, observed⟩ :=
    Machine.Reachable.of_run_map initial_gateway executed
  exact ⟨executor, reachable, observed, (accounted_of_vacates reachable).1⟩

/-- A session that is opened again while its buffer is prepared: the buffer is
neither idle nor in an entry, and the gauge still counts it. -/
theorem slot_lost_on_reopening :
    ¬∀ executor : UcxExecutor (CompositeBackend × Nat),
      (machine overComposite (.default "gateway")).Reachable Machine.always
          executor →
        executor.Accounted := by
  intro always
  have executed : ((machine overComposite (.default "gateway")).run
      Machine.always gateway (prepared ++
        [.sessionOpened ⟨"ses", "bucket", "key", 1, by decide⟩])).map
        (fun executor => (executor.putInflight, executor.heldSlots)) =
      some (1, 0) := by
    decide
  obtain ⟨executor, reachable, observed⟩ :=
    Machine.Reachable.of_run_map initial_gateway executed
  have right := (always executor reachable).gauge
  simp only [Prod.mk.injEq] at observed
  omega

end UcxExecutor
end Ucx
end Gateway
end TurboAccess
