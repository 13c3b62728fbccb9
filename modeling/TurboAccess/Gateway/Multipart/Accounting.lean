import TurboAccess.Gateway.Backend.Assembly
import TurboAccess.Gateway.Multipart.Effects

/-!
# Capacity accounting of the interleaved gateway

The capacity counter counts the bodies, the staged parts and what the
completions in progress have detached and not yet released, in every state of
every interleaving.  Sizes, offsets and the capacity are below `2 ^ 62`, so that
no sum of two of them wraps.
-/

namespace TurboAccess
namespace Gateway
namespace Multipart

/-! ## Sizes -/

/-- The limit of sizes, offsets and the capacity. -/
def sizeLimit : Nat := 2 ^ 62

/-- Sizes and offsets of a call are below the limit. -/
def Call.Moderate : Call → Prop
  | .uploadPart _ part =>
      part.offset < sizeLimit ∧ part.source.length < sizeLimit
  | .writeRange _ _ offset source totalSize =>
      offset < sizeLimit ∧ source.length < sizeLimit ∧
        totalSize.getD 0 < sizeLimit
  | .reserve _ _ totalSize => totalSize < sizeLimit
  | _ => True

instance : (call : Call) → Decidable call.Moderate
  | .uploadPart _ _ => inferInstanceAs (Decidable (_ ∧ _))
  | .writeRange _ _ _ _ _ => inferInstanceAs (Decidable (_ ∧ _))
  | .reserve _ _ _ => inferInstanceAs (Decidable (_ < _))
  | .createUpload _ _ => .isTrue trivial
  | .completeUpload _ => .isTrue trivial
  | .abortUpload _ _ => .isTrue trivial
  | .sweep _ => .isTrue trivial

/-- Steps in a gateway whose capacity is below the limit, on calls whose sizes
are. -/
structure Moderate (pool : Pool State Frame) (label : Nat × Input) : Prop where
  capacity : pool.shared.backend.data.capacityBytes < sizeLimit
  call : ∀ call, label.2 = .call call → call.Moderate

/-! ## The invariant -/

/-- Bytes of a staging that a completion has detached and not yet released. -/
def Frame.held : Frame → Nat
  | .completing _ _ (.detached _ _ staging) => staging.reservedBytes
  | _ => 0

/-- The sizes a frame carries are right, and below the limit. -/
def FrameSized : Frame → Prop
  | .partFound _ part =>
      part.offset < sizeLimit ∧ part.source.length < sizeLimit
  | .completing _ request (.targeted _ _) =>
      (CompositeBackend.orderedNumbers request.parts).Nodup
  | .completing _ request (.detached _ _ staging) =>
      (CompositeBackend.orderedNumbers request.parts).Nodup ∧
        staging.reservedBytes = staging.size
  | .completing _ _ (.released _ _ total assembled) =>
      total = assembled.length ∧ total < sizeLimit
  | _ => True

/-- All threads together hold an amount. -/
def Holding (threads : Nat → Frame) (total : Nat) : Prop :=
  ∃ table : Table Nat Nat,
    (∀ thread, table.weightAt id thread = (threads thread).held) ∧
      table.weight id = total

/-- The counter counts what the store and the threads hold. -/
structure Balanced (pool : Pool State Frame) : Prop where
  accounts : ∃ total, Holding pool.threads total ∧
    pool.shared.backend.data.Accounts total
  sized : ∀ thread, FrameSized (pool.threads thread)

/-- What the threads hold splits into one thread and the rest. -/
theorem Holding.split
    {threads : Nat → Frame}
    {total : Nat}
    (holding : Holding threads total)
    (mover : Nat) :
    ∃ rest, total = rest + (threads mover).held ∧
      ∀ frame, Holding (Function.update threads mover frame)
        (rest + frame.held) := by
  obtain ⟨table, each, rfl⟩ := holding
  have split := Table.weight_erase_add_weightAt id mover table
  refine ⟨Table.weight id (table.erase mover), by rw [← each mover, split], ?_⟩
  intro frame
  refine ⟨(table.erase mover).insert mover frame.held, ?_, ?_⟩
  · intro thread
    by_cases moving : thread = mover
    · subst moving
      simp [Table.weightAt]
    · rw [Function.update_of_ne moving, ← each thread]
      simp [Table.weightAt, moving]
  · rw [Table.weight_insert_of_lookup_none id _ (Finmap.lookup_erase _ _)]
    rfl

variable
  {options : CoordinatorOptions}
  {state next : State}
  {before after : Frame}

/-! ## Preservation -/

/-- The first section of a call keeps the books. -/
private theorem accounts_accept
    {call : Call}
    {total : Nat}
    (moderate : call.Moderate)
    (capacity : state.backend.data.capacityBytes < sizeLimit)
    (accounts : state.backend.data.Accounts total) :
    (accept state call).1.backend.data.Accounts total := by
  have within := accounts.within
  have limit : sizeLimit + sizeLimit + sizeLimit < wordModulus := by decide
  cases call with
  | createUpload => exact accounts
  | uploadPart | completeUpload | abortUpload | sweep =>
      rw [accept]
      repeat' split
      all_goals exact accounts
  | writeRange bucket key offset source totalSize =>
      obtain ⟨small, short, sized⟩ := moderate
      have written : (state.backend.data.writeRange bucket key offset source
          totalSize).2.Accounts total := by
        refine accounts.writeRange (by omega) ?_
        cases totalSize <;> simp at sized ⊢ <;> omega
      rw [accept]
      split <;> next equation => rw [equation] at written; exact written
  | reserve bucket key totalSize =>
      have small : totalSize < sizeLimit := moderate
      have reserved : (state.backend.data.reserve bucket key
          totalSize).2.Accounts total := accounts.reserve (by omega)
      rw [accept]
      split <;> next equation => rw [equation] at reserved; exact reserved

/-- Every other section keeps the books, when what the frame holds is counted
before and after it. -/
private theorem Moves.accounts
    {rest : Nat}
    (moves : Moves options state before next after)
    (busy : before ≠ .idle)
    (capacity : state.backend.data.capacityBytes < sizeLimit)
    (sized : FrameSized before)
    (accounts : state.backend.data.Accounts (rest + before.held)) :
    next.backend.data.Accounts (rest + after.held) := by
  have within := accounts.within
  have limit : sizeLimit + sizeLimit + sizeLimit < wordModulus := by decide
  cases moves with
  | accept => exact absurd rfl busy
  | addTarget | registerPart | refuseClaim | claim | refuseAbort
  | markAborted | unregister | visit | endScan | endSweep | sweepNext
  | create | putIndex => exact accounts
  | refusePart upload part error refused =>
      obtain ⟨small, short⟩ := sized
      exact accounts.writePart (by omega) (by omega)
  | writePart upload part now reply written =>
      obtain ⟨small, short⟩ := sized
      exact accounts.writePart (by omega) (by omega)
  | abort upload origin stage =>
      cases stage with
      | marked => exact accounts.abortMultipartData
      | dataAborted => exact accounts
      | indexAborted => cases origin <;> exact accounts
  | complete upload request stage now =>
      obtain ⟨next, after, result, completes⟩ :=
        exists_completes options state upload request now stage
      rw [result]
      cases completes with
      | detach bucket key staging found => exact accounts.eraseStaging found
      | missing | release => exact accounts.releaseBytes
      | refuse bucket key total assembled data executed
      | install bucket key total assembled data executed =>
          obtain ⟨rfl, small⟩ := sized
          have installed : (state.backend.data.installBody
              (makeKey bucket key) assembled.length assembled).2.Accounts
                rest := accounts.installBody (by omega)
          rw [executed] at installed
          exact installed
      | invalid | untargeted | target | unstaged | unrecorded | take
      | putIndex | eraseTarget | setCompleted | unregister | rollBack =>
          exact accounts

/-- The sizes of the next frame are right. -/
private theorem Moves.sized
    {rest : Nat}
    (moves : Moves options state before next after)
    (busy : before ≠ .idle)
    (capacity : state.backend.data.capacityBytes < sizeLimit)
    (sized : FrameSized before)
    (accounts : state.backend.data.Accounts (rest + before.held)) :
    FrameSized after := by
  have within := accounts.within
  have limit : sizeLimit + sizeLimit + sizeLimit < wordModulus := by decide
  cases moves with
  | accept => exact absurd rfl busy
  | addTarget | registerPart | refuseClaim | claim | refuseAbort
  | markAborted | unregister | visit | endScan | endSweep | sweepNext
  | create | putIndex | refusePart | writePart => trivial
  | abort upload origin stage => cases stage <;> cases origin <;> trivial
  | complete upload request stage now =>
      obtain ⟨next, after, result, completes⟩ :=
        exists_completes options state upload request now stage
      rw [result]
      cases completes with
      | target recorded bucket key valid found =>
          simp only [FrameSized, orderedNumbers_of_validateParts valid]
          exact List.nodup_range'
      | detach bucket key staging found =>
          exact ⟨sized, accounts.staged _ _ found⟩
      | release bucket key staging total sum =>
          obtain ⟨distinct, exactly⟩ := sized
          have fits := MemoryDataStore.length_assembledBytes_le staging
            distinct
          have used := accounts.used
          simp only [Frame.held] at used
          have lengths := MemoryDataStore.assembledSize_eq_some sum (by
            rw [MemoryDataStore.assembledBytes,
              List.length_flatMap] at fits
            omega)
          exact ⟨lengths, by omega⟩
      | invalid | untargeted | unstaged | missing | refuse | install
      | unrecorded | take | putIndex | eraseTarget | setCompleted
      | unregister | rollBack => trivial

/-- A step on moderate sizes keeps the balance. -/
private theorem Balanced.step
    {pool : Pool State Frame}
    {label : Nat × Input}
    (balanced : Balanced pool)
    (moderate : Moderate pool label)
    (moved : advance options pool.shared (pool.threads label.1) label.2 =
      some (next, after)) :
    Balanced ⟨next, Function.update pool.threads label.1 after⟩ := by
  obtain ⟨⟨total, holding, accounts⟩, sized⟩ := balanced
  obtain ⟨rest, rfl, holds⟩ := holding.split label.1
  have own : next.backend.data.Accounts (rest + after.held) ∧
      FrameSized after := by
    by_cases idle : pool.threads label.1 = .idle
    · rw [idle] at moved accounts
      obtain ⟨call, input, accepted⟩ := advance_idle moved
      have kept := accounts_accept (moderate.call call input)
        moderate.capacity accounts
      rw [accepted] at kept
      have frame : after = (accept pool.shared call).2 := by rw [accepted]
      have moderateCall := moderate.call call input
      have entered : FrameSized after ∧ after.held = 0 := by
        rw [frame]
        fun_cases accept pool.shared call <;>
          first | exact ⟨trivial, rfl⟩ | exact ⟨moderateCall, rfl⟩
      rw [entered.2]
      exact ⟨kept, entered.1⟩
    · have moves := moves_of_advance moved
      exact ⟨moves.accounts idle moderate.capacity (sized label.1) accounts,
        moves.sized idle moderate.capacity (sized label.1) accounts⟩
  refine ⟨⟨_, holds after, own.1⟩, ?_⟩
  apply (Function.forall_update_iff _ fun _ => FrameSized).mpr
  exact ⟨own.2, fun thread _ => sized thread⟩

/-- The counter is right in every state that moderate steps reach. -/
theorem Balanced.of_reachable
    {guard : Pool State Frame → Nat × Input → Prop}
    {pool : Pool State Frame}
    (moderate : ∀ pool label, guard pool label → Moderate pool label)
    (reachable : (machine options).Reachable guard pool) :
    Balanced pool := by
  refine reachable.invariant ?_ ?_
  · rintro start ⟨capacityBytes, ttl, rfl⟩
    refine ⟨⟨0, ⟨∅, ?_, rfl⟩, MemoryDataStore.Accounts.init capacityBytes⟩,
      fun _ => trivial⟩
    intro thread
    rfl
  · intro pool label later balanced allowed stepped
    obtain ⟨shared, frame, moved, rfl⟩ := Pool.step_eq_some stepped
    exact balanced.step (moderate pool label allowed) moved

end Multipart
end Gateway
end TurboAccess
