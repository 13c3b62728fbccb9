import TurboAccess.Lib.Custody
import TurboAccess.Gateway.Gds.BufferPool

/-!
# No buffer of the pool leaks

Every buffer has a fate: it was never allocated, is in one free list or with one
thread, or was disposed of.  The fate says how often the buffer has been
registered, deregistered and freed, and every section of a thread gives every
buffer a next fate.

Once `Shutdown` has returned and no lease is left, a buffer can only be in a free
list or disposed of.  The lists are empty then, in the runs in which no release
puts a buffer back into a list that `Shutdown` has emptied.
-/

namespace TurboAccess
namespace Gateway
namespace Gds

/-- There is no lease yet or no lease any more, and no call of `Shutdown`. -/
def LeaseCall.Unleased : LeaseCall → Prop
  | .idle => True
  | .reusing _ _ => True
  | .allocating _ _ => True
  | .registering _ _ _ => True
  | .discarding _ => True
  | _ => False

/-- What has been done to a buffer that a thread has. -/
inductive Stage
  | unregistered
  | registered
  | deregistered
  deriving DecidableEq, Repr

/-- The buffers that a thread has, by what has been done to them. -/
def LeaseCall.holding : LeaseCall → Stage → List Nat
  | .registering data _ _, .unregistered => [data]
  | .discarding data, .unregistered => [data]
  | .leased buffer _, .registered => [buffer.data]
  | .returning buffer _, .registered => [buffer.data]
  | .draining _ toDestroy, .registered => toDestroy.map CachedBuffer.data
  | .disposing buffers, .registered => buffers.map CachedBuffer.data
  | .freeing _ rest, .registered => rest.map CachedBuffer.data
  | .freeing data _, .deregistered => [data]
  | _, _ => []

theorem LeaseCall.holding_of_emptyHanded
    {call : LeaseCall}
    (empty : call.EmptyHanded)
    (stage : Stage) :
    call.holding stage = [] := by
  revert empty
  fun_cases EmptyHanded call <;> cases stage <;> simp [holding]

theorem LeaseCall.holding_of_unleased
    {call : LeaseCall}
    (unleased : call.Unleased)
    {stage : Stage}
    (late : stage ≠ .unregistered) :
    call.holding stage = [] := by
  revert unleased
  fun_cases Unleased call <;> cases stage <;> simp_all [holding]

namespace LeasePool

/-- Who has a buffer: a free list, or a thread. -/
inductive Holder
  | bucket (sizeClass : Nat)
  | thread (stage : Stage) (thread : Nat)
  deriving DecidableEq, Repr

/-- The buffers that somebody has. -/
def contents (pool : LeasePool) : Holder → List Nat
  | .bucket sizeClass =>
      (pool.shared.freeLists sizeClass).map CachedBuffer.data
  | .thread stage thread => (pool.threads thread).holding stage

/-- What has become of a buffer. -/
inductive Fate
  | unallocated
  | kept (holder : Holder)
  | discarded
  | freed
  deriving DecidableEq, Repr

/-- Who has a buffer of a fate. -/
def Fate.holder : Fate → Option Holder
  | .kept holder => some holder
  | _ => none

/-- How often a buffer of a fate was registered. -/
def Fate.registrations : Fate → Nat
  | .kept (.thread .unregistered _) => 0
  | .kept _ => 1
  | .freed => 1
  | _ => 0

/-- How often a buffer of a fate was deregistered. -/
def Fate.deregistrations : Fate → Nat
  | .kept (.thread .deregistered _) => 1
  | .freed => 1
  | _ => 0

/-- How often a buffer of a fate was freed. -/
def Fate.frees : Fate → Nat
  | .discarded => 1
  | .freed => 1
  | _ => 0

/-- A buffer has a fate: it is at the place of the fate and nowhere else, and was
registered, deregistered and freed as often as the fate says. -/
structure Traced (pool : LeasePool) (data : Nat) (fate : Fate) : Prop where
  kept : KeptAt (contents pool) data fate.holder
  fresh : pool.shared.allocated ≤ data ↔ fate = .unallocated
  registrations : pool.shared.registered.count data = fate.registrations
  deregistrations :
    pool.shared.deregistered.count data = fate.deregistrations
  frees : pool.shared.freed.count data = fate.frees

section Traced

variable
  {pool : LeasePool}
  {mover data : Nat}
  {fate : Fate}

/-- A buffer that somebody has is kept by them. -/
theorem Traced.kept_of_mem
    (traced : pool.Traced data fate)
    {holder : Holder}
    (member : data ∈ contents pool holder) :
    fate = .kept holder := by
  have place := traced.kept.place_of_mem member
  cases fate <;> simp_all [Fate.holder]

/-- A section moves a buffer from one holder to another when it does so in the
free lists and in the thread that executes it. -/
theorem keptAt_step
    {shared : PinnedBufferPool}
    {call : LeaseCall}
    {place target : Option Holder}
    (kept : KeptAt (contents pool) data place)
    (buckets : ∀ sizeClass,
      ((shared.freeLists sizeClass).map CachedBuffer.data).count data +
          occurrences place (.bucket sizeClass) =
        ((pool.shared.freeLists sizeClass).map CachedBuffer.data).count data +
          occurrences target (.bucket sizeClass))
    (own : ∀ stage,
      (call.holding stage).count data +
          occurrences place (.thread stage mover) =
        ((pool.threads mover).holding stage).count data +
          occurrences target (.thread stage mover))
    (others : ∀ stage other, other ≠ mover →
      occurrences place (.thread stage other) =
        occurrences target (.thread stage other)) :
    KeptAt (contents ⟨shared, Function.update pool.threads mover call⟩) data
      target := by
  apply kept.move
  intro holder
  cases holder with
  | bucket sizeClass => exact buckets sizeClass
  | thread stage thread =>
      simp only [contents]
      by_cases moves : thread = mover
      · rw [moves, Function.update_self]
        exact own stage
      · rw [Function.update_of_ne moves, others stage thread moves]

/-- A section gives a buffer a new fate when it moves the buffer and extends the
logs accordingly. -/
theorem Traced.moves
    {shared : PinnedBufferPool}
    {call : LeaseCall}
    {target : Fate}
    (traced : pool.Traced data fate)
    (kept : KeptAt
      (contents ⟨shared, Function.update pool.threads mover call⟩) data
      target.holder)
    (fresh : shared.allocated ≤ data ↔ target = .unallocated)
    (registered : shared.registered.count data + fate.registrations =
      pool.shared.registered.count data + target.registrations)
    (deregistered : shared.deregistered.count data + fate.deregistrations =
      pool.shared.deregistered.count data + target.deregistrations)
    (freed : shared.freed.count data + fate.frees =
      pool.shared.freed.count data + target.frees) :
    LeasePool.Traced ⟨shared, Function.update pool.threads mover call⟩ data
      target where
  kept := kept
  fresh := fresh
  registrations := by
    have before := traced.registrations
    simp only
    omega
  deregistrations := by
    have before := traced.deregistrations
    simp only
    omega
  frees := by
    have before := traced.frees
    simp only
    omega

/-- A section that does not touch a buffer leaves its fate. -/
theorem Traced.untouched
    {shared : PinnedBufferPool}
    {call : LeaseCall}
    (traced : pool.Traced data fate)
    (buckets : ∀ sizeClass,
      ((shared.freeLists sizeClass).map CachedBuffer.data).count data =
        ((pool.shared.freeLists sizeClass).map CachedBuffer.data).count data)
    (own : ∀ stage, (call.holding stage).count data =
      ((pool.threads mover).holding stage).count data)
    (fresh : shared.allocated ≤ data ↔ pool.shared.allocated ≤ data)
    (registered : shared.registered.count data =
      pool.shared.registered.count data)
    (deregistered : shared.deregistered.count data =
      pool.shared.deregistered.count data)
    (freed : shared.freed.count data = pool.shared.freed.count data) :
    LeasePool.Traced ⟨shared, Function.update pool.threads mover call⟩ data
      fate := by
  refine traced.moves ?_ (fresh.trans traced.fresh) (by rw [registered])
    (by rw [deregistered]) (by rw [freed])
  refine keptAt_step traced.kept ?_ ?_ fun _ _ _ => rfl
  · intro sizeClass
    rw [buckets]
  · intro stage
    rw [own]

/-- A section that only renames what its thread has leaves all fates. -/
theorem Traced.renamed
    {call : LeaseCall}
    (traced : pool.Traced data fate)
    (own : ∀ stage, call.holding stage = (pool.threads mover).holding stage) :
    LeasePool.Traced ⟨pool.shared, Function.update pool.threads mover call⟩
      data fate := by
  refine traced.untouched (fun _ => rfl) ?_ Iff.rfl rfl rfl rfl
  intro stage
  rw [own]

/-- The free lists after one of them is replaced. -/
theorem count_setFreeList
    (shared : PinnedBufferPool)
    (data sizeClass other : Nat)
    (buffers : List CachedBuffer) :
    (((shared.setFreeList sizeClass buffers).freeLists other).map
        CachedBuffer.data).count data =
      if other = sizeClass then (buffers.map CachedBuffer.data).count data
      else ((shared.freeLists other).map CachedBuffer.data).count data := by
  simp only [PinnedBufferPool.setFreeList, Function.update_apply]
  split <;> rfl

/-- A section that changes one free list and what its thread has, but neither by
the buffer, leaves the fate of the buffer. -/
theorem Traced.relisted
    {call : LeaseCall}
    {sizeClass : Nat}
    {buffers : List CachedBuffer}
    (traced : pool.Traced data fate)
    (bucket : (buffers.map CachedBuffer.data).count data =
      ((pool.shared.freeLists sizeClass).map CachedBuffer.data).count data)
    (own : ∀ stage, (call.holding stage).count data =
      ((pool.threads mover).holding stage).count data) :
    LeasePool.Traced
      ⟨pool.shared.setFreeList sizeClass buffers,
        Function.update pool.threads mover call⟩ data fate := by
  refine traced.untouched ?_ own Iff.rfl rfl rfl rfl
  intro other
  rw [count_setFreeList]
  split
  case isTrue same => rw [bucket, same]
  case isFalse => rfl

/-- A section that changes a free list moves a buffer from one holder to another
when it does so in that list and in the thread that executes it. -/
theorem keptAt_setFreeList
    {call : LeaseCall}
    {sizeClass : Nat}
    {buffers : List CachedBuffer}
    {place target : Option Holder}
    (kept : KeptAt (contents pool) data place)
    (bucket : (buffers.map CachedBuffer.data).count data +
        occurrences place (.bucket sizeClass) =
      ((pool.shared.freeLists sizeClass).map CachedBuffer.data).count data +
        occurrences target (.bucket sizeClass))
    (elsewhere : ∀ other, other ≠ sizeClass →
      occurrences place (.bucket other) = occurrences target (.bucket other))
    (own : ∀ stage,
      (call.holding stage).count data +
          occurrences place (.thread stage mover) =
        ((pool.threads mover).holding stage).count data +
          occurrences target (.thread stage mover))
    (others : ∀ stage other, other ≠ mover →
      occurrences place (.thread stage other) =
        occurrences target (.thread stage other)) :
    KeptAt (contents ⟨pool.shared.setFreeList sizeClass buffers,
      Function.update pool.threads mover call⟩) data target := by
  refine keptAt_step kept ?_ own others
  intro other
  rw [count_setFreeList]
  split
  case isTrue same =>
      rw [same]
      exact bucket
  case isFalse different => rw [elsewhere other different]

/-- A section takes a buffer from a free list. -/
theorem Traced.taken
    {call : LeaseCall}
    {sizeClass : Nat}
    {buffers : List CachedBuffer}
    (traced : pool.Traced data (.kept (.bucket sizeClass)))
    (bucket : (buffers.map CachedBuffer.data).count data + 1 =
      ((pool.shared.freeLists sizeClass).map CachedBuffer.data).count data)
    (own : ∀ stage, (call.holding stage).count data =
      ((pool.threads mover).holding stage).count data +
        if stage = .registered then 1 else 0) :
    LeasePool.Traced
      ⟨pool.shared.setFreeList sizeClass buffers,
        Function.update pool.threads mover call⟩ data
      (.kept (.thread .registered mover)) := by
  have fresh := traced.fresh
  refine traced.moves ?_
    (by simpa [PinnedBufferPool.setFreeList] using fresh) rfl rfl rfl
  apply keptAt_setFreeList traced.kept
  · simpa [Fate.holder] using bucket
  · intro other different
    simp [Fate.holder, different.symm]
  · intro stage
    rw [own]
    simp [Fate.holder, eq_comm]
  · intro stage other different
    simp [Fate.holder, different.symm]

/-- A section puts a buffer into a free list. -/
theorem Traced.given
    {call : LeaseCall}
    {sizeClass : Nat}
    {buffers : List CachedBuffer}
    (traced : pool.Traced data (.kept (.thread .registered mover)))
    (bucket : (buffers.map CachedBuffer.data).count data =
      ((pool.shared.freeLists sizeClass).map CachedBuffer.data).count data + 1)
    (own : ∀ stage, (call.holding stage).count data +
        (if stage = .registered then 1 else 0) =
      ((pool.threads mover).holding stage).count data) :
    LeasePool.Traced
      ⟨pool.shared.setFreeList sizeClass buffers,
        Function.update pool.threads mover call⟩ data
      (.kept (.bucket sizeClass)) := by
  have fresh := traced.fresh
  refine traced.moves ?_
    (by simpa [PinnedBufferPool.setFreeList] using fresh) rfl rfl rfl
  apply keptAt_setFreeList traced.kept
  · simpa [Fate.holder] using bucket
  · intro other different
    simp [Fate.holder, different.symm]
  · intro stage
    rw [← own]
    simp [Fate.holder, eq_comm]
  · intro stage other different
    simp [Fate.holder, different.symm]

/-- A section changes the stage of a buffer that its thread has, or the buffer
comes to or leaves the thread otherwise than through a free list. -/
theorem Traced.staged
    {shared : PinnedBufferPool}
    {call : LeaseCall}
    {target : Fate}
    (traced : pool.Traced data fate)
    (lists : shared.freeLists = pool.shared.freeLists)
    (before : fate.holder = none ∨
      ∃ stage, fate.holder = some (.thread stage mover))
    (after : target.holder = none ∨
      ∃ stage, target.holder = some (.thread stage mover))
    (own : ∀ stage,
      (call.holding stage).count data +
          occurrences fate.holder (.thread stage mover) =
        ((pool.threads mover).holding stage).count data +
          occurrences target.holder (.thread stage mover)) :
    KeptAt (contents ⟨shared, Function.update pool.threads mover call⟩) data
      target.holder := by
  refine keptAt_step traced.kept ?_ own ?_
  · intro sizeClass
    rw [lists]
    rcases before with before | ⟨stage, before⟩ <;>
      rcases after with after | ⟨stage', after⟩ <;> simp [before, after]
  · intro stage other different
    rcases before with before | ⟨stage, before⟩ <;>
      rcases after with after | ⟨stage', after⟩ <;>
        simp [before, after, different.symm]

/-- A buffer of the moving thread is kept by it. -/
theorem Traced.kept_of_holding
    (traced : pool.Traced data fate)
    {call : LeaseCall}
    {stage : Stage}
    (running : pool.threads mover = call)
    (member : data ∈ call.holding stage) :
    fate = .kept (.thread stage mover) := by
  apply traced.kept_of_mem
  rw [contents, running]
  exact member

section Sections

variable (each : ∀ data, ∃ fate, pool.Traced data fate)
include each

theorem traced_reused
    {capacity sizeClass : Nat}
    {rest : List CachedBuffer}
    {buffer : CachedBuffer}
    (running : pool.threads mover = .reusing capacity sizeClass)
    (found : pool.shared.freeLists sizeClass = rest ++ [buffer])
    (data : Nat) :
    ∃ fate, LeasePool.Traced
      ⟨pool.shared.setFreeList sizeClass rest,
        Function.update pool.threads mover (.leased buffer sizeClass)⟩ data
      fate := by
  obtain ⟨fate, traced⟩ := each data
  by_cases own : data = buffer.data
  · have place : fate = .kept (.bucket sizeClass) :=
      traced.kept_of_mem (by simp [contents, found, own])
    subst place
    refine ⟨_, traced.taken (by simp [found, own]) ?_⟩
    intro stage
    cases stage <;> simp [LeaseCall.holding, running, own]
  · refine ⟨fate, traced.relisted (by simp [found, Ne.symm own]) ?_⟩
    intro stage
    cases stage <;> simp [LeaseCall.holding, running, Ne.symm own]

theorem traced_allocated
    {capacity sizeClass : Nat}
    (running : pool.threads mover = .allocating capacity sizeClass)
    (data : Nat) :
    ∃ fate, LeasePool.Traced
      ⟨{ pool.shared with allocated := pool.shared.allocated + 1 },
        Function.update pool.threads mover
          (.registering pool.shared.allocated capacity sizeClass)⟩ data
      fate := by
  obtain ⟨fate, traced⟩ := each data
  by_cases own : data = pool.shared.allocated
  · have place : fate = .unallocated := traced.fresh.mp own.ge
    subst place
    refine ⟨.kept (.thread .unregistered mover),
      traced.moves (traced.staged rfl (.inl rfl) (.inr ⟨_, rfl⟩) ?_)
        (by simp [own]) rfl rfl rfl⟩
    intro stage
    cases stage <;> simp [LeaseCall.holding, running, own, Fate.holder]
  · refine ⟨fate, traced.untouched (fun _ => rfl) ?_ (by simp; omega) rfl rfl
      rfl⟩
    intro stage
    cases stage <;> simp [LeaseCall.holding, running, Ne.symm own]

theorem traced_registered
    {newest capacity sizeClass : Nat}
    (running : pool.threads mover = .registering newest capacity sizeClass)
    (data : Nat) :
    ∃ fate, LeasePool.Traced
      ⟨{ pool.shared with registered := pool.shared.registered ++ [newest] },
        Function.update pool.threads mover
          (.leased ⟨newest, capacity⟩ sizeClass)⟩ data fate := by
  obtain ⟨fate, traced⟩ := each data
  by_cases own : data = newest
  · have place : fate = .kept (.thread .unregistered mover) :=
      traced.kept_of_holding running (by simp [LeaseCall.holding, own])
    subst place
    have fresh := traced.fresh
    refine ⟨.kept (.thread .registered mover),
      traced.moves (traced.staged rfl (.inr ⟨_, rfl⟩) (.inr ⟨_, rfl⟩) ?_)
        (by simpa using fresh) (by simp [own, Fate.registrations]) rfl rfl⟩
    intro stage
    cases stage <;> simp [LeaseCall.holding, running, own, Fate.holder]
  · refine ⟨fate, traced.untouched (fun _ => rfl) ?_ Iff.rfl
      (by simp [Ne.symm own]) rfl rfl⟩
    intro stage
    cases stage <;> simp [LeaseCall.holding, running, Ne.symm own]

theorem traced_discarded
    {oldest : Nat}
    (running : pool.threads mover = .discarding oldest)
    (data : Nat) :
    ∃ fate, LeasePool.Traced
      ⟨{ pool.shared with freed := pool.shared.freed ++ [oldest] },
        Function.update pool.threads mover .idle⟩ data fate := by
  obtain ⟨fate, traced⟩ := each data
  by_cases own : data = oldest
  · have place : fate = .kept (.thread .unregistered mover) :=
      traced.kept_of_holding running (by simp [LeaseCall.holding, own])
    subst place
    have fresh := traced.fresh
    refine ⟨.discarded,
      traced.moves (traced.staged rfl (.inr ⟨_, rfl⟩) (.inl rfl) ?_)
        (by simpa using fresh) rfl rfl (by simp [own, Fate.frees])⟩
    intro stage
    cases stage <;> simp [LeaseCall.holding, running, own, Fate.holder]
  · refine ⟨fate, traced.untouched (fun _ => rfl) ?_ Iff.rfl rfl rfl
      (by simp [Ne.symm own])⟩
    intro stage
    cases stage <;> simp [LeaseCall.holding, running, Ne.symm own]

theorem traced_returned
    {buffer : CachedBuffer}
    {sizeClass : Nat}
    (running : pool.threads mover = .returning buffer sizeClass)
    (data : Nat) :
    ∃ fate, LeasePool.Traced
      ⟨pool.shared.setFreeList sizeClass
          (pool.shared.freeLists sizeClass ++ [buffer]),
        Function.update pool.threads mover .idle⟩ data fate := by
  obtain ⟨fate, traced⟩ := each data
  by_cases own : data = buffer.data
  · have place : fate = .kept (.thread .registered mover) :=
      traced.kept_of_holding running (by simp [LeaseCall.holding, own])
    subst place
    refine ⟨.kept (.bucket sizeClass), traced.given (by simp [own]) ?_⟩
    intro stage
    cases stage <;> simp [LeaseCall.holding, running, own]
  · refine ⟨fate, traced.relisted (by simp [Ne.symm own]) ?_⟩
    intro stage
    cases stage <;> simp [LeaseCall.holding, running, Ne.symm own]

theorem traced_drained
    {bucket : Nat}
    {toDestroy : List CachedBuffer}
    (running : pool.threads mover = .draining bucket toDestroy)
    (data : Nat) :
    ∃ fate, LeasePool.Traced
      ⟨pool.shared.setFreeList bucket [],
        Function.update pool.threads mover (.draining (bucket + 1)
          (toDestroy ++ pool.shared.freeLists bucket))⟩ data fate := by
  obtain ⟨fate, traced⟩ := each data
  by_cases listed :
      data ∈ (pool.shared.freeLists bucket).map CachedBuffer.data
  · have place : fate = .kept (.bucket bucket) := traced.kept_of_mem listed
    subst place
    have once := traced.kept (.bucket bucket)
    simp only [contents, Fate.holder, occurrences_some, if_true] at once
    refine ⟨_, traced.taken (by simp [once]) ?_⟩
    intro stage
    cases stage <;> simp [LeaseCall.holding, running, once]
  · have absent := List.count_eq_zero.mpr listed
    refine ⟨fate, traced.relisted (by simp [absent]) ?_⟩
    intro stage
    cases stage <;> simp [LeaseCall.holding, running, absent]

theorem traced_deregistered
    {buffer : CachedBuffer}
    {rest : List CachedBuffer}
    (running : pool.threads mover = .disposing (buffer :: rest))
    (data : Nat) :
    ∃ fate, LeasePool.Traced
      ⟨{ pool.shared with
          deregistered := pool.shared.deregistered ++ [buffer.data] },
        Function.update pool.threads mover (.freeing buffer.data rest)⟩ data
      fate := by
  obtain ⟨fate, traced⟩ := each data
  by_cases own : data = buffer.data
  · have place : fate = .kept (.thread .registered mover) :=
      traced.kept_of_holding running (by simp [LeaseCall.holding, own])
    subst place
    have fresh := traced.fresh
    refine ⟨.kept (.thread .deregistered mover),
      traced.moves (traced.staged rfl (.inr ⟨_, rfl⟩) (.inr ⟨_, rfl⟩) ?_)
        (by simpa using fresh) rfl (by simp [own, Fate.deregistrations]) rfl⟩
    intro stage
    cases stage <;> simp [LeaseCall.holding, running, own, Fate.holder]
  · refine ⟨fate, traced.untouched (fun _ => rfl) ?_ Iff.rfl rfl
      (by simp [Ne.symm own]) rfl⟩
    intro stage
    cases stage <;> simp [LeaseCall.holding, running, Ne.symm own]

theorem traced_freed
    {oldest : Nat}
    {rest : List CachedBuffer}
    (running : pool.threads mover = .freeing oldest rest)
    (data : Nat) :
    ∃ fate, LeasePool.Traced
      ⟨{ pool.shared with freed := pool.shared.freed ++ [oldest] },
        Function.update pool.threads mover (.disposing rest)⟩ data fate := by
  obtain ⟨fate, traced⟩ := each data
  by_cases own : data = oldest
  · have place : fate = .kept (.thread .deregistered mover) :=
      traced.kept_of_holding running (by simp [LeaseCall.holding, own])
    subst place
    have fresh := traced.fresh
    refine ⟨.freed,
      traced.moves (traced.staged rfl (.inr ⟨_, rfl⟩) (.inl rfl) ?_)
        (by simpa using fresh) rfl rfl (by simp [own, Fate.frees])⟩
    intro stage
    cases stage <;> simp [LeaseCall.holding, running, own, Fate.holder]
  · refine ⟨fate, traced.untouched (fun _ => rfl) ?_ Iff.rfl rfl rfl
      (by simp [Ne.symm own])⟩
    intro stage
    cases stage <;> simp [LeaseCall.holding, running, Ne.symm own]

/-- Every section gives every buffer a fate. -/
theorem traced_advances
    {before call : LeaseCall}
    {shared : PinnedBufferPool}
    (running : pool.threads mover = before)
    (advances : pool.shared.Advances before shared call)
    (data : Nat) :
    ∃ fate, LeasePool.Traced
      ⟨shared, Function.update pool.threads mover call⟩ data fate := by
  obtain ⟨fate, traced⟩ := each data
  cases advances with
  | idled before after empty nothing =>
      refine ⟨fate, traced.renamed ?_⟩
      intro stage
      rw [running, LeaseCall.holding_of_emptyHanded empty,
        LeaseCall.holding_of_emptyHanded nothing]
  | reused _ _ _ _ found => exact traced_reused each running found data
  | allocated => exact traced_allocated each running data
  | registered => exact traced_registered each running data
  | discarded => exact traced_discarded each running data
  | returned => exact traced_returned each running data
  | drained => exact traced_drained each running data
  | deregistered => exact traced_deregistered each running data
  | freed => exact traced_freed each running data
  | flagged =>
      refine ⟨fate, traced.untouched (fun _ => rfl) ?_ Iff.rfl rfl rfl rfl⟩
      intro stage
      cases stage <;> simp [LeaseCall.holding, running]
  | unregistered | offered | condemned | refused | swept =>
      refine ⟨fate, traced.renamed ?_⟩
      intro stage
      cases stage <;> simp [LeaseCall.holding, running]

end Sections

end Traced

/-! ## Nothing leaks -/

/-- `Shutdown` has returned, and every lease has been released. -/
def Released (pool : LeasePool) : Prop :=
  pool.shared.shutdown = true ∧ ∀ thread, (pool.threads thread).Unleased

/-- Once `Shutdown` has returned and every lease has been released, the free
lists are empty, and every buffer that was ever registered has been deregistered
and freed once. -/
def LeaksNothing (pool : LeasePool) : Prop :=
  pool.Released →
    (∀ sizeClass, pool.shared.freeLists sizeClass = []) ∧
      ∀ data ∈ pool.shared.registered,
        pool.shared.deregistered.count data = 1 ∧
          pool.shared.freed.count data = 1

/-- `Shutdown` has not been called, or has still to empty a free list. -/
def ToBeDrained (pool : LeasePool) (sizeClass : Nat) : Prop :=
  pool.shared.shutdown = true →
    ∃ thread bucket toDestroy,
      pool.threads thread = .draining bucket toDestroy ∧ bucket ≤ sizeClass

/-- A buffer is put back into a free list only before `Shutdown` empties it. -/
def ReturnsInTime (pool : LeasePool) (label : Nat × LeaseInput) : Prop :=
  ∀ buffer sizeClass, pool.threads label.1 = .returning buffer sizeClass →
    (pool.shared.freeLists sizeClass).length < pool.shared.maxPerClass →
      pool.ToBeDrained sizeClass

/-- Buffers are only in the free lists of the classes, and a list that
`Shutdown` has emptied stays empty. -/
structure Drains (pool : LeasePool) : Prop where
  inside : ∀ thread buffer sizeClass,
    pool.threads thread = .returning buffer sizeClass →
      sizeClass < pool.shared.sizeClasses.length
  outside : ∀ sizeClass, pool.shared.sizeClasses.length ≤ sizeClass →
    pool.shared.freeLists sizeClass = []
  emptied : ∀ sizeClass, sizeClass < pool.shared.sizeClasses.length →
    ¬pool.ToBeDrained sizeClass → pool.shared.freeLists sizeClass = []

section Drains

variable
  {pool : LeasePool}
  {mover : Nat}
  {shared : PinnedBufferPool}
  {call : LeaseCall}

/-- What is still to be drained stays so while the draining thread does not
move. -/
theorem ToBeDrained.step
    {sizeClass : Nat}
    (later : pool.ToBeDrained sizeClass)
    (flag : shared.shutdown = pool.shared.shutdown)
    (still : ∀ bucket toDestroy,
      pool.threads mover = .draining bucket toDestroy →
        bucket ≤ sizeClass →
          ∃ bucket toDestroy, call = .draining bucket toDestroy ∧
            bucket ≤ sizeClass) :
    LeasePool.ToBeDrained ⟨shared, Function.update pool.threads mover call⟩
      sizeClass := by
  intro flagged
  obtain ⟨thread, bucket, toDestroy, drains, below⟩ :=
    later (flag.symm.trans flagged)
  by_cases moves : thread = mover
  · subst moves
    obtain ⟨bucket, toDestroy, drains, below⟩ := still _ _ drains below
    exact ⟨thread, bucket, toDestroy, by simpa using drains, below⟩
  · exact ⟨thread, bucket, toDestroy,
      by simpa [Function.update_of_ne moves] using drains, below⟩

/-- The classes of the releases after a section. -/
theorem Drains.inside_step
    (drains : pool.Drains)
    (own : ∀ buffer sizeClass, call = .returning buffer sizeClass →
      sizeClass < pool.shared.sizeClasses.length)
    (thread : Nat)
    (buffer : CachedBuffer)
    (sizeClass : Nat)
    (returns : Function.update pool.threads mover call thread =
      .returning buffer sizeClass) :
    sizeClass < pool.shared.sizeClasses.length := by
  by_cases moves : thread = mover
  · rw [moves, Function.update_self] at returns
    exact own buffer sizeClass returns
  · rw [Function.update_of_ne moves] at returns
    exact drains.inside thread buffer sizeClass returns

/-- A section of a thread that does not drain, and puts nothing into an empty
free list. -/
theorem Drains.undraining
    (drains : pool.Drains)
    (classes : shared.sizeClasses = pool.shared.sizeClasses)
    (flag : shared.shutdown = pool.shared.shutdown)
    (lists : ∀ sizeClass, pool.shared.freeLists sizeClass = [] →
      shared.freeLists sizeClass = [])
    (own : ∀ buffer sizeClass, call = .returning buffer sizeClass →
      sizeClass < pool.shared.sizeClasses.length)
    (before : ∀ bucket toDestroy,
      pool.threads mover ≠ .draining bucket toDestroy) :
    LeasePool.Drains ⟨shared, Function.update pool.threads mover call⟩ where
  inside := by
    simp only [classes]
    exact drains.inside_step own
  outside := by
    simp only [classes]
    intro sizeClass beyond
    exact lists sizeClass (drains.outside sizeClass beyond)
  emptied := by
    simp only [classes]
    intro sizeClass inside emptied
    refine lists sizeClass (drains.emptied sizeClass inside ?_)
    intro later
    refine emptied (later.step flag ?_)
    intro bucket toDestroy draining
    exact absurd draining (before bucket toDestroy)

/-- Every section keeps emptied free lists empty, if buffers are put back in
time. -/
theorem Drains.advances
    {before : LeaseCall}
    {input : LeaseInput}
    (drains : pool.Drains)
    (inTime : pool.ReturnsInTime (mover, input))
    (running : pool.threads mover = before)
    (advances : pool.shared.Advances before shared call) :
    LeasePool.Drains ⟨shared, Function.update pool.threads mover call⟩ := by
  cases advances with
  | idled before after empty nothing =>
      refine drains.undraining rfl rfl (fun _ => id) ?_ ?_
      · rintro buffer sizeClass rfl
        exact nothing.elim
      · rintro bucket toDestroy draining
        rw [← running, draining] at empty
        exact empty.elim
  | reused capacity sizeClass rest buffer found =>
      refine drains.undraining rfl rfl ?_ nofun (by simp [running])
      intro other empty
      by_cases same : other = sizeClass
      · subst same
        simp [found] at empty
      · simpa [PinnedBufferPool.setFreeList, same] using empty
  | offered buffer sizeClass inside =>
      refine drains.undraining rfl rfl (fun _ => id) ?_ (by simp [running])
      rintro _ _ ⟨⟩
      exact inside
  | allocated | registered | unregistered | discarded | condemned | refused
  | deregistered | freed =>
      exact drains.undraining rfl rfl (fun _ => id) nofun (by simp [running])
  | returned buffer sizeClass room =>
      have later := inTime buffer sizeClass running room
      have inside := drains.inside mover buffer sizeClass running
      refine ⟨drains.inside_step nofun, ?_, ?_⟩
      · intro other beyond
        simp only [PinnedBufferPool.setFreeList] at beyond ⊢
        rw [Function.update_of_ne (by omega)]
        exact drains.outside other beyond
      · intro other below emptied
        have stays : pool.ToBeDrained other →
            LeasePool.ToBeDrained ⟨pool.shared.setFreeList sizeClass
              (pool.shared.freeLists sizeClass ++ [buffer]),
              Function.update pool.threads mover .idle⟩ other :=
          fun later => later.step rfl (by simp [running])
        have different : other ≠ sizeClass := by
          rintro rfl
          exact emptied (stays later)
        simp only [PinnedBufferPool.setFreeList,
          Function.update_of_ne different]
        exact drains.emptied other below fun later => emptied (stays later)
  | flagged =>
      refine ⟨drains.inside_step nofun, drains.outside, ?_⟩
      intro sizeClass _ emptied
      refine absurd ?_ emptied
      intro _
      exact ⟨mover, 0, [], by simp, Nat.zero_le _⟩
  | drained bucket toDestroy =>
      refine ⟨drains.inside_step nofun, ?_, ?_⟩
      · intro other beyond
        by_cases same : other = bucket
        · simp [PinnedBufferPool.setFreeList, same]
        · simpa [PinnedBufferPool.setFreeList, same] using
            drains.outside other beyond
      · intro other below emptied
        by_cases same : other = bucket
        · simp [PinnedBufferPool.setFreeList, same]
        · have before := drains.emptied other below fun later =>
            emptied (later.step rfl (by
              simp only [running, LeaseCall.draining.injEq]
              rintro _ _ ⟨rfl, rfl⟩ small
              exact ⟨_, _, ⟨rfl, rfl⟩, by omega⟩))
          simpa [PinnedBufferPool.setFreeList, same] using before
  | swept bucket toDestroy all =>
      refine ⟨drains.inside_step nofun, drains.outside, ?_⟩
      intro other below emptied
      refine drains.emptied other below fun later => emptied (later.step rfl ?_)
      simp only [running, LeaseCall.draining.injEq]
      rintro _ _ ⟨rfl, rfl⟩ small
      change other < pool.shared.sizeClasses.length at below
      omega

end Drains

/-- A registered buffer that nobody has is freed. -/
theorem Traced.freed_of_registered
    {pool : LeasePool}
    {data : Nat}
    {fate : Fate}
    (traced : pool.Traced data fate)
    (registered : data ∈ pool.shared.registered)
    (lists : ∀ sizeClass, pool.shared.freeLists sizeClass = [])
    (unleased : ∀ thread, (pool.threads thread).Unleased) :
    fate = .freed := by
  have once := traced.registrations
  have positive := List.count_pos_iff.mpr registered
  cases fate with
  | unallocated | discarded =>
      simp only [Fate.registrations] at once
      omega
  | freed => rfl
  | kept holder =>
      have member := traced.kept.mem
      cases holder with
      | bucket sizeClass => simp [contents, lists] at member
      | thread stage thread =>
          by_cases early : stage = .unregistered
          · subst early
            simp only [Fate.registrations] at once
            omega
          · rw [contents,
              LeaseCall.holding_of_unleased (unleased thread) early] at member
            cases member

/-- In the runs in which no buffer is put back into a free list that `Shutdown`
has emptied, nothing leaks. -/
theorem leaksNothing_of_returnsInTime
    {pool : LeasePool}
    (reachable : machine.Reachable ReturnsInTime pool) :
    pool.LeaksNothing := by
  have drains : pool.Drains := by
    refine reachable.invariant ?_ ?_
    · rintro start ⟨sizeClasses, maxPerClass, rfl⟩
      exact ⟨nofun, fun _ _ => rfl, fun _ _ _ => rfl⟩
    · intro state label next drains inTime stepped
      obtain ⟨shared, call, advanced, rfl⟩ := Pool.step_eq_some stepped
      exact drains.advances inTime rfl
        (PinnedBufferPool.advances_of_advance advanced)
  let property : LeasePool → Prop := fun pool =>
    ∀ data, ∃ fate, pool.Traced data fate
  have each : property pool := by
    refine reachable.invariant ?_ ?_
    · rintro start ⟨sizeClasses, maxPerClass, rfl⟩
      intro data
      refine ⟨.unallocated, ?_, ?_, rfl, rfl, rfl⟩
      · intro holder
        cases holder <;> rfl
      · simp [PinnedBufferPool.init]
    · intro state label next each _ stepped
      obtain ⟨shared, call, advanced, rfl⟩ := Pool.step_eq_some stepped
      exact traced_advances each rfl
        (PinnedBufferPool.advances_of_advance advanced)
  rintro ⟨flagged, unleased⟩
  have lists : ∀ sizeClass, pool.shared.freeLists sizeClass = [] := by
    intro sizeClass
    by_cases inside : sizeClass < pool.shared.sizeClasses.length
    · apply drains.emptied sizeClass inside
      intro later
      obtain ⟨thread, bucket, toDestroy, draining, _⟩ := later flagged
      have free := unleased thread
      rw [draining] at free
      exact free
    · exact drains.outside sizeClass (by omega)
  refine ⟨lists, ?_⟩
  intro data registered
  obtain ⟨fate, traced⟩ := each data
  have freed := traced.freed_of_registered registered lists unleased
  subst freed
  exact ⟨traced.deregistrations, traced.frees⟩

/-- The condition, computed: no buffer is put back once the flag is set. -/
private def returnsUnflagged
    (pool : LeasePool)
    (label : Nat × LeaseInput) : Bool :=
  match pool.threads label.1 with
  | .returning _ _ => !pool.shared.shutdown
  | _ => true

private theorem returnsInTime_of_unflagged
    (pool : LeasePool)
    (label : Nat × LeaseInput)
    (_ : pool.RestAt 2 .idle)
    (holds : pool.returnsUnflagged label = true) :
    pool.ReturnsInTime label := by
  intro buffer sizeClass returns _ flagged
  simp [returnsUnflagged, returns, flagged] at holds

/-- One class of one byte, with room for one buffer. -/
private def smallPool : LeasePool := ⟨.init [1] 1, fun _ => .idle⟩

private theorem initial_smallPool : machine.initial smallPool :=
  ⟨[1], 1, rfl⟩

/-- A buffer is registered, leased, and put back; then the pool is shut down. -/
private def cleanShutdown : List (Nat × LeaseInput) :=
  [(0, .acquire 1), (0, .proceed true), (0, .proceed true), (0, .proceed true),
    (0, .release), (0, .proceed true), (1, .shutdown), (1, .proceed true),
    (1, .proceed true), (1, .proceed true), (1, .proceed true),
    (1, .proceed true)]

/-- What is looked at after a run of two threads. -/
private def observed (pool : LeasePool) :=
  (pool.threads 0, pool.threads 1, pool.shared.shutdown,
    pool.shared.registered, pool.shared.freeLists 0)

/-- After a run of two threads that are idle again, all leases are released. -/
private theorem released_of_rest
    {pool : LeasePool}
    (rest : pool.RestAt 2 .idle)
    (first : pool.threads 0 = .idle)
    (second : pool.threads 1 = .idle)
    (flagged : pool.shared.shutdown = true) :
    pool.Released := by
  refine ⟨flagged, rest.forall LeaseCall.Unleased trivial ?_⟩
  intro thread small
  have either : thread = 0 ∨ thread = 1 := by omega
  rcases either with rfl | rfl
  · rw [first]
    exact trivial
  · rw [second]
    exact trivial

theorem leaksNothing_after_clean_shutdown :
    ∃ pool : LeasePool, machine.Reachable ReturnsInTime pool ∧
      pool.Released ∧ pool.shared.registered = [0] ∧
        pool.shared.freed.count 0 = 1 := by
  have executed : (machine.run
      (fun pool label => returnsUnflagged pool label = true) smallPool
      cleanShutdown).map observed = some (.idle, .idle, true, [0], []) := by
    decide
  obtain ⟨pool, ended, seen⟩ := Option.map_eq_some_iff.mp executed
  simp only [observed, Prod.mk.injEq] at seen
  obtain ⟨first, second, flagged, registered, _⟩ := seen
  obtain ⟨path, rest⟩ := Pool.path_of_run_below 2 .idle rfl
    returnsInTime_of_unflagged (fun _ _ => rfl) (by decide) ended
  have reachable : machine.Reachable ReturnsInTime pool :=
    ⟨_, _, initial_smallPool, path⟩
  have released := released_of_rest rest first second flagged
  have nothing := leaksNothing_of_returnsInTime reachable released
  exact ⟨pool, reachable, released, registered,
    (nothing.2 0 (by simp [registered])).2⟩

/-- A release has read the flag when `Shutdown` sets it and empties the free
list, and puts its buffer back afterwards. -/
private def lateReturn : List (Nat × LeaseInput) :=
  [(0, .acquire 1), (0, .proceed true), (0, .proceed true), (0, .proceed true),
    (0, .release), (1, .shutdown), (1, .proceed true), (1, .proceed true),
    (1, .proceed true), (0, .proceed true)]

theorem buffer_leaks_after_shutdown :
    ¬∀ pool : LeasePool, machine.Reachable Machine.always pool →
      pool.LeaksNothing := by
  intro always
  have executed : (machine.run Machine.always smallPool lateReturn).map
      observed = some (.idle, .idle, true, [0], [⟨0, 1⟩]) := by
    decide
  obtain ⟨pool, ended, seen⟩ := Option.map_eq_some_iff.mp executed
  simp only [observed, Prod.mk.injEq] at seen
  obtain ⟨first, second, flagged, _, listed⟩ := seen
  obtain ⟨path, rest⟩ := Pool.path_of_run_below 2 .idle rfl
    (fun _ _ _ allowed => allowed) (fun _ _ => rfl) (by decide) ended
  have nothing := always pool ⟨_, _, initial_smallPool, path⟩
    (released_of_rest rest first second flagged)
  have empty := nothing.1 0
  rw [listed] at empty
  cases empty

end LeasePool

end Gds
end Gateway
end TurboAccess
