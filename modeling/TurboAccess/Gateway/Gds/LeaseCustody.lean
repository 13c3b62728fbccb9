import TurboAccess.Gateway.Gds.BufferFates
import TurboAccess.Gateway.Gds.Leases

/-!
# Every buffer has one owner

A buffer is owned by one lease, is in the free list of its class, or was disposed
of, whatever operations were made in which order.  Its fate says how often it was
registered, deregistered and freed; every operation gives every buffer a next
fate, and keeps the lists short and the leases large enough.
-/

namespace TurboAccess
namespace Gateway
namespace Gds

open LeasePool (count_setFreeList)
open PinnedBufferLease (owned)

namespace LeaseHeap

/-- Who has a buffer: a free list, or a lease. -/
inductive Holder
  | bucket (sizeClass : Nat)
  | lease (address : Nat)
  deriving DecidableEq, Repr

/-- The buffers that somebody has. -/
def contents
    (pool : PinnedBufferPool)
    (leases : Nat → Option PinnedBufferLease) : Holder → List Nat
  | .bucket sizeClass => (pool.freeLists sizeClass).map CachedBuffer.data
  | .lease address => owned (leases address)

/-- What has become of a buffer. -/
inductive Fate
  | unallocated
  | kept (holder : Holder)
  | discarded
  | disposed
  deriving DecidableEq, Repr

/-- Who has a buffer of a fate. -/
def Fate.holder : Fate → Option Holder
  | .kept holder => some holder
  | _ => none

/-- The fate after the holders have exchanged their buffers. -/
def Fate.relabel (exchange : Holder → Holder) : Fate → Fate
  | .kept holder => .kept (exchange holder)
  | .unallocated => .unallocated
  | .discarded => .discarded
  | .disposed => .disposed

/-- How often a buffer of a fate was registered. -/
def Fate.registrations : Fate → Nat
  | .kept _ => 1
  | .disposed => 1
  | _ => 0

/-- How often a buffer of a fate was deregistered. -/
def Fate.deregistrations : Fate → Nat
  | .disposed => 1
  | _ => 0

/-- How often a buffer of a fate was freed. -/
def Fate.frees : Fate → Nat
  | .discarded => 1
  | .disposed => 1
  | _ => 0

/-- A buffer has a fate: it is at the place of the fate and nowhere else, and was
registered, deregistered and freed as often as the fate says. -/
structure Traced
    (pool : PinnedBufferPool)
    (leases : Nat → Option PinnedBufferLease)
    (data : Nat)
    (fate : Fate) : Prop where
  kept : KeptAt (contents pool leases) data fate.holder
  fresh : pool.allocated ≤ data ↔ fate = .unallocated
  registrations : pool.registered.count data = fate.registrations
  deregistrations : pool.deregistered.count data = fate.deregistrations
  frees : pool.freed.count data = fate.frees

section Traced

variable
  {pool next : PinnedBufferPool}
  {leases : Nat → Option PinnedBufferLease}
  {address data : Nat}
  {lease : Option PinnedBufferLease}
  {fate target : Fate}

/-- A buffer that somebody has is kept by them. -/
theorem Traced.kept_of_mem
    (traced : Traced pool leases data fate)
    {holder : Holder}
    (member : data ∈ contents pool leases holder) :
    fate = .kept holder := by
  have place := traced.kept.place_of_mem member
  cases fate <;> simp_all [Fate.holder]

/-- An operation gives a buffer a new fate when it moves the buffer, in the free
lists and in the lease that it is about, and extends the logs accordingly. -/
theorem Traced.moves
    (traced : Traced pool leases data fate)
    (buckets : ∀ sizeClass,
      ((next.freeLists sizeClass).map CachedBuffer.data).count data +
          occurrences fate.holder (.bucket sizeClass) =
        ((pool.freeLists sizeClass).map CachedBuffer.data).count data +
          occurrences target.holder (.bucket sizeClass))
    (own : (owned lease).count data +
        occurrences fate.holder (.lease address) =
      (owned (leases address)).count data +
        occurrences target.holder (.lease address))
    (others : ∀ other, other ≠ address →
      occurrences fate.holder (.lease other) =
        occurrences target.holder (.lease other))
    (fresh : next.allocated ≤ data ↔ target = .unallocated)
    (registered : next.registered.count data + fate.registrations =
      pool.registered.count data + target.registrations)
    (deregistered : next.deregistered.count data + fate.deregistrations =
      pool.deregistered.count data + target.deregistrations)
    (freed : next.freed.count data + fate.frees =
      pool.freed.count data + target.frees) :
    Traced next (Function.update leases address lease) data target where
  kept := by
    apply traced.kept.move
    intro holder
    cases holder with
    | bucket sizeClass => exact buckets sizeClass
    | lease other =>
        dsimp only [contents]
        by_cases same : other = address
        · rw [same, Function.update_self]
          exact own
        · rw [Function.update_of_ne same, others other same]
  fresh := fresh
  registrations := by
    have before := traced.registrations
    omega
  deregistrations := by
    have before := traced.deregistrations
    omega
  frees := by
    have before := traced.frees
    omega

/-- An operation that does not touch a buffer leaves its fate. -/
theorem Traced.untouched
    (traced : Traced pool leases data fate)
    (buckets : ∀ sizeClass,
      ((next.freeLists sizeClass).map CachedBuffer.data).count data =
        ((pool.freeLists sizeClass).map CachedBuffer.data).count data)
    (own : (owned lease).count data = (owned (leases address)).count data)
    (fresh : next.allocated ≤ data ↔ pool.allocated ≤ data)
    (registered : next.registered.count data = pool.registered.count data)
    (deregistered : next.deregistered.count data =
      pool.deregistered.count data)
    (freed : next.freed.count data = pool.freed.count data) :
    Traced next (Function.update leases address lease) data fate := by
  refine traced.moves ?_ (by rw [own]) (fun _ _ => rfl)
    (fresh.trans traced.fresh) (by rw [registered]) (by rw [deregistered])
    (by rw [freed])
  intro sizeClass
  rw [buckets]

/-- A buffer that is neither put into a list nor taken out of it. -/
theorem Traced.relisted
    (traced : Traced pool leases data fate)
    {sizeClass : Nat}
    {list : List CachedBuffer}
    (there : (list.map CachedBuffer.data).count data =
      ((pool.freeLists sizeClass).map CachedBuffer.data).count data)
    (own : (owned lease).count data = (owned (leases address)).count data) :
    Traced (pool.setFreeList sizeClass list)
      (Function.update leases address lease) data fate := by
  refine traced.untouched ?_ own Iff.rfl rfl rfl rfl
  intro other
  rw [count_setFreeList]
  by_cases same : other = sizeClass
  · rw [if_pos same, same, there]
  · rw [if_neg same]

/-- A buffer that goes from a list to the lease, or back. -/
theorem Traced.exchanged
    {source target : Holder}
    (traced : Traced pool leases data (.kept source))
    {sizeClass : Nat}
    {list : List CachedBuffer}
    (between : ∀ holder, holder ≠ .bucket sizeClass → holder ≠ .lease address →
      source ≠ holder ∧ target ≠ holder)
    (there : (list.map CachedBuffer.data).count data +
        occurrences (some source) (.bucket sizeClass) =
      ((pool.freeLists sizeClass).map CachedBuffer.data).count data +
        occurrences (some target) (.bucket sizeClass))
    (own : (owned lease).count data +
        occurrences (some source) (.lease address) =
      (owned (leases address)).count data +
        occurrences (some target) (.lease address)) :
    Traced (pool.setFreeList sizeClass list)
      (Function.update leases address lease) data (.kept target) := by
  have fresh := traced.fresh
  refine traced.moves ?_ own ?_ ?_ rfl rfl rfl
  · intro other
    rw [count_setFreeList]
    by_cases same : other = sizeClass
    · rw [if_pos same, same]
      exact there
    · have apart := between (.bucket other) (by simpa using same) (by simp)
      simp [Fate.holder, same, apart]
  · intro other different
    have apart := between (.lease other) (by simp) (by simpa using different)
    simp [Fate.holder, apart]
  · simpa [PinnedBufferPool.setFreeList] using fresh

end Traced

/-! ## A lease and the pool -/

/-- What the pool can do for a lease, by the buffers of the lease before and
after. -/
inductive Exchange (pool : PinnedBufferPool) :
    List Nat → PinnedBufferPool → List Nat → Prop
  | nothing (held : List Nat) :
      Exchange pool held pool held
  | reused (sizeClass : Nat)
      (rest : List CachedBuffer)
      (buffer : CachedBuffer)
      (found : pool.freeLists sizeClass = rest ++ [buffer]) :
      Exchange pool [] (pool.setFreeList sizeClass rest) [buffer.data]
  | allocated :
      Exchange pool []
        { pool with
          allocated := pool.allocated + 1
          registered := pool.registered ++ [pool.allocated] }
        [pool.allocated]
  | discarded :
      Exchange pool []
        { pool with
          allocated := pool.allocated + 1
          freed := pool.freed ++ [pool.allocated] }
        []
  | returned (sizeClass : Nat) (buffer : CachedBuffer) :
      Exchange pool [buffer.data]
        (pool.setFreeList sizeClass (pool.freeLists sizeClass ++ [buffer])) []
  | disposed (buffer : CachedBuffer) :
      Exchange pool [buffer.data] (pool.dispose buffer) []

/-- After any of these every buffer has a fate again. -/
theorem traced_exchange
    {pool next : PinnedBufferPool}
    {leases : Nat → Option PinnedBufferLease}
    {address : Nat}
    {before after : List Nat}
    {lease : Option PinnedBufferLease}
    (each : ∀ data, ∃ fate, Traced pool leases data fate)
    (held : owned (leases address) = before)
    (holds : owned lease = after)
    (exchange : Exchange pool before next after)
    (data : Nat) :
    ∃ fate, Traced next (Function.update leases address lease) data fate := by
  obtain ⟨fate, traced⟩ := each data
  cases exchange with
  | nothing =>
      exact ⟨fate, traced.untouched (fun _ => rfl) (by rw [held, holds]) Iff.rfl
        rfl rfl rfl⟩
  | reused sizeClass rest buffer found =>
      by_cases same : data = buffer.data
      · have was : fate = .kept (.bucket sizeClass) := by
          apply traced.kept_of_mem
          simp [contents, found, same]
        subst was
        refine ⟨.kept (.lease address), traced.exchanged ?_ ?_ ?_⟩
        · exact fun holder unlisted unleased =>
            ⟨unlisted.symm, unleased.symm⟩
        · simp [found, same]
        · simp [held, holds, same]
      · refine ⟨fate, traced.relisted ?_ ?_⟩
        · simp [found, Ne.symm same]
        · simp [held, holds, Ne.symm same]
  | allocated =>
      by_cases same : data = pool.allocated
      · have was : fate = .unallocated := traced.fresh.mp (by omega)
        subst was
        refine ⟨.kept (.lease address), traced.moves ?_ ?_ ?_ ?_ ?_ rfl rfl⟩
        · intro other
          simp [Fate.holder]
        · simp [held, holds, same, Fate.holder]
        · intro other different
          simp [Fate.holder, different.symm]
        · simp [same]
        · simp [same, Fate.registrations]
      · refine ⟨fate, traced.untouched (fun _ => rfl) ?_ ?_ ?_ rfl rfl⟩
        · simp [held, holds, Ne.symm same]
        · dsimp only
          omega
        · simp [Ne.symm same]
  | discarded =>
      by_cases same : data = pool.allocated
      · have was : fate = .unallocated := traced.fresh.mp (by omega)
        subst was
        refine ⟨.discarded, traced.moves (fun _ => rfl) ?_ (fun _ _ => rfl) ?_
          rfl rfl ?_⟩
        · simp [held, holds, Fate.holder]
        · simp [same]
        · simp [same, Fate.frees]
      · refine ⟨fate, traced.untouched (fun _ => rfl) ?_ ?_ rfl rfl ?_⟩
        · rw [held, holds]
        · dsimp only
          omega
        · simp [Ne.symm same]
  | returned sizeClass buffer =>
      by_cases same : data = buffer.data
      · have was : fate = .kept (.lease address) := by
          apply traced.kept_of_mem
          simp [contents, held, same]
        subst was
        refine ⟨.kept (.bucket sizeClass), traced.exchanged ?_ ?_ ?_⟩
        · exact fun holder unlisted unleased =>
            ⟨unleased.symm, unlisted.symm⟩
        · simp [same]
        · simp [held, holds, same]
      · refine ⟨fate, traced.relisted ?_ ?_⟩
        · simp [Ne.symm same]
        · simp [held, holds, Ne.symm same]
  | disposed buffer =>
      by_cases same : data = buffer.data
      · have was : fate = .kept (.lease address) := by
          apply traced.kept_of_mem
          simp [contents, held, same]
        subst was
        have fresh := traced.fresh
        refine ⟨.disposed, traced.moves ?_ ?_ ?_ ?_ rfl ?_ ?_⟩
        · intro other
          simp [PinnedBufferPool.dispose, Fate.holder]
        · simp [held, holds, same, Fate.holder]
        · intro other different
          simp [Fate.holder, different.symm]
        · simpa [PinnedBufferPool.dispose] using fresh
        · simp [PinnedBufferPool.dispose, same, Fate.deregistrations]
        · simp [PinnedBufferPool.dispose, same, Fate.frees]
      · refine ⟨fate, traced.untouched (fun _ => rfl) ?_ Iff.rfl rfl ?_ ?_⟩
        · simp [held, holds, Ne.symm same]
        · simp [PinnedBufferPool.dispose, Ne.symm same]
        · simp [PinnedBufferPool.dispose, Ne.symm same]

/-- A lease is moved to an address whose lease owns nothing. -/
theorem traced_transfer
    {pool : PinnedBufferPool}
    {leases : Nat → Option PinnedBufferLease}
    {source target : Nat}
    (each : ∀ data, ∃ fate, Traced pool leases data fate)
    (nothing : owned (leases target) = [])
    (different : source ≠ target)
    {lease : PinnedBufferLease}
    (found : leases source = some lease)
    (data : Nat) :
    ∃ fate, Traced pool
      (Function.update (Function.update leases target (some lease)) source
        (some .empty)) data fate := by
  obtain ⟨fate, traced⟩ := each data
  have swapped := traced.kept.relabel
    (Equiv.swap (Holder.lease source) (Holder.lease target))
  have same : contents pool
      (Function.update (Function.update leases target (some lease)) source
        (some .empty)) =
      contents pool leases ∘
        Equiv.swap (Holder.lease source) (Holder.lease target) := by
    funext holder
    rw [Function.comp_apply]
    cases holder with
    | bucket sizeClass =>
        rw [Equiv.swap_apply_of_ne_of_ne (by simp) (by simp)]
        rfl
    | lease other =>
        by_cases ofSource : other = source
        · rw [ofSource, Equiv.swap_apply_left]
          dsimp only [contents]
          rw [Function.update_self, nothing]
          rfl
        · by_cases ofTarget : other = target
          · rw [ofTarget, Equiv.swap_apply_right]
            dsimp only [contents]
            rw [Function.update_of_ne different.symm, Function.update_self,
              found]
          · rw [Equiv.swap_apply_of_ne_of_ne (by simpa using ofSource)
              (by simpa using ofTarget)]
            dsimp only [contents]
            rw [Function.update_of_ne ofSource, Function.update_of_ne ofTarget]
  rw [← same] at swapped
  obtain ⟨-, fresh, registrations, deregistrations, frees⟩ := traced
  refine ⟨fate.relabel (Equiv.swap (.lease source) (.lease target)), ?_⟩
  cases fate with
  | unallocated =>
      exact ⟨swapped, fresh, registrations, deregistrations, frees⟩
  | kept holder =>
      exact ⟨swapped, by simpa [Fate.relabel] using fresh, registrations,
        deregistrations, frees⟩
  | discarded =>
      exact ⟨swapped, fresh, registrations, deregistrations, frees⟩
  | disposed =>
      exact ⟨swapped, fresh, registrations, deregistrations, frees⟩

/-! ## Shutting down -/

/-- Disposing of buffers changes the logs only. -/
theorem foldl_dispose (buffers : List CachedBuffer) (pool : PinnedBufferPool) :
    buffers.foldl PinnedBufferPool.dispose pool =
      { pool with
        deregistered :=
          pool.deregistered ++ buffers.map CachedBuffer.data
        freed := pool.freed ++ buffers.map CachedBuffer.data } := by
  induction buffers generalizing pool with
  | nil => simp
  | cons buffer buffers inductionHypothesis =>
      rw [List.foldl_cons, inductionHypothesis]
      simp [PinnedBufferPool.dispose]

/-- A buffer is once in the lists together if it is in one of them. -/
theorem count_lists
    {pool : PinnedBufferPool}
    {leases : Nat → Option PinnedBufferLease}
    {data : Nat}
    {holder : Option Holder}
    (kept : KeptAt (contents pool leases) data holder)
    (count : Nat) :
    (((List.range count).flatMap pool.freeLists).map
        CachedBuffer.data).count data =
      ((List.range count).filter
        fun sizeClass => holder = some (.bucket sizeClass)).length := by
  induction count with
  | zero => rfl
  | succ count inductionHypothesis =>
      have last : ((pool.freeLists count).map CachedBuffer.data).count data =
          occurrences holder (.bucket count) := kept (.bucket count)
      rw [List.range_succ, List.flatMap_append, List.map_append,
        List.count_append, inductionHypothesis, List.filter_append,
        List.length_append, List.flatMap_singleton, last, occurrences]
      by_cases there : holder = some (.bucket count) <;> simp [there]

/-- A place in one of the lists is counted once. -/
theorem length_filter_bucket (holder : Option Holder) (count : Nat) :
    ((List.range count).filter
        fun sizeClass => holder = some (.bucket sizeClass)).length =
      if ∃ sizeClass < count, holder = some (.bucket sizeClass) then 1
      else 0 := by
  induction count with
  | zero => simp
  | succ count inductionHypothesis =>
      rw [List.range_succ, List.filter_append, List.length_append,
        inductionHypothesis]
      by_cases last : holder = some (.bucket count)
      · have earlier :
            ¬∃ sizeClass < count, holder = some (.bucket sizeClass) := by
          rintro ⟨sizeClass, below, same⟩
          rw [last] at same
          cases same
          omega
        have there :
            ∃ sizeClass < count + 1, holder = some (.bucket sizeClass) :=
          ⟨count, Nat.lt_succ_self count, last⟩
        rw [if_neg earlier, if_pos there]
        simp [last]
      · have same :
            (∃ sizeClass < count + 1, holder = some (.bucket sizeClass)) ↔
              ∃ sizeClass < count, holder = some (.bucket sizeClass) := by
          constructor
          · rintro ⟨sizeClass, below, listed⟩
            refine ⟨sizeClass, ?_, listed⟩
            have different : sizeClass ≠ count := by
              rintro rfl
              exact last listed
            omega
          · rintro ⟨sizeClass, below, listed⟩
            exact ⟨sizeClass, by omega, listed⟩
        rw [if_congr same rfl rfl]
        simp [last]

/-- When the pool shuts down, the buffers of all lists are disposed of. -/
theorem traced_shutDown
    {pool : PinnedBufferPool}
    {leases : Nat → Option PinnedBufferLease}
    (each : ∀ data, ∃ fate, Traced pool leases data fate)
    (inside : ∀ sizeClass, pool.sizeClasses.length ≤ sizeClass →
      pool.freeLists sizeClass = [])
    (data : Nat) :
    ∃ fate, Traced pool.shutDown leases data fate := by
  obtain ⟨fate, traced⟩ := each data
  unfold PinnedBufferPool.shutDown
  split
  · exact ⟨fate, traced⟩
  · dsimp only
    rw [foldl_dispose]
    have counted := count_lists traced.kept pool.sizeClasses.length
    rw [length_filter_bucket] at counted
    by_cases listed : ∃ sizeClass < pool.sizeClasses.length,
        fate.holder = some (.bucket sizeClass)
    · rw [if_pos listed] at counted
      obtain ⟨sizeClass, below, place⟩ := listed
      have was : fate = .kept (.bucket sizeClass) := by
        cases fate <;> simp_all [Fate.holder]
      subst was
      refine ⟨.disposed, ?_, by simpa using traced.fresh,
        traced.registrations, ?_, ?_⟩
      · intro holder
        have before := traced.kept holder
        cases holder with
        | bucket other =>
            dsimp only [contents]
            split
            · rfl
            · next outside =>
                rw [inside other (Nat.le_of_not_lt outside)]
                rfl
        | lease address =>
            dsimp only [contents] at before ⊢
            rw [before]
            simp [Fate.holder]
      · have before := traced.deregistrations
        rw [List.count_append, counted, before]
        rfl
      · have before := traced.frees
        rw [List.count_append, counted, before]
        rfl
    · rw [if_neg listed] at counted
      refine ⟨fate, ?_, traced.fresh, traced.registrations, ?_, ?_⟩
      · intro holder
        have before := traced.kept holder
        cases holder with
        | bucket other =>
            dsimp only [contents] at before ⊢
            split
            · next below =>
                rw [occurrences, if_neg]
                · rfl
                · exact fun place => listed ⟨other, below, place⟩
            · exact before
        | lease address => exact before
      · rw [List.count_append, counted]
        exact traced.deregistrations
      · rw [List.count_append, counted]
        exact traced.frees

/-! ## Sizes -/

/-- A capacity serves a size: it is large enough, and the smallest class that is
large enough when there is one. -/
structure Fits (sizeClasses : List Nat) (size capacity : Nat) : Prop where
  large : size ≤ capacity
  smallest : (∃ class_ ∈ sizeClasses, size ≤ class_) →
    capacity ∈ sizeClasses ∧
      ∀ class_ ∈ sizeClasses, size ≤ class_ → capacity ≤ class_

/-- The class that is picked serves the size. -/
theorem fits_of_pickClass
    {pool : PinnedBufferPool}
    {sizeClasses : List Nat}
    {size capacity : Nat}
    (classes : pool.sizeClasses = sizeClasses.insertionSort (· ≤ ·))
    (picked : pool.sizeClasses[pool.pickClass size]? = some capacity) :
    Fits sizeClasses size capacity := by
  obtain ⟨inside, value⟩ := List.getElem?_eq_some_iff.mp picked
  have large : size ≤ capacity := by
    have holds := List.findIdx_getElem (w := inside)
    rw [← value]
    exact of_decide_eq_true holds
  refine ⟨large, fun _ => ⟨?_, ?_⟩⟩
  · rw [← List.mem_insertionSort (· ≤ ·), ← classes, ← value]
    exact List.getElem_mem inside
  · intro class_ member enough
    rw [← List.mem_insertionSort (· ≤ ·), ← classes] at member
    obtain ⟨index, within, same⟩ := List.mem_iff_getElem.mp member
    have later : pool.pickClass size ≤ index := by
      by_contra earlier
      have small := List.not_of_lt_findIdx (Nat.lt_of_not_le earlier)
      simp only [same, decide_eq_false_iff_not] at small
      exact small enough
    have sorted : pool.sizeClasses.Pairwise (· ≤ ·) := by
      rw [classes]
      exact List.pairwise_insertionSort (· ≤ ·) sizeClasses
    rw [← value, ← same]
    rcases Nat.lt_or_eq_of_le later with before | equal
    · exact List.pairwise_iff_getElem.mp sorted _ _ inside within before
    · subst equal
      exact le_rfl

/-- A size above all classes is served by a buffer of its own. -/
theorem fits_of_oversize
    {pool : PinnedBufferPool}
    {sizeClasses : List Nat}
    {size : Nat}
    (classes : pool.sizeClasses = sizeClasses.insertionSort (· ≤ ·))
    (picked : pool.sizeClasses[pool.pickClass size]? = none) :
    Fits sizeClasses size size := by
  refine ⟨le_rfl, ?_⟩
  rintro ⟨class_, member, enough⟩
  rw [← List.mem_insertionSort (· ≤ ·), ← classes] at member
  have below : pool.pickClass size < pool.sizeClasses.length :=
    List.findIdx_lt_length_of_exists ⟨class_, member, by simpa using enough⟩
  rw [List.getElem?_eq_none_iff] at picked
  omega

/-! ## The invariant -/

section Invariant

variable {sizeClasses : List Nat} {maxPerClass : Nat}

/-- The lists of the pool are short, have buffers of their own class only, and are
empty once it has shut down. -/
structure Stocked
    (sizeClasses : List Nat)
    (maxPerClass : Nat)
    (pool : PinnedBufferPool) : Prop where
  classes : pool.sizeClasses = sizeClasses.insertionSort (· ≤ ·)
  limit : pool.maxPerClass = maxPerClass
  limited : ∀ sizeClass, (pool.freeLists sizeClass).length ≤ maxPerClass
  ownClass : ∀ sizeClass, ∀ buffer ∈ pool.freeLists sizeClass,
    pool.sizeClasses[sizeClass]? = some buffer.capacity
  drained : pool.shutdown = true → ∀ sizeClass, pool.freeLists sizeClass = []

/-- A lease with a buffer names the pool and the class of its buffer, which serves
the size that was asked for. -/
structure Valid
    (sizeClasses : List Nat)
    (size : Nat)
    (lease : PinnedBufferLease) : Prop where
  pool : lease.pool = true
  ofClass : ∀ capacity,
    (sizeClasses.insertionSort (· ≤ ·))[lease.sizeClass]? = some capacity →
      lease.capacity = capacity
  fits : Fits sizeClasses size lease.capacity

/-- What holds of the pool and its leases after every operation. -/
structure Sound
    (sizeClasses : List Nat)
    (maxPerClass : Nat)
    (heap : LeaseHeap) : Prop where
  stocked : Stocked sizeClasses maxPerClass heap.pool
  traced : ∀ data, ∃ fate, Traced heap.pool heap.leases data fate
  valid : ∀ address lease data, heap.leases address = some lease →
    lease.data = some data → Valid sizeClasses (heap.asked data) lease

theorem stocked_init :
    Stocked sizeClasses maxPerClass (.init sizeClasses maxPerClass) where
  classes := rfl
  limit := rfl
  limited := fun _ => Nat.zero_le _
  ownClass := fun _ _ member => absurd member List.not_mem_nil
  drained := nofun

theorem sound_init :
    Sound sizeClasses maxPerClass (init sizeClasses maxPerClass) where
  stocked := stocked_init
  traced := by
    intro data
    refine ⟨.unallocated, ?_, by simp [init, PinnedBufferPool.init], rfl, rfl,
      rfl⟩
    intro holder
    cases holder <;> rfl
  valid := fun _ _ _ found => nomatch found

variable {pool next : PinnedBufferPool}

/-- An operation that leaves the lists alone leaves them stocked. -/
theorem Stocked.same
    (stocked : Stocked sizeClasses maxPerClass pool)
    (classes : next.sizeClasses = pool.sizeClasses)
    (limit : next.maxPerClass = pool.maxPerClass)
    (lists : next.freeLists = pool.freeLists)
    (shutdown : next.shutdown = pool.shutdown) :
    Stocked sizeClasses maxPerClass next where
  classes := classes.trans stocked.classes
  limit := limit.trans stocked.limit
  limited := by rw [lists]; exact stocked.limited
  ownClass := by rw [lists, classes]; exact stocked.ownClass
  drained := by rw [lists, shutdown]; exact stocked.drained

/-- A list may be replaced by a short one of buffers of its class. -/
theorem Stocked.setFreeList
    (stocked : Stocked sizeClasses maxPerClass pool)
    (running : pool.shutdown = false)
    {sizeClass : Nat}
    {buffers : List CachedBuffer}
    (short : buffers.length ≤ maxPerClass)
    (ofClass : ∀ buffer ∈ buffers,
      pool.sizeClasses[sizeClass]? = some buffer.capacity) :
    Stocked sizeClasses maxPerClass (pool.setFreeList sizeClass buffers) where
  classes := stocked.classes
  limit := stocked.limit
  limited := by
    intro other
    by_cases same : other = sizeClass
    · simpa [PinnedBufferPool.setFreeList, same] using short
    · simpa [PinnedBufferPool.setFreeList, same] using stocked.limited other
  ownClass := by
    intro other
    by_cases same : other = sizeClass
    · simpa [PinnedBufferPool.setFreeList, same] using ofClass
    · simpa [PinnedBufferPool.setFreeList, same] using stocked.ownClass other
  drained := by
    intro stopped
    rw [show (pool.setFreeList sizeClass buffers).shutdown = false from running]
      at stopped
    cases stopped

/-! ## Operations -/

/-- A lease that is released gives its buffer to a list, or has it disposed of. -/
theorem exchange_release
    {lease : PinnedBufferLease}
    (named : ∀ data, lease.data = some data → lease.pool = true) :
    Exchange pool (owned (some lease)) (lease.release pool).1 [] := by
  unfold PinnedBufferLease.release
  dsimp only [owned]
  cases found : lease.data with
  | none => exact .nothing []
  | some data =>
      dsimp only [Option.toList_some]
      rw [named data found, if_pos rfl]
      unfold PinnedBufferPool.release
      split
      · exact .disposed ⟨data, lease.capacity⟩
      · split
        · exact .disposed ⟨data, lease.capacity⟩
        · exact .returned lease.sizeClass ⟨data, lease.capacity⟩

theorem stocked_release
    (stocked : Stocked sizeClasses maxPerClass pool)
    {size : Nat → Nat}
    {lease : PinnedBufferLease}
    (valid : ∀ data, lease.data = some data →
      Valid sizeClasses (size data) lease) :
    Stocked sizeClasses maxPerClass (lease.release pool).1 := by
  unfold PinnedBufferLease.release
  cases found : lease.data with
  | none => exact stocked
  | some data =>
      have ofLease := valid data found
      dsimp only
      rw [ofLease.pool, if_pos rfl]
      unfold PinnedBufferPool.release
      split
      · exact stocked.same rfl rfl rfl rfl
      · next accepts =>
          split
          · exact stocked.same rfl rfl rfl rfl
          · next room =>
              have running : pool.shutdown = false := by
                simpa using fun stopped => accepts (Or.inl stopped)
              have limit := stocked.limit
              refine stocked.setFreeList running ?_ ?_
              · rw [List.length_append, List.length_singleton]
                omega
              · intro buffer member
                rcases List.mem_append.mp member with member | member
                · exact stocked.ownClass lease.sizeClass buffer member
                · obtain rfl := List.mem_singleton.mp member
                  have inside : lease.sizeClass < pool.sizeClasses.length := by
                    omega
                  have class_ := List.getElem?_eq_getElem inside
                  rw [class_, ofLease.ofClass _ (by
                    rw [← stocked.classes]
                    exact class_)]

/-- What `Acquire` gives: a lease with a buffer that serves the size, or without
one. -/
structure Acquired
    (sizeClasses : List Nat)
    (maxPerClass : Nat)
    (pool : PinnedBufferPool)
    (size : Nat)
    (result : PinnedBufferPool × PinnedBufferLease) : Prop where
  exchange : Exchange pool [] result.1 (owned (some result.2))
  stocked : Stocked sizeClasses maxPerClass result.1
  valid : ∀ data, result.2.data = some data → Valid sizeClasses size result.2

theorem acquired_nothing
    (stocked : Stocked sizeClasses maxPerClass pool)
    (size : Nat) :
    Acquired sizeClasses maxPerClass pool size (pool, .empty) :=
  ⟨.nothing [], stocked, nofun⟩

/-- A buffer that is allocated serves the size if its capacity does. -/
theorem acquired_allocate
    (stocked : Stocked sizeClasses maxPerClass pool)
    {size capacity sizeClass : Nat}
    (fits : Fits sizeClasses size capacity)
    (ofClass : ∀ other,
      (sizeClasses.insertionSort (· ≤ ·))[sizeClass]? = some other →
        capacity = other)
    (allocates registers : Bool) :
    Acquired sizeClasses maxPerClass pool size
      (pool.allocate capacity sizeClass allocates registers) := by
  unfold PinnedBufferPool.allocate
  cases allocates with
  | false => exact acquired_nothing stocked size
  | true =>
      cases registers with
      | false => exact ⟨.discarded, stocked.same rfl rfl rfl rfl, nofun⟩
      | true =>
          exact ⟨.allocated, stocked.same rfl rfl rfl rfl,
            fun _ _ => ⟨rfl, ofClass, fits⟩⟩

/-- `Acquire` gives a lease on a buffer that serves the size, if any. -/
theorem acquired_acquireLease
    (stocked : Stocked sizeClasses maxPerClass pool)
    (size : Nat)
    (allocates registers : Bool) :
    Acquired sizeClasses maxPerClass pool size
      (pool.acquireLease size allocates registers) := by
  unfold PinnedBufferPool.acquireLease
  split
  · exact acquired_nothing stocked size
  · dsimp only
    split
    · next picked =>
        refine acquired_allocate stocked
          (fits_of_oversize stocked.classes picked) ?_ allocates registers
        intro other beyond
        rw [← stocked.classes, List.getElem?_eq_none le_rfl] at beyond
        cases beyond
    · next capacity picked =>
        have fits := fits_of_pickClass stocked.classes picked
        have ofClass : ∀ other,
            (sizeClasses.insertionSort (· ≤ ·))[pool.pickClass size]? =
              some other → capacity = other := by
          intro other found
          rw [← stocked.classes, picked] at found
          exact Option.some.inj found
        split
        · next reuse taken =>
            have running : pool.shutdown = false := by
              by_contra stopped
              rw [Bool.not_eq_false] at stopped
              rw [if_pos stopped] at taken
              cases taken
            rw [if_neg (by simp [running])] at taken
            have found :=
              (List.dropLast_append_getLast? reuse taken).symm
            have listed : reuse ∈ pool.freeLists (pool.pickClass size) :=
              List.mem_of_getLast? taken
            have own := stocked.ownClass _ reuse listed
            rw [picked] at own
            have same : capacity = reuse.capacity := Option.some.inj own
            refine ⟨.reused _ _ reuse found, ?_, fun _ _ => ⟨rfl, ?_, ?_⟩⟩
            · refine stocked.setFreeList running ?_ ?_
              · have limited := stocked.limited (pool.pickClass size)
                rw [List.length_dropLast]
                omega
              · intro buffer member
                exact stocked.ownClass _ buffer (List.dropLast_subset _ member)
            · rw [← same]
              exact ofClass
            · rw [← same]
              exact fits
        · exact acquired_allocate stocked fits ofClass allocates registers

/-- There are no lists beyond the classes. -/
theorem Stocked.outside
    (stocked : Stocked sizeClasses maxPerClass pool)
    (sizeClass : Nat)
    (beyond : pool.sizeClasses.length ≤ sizeClass) :
    pool.freeLists sizeClass = [] := by
  rw [List.eq_nil_iff_forall_not_mem]
  intro buffer member
  have own := stocked.ownClass sizeClass buffer member
  rw [List.getElem?_eq_none beyond] at own
  cases own

theorem stocked_shutDown
    (stocked : Stocked sizeClasses maxPerClass pool) :
    Stocked sizeClasses maxPerClass pool.shutDown := by
  unfold PinnedBufferPool.shutDown
  split
  · exact stocked
  · dsimp only
    rw [foldl_dispose]
    have empty : ∀ sizeClass,
        (if sizeClass < pool.sizeClasses.length then []
          else pool.freeLists sizeClass) = [] := by
      intro sizeClass
      split
      · rfl
      · next beyond =>
          exact stocked.outside sizeClass (Nat.le_of_not_lt beyond)
    refine ⟨stocked.classes, stocked.limit, ?_, ?_, fun _ => empty⟩
    · intro sizeClass
      dsimp only
      rw [empty]
      exact Nat.zero_le _
    · intro sizeClass buffer member
      dsimp only at member
      rw [empty] at member
      cases member

/-- A lease that has no buffer is valid for every size. -/
theorem valid_update
    {leases : Nat → Option PinnedBufferLease}
    {asked : Nat → Nat}
    (valid : ∀ address lease data, leases address = some lease →
      lease.data = some data → Valid sizeClasses (asked data) lease)
    {target : Nat}
    {placed : Option PinnedBufferLease}
    (fits : ∀ lease data, placed = some lease → lease.data = some data →
      Valid sizeClasses (asked data) lease)
    (address : Nat)
    (lease : PinnedBufferLease)
    (data : Nat)
    (found : Function.update leases target placed address = some lease)
    (owns : lease.data = some data) :
    Valid sizeClasses (asked data) lease := by
  by_cases same : address = target
  · rw [same, Function.update_self] at found
    exact fits lease data found owns
  · rw [Function.update_of_ne same] at found
    exact valid address lease data found owns

theorem Sound.acquire
    {heap next : LeaseHeap}
    (sound : Sound sizeClasses maxPerClass heap)
    {target size : Nat}
    {allocates registers : Bool}
    (stepped : heap.step (.acquire target size allocates registers) =
      some next) :
    Sound sizeClasses maxPerClass next := by
  dsimp only [LeaseHeap.step] at stepped
  cases absent : heap.leases target with
  | some lease =>
      rw [absent] at stepped
      cases stepped
  | none =>
      rw [absent] at stepped
      have obtained :=
        acquired_acquireLease sound.stocked size allocates registers
      have nothing : owned (heap.leases target) = [] := by
        rw [absent]
        rfl
      have traced :=
        traced_exchange sound.traced nothing rfl obtained.exchange
      cases result : heap.pool.acquireLease size allocates registers with
      | mk pool lease =>
          rw [result] at obtained traced stepped
          obtain rfl := Option.some.inj stepped
          refine ⟨obtained.stocked, traced, ?_⟩
          intro address other data found owns
          dsimp only at found ⊢
          cases own : lease.data with
          | none =>
              refine valid_update sound.valid ?_ address other data found owns
              intro placed data same owned_
              obtain rfl := Option.some.inj same
              rw [own] at owned_
              cases owned_
          | some new =>
              dsimp only
              by_cases same : address = target
              · rw [same, Function.update_self] at found
                obtain rfl := Option.some.inj found
                obtain rfl : new = data :=
                  Option.some.inj (own.symm.trans owns)
                rw [Function.update_self]
                exact obtained.valid new own
              · -- Two leases have different buffers.
                have different : data ≠ new := by
                  rintro rfl
                  obtain ⟨fate, ofData⟩ := traced data
                  have inOther : data ∈ contents pool
                      (Function.update heap.leases target (some lease))
                      (.lease address) := by
                    simp [contents, owned, found, owns]
                  have inNew : data ∈ contents pool
                      (Function.update heap.leases target (some lease))
                      (.lease target) := by
                    simp [contents, owned, own]
                  have there := ofData.kept_of_mem inNew
                  rw [ofData.kept_of_mem inOther] at there
                  injection there with holders
                  injection holders with addresses
                  exact same addresses
                rw [Function.update_of_ne different]
                rw [Function.update_of_ne same] at found
                exact sound.valid address other data found owns

/-- A lease keeps its buffer when it is moved to an address whose lease owns
nothing. -/
theorem Sound.transfer
    {heap : LeaseHeap}
    (sound : Sound sizeClasses maxPerClass heap)
    {source target : Nat}
    (nothing : owned (heap.leases target) = [])
    (different : source ≠ target)
    {lease : PinnedBufferLease}
    (found : heap.leases source = some lease) :
    Sound sizeClasses maxPerClass (heap.transfer source target lease) where
  stocked := sound.stocked
  traced := traced_transfer sound.traced nothing different found
  valid := by
    apply valid_update
    · apply valid_update sound.valid
      intro placed data same owns
      obtain rfl := Option.some.inj same
      exact sound.valid source lease data found owns
    · intro placed data same owns
      obtain rfl := Option.some.inj same
      cases owns

/-- A lease gives its buffer back and is no longer there. -/
theorem Sound.released
    {heap : LeaseHeap}
    (sound : Sound sizeClasses maxPerClass heap)
    {target : Nat}
    {lease : PinnedBufferLease}
    (found : heap.leases target = some lease) :
    Sound sizeClasses maxPerClass
      ({ heap with pool := (lease.release heap.pool).1 }.place target none) := by
  have valid : ∀ data, lease.data = some data →
      Valid sizeClasses (heap.asked data) lease :=
    fun data owns => sound.valid target lease data found owns
  have named : ∀ data, lease.data = some data → lease.pool = true :=
    fun data owns => (valid data owns).pool
  have held : owned (heap.leases target) = owned (some lease) := by rw [found]
  refine ⟨stocked_release sound.stocked valid,
    traced_exchange sound.traced held rfl (exchange_release named), ?_⟩
  exact valid_update sound.valid nofun

/-- Every operation keeps the invariant. -/
theorem Sound.step
    {heap next : LeaseHeap}
    {operation : LeaseOperation}
    (sound : Sound sizeClasses maxPerClass heap)
    (stepped : heap.step operation = some next) :
    Sound sizeClasses maxPerClass next := by
  cases operation with
  | acquire target size allocates registers => exact sound.acquire stepped
  | moveConstruct source target =>
      dsimp only [LeaseHeap.step] at stepped
      split at stepped
      · next lease found absent =>
          obtain rfl := Option.some.inj stepped
          have different : source ≠ target := by
            rintro rfl
            rw [found] at absent
            cases absent
          exact sound.transfer (by rw [absent]; rfl) different found
      · cases stepped
  | moveAssign source target =>
      dsimp only [LeaseHeap.step] at stepped
      split at stepped
      · next lease assigned found there =>
          split at stepped
          · obtain rfl := Option.some.inj stepped
            exact sound
          · next different =>
              obtain rfl := Option.some.inj stepped
              have freed := sound.released there
              have nothing : owned (({ heap with
                  pool := (assigned.release heap.pool).1 }.place target
                    none).leases target) = [] := by
                simp [place, owned]
              have kept : ({ heap with
                  pool := (assigned.release heap.pool).1 }.place target
                    none).leases source = some lease := by
                simpa [place, Function.update_of_ne different] using found
              have after := freed.transfer nothing different kept
              have same :
                  ({ heap with
                      pool := (assigned.release heap.pool).1 }.place target
                    none).transfer source target lease =
                  { heap with
                      pool := (assigned.release heap.pool).1 }.transfer source
                    target lease := by
                simp [LeaseHeap.transfer, place]
              rw [same] at after
              exact after
      · cases stepped
  | destroy target =>
      dsimp only [LeaseHeap.step] at stepped
      split at stepped
      · cases stepped
      · next lease found =>
          obtain rfl := Option.some.inj stepped
          exact sound.released found
  | shutdown =>
      obtain rfl := Option.some.inj stepped
      exact ⟨stocked_shutDown sound.stocked,
        traced_shutDown sound.traced sound.stocked.outside, sound.valid⟩

/-! ## What is granted -/

@[simp] theorem isSome_data_allocate
    (capacity sizeClass : Nat)
    (allocates registers : Bool) :
    (pool.allocate capacity sizeClass allocates registers).2.data.isSome =
      (allocates && registers) := by
  cases allocates <;> cases registers <;> rfl

/-- `Acquire` of a size finds a cached buffer of its class, or else needs one to
be allocated and registered. -/
theorem Stocked.isSome_data_acquireLease
    (stocked : Stocked sizeClasses maxPerClass pool)
    {size : Nat}
    (positive : 0 < size)
    (allocates registers : Bool) :
    (pool.acquireLease size allocates registers).2.data.isSome = true ↔
      pool.freeLists (pool.pickClass size) ≠ [] ∨
        allocates = true ∧ registers = true := by
  rw [PinnedBufferPool.acquireLease, if_neg positive.ne']
  dsimp only
  split
  · next oversize =>
      -- Only classes have buffers in their lists.
      have nothing : pool.freeLists (pool.pickClass size) = [] := by
        rw [List.eq_nil_iff_forall_not_mem]
        intro buffer listed
        have own := stocked.ownClass _ buffer listed
        rw [oversize] at own
        cases own
      simp [nothing]
  · next capacity picked =>
      by_cases stopped : pool.shutdown = true
      · simp [stopped, stocked.drained stopped]
      · rw [if_neg stopped]
        split
        · next reuse taken =>
            have cached : pool.freeLists (pool.pickClass size) ≠ [] :=
              List.ne_nil_of_mem (List.mem_of_getLast? taken)
            simp [cached]
        · next empty =>
            rw [List.getLast?_eq_none_iff] at empty
            simp [empty]

/-- The lease of an `Acquire` has a buffer exactly if there is one to be had. -/
theorem Stocked.owned_step_acquire
    {heap after : LeaseHeap}
    (stocked : Stocked sizeClasses maxPerClass heap.pool)
    {target size : Nat}
    {allocates registers : Bool}
    (positive : 0 < size)
    (stepped : heap.step (.acquire target size allocates registers) =
      some after) :
    owned (after.leases target) ≠ [] ↔
      heap.pool.freeLists (heap.pool.pickClass size) ≠ [] ∨
        allocates = true ∧ registers = true := by
  rw [← stocked.isSome_data_acquireLease positive]
  dsimp only [LeaseHeap.step] at stepped
  split at stepped
  · cases stepped
  · obtain rfl := Option.some.inj stepped
    dsimp only
    rw [Function.update_self]
    cases result : (heap.pool.acquireLease size allocates registers).2.data <;>
      simp [owned, result]

/-! ## The theorem -/

/-- No buffer is lost or shared, none is left after a shutdown, and a lease has
a buffer if one is cached for its size or can be made. -/
structure Accounted
    (sizeClasses : List Nat)
    (maxPerClass : Nat)
    (heap : LeaseHeap) : Prop where
  traced : ∀ data, ∃ fate, Traced heap.pool heap.leases data fate
  limited : ∀ sizeClass, (heap.pool.freeLists sizeClass).length ≤ maxPerClass
  ownClass : ∀ sizeClass, ∀ buffer ∈ heap.pool.freeLists sizeClass,
    (sizeClasses.insertionSort (· ≤ ·))[sizeClass]? = some buffer.capacity
  fits : ∀ address lease data, heap.leases address = some lease →
    lease.data = some data →
      Fits sizeClasses (heap.asked data) lease.capacity
  nothingLeft : heap.pool.shutdown = true →
    (∀ address, owned (heap.leases address) = []) →
      ∀ data < heap.pool.allocated,
        heap.pool.freed.count data = 1 ∧
          heap.pool.deregistered.count data =
            heap.pool.registered.count data
  granted : ∀ target size allocates registers next, 0 < size →
    heap.step (.acquire target size allocates registers) = some next →
      (owned (next.leases target) ≠ [] ↔
        heap.pool.freeLists (heap.pool.pickClass size) ≠ [] ∨
          allocates = true ∧ registers = true)

/-- After any operations in any order, no buffer is lost or shared, the lists are
short, every lease serves its size, nothing is left once the pool has shut down
and no lease has a buffer, and an `Acquire` gets a buffer wherever it can. -/
theorem buffers_accounted
    {operations : List LeaseOperation}
    {heap : LeaseHeap}
    (path : machine.Path Machine.always (init sizeClasses maxPerClass) operations
      heap) :
    Accounted sizeClasses maxPerClass heap := by
  have sound := path.preserves
    (fun _ _ _ before _ stepped => Sound.step before stepped)
    (@sound_init sizeClasses maxPerClass)
  have stocked := sound.stocked
  refine ⟨sound.traced, stocked.limited, ?_, ?_, ?_, ?_⟩
  · rw [← stocked.classes]
    exact stocked.ownClass
  · intro address lease data found owns
    exact (sound.valid address lease data found owns).fits
  · intro stopped released data below
    obtain ⟨fate, traced⟩ := sound.traced data
    have registrations := traced.registrations
    have deregistrations := traced.deregistrations
    have frees := traced.frees
    cases fate with
    | unallocated => exact absurd (traced.fresh.mpr rfl) (Nat.not_le_of_lt below)
    | kept holder =>
        have member := traced.kept.mem
        cases holder with
        | bucket sizeClass =>
            rw [contents, stocked.drained stopped] at member
            cases member
        | lease address =>
            rw [contents, released] at member
            cases member
    | discarded =>
        exact ⟨frees, deregistrations.trans registrations.symm⟩
    | disposed =>
        exact ⟨frees, deregistrations.trans registrations.symm⟩
  · intro target size allocates registers next positive stepped
    exact stocked.owned_step_acquire positive stepped

end Invariant

/-- A small lease and one above all classes; the small one is moved, then assigned
to the other, and destroyed; another one takes its buffer. -/
private def leaseOperations : List LeaseOperation :=
  [.acquire 0 3 true true, .acquire 1 20 true true, .moveConstruct 0 2,
    .moveAssign 2 1, .destroy 1, .acquire 1 4 true true, .shutdown, .destroy 1]

private theorem leaseOperations_isSome :
    (machine.run Machine.always (init [16, 4] 1) leaseOperations).isSome =
      true := by
  decide

theorem buffers_accounted_two_leases :
    ∃ heap, machine.Path Machine.always (init [16, 4] 1) leaseOperations heap ∧
      Accounted [16, 4] 1 heap := by
  have path := Machine.path_of_run (Option.some_get leaseOperations_isSome).symm
  exact ⟨_, path, buffers_accounted path⟩

end LeaseHeap

end Gds
end Gateway
end TurboAccess
