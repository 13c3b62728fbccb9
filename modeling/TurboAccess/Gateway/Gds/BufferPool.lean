import Mathlib.Data.List.Sort
import TurboAccess.Lib.Machine

/-!
# The pool of pinned buffers

Buffers of fixed size classes are registered with the object server and kept in
one free list for each class.  A call of `Acquire` takes a buffer from its list,
or allocates and registers a new one; the end of a lease gives the buffer back,
or disposes of it; `Shutdown` sets the flag, empties the lists one by one, and
disposes of what it found.

`Release` reads the flag before it locks its list, so that it can give a buffer
back to a list that `Shutdown` has emptied already.  A lease and the calls made
for it are one thread of the pool; a host buffer and its registration are named
by the number of the allocation.
-/

namespace TurboAccess
namespace Gateway
namespace Gds

/-- A host buffer with its registration. -/
structure CachedBuffer where
  data : Nat
  capacity : Nat
  deriving DecidableEq, Repr

/-- The pool, and what the object server and the allocator were asked to do. -/
structure PinnedBufferPool where
  sizeClasses : List Nat
  maxPerClass : Nat
  freeLists : Nat → List CachedBuffer
  shutdown : Bool
  allocated : Nat
  registered : List Nat
  deregistered : List Nat
  freed : List Nat

/-- Where a lease is: there is none; `Acquire` is about to look into the free
list, to allocate, to register, or to free what it could not register; the lease
holds its buffer; `Release` is about to give it back; a buffer of a list is about
to be deregistered, or the first one freed; `Shutdown` is about to empty the
next free list. -/
inductive LeaseCall
  | idle
  | reusing (capacity sizeClass : Nat)
  | allocating (capacity sizeClass : Nat)
  | registering (data capacity sizeClass : Nat)
  | discarding (data : Nat)
  | leased (buffer : CachedBuffer) (sizeClass : Nat)
  | returning (buffer : CachedBuffer) (sizeClass : Nat)
  | draining (bucket : Nat) (toDestroy : List CachedBuffer)
  | disposing (buffers : List CachedBuffer)
  | freeing (data : Nat) (rest : List CachedBuffer)
  deriving DecidableEq, Repr

/-- The thread has no buffer, and there is none it is responsible for. -/
def LeaseCall.EmptyHanded : LeaseCall → Prop
  | .idle => True
  | .reusing _ _ => True
  | .allocating _ _ => True
  | .disposing [] => True
  | _ => False

/-- What a thread is asked to do: to start a call, or to go on with it, where
the allocation or the registration it makes succeeds or not. -/
inductive LeaseInput
  | acquire (size : Nat)
  | release
  | shutdown
  | proceed (succeeds : Bool)
  deriving DecidableEq, Repr

namespace PinnedBufferPool

/-- A pool that has just been constructed. -/
def init (sizeClasses : List Nat) (maxPerClass : Nat) : PinnedBufferPool where
  sizeClasses := sizeClasses.insertionSort (· ≤ ·)
  maxPerClass := maxPerClass
  freeLists := fun _ => []
  shutdown := false
  allocated := 0
  registered := []
  deregistered := []
  freed := []

/-- The first class that is large enough, or the number of classes. -/
def pickClass (pool : PinnedBufferPool) (size : Nat) : Nat :=
  pool.sizeClasses.findIdx fun capacity => decide (capacity ≥ size)

/-- The first section of `Acquire`, up to the load of the flag. -/
def acquire (pool : PinnedBufferPool) (size : Nat) : LeaseCall :=
  if size = 0 then .idle
  else
    match pool.sizeClasses[pool.pickClass size]? with
    | none => .allocating size pool.sizeClasses.length
    | some capacity =>
        if pool.shutdown then .allocating capacity (pool.pickClass size)
        else .reusing capacity (pool.pickClass size)

/-- Replace the free list of a class. -/
def setFreeList
    (pool : PinnedBufferPool)
    (sizeClass : Nat)
    (buffers : List CachedBuffer) : PinnedBufferPool :=
  { pool with freeLists := Function.update pool.freeLists sizeClass buffers }

/-- Next atomic section of a thread. -/
def advance (pool : PinnedBufferPool) :
    LeaseCall → LeaseInput → Option (PinnedBufferPool × LeaseCall)
  | .idle, .acquire size => some (pool, pool.acquire size)
  | .reusing capacity sizeClass, .proceed _ =>
      match (pool.freeLists sizeClass).getLast? with
      | some reuse =>
          some (pool.setFreeList sizeClass
            (pool.freeLists sizeClass).dropLast, .leased reuse sizeClass)
      | none => some (pool, .allocating capacity sizeClass)
  | .allocating capacity sizeClass, .proceed true =>
      some ({ pool with allocated := pool.allocated + 1 },
        .registering pool.allocated capacity sizeClass)
  | .allocating _ _, .proceed false => some (pool, .idle)
  | .registering data capacity sizeClass, .proceed true =>
      some ({ pool with registered := pool.registered ++ [data] },
        .leased ⟨data, capacity⟩ sizeClass)
  | .registering data _ _, .proceed false => some (pool, .discarding data)
  | .discarding data, .proceed _ =>
      some ({ pool with freed := pool.freed ++ [data] }, .idle)
  | .idle, .release => some (pool, .idle)
  | .leased buffer sizeClass, .release =>
      if pool.shutdown ∨ sizeClass ≥ pool.sizeClasses.length then
        some (pool, .disposing [buffer])
      else some (pool, .returning buffer sizeClass)
  | .returning buffer sizeClass, .proceed _ =>
      if (pool.freeLists sizeClass).length ≥ pool.maxPerClass then
        some (pool, .disposing [buffer])
      else
        some (pool.setFreeList sizeClass
          (pool.freeLists sizeClass ++ [buffer]), .idle)
  | .idle, .shutdown =>
      if pool.shutdown then some (pool, .idle)
      else some ({ pool with shutdown := true }, .draining 0 [])
  | .draining bucket toDestroy, .proceed _ =>
      if bucket < pool.sizeClasses.length then
        some (pool.setFreeList bucket [],
          .draining (bucket + 1) (toDestroy ++ pool.freeLists bucket))
      else some (pool, .disposing toDestroy)
  | .disposing [], .proceed _ => some (pool, .idle)
  | .disposing (buffer :: rest), .proceed _ =>
      some ({ pool with deregistered := pool.deregistered ++ [buffer.data] },
        .freeing buffer.data rest)
  | .freeing data rest, .proceed _ =>
      some ({ pool with freed := pool.freed ++ [data] }, .disposing rest)
  | _, _ => none

/-! ## What one section can do -/

/-- The sections of a thread: from one state of the pool and of the thread to
the next. -/
inductive Advances (pool : PinnedBufferPool) :
    LeaseCall → PinnedBufferPool → LeaseCall → Prop
  | idled (before after : LeaseCall)
      (empty : before.EmptyHanded)
      (nothing : after.EmptyHanded) :
      Advances pool before pool after
  | reused (capacity sizeClass : Nat)
      (rest : List CachedBuffer)
      (buffer : CachedBuffer)
      (found : pool.freeLists sizeClass = rest ++ [buffer]) :
      Advances pool (.reusing capacity sizeClass)
        (pool.setFreeList sizeClass rest) (.leased buffer sizeClass)
  | allocated (capacity sizeClass : Nat) :
      Advances pool (.allocating capacity sizeClass)
        { pool with allocated := pool.allocated + 1 }
        (.registering pool.allocated capacity sizeClass)
  | registered (data capacity sizeClass : Nat) :
      Advances pool (.registering data capacity sizeClass)
        { pool with registered := pool.registered ++ [data] }
        (.leased ⟨data, capacity⟩ sizeClass)
  | unregistered (data capacity sizeClass : Nat) :
      Advances pool (.registering data capacity sizeClass) pool
        (.discarding data)
  | discarded (data : Nat) :
      Advances pool (.discarding data)
        { pool with freed := pool.freed ++ [data] } .idle
  | offered (buffer : CachedBuffer) (sizeClass : Nat)
      (inside : sizeClass < pool.sizeClasses.length) :
      Advances pool (.leased buffer sizeClass) pool
        (.returning buffer sizeClass)
  | condemned (buffer : CachedBuffer) (sizeClass : Nat) :
      Advances pool (.leased buffer sizeClass) pool (.disposing [buffer])
  | refused (buffer : CachedBuffer) (sizeClass : Nat) :
      Advances pool (.returning buffer sizeClass) pool (.disposing [buffer])
  | returned (buffer : CachedBuffer) (sizeClass : Nat)
      (room : (pool.freeLists sizeClass).length < pool.maxPerClass) :
      Advances pool (.returning buffer sizeClass)
        (pool.setFreeList sizeClass (pool.freeLists sizeClass ++ [buffer]))
        .idle
  | flagged :
      Advances pool .idle { pool with shutdown := true } (.draining 0 [])
  | drained (bucket : Nat) (toDestroy : List CachedBuffer) :
      Advances pool (.draining bucket toDestroy) (pool.setFreeList bucket [])
        (.draining (bucket + 1) (toDestroy ++ pool.freeLists bucket))
  | swept (bucket : Nat) (toDestroy : List CachedBuffer)
      (all : pool.sizeClasses.length ≤ bucket) :
      Advances pool (.draining bucket toDestroy) pool (.disposing toDestroy)
  | deregistered (buffer : CachedBuffer) (rest : List CachedBuffer) :
      Advances pool (.disposing (buffer :: rest))
        { pool with deregistered := pool.deregistered ++ [buffer.data] }
        (.freeing buffer.data rest)
  | freed (data : Nat) (rest : List CachedBuffer) :
      Advances pool (.freeing data rest)
        { pool with freed := pool.freed ++ [data] } (.disposing rest)

theorem emptyHanded_acquire (pool : PinnedBufferPool) (size : Nat) :
    (pool.acquire size).EmptyHanded := by
  fun_cases acquire pool size <;> exact trivial

/-- Every section is one of the listed ones. -/
theorem advances_of_advance
    {pool next : PinnedBufferPool}
    {before after : LeaseCall}
    {input : LeaseInput}
    (advanced : pool.advance before input = some (next, after)) :
    Advances pool before next after := by
  revert advanced
  fun_cases advance pool before input <;> intro advanced <;> cases advanced
  case case1 size => exact .idled _ _ trivial (emptyHanded_acquire pool size)
  case case2 capacity sizeClass _ last found =>
    refine .reused capacity sizeClass _ last ?_
    exact (List.dropLast_append_getLast? last found).symm
  case case3 => exact .idled _ _ trivial trivial
  case case4 => exact .allocated _ _
  case case5 => exact .idled _ _ trivial trivial
  case case6 => exact .registered _ _ _
  case case7 => exact .unregistered _ _ _
  case case8 => exact .discarded _
  case case9 => exact .idled _ _ trivial trivial
  case case10 => exact .condemned _ _
  case case11 accepts => exact .offered _ _ (by omega)
  case case12 => exact .refused _ _
  case case13 room => exact .returned _ _ (by omega)
  case case14 => exact .idled _ _ trivial trivial
  case case15 => exact .flagged
  case case16 => exact .drained _ _
  case case17 all => exact .swept _ _ (by omega)
  case case18 => exact .idled _ _ trivial trivial
  case case19 => exact .deregistered _ _
  case case20 => exact .freed _ _

end PinnedBufferPool

/-- The pool and the leases on it. -/
abbrev LeasePool := Pool PinnedBufferPool LeaseCall

namespace LeasePool

/-- All interleavings of calls of `Acquire`, releases and calls of `Shutdown`. -/
def machine : Machine LeasePool (Nat × LeaseInput) where
  initial pool := ∃ sizeClasses maxPerClass,
    pool = ⟨.init sizeClasses maxPerClass, fun _ => .idle⟩
  step := Pool.step PinnedBufferPool.advance

end LeasePool

end Gds
end Gateway
end TurboAccess
