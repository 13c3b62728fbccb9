import TurboAccess.Gateway.Gds.BufferPool
import TurboAccess.Lib.Custody

/-!
# Leases of pinned buffers

A lease owns a buffer of the pool until it is moved from, assigned to or
destroyed.  The operations of the pool and of its leases are atomic here, and come
in any order.

A buffer is in one lease, or in the free list of its class, or it was disposed
of: deregistered once if it was registered, and freed once.
-/

namespace TurboAccess
namespace Gateway
namespace Gds

/-- A lease: whether it names the pool, its buffer with the capacity, and the
class of the buffer.  The registration goes with the buffer. -/
structure PinnedBufferLease where
  pool : Bool
  data : Option Nat
  capacity : Nat
  sizeClass : Nat
  deriving DecidableEq, Repr

/-- A lease that owns nothing. -/
def PinnedBufferLease.empty : PinnedBufferLease := ⟨false, none, 0, 0⟩

namespace PinnedBufferPool

/-! ## Operations of the pool -/

def dispose (pool : PinnedBufferPool) (cached : CachedBuffer) :
    PinnedBufferPool :=
  { pool with
    deregistered := pool.deregistered ++ [cached.data]
    freed := pool.freed ++ [cached.data] }

/-- Take a buffer back: into its list, unless the pool has shut down, the buffer
has no class, or the list is full. -/
def release
    (pool : PinnedBufferPool)
    (record : CachedBuffer)
    (sizeClass : Nat) : PinnedBufferPool :=
  if pool.shutdown ∨ sizeClass ≥ pool.sizeClasses.length then
    pool.dispose record
  else if (pool.freeLists sizeClass).length ≥ pool.maxPerClass then
    pool.dispose record
  else pool.setFreeList sizeClass (pool.freeLists sizeClass ++ [record])

/-- Allocate a buffer and register it; one that cannot be registered is freed. -/
def allocate
    (pool : PinnedBufferPool)
    (capacity sizeClass : Nat)
    (allocates registers : Bool) : PinnedBufferPool × PinnedBufferLease :=
  if allocates = false then (pool, .empty)
  else
    let data := pool.allocated
    let pool := { pool with allocated := pool.allocated + 1 }
    if registers = false then
      ({ pool with freed := pool.freed ++ [data] }, .empty)
    else
      ({ pool with registered := pool.registered ++ [data] },
        ⟨true, some data, capacity, sizeClass⟩)

/-- The whole of `Acquire`. -/
def acquireLease
    (pool : PinnedBufferPool)
    (size : Nat)
    (allocates registers : Bool) : PinnedBufferPool × PinnedBufferLease :=
  if size = 0 then (pool, .empty)
  else
    let idx := pool.pickClass size
    match pool.sizeClasses[idx]? with
    | none =>
        pool.allocate size pool.sizeClasses.length allocates registers
    | some capacity =>
        match if pool.shutdown then none else (pool.freeLists idx).getLast? with
        | some reuse =>
            (pool.setFreeList idx (pool.freeLists idx).dropLast,
              ⟨true, some reuse.data, reuse.capacity, idx⟩)
        | none => pool.allocate capacity idx allocates registers

/-- The whole of `Shutdown`. -/
def shutDown (pool : PinnedBufferPool) : PinnedBufferPool :=
  if pool.shutdown then pool
  else
    let toDestroy := (List.range pool.sizeClasses.length).flatMap pool.freeLists
    toDestroy.foldl dispose
      { pool with
        shutdown := true
        freeLists := fun bucket =>
          if bucket < pool.sizeClasses.length then []
          else pool.freeLists bucket }

end PinnedBufferPool

namespace PinnedBufferLease

/-- Give the buffer of a lease back, if it has one. -/
def release
    (lease : PinnedBufferLease)
    (pool : PinnedBufferPool) : PinnedBufferPool × PinnedBufferLease :=
  match lease.data with
  | none => (pool, lease)
  | some data =>
      (if lease.pool then pool.release ⟨data, lease.capacity⟩ lease.sizeClass
        else { pool with freed := pool.freed ++ [data] }, .empty)

/-- The buffer that a lease owns. -/
def owned : Option PinnedBufferLease → List Nat
  | none => []
  | some lease => lease.data.toList

end PinnedBufferLease

/-! ## Any number of leases -/

/-- The pool and the lease objects, by their addresses, with the size that the
last `Acquire` of a buffer has asked for. -/
structure LeaseHeap where
  pool : PinnedBufferPool
  leases : Nat → Option PinnedBufferLease
  asked : Nat → Nat

/-- An operation: a call of `Acquire` at an address, where the allocation and the
registration succeed or not, the two moves, a destruction, or a call of
`Shutdown`. -/
inductive LeaseOperation
  | acquire (target size : Nat) (allocates registers : Bool)
  | moveConstruct (source target : Nat)
  | moveAssign (source target : Nat)
  | destroy (target : Nat)
  | shutdown
  deriving DecidableEq, Repr

namespace LeaseHeap

def init (sizeClasses : List Nat) (maxPerClass : Nat) : LeaseHeap :=
  ⟨.init sizeClasses maxPerClass, fun _ => none, fun _ => 0⟩

/-- Place a lease at an address. -/
def place
    (heap : LeaseHeap)
    (target : Nat)
    (lease : Option PinnedBufferLease) : LeaseHeap :=
  { heap with leases := Function.update heap.leases target lease }

/-- Copy the fields of a lease and reset the source. -/
def transfer
    (heap : LeaseHeap)
    (source target : Nat)
    (lease : PinnedBufferLease) : LeaseHeap :=
  (heap.place target (some lease)).place source (some .empty)

/-- Next state; an object is constructed where there is none, and used where there
is one. -/
def step (heap : LeaseHeap) : LeaseOperation → Option LeaseHeap
  | .acquire target size allocates registers =>
      match heap.leases target with
      | some _ => none
      | none =>
          let (pool, lease) := heap.pool.acquireLease size allocates registers
          some
            { pool
              leases := Function.update heap.leases target (some lease)
              asked :=
                match lease.data with
                | none => heap.asked
                | some data => Function.update heap.asked data size }
  | .moveConstruct source target =>
      match heap.leases source, heap.leases target with
      | some lease, none => some (heap.transfer source target lease)
      | _, _ => none
  | .moveAssign source target =>
      match heap.leases source, heap.leases target with
      | some lease, some assigned =>
          if source = target then some heap
          else
            let (pool, _) := assigned.release heap.pool
            some ({ heap with pool }.transfer source target lease)
      | _, _ => none
  | .destroy target =>
      match heap.leases target with
      | none => none
      | some lease =>
          let (pool, _) := lease.release heap.pool
          some ({ heap with pool }.place target none)
  | .shutdown => some { heap with pool := heap.pool.shutDown }

/-- All sequences of operations. -/
def machine : Machine LeaseHeap LeaseOperation where
  initial heap := ∃ sizeClasses maxPerClass, heap = init sizeClasses maxPerClass
  step := step

end LeaseHeap

end Gds
end Gateway
end TurboAccess
