import TurboAccess.Lib.Table
import TurboAccess.Gateway.Types

/-!
# In-memory object bytes

Object bodies and the staged parts of multipart uploads, under one global
capacity.  Each operation of the store is one critical section, except
`assembleObject`, which detaches the staging of an upload under the multipart
lock, releases its capacity under no lock, and installs the assembled body under
the lock of the destination's shard.  The three sections are definitions of
their own, and `assembleObject` runs them in a row.

The capacity counter uses the wrapping arithmetic of the code.
-/

namespace TurboAccess
namespace Gateway

/-- Staged parts of one multipart upload. -/
structure MpuParts where
  parts : Table Nat Bytes
  reservedBytes : Nat
  deriving DecidableEq

/-- State of the memory data store. -/
structure MemoryDataStore where
  capacityBytes : Nat
  usedBytes : Nat
  bodies : Table String Bytes
  mpu : Table String MpuParts
  deriving DecidableEq

namespace MpuParts

/-- Staging created on first use. -/
def empty : MpuParts := ⟨∅, 0⟩

/-- Bytes of one staged part, empty when it was never written. -/
def part (staging : MpuParts) (partNumber : Nat) : Bytes :=
  (staging.parts.lookup partNumber).getD []

/-- Sum of the sizes of all staged parts. -/
def size (staging : MpuParts) : Nat := staging.parts.weight List.length

end MpuParts

namespace MemoryDataStore

/-- An empty store. -/
def init (capacityBytes : Nat) : MemoryDataStore := ⟨capacityBytes, 0, ∅, ∅⟩

/-- Error of every operation that does not fit into the store. -/
def capacityExceeded : Error :=
  makeError .capacityExceeded "memory data store capacity exceeded"

/-- Take `growth` bytes of capacity, or refuse. -/
def reserveBytes
    (store : MemoryDataStore)
    (growth : Nat) : Option MemoryDataStore :=
  if growth = 0 then some store
  else
    let target := addWord store.usedBytes growth
    if target > store.capacityBytes then none
    else some { store with usedBytes := target }

/-- Give back capacity. -/
def releaseBytes
    (store : MemoryDataStore)
    (bytes : Nat) : MemoryDataStore :=
  if bytes = 0 then store
  else { store with usedBytes := subWord store.usedBytes bytes }

/-- Body of an object, empty when the object does not exist. -/
def body (store : MemoryDataStore) (id : String) : Bytes :=
  (store.bodies.lookup id).getD []

/-- Replace the body of an object. -/
def setBody
    (store : MemoryDataStore)
    (id : String)
    (bytes : Bytes) : MemoryDataStore :=
  { store with bodies := store.bodies.insert id bytes }

/-- Drop the body of an object. -/
def dropBody (store : MemoryDataStore) (id : String) : MemoryDataStore :=
  { store with bodies := store.bodies.erase id }

/-- The part `reserve` and `writeRange` share: give the body of an object the
size `target`, settling the capacity by the difference.  A failed growth drops
the body when it was empty. -/
def fitBody
    (store : MemoryDataStore)
    (id : String)
    (target : Nat) : Bool × MemoryDataStore :=
  let body := store.body id
  let oldSize := body.length
  if target > oldSize then
    match store.reserveBytes (target - oldSize) with
    | none =>
        (false, if oldSize = 0 then store.dropBody id
          else store.setBody id body)
    | some reserved => (true, reserved.setBody id (body.resize target))
  else if target < oldSize then
    (true, (store.setBody id (body.resize target)).releaseBytes
      (oldSize - target))
  else (true, store.setBody id body)

/-- Size the object to `totalSize` in one step. -/
def reserve
    (store : MemoryDataStore)
    (bucket key : String)
    (totalSize : Nat) : Result Bool × MemoryDataStore :=
  let id := makeKey bucket key
  match store.fitBody id totalSize with
  | (false, fitted) => (.error capacityExceeded, fitted)
  | (true, fitted) => (.ok true, fitted)

/-- Write `source` at `offset`; `totalSize` sizes the object first. -/
def writeRange
    (store : MemoryDataStore)
    (bucket key : String)
    (offset : Nat)
    (source : Bytes)
    (totalSize : Option Nat) : Result Bool × MemoryDataStore :=
  let id := makeKey bucket key
  let finish := addWord offset source.length
  let target := max (totalSize.getD finish) finish
  match store.fitBody id target with
  | (false, fitted) => (.error capacityExceeded, fitted)
  | (true, fitted) =>
      (.ok true, if source.isEmpty then fitted
        else fitted.setBody id ((fitted.body id).overwrite offset source))

/-- Read up to `size` bytes from `offset`. -/
def read
    (store : MemoryDataStore)
    (bucket key : String)
    (offset size : Nat) : Result Bytes :=
  match store.bodies.lookup (makeKey bucket key) with
  | none => .error (makeError .notFound "object data not found")
  | some body =>
      if offset > body.length then
        .error (makeError .rangeNotSatisfiable "offset beyond object size")
      else .ok ((body.drop offset).take (min (body.length - offset) size))

/-- Remove an object and give back its capacity. -/
def deleteObject
    (store : MemoryDataStore)
    (bucket key : String) : Result Bool × MemoryDataStore :=
  let id := makeKey bucket key
  match store.bodies.lookup id with
  | none => (.ok false, store)
  | some body =>
      (.ok true, (store.releaseBytes body.length).dropBody id)

/-- Staging of an upload, created on first use. -/
def staging (store : MemoryDataStore) (uploadId : String) : MpuParts :=
  (store.mpu.lookup uploadId).getD MpuParts.empty

/-- Replace the staging of an upload. -/
def setStaging
    (store : MemoryDataStore)
    (uploadId : String)
    (staging : MpuParts) : MemoryDataStore :=
  { store with mpu := store.mpu.insert uploadId staging }

/-- Accumulate `source` at `offset` of one staged part.  The staging and the
part exist afterwards even when the write is refused. -/
def writePart
    (store : MemoryDataStore)
    (uploadId : String)
    (partNumber offset : Nat)
    (source : Bytes) : Result Bool × MemoryDataStore :=
  let staging := store.staging uploadId
  let part := staging.part partNumber
  let finish := addWord offset source.length
  let oldSize := part.length
  if finish > oldSize then
    match store.reserveBytes (finish - oldSize) with
    | none =>
        (.error capacityExceeded, store.setStaging uploadId
          { staging with parts := staging.parts.insert partNumber part })
    | some reserved =>
        (.ok true, reserved.setStaging uploadId
          { parts := staging.parts.insert partNumber
              ((part.resize finish).overwrite offset source)
            reservedBytes :=
              addWord staging.reservedBytes (finish - oldSize) })
  else
    (.ok true, store.setStaging uploadId
      { staging with
        parts := staging.parts.insert partNumber
          (part.overwrite offset source) })

/-- Drop the staging of an upload and give back its capacity. -/
def abortMultipartData
    (store : MemoryDataStore)
    (uploadId : String) : Result Bool × MemoryDataStore :=
  match store.mpu.lookup uploadId with
  | none => (.ok false, store)
  | some staging =>
      let released := store.releaseBytes staging.reservedBytes
      (.ok true, { released with mpu := released.mpu.erase uploadId })

/-! ## Assembling an object -/

/-- First section of `assembleObject`: move the staging of an upload out of
the multipart table. -/
def detachStaging
    (store : MemoryDataStore)
    (uploadId : String) : Option (MpuParts × MemoryDataStore) :=
  match store.mpu.lookup uploadId with
  | none => none
  | some staging =>
      some (staging, { store with mpu := store.mpu.erase uploadId })

/-- Total length of the listed parts, or nothing when one is missing. -/
def assembledSize
    (staging : MpuParts)
    (partNumbers : List Nat) : Option Nat :=
  partNumbers.foldlM (fun total partNumber =>
    (staging.parts.lookup partNumber).map fun part =>
      addWord total part.length) 0

/-- Concatenation of the listed parts. -/
def assembledBytes (staging : MpuParts) (partNumbers : List Nat) : Bytes :=
  partNumbers.flatMap staging.part

/-- Last section of `assembleObject`: install the assembled body, settling the
capacity by the difference. -/
def installBody
    (store : MemoryDataStore)
    (id : String)
    (total : Nat)
    (assembled : Bytes) : Bool × MemoryDataStore :=
  let body := store.body id
  let oldSize := body.length
  if total > oldSize then
    match store.reserveBytes (total - oldSize) with
    | none =>
        (false, if oldSize = 0 then store.dropBody id
          else store.setBody id body)
    | some reserved => (true, reserved.setBody id assembled)
  else if total < oldSize then
    (true, (store.releaseBytes (oldSize - total)).setBody id assembled)
  else (true, store.setBody id assembled)

/-- Error of an upload without staging. -/
def stagingNotFound : Error :=
  makeError .notFound "upload_id not found in data store"

/-- Error of a listed part that was never staged. -/
def partMissing : Error :=
  makeError .badRequest "part_number missing in upload data"

/-- Concatenate the listed parts into an object and drop the staging. -/
def assembleObject
    (store : MemoryDataStore)
    (uploadId bucket key : String)
    (partNumbers : List Nat) : Result Nat × MemoryDataStore :=
  match store.detachStaging uploadId with
  | none => (.error stagingNotFound, store)
  | some (staging, detached) =>
      let released := detached.releaseBytes staging.reservedBytes
      match assembledSize staging partNumbers with
      | none => (.error partMissing, released)
      | some total =>
          match released.installBody (makeKey bucket key) total
              (assembledBytes staging partNumbers) with
          | (false, installed) => (.error capacityExceeded, installed)
          | (true, installed) => (.ok total, installed)

end MemoryDataStore

end Gateway
end TurboAccess
