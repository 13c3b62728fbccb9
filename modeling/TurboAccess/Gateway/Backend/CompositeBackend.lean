import Mathlib.Data.List.Sort
import TurboAccess.Gateway.Backend.MemoryDataStore

/-!
# Index store and composite backend

The in-memory index of objects and multipart uploads, and the backend that puts
it together with the data store.  An object write changes the data store first
and the index second; the two sections are under different locks.  The backend
keeps its own map from upload identifiers to destinations.
-/

namespace TurboAccess
namespace Gateway

/-! ## The index store -/

/-- Index record of an open multipart upload. -/
structure MpuRecord where
  bucket : String
  key : String
  totalSizeHint : Option Nat
  deriving DecidableEq

/-- State of the memory index store. -/
structure MemoryIndexStore where
  entries : Table String ObjectMetadata
  mpu : Table String MpuRecord
  mpuSeq : Nat
  deriving DecidableEq

namespace MemoryIndexStore

/-- An empty index. -/
def init : MemoryIndexStore := ⟨∅, ∅, 0⟩

def head (store : MemoryIndexStore) (bucket key : String) :
    Result ObjectMetadata :=
  match store.entries.lookup (makeKey bucket key) with
  | none => .error (makeError .notFound "object not found")
  | some metadata => .ok metadata

def putObjectIndex
    (store : MemoryIndexStore)
    (bucket key : String)
    (metadata : ObjectMetadata) : MemoryIndexStore :=
  { store with entries := store.entries.insert (makeKey bucket key) metadata }

def deleteObjectIndex
    (store : MemoryIndexStore)
    (bucket key : String) : Result Bool × MemoryIndexStore :=
  let id := makeKey bucket key
  (.ok (store.entries.lookup id).isSome,
    { store with entries := store.entries.erase id })

/-- Open an upload under a fresh identifier. -/
def startMultipart
    (store : MemoryIndexStore)
    (bucket key : String)
    (totalSizeHint : Option Nat)
    (now : Nat) : String × MemoryIndexStore :=
  let seq := store.mpuSeq + 1
  let uploadId := mpuId seq now
  (uploadId,
    { store with
      mpuSeq := seq
      mpu := store.mpu.emplace uploadId ⟨bucket, key, totalSizeHint⟩ })

def abortMultipart
    (store : MemoryIndexStore)
    (uploadId : String) : Result Bool × MemoryIndexStore :=
  (.ok (store.mpu.lookup uploadId).isSome,
    { store with mpu := store.mpu.erase uploadId })

/-- Error of a commit whose upload is not in the index. -/
def uploadNotFound : Error :=
  makeError .notFound "multipart upload_id not found in index"

/-- First section of `commitMultipart`: take the upload's record out. -/
def takeMultipart
    (store : MemoryIndexStore)
    (uploadId : String) : Option MemoryIndexStore :=
  match store.mpu.lookup uploadId with
  | none => none
  | some _ => some { store with mpu := store.mpu.erase uploadId }

/-- Close an upload and register the final object. -/
def commitMultipart
    (store : MemoryIndexStore)
    (uploadId bucket key : String)
    (metadata : ObjectMetadata) : Result ObjectMetadata × MemoryIndexStore :=
  match store.takeMultipart uploadId with
  | none => (.error uploadNotFound, store)
  | some taken => (.ok metadata, taken.putObjectIndex bucket key metadata)

end MemoryIndexStore

/-! ## The composite backend -/

/-- A part named by its number and the entity tag of its write. -/
structure PartRecord where
  partNumber : Nat
  etag : String
  deriving DecidableEq

/-- Index, data and the destinations of open uploads. -/
structure CompositeBackend where
  index : MemoryIndexStore
  data : MemoryDataStore
  mpuTargets : Table String (String × String)
  deriving DecidableEq

namespace CompositeBackend

/-- A backend over empty memory stores. -/
def init (capacityBytes : Nat) : CompositeBackend :=
  ⟨.init, .init capacityBytes, ∅⟩

def head (backend : CompositeBackend) (bucket key : String) :
    Result ObjectMetadata :=
  backend.index.head bucket key

def read
    (backend : CompositeBackend)
    (bucket key : String)
    (offset size : Nat) : Result Bytes :=
  backend.data.read bucket key offset size

/-- Size the index registers for a range write. -/
def writtenSize
    (offset : Nat)
    (source : Bytes)
    (totalSize : Option Nat) : Nat :=
  totalSize.getD (addWord offset source.length)

def writeRange
    (backend : CompositeBackend)
    (bucket key : String)
    (offset : Nat)
    (source : Bytes)
    (totalSize : Option Nat)
    (now : Nat) : Result ObjectMetadata × CompositeBackend :=
  match backend.data.writeRange bucket key offset source totalSize with
  | (.error error, data) => (.error error, { backend with data })
  | (.ok _, data) =>
      let metadata := makeMeta (writtenSize offset source totalSize) now
      (.ok metadata,
        { backend with
          data
          index := backend.index.putObjectIndex bucket key metadata })

/-- Store a whole object. -/
def write
    (backend : CompositeBackend)
    (bucket key : String)
    (source : Bytes)
    (now : Nat) : Result ObjectMetadata × CompositeBackend :=
  backend.writeRange bucket key 0 source (some source.length) now

/-- Write the blocks of a zero-copy buffer one after the other, up to the
first one that is refused. -/
def writeEach
    (bucket key : String)
    (totalSize : Nat) :
    (data : MemoryDataStore) → (offset : Nat) → (blocks : List Bytes) →
      Result Unit × MemoryDataStore
  | data, _, [] => (.ok (), data)
  | data, offset, block :: blocks =>
      match data.writeRange bucket key offset block (some totalSize) with
      | (.error error, data) => (.error error, data)
      | (.ok _, data) =>
          writeEach bucket key totalSize data (addWord offset block.length)
            blocks

/-- Store a whole object from a zero-copy buffer. -/
def writeBlocks
    (backend : CompositeBackend)
    (bucket key : String)
    (source : List Bytes)
    (now : Nat) : Result ObjectMetadata × CompositeBackend :=
  let totalSize := source.flatten.length
  match backend.data.reserve bucket key totalSize with
  | (.error error, data) => (.error error, { backend with data })
  | (.ok _, data) =>
      match writeEach bucket key totalSize data 0 source with
      | (.error error, data) => (.error error, { backend with data })
      | (.ok _, data) =>
          let metadata := makeMeta totalSize now
          (.ok metadata,
            { backend with
              data
              index := backend.index.putObjectIndex bucket key metadata })

def reserve
    (backend : CompositeBackend)
    (bucket key : String)
    (totalSize now : Nat) : Result ObjectMetadata × CompositeBackend :=
  match backend.data.reserve bucket key totalSize with
  | (.error error, data) => (.error error, { backend with data })
  | (.ok _, data) =>
      let metadata := makeMeta totalSize now
      (.ok metadata,
        { backend with
          data
          index := backend.index.putObjectIndex bucket key metadata })

/-- Remember the destination of an upload. -/
def addTarget
    (backend : CompositeBackend)
    (uploadId bucket key : String) : CompositeBackend :=
  { backend with
    mpuTargets := backend.mpuTargets.emplace uploadId (bucket, key) }

/-- Forget the destination of an upload. -/
def eraseTarget
    (backend : CompositeBackend)
    (uploadId : String) : CompositeBackend :=
  { backend with mpuTargets := backend.mpuTargets.erase uploadId }

def startMultipart
    (backend : CompositeBackend)
    (bucket key : String)
    (totalSizeHint : Option Nat)
    (now : Nat) : String × CompositeBackend :=
  let (uploadId, index) :=
    backend.index.startMultipart bucket key totalSizeHint now
  (uploadId, ({ backend with index }).addTarget uploadId bucket key)

/-- Stage a range of a part; the entity tag is made from the clock. -/
def writePart
    (backend : CompositeBackend)
    (uploadId : String)
    (partNumber offset : Nat)
    (source : Bytes)
    (now : Nat) : Result String × CompositeBackend :=
  match backend.data.writePart uploadId partNumber offset source with
  | (.error error, data) => (.error error, { backend with data })
  | (.ok _, data) =>
      (.ok (makePartEtag partNumber source.length now), { backend with data })

/-- Stage the blocks of a zero-copy buffer one after the other, up to the
first one that is refused. -/
def writePartEach
    (uploadId : String)
    (partNumber : Nat) :
    (data : MemoryDataStore) → (offset : Nat) → (blocks : List Bytes) →
      Result Unit × MemoryDataStore
  | data, _, [] => (.ok (), data)
  | data, offset, block :: blocks =>
      match data.writePart uploadId partNumber offset block with
      | (.error error, data) => (.error error, data)
      | (.ok _, data) =>
          writePartEach uploadId partNumber data
            (addWord offset block.length) blocks

/-- Stage a range of a part from a zero-copy buffer. -/
def writePartBlocks
    (backend : CompositeBackend)
    (uploadId : String)
    (partNumber baseOffset : Nat)
    (source : List Bytes)
    (now : Nat) : Result String × CompositeBackend :=
  match writePartEach uploadId partNumber backend.data baseOffset source with
  | (.error error, data) => (.error error, { backend with data })
  | (.ok _, data) =>
      (.ok (makePartEtag partNumber source.flatten.length now),
        { backend with data })

/-- Part numbers of a list of parts in ascending order. -/
def orderedNumbers (parts : List PartRecord) : List Nat :=
  (parts.map PartRecord.partNumber).insertionSort (· ≤ ·)

/-- Error of a completion whose destination is not known. -/
def targetNotFound : Error :=
  makeError .notFound "upload_id not found in composite mapping"

/-- Assemble the parts into the destination and register it. -/
def completeMultipart
    (backend : CompositeBackend)
    (uploadId : String)
    (parts : List PartRecord)
    (now : Nat) : Result ObjectMetadata × CompositeBackend :=
  match backend.mpuTargets.lookup uploadId with
  | none => (.error targetNotFound, backend)
  | some (bucket, key) =>
      match backend.data.assembleObject uploadId bucket key
          (orderedNumbers parts) with
      | (.error error, data) => (.error error, { backend with data })
      | (.ok size, data) =>
          let metadata := makeMeta size now
          match backend.index.commitMultipart uploadId bucket key
              metadata with
          | (.error error, index) =>
              (.error error, { backend with data, index })
          | (.ok _, index) =>
              (.ok metadata,
                ({ backend with data, index }).eraseTarget uploadId)

/-- Abort an upload in the data store, in the index and in the map. -/
def abortMultipart
    (backend : CompositeBackend)
    (uploadId : String) : Result Bool × CompositeBackend :=
  let data := (backend.data.abortMultipartData uploadId).2
  let index := (backend.index.abortMultipart uploadId).2
  (.ok true, ({ backend with data, index }).eraseTarget uploadId)

end CompositeBackend

end Gateway
end TurboAccess
