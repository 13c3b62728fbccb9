import TurboAccess.Lib.Service
import TurboAccess.Lib.Sharded
import TurboAccess.Gateway.Backend.Capacity
import TurboAccess.Gateway.Backend.CompositeBackend

/-!
# The shards of the memory stores

The bodies of the data store and the entries of the index store are in
thirty-two shards each, by the hash of the bucket and the key.  The staged parts
and the open uploads are in one table.  Whatever the hash, the stores answer as
ones with whole tables.
-/

namespace TurboAccess
namespace Gateway

/-! ## Bodies -/

/-- What the data store has beside the shards. -/
structure DataRest where
  capacityBytes : Nat
  usedBytes : Nat
  mpu : Table String MpuParts

/-- Operations of the data store. -/
inductive DataRequest
  | reserve (bucket key : String) (totalSize : Nat)
  | writeRange (bucket key : String) (offset : Nat) (source : Bytes)
      (totalSize : Option Nat)
  | read (bucket key : String) (offset size : Nat)
  | deleteObject (bucket key : String)
  | writePart (uploadId : String) (partNumber offset : Nat) (source : Bytes)
  | abortMultipartData (uploadId : String)
  | assembleObject (uploadId bucket key : String) (partNumbers : List Nat)

/-- What a caller of the data store sees. -/
inductive DataAnswer
  | done (result : Result Bool)
  | bytes (result : Result Bytes)
  | size (result : Result Nat)

namespace MemoryDataStore

/-- The fields and the bodies of a store. -/
def layout : MemoryDataStore ≃ DataRest × (Unit → Table String Bytes) where
  toFun store :=
    (⟨store.capacityBytes, store.usedBytes, store.mpu⟩, fun _ => store.bodies)
  invFun parts :=
    { capacityBytes := parts.1.capacityBytes
      usedBytes := parts.1.usedBytes
      bodies := parts.2 ()
      mpu := parts.1.mpu }
  left_inv _ := rfl
  right_inv _ := rfl

/-- What a store with a whole table answers. -/
def answer (store : MemoryDataStore) :
    DataRequest → DataAnswer × MemoryDataStore
  | .reserve bucket key totalSize =>
      (store.reserve bucket key totalSize).map .done id
  | .writeRange bucket key offset source totalSize =>
      (store.writeRange bucket key offset source totalSize).map .done id
  | .read bucket key offset size =>
      (.bytes (store.read bucket key offset size), store)
  | .deleteObject bucket key => (store.deleteObject bucket key).map .done id
  | .writePart uploadId partNumber offset source =>
      (store.writePart uploadId partNumber offset source).map .done id
  | .abortMultipartData uploadId =>
      (store.abortMultipartData uploadId).map .done id
  | .assembleObject uploadId bucket key partNumbers =>
      (store.assembleObject uploadId bucket key partNumbers).map .size id

/-- The sections of `assembleObject` before the last: take the staging out, and
give back its capacity. -/
def takeStaging (store : MemoryDataStore) (uploadId : String) :
    Option MpuParts × MemoryDataStore :=
  match store.detachStaging uploadId with
  | none => (none, store)
  | some (staging, detached) =>
      (some staging, detached.releaseBytes staging.reservedBytes)

section Locality

variable {rest : DataRest}

/-- A growth of the used bytes that the capacity does not allow. -/
def Refuses (rest : DataRest) (growth : Nat) : Prop :=
  growth ≠ 0 ∧ rest.capacityBytes < addWord rest.usedBytes growth

theorem reserveBytes_of_refuses
    {store : MemoryDataStore}
    {growth : Nat}
    (refuses : Refuses (layout store).1 growth) :
    store.reserveBytes growth = none := by
  have exceeds : addWord store.usedBytes growth > store.capacityBytes :=
    refuses.2
  rw [reserveBytes, if_neg refuses.1]
  exact if_pos exceeds

/-- The used bytes after a growth. -/
def grown (rest : DataRest) (growth : Nat) : DataRest :=
  if growth = 0 then rest
  else { rest with usedBytes := addWord rest.usedBytes growth }

theorem reserveBytes_of_not_refuses
    {store : MemoryDataStore}
    {growth : Nat}
    (allows : ¬Refuses (layout store).1 growth) :
    store.reserveBytes growth =
      some (layout.symm (grown (layout store).1 growth, (layout store).2)) := by
  rw [reserveBytes, grown]
  split
  · rfl
  · next positive =>
      have within : ¬addWord store.usedBytes growth > store.capacityBytes :=
        fun exceeds => allows ⟨positive, exceeds⟩
      exact if_neg within

/-- The used bytes after a release. -/
def shrunk (rest : DataRest) (bytes : Nat) : DataRest :=
  if bytes = 0 then rest
  else { rest with usedBytes := subWord rest.usedBytes bytes }

theorem releaseBytes_eq_symm (store : MemoryDataStore) (bytes : Nat) :
    store.releaseBytes bytes =
      layout.symm (shrunk (layout store).1 bytes, (layout store).2) := by
  rw [releaseBytes, shrunk]
  split <;> rfl

/-- An operation that gives the body of an object another size and contents,
settling the capacity by the difference, or refuses. -/
theorem local_settle
    {key : String}
    {operation : MemoryDataStore → Bool × MemoryDataStore}
    (target : Nat)
    (contents : Bytes → Bytes)
    (refused : ∀ store, target > (store.body key).length →
      store.reserveBytes (target - (store.body key).length) = none →
        operation store =
          (false, if (store.body key).length = 0 then store.dropBody key
            else store.setBody key (store.body key)))
    (grows : ∀ store reserved, target > (store.body key).length →
      store.reserveBytes (target - (store.body key).length) = some reserved →
        operation store =
          (true, reserved.setBody key (contents (store.body key))))
    (shrinks : ∀ store, ¬target > (store.body key).length →
      operation store =
        (true, (store.releaseBytes ((store.body key).length - target)).setBody
          key (contents (store.body key)))) :
    LocalTo layout rest {key} operation := by
  refine .atKey fun seen => ?_
  obtain ⟨body, isBody⟩ : ∃ body, (seen ()).getD [] = body := ⟨_, rfl⟩
  have bodyOf : ∀ store, (∀ index,
      ((layout store).2 index).lookup key = seen index) →
        store.body key = body := by
    intro store sees
    rw [← isBody, ← sees ()]
    rfl
  by_cases bigger : target > body.length
  · by_cases refuses : Refuses rest (target - body.length)
    · refine ⟨false, rest,
        fun _ => if body.length = 0 then .erase else .put body, ?_⟩
      rintro store rfl sees
      have same := bodyOf store sees
      rw [refused store (by rwa [same])
        (by rw [same, reserveBytes_of_refuses refuses]), same]
      split <;> rfl
    · refine ⟨true, grown rest (target - body.length),
        fun _ => .put (contents body), ?_⟩
      rintro store rfl sees
      have same := bodyOf store sees
      rw [grows store _ (by rwa [same])
        (by rw [same, reserveBytes_of_not_refuses refuses]), same]
      rfl
  · refine ⟨true, shrunk rest (body.length - target),
      fun _ => .put (contents body), ?_⟩
    rintro store rfl sees
    have same := bodyOf store sees
    rw [shrinks store (by rwa [same]), same, releaseBytes_eq_symm]
    rfl

theorem local_fitBody (key : String) (target : Nat) :
    LocalTo layout rest {key} fun store => store.fitBody key target := by
  refine local_settle target (·.resize target) ?_ ?_ ?_
  · intro store bigger refused
    simp only [fitBody, if_pos bigger, refused]
  · intro store reserved bigger fits
    simp only [fitBody, if_pos bigger, fits]
  · intro store smaller
    simp only [fitBody, if_neg smaller]
    split
    · rw [releaseBytes_setBody]
    · next notLess =>
        have equal : target = (store.body key).length := by omega
        rw [equal, Nat.sub_self]
        simp [releaseBytes, Bytes.resize]

theorem local_installBody (key : String) (total : Nat) (assembled : Bytes) :
    LocalTo layout rest {key}
      fun store => store.installBody key total assembled := by
  refine local_settle total (fun _ => assembled) ?_ ?_ ?_
  · intro store bigger refused
    simp only [installBody, if_pos bigger, refused]
  · intro store reserved bigger fits
    simp only [installBody, if_pos bigger, fits]
  · intro store smaller
    simp only [installBody, if_neg smaller]
    split
    · rfl
    · next notLess =>
        have equal : (store.body key).length - total = 0 := by omega
        rw [equal, releaseBytes, if_pos rfl]

theorem local_reserve (bucket key : String) (totalSize : Nat) :
    LocalTo layout rest {makeKey bucket key}
      fun store => store.answer (.reserve bucket key totalSize) := by
  have fitted : LocalTo layout rest {makeKey bucket key} _ :=
    local_fitBody (makeKey bucket key) totalSize
  refine (fitted.map fun fits => DataAnswer.done
    (if fits then .ok true else .error capacityExceeded)).congr fun store => ?_
  rw [answer, reserve]
  cases store.fitBody (makeKey bucket key) totalSize with
  | mk fits next => cases fits <;> rfl

theorem local_writeRange
    (bucket key : String)
    (offset : Nat)
    (source : Bytes)
    (totalSize : Option Nat) :
    LocalTo layout rest {makeKey bucket key} fun store =>
      store.answer (.writeRange bucket key offset source totalSize) := by
  have fitted : LocalTo layout rest {makeKey bucket key} _ :=
    local_fitBody (makeKey bucket key)
      (max (totalSize.getD (addWord offset source.length))
        (addWord offset source.length))
  have written : ∀ (fits : Bool) (rest : DataRest),
      LocalTo layout rest {makeKey bucket key} fun store =>
        if fits then
          (DataAnswer.done (.ok true), if source.isEmpty then store
            else store.setBody (makeKey bucket key)
              ((store.body (makeKey bucket key)).overwrite offset source))
        else (.done (.error capacityExceeded), store) := by
    intro fits rest
    refine .atKey fun seen => ?_
    cases fits with
    | false =>
        refine ⟨.done (.error capacityExceeded), rest, fun _ => .keep, ?_⟩
        rintro store rfl _
        rfl
    | true =>
        refine ⟨.done (.ok true), rest,
          fun _ => if source.isEmpty then .keep
            else .put (((seen ()).getD []).overwrite offset source), ?_⟩
        rintro store rfl sees
        rw [← sees ()]
        simp only [if_true]
        split <;> rfl
  refine (fitted.bind written).congr fun store => ?_
  rw [answer, writeRange]
  cases store.fitBody (makeKey bucket key) _ with
  | mk fits next => cases fits <;> rfl

theorem local_read (bucket key : String) (offset size : Nat) :
    LocalTo layout rest {makeKey bucket key}
      fun store => store.answer (.read bucket key offset size) := by
  refine .query ?_
  intro left right _ _ same
  have found : left.bodies.lookup (makeKey bucket key) =
      right.bodies.lookup (makeKey bucket key) := same ()
  simp only [read, found]

theorem local_deleteObject (bucket key : String) :
    LocalTo layout rest {makeKey bucket key}
      fun store => store.answer (.deleteObject bucket key) := by
  refine .atKey fun seen => ?_
  cases found : seen () with
  | none =>
      refine ⟨.done (.ok false), rest, fun _ => .keep, ?_⟩
      rintro store rfl sees
      have absent : store.bodies.lookup (makeKey bucket key) = none :=
        (sees ()).trans found
      simp only [answer, deleteObject, absent]
      rfl
  | some body =>
      refine ⟨.done (.ok true), shrunk rest body.length, fun _ => .erase, ?_⟩
      rintro store rfl sees
      have present : store.bodies.lookup (makeKey bucket key) = some body :=
        (sees ()).trans found
      simp only [answer, deleteObject, present, releaseBytes_eq_symm]
      rfl

/-- The staging of an upload is replaced. -/
private def staged
    (rest : DataRest)
    (uploadId : String)
    (staging : MpuParts) : DataRest :=
  { rest with mpu := rest.mpu.insert uploadId staging }

theorem local_writePart
    (uploadId : String)
    (partNumber offset : Nat)
    (source : Bytes) :
    LocalTo layout rest ∅ fun store =>
      store.answer (.writePart uploadId partNumber offset source) := by
  obtain ⟨staging, isStaging⟩ : ∃ staging,
      (rest.mpu.lookup uploadId).getD MpuParts.empty = staging := ⟨_, rfl⟩
  have stagingOf : ∀ store, (layout store).1 = rest →
      store.staging uploadId = staging := by
    rintro store rfl
    exact isStaging
  by_cases grows :
      addWord offset source.length > (staging.part partNumber).length
  · by_cases refuses : Refuses rest
        (addWord offset source.length - (staging.part partNumber).length)
    · refine .offTables (.done (.error capacityExceeded))
        (staged rest uploadId
          { staging with
            parts := staging.parts.insert partNumber
              (staging.part partNumber) }) ?_
      rintro store rfl
      simp only [answer, writePart, stagingOf store rfl, if_pos grows,
        reserveBytes_of_refuses refuses]
      rfl
    · refine .offTables (.done (.ok true))
        (staged (grown rest (addWord offset source.length -
            (staging.part partNumber).length)) uploadId
          { parts := staging.parts.insert partNumber
              (((staging.part partNumber).resize
                (addWord offset source.length)).overwrite offset source)
            reservedBytes := addWord staging.reservedBytes
              (addWord offset source.length -
                (staging.part partNumber).length) }) ?_
      rintro store rfl
      simp only [answer, writePart, stagingOf store rfl, if_pos grows,
        reserveBytes_of_not_refuses refuses]
      rfl
  · refine .offTables (.done (.ok true))
      (staged rest uploadId
        { staging with
          parts := staging.parts.insert partNumber
            ((staging.part partNumber).overwrite offset source) }) ?_
    rintro store rfl
    simp only [answer, writePart, stagingOf store rfl, if_neg grows]
    rfl

theorem local_abortMultipartData (uploadId : String) :
    LocalTo layout rest ∅ fun store =>
      store.answer (.abortMultipartData uploadId) := by
  cases found : rest.mpu.lookup uploadId with
  | none =>
      refine .offTables (.done (.ok false)) rest ?_
      rintro store rfl
      have absent : store.mpu.lookup uploadId = none := found
      simp only [answer, abortMultipartData, absent]
      rfl
  | some staging =>
      refine .offTables (.done (.ok true))
        { shrunk rest staging.reservedBytes with
          mpu := (shrunk rest staging.reservedBytes).mpu.erase uploadId } ?_
      rintro store rfl
      have present : store.mpu.lookup uploadId = some staging := found
      simp only [answer, abortMultipartData, present, releaseBytes_eq_symm]
      rfl

theorem local_takeStaging (uploadId : String) :
    LocalTo layout rest ∅ fun store => store.takeStaging uploadId := by
  cases found : rest.mpu.lookup uploadId with
  | none =>
      refine .offTables none rest ?_
      rintro store rfl
      have absent : store.mpu.lookup uploadId = none := found
      simp only [takeStaging, detachStaging, absent]
      rfl
  | some staging =>
      refine .offTables (some staging)
        (shrunk { rest with mpu := rest.mpu.erase uploadId }
          staging.reservedBytes) ?_
      rintro store rfl
      have present : store.mpu.lookup uploadId = some staging := found
      simp only [takeStaging, detachStaging, present, releaseBytes_eq_symm]
      rfl

end Locality

end MemoryDataStore

/-- The data store as it is. -/
abbrev ShardedDataStore := Sharded 32 DataRest Unit String Bytes

namespace ShardedDataStore

open MemoryDataStore

section Operations

variable (hash : String → Nat)

/-- The shard of an object. -/
def shardFor (key : String) : Fin 32 := shardOf 32 hash key

/-- An empty store. -/
def init (capacityBytes : Nat) : ShardedDataStore where
  rest := ⟨capacityBytes, 0, ∅⟩
  shards := fun _ _ => ∅

/-- Run an operation on the shard of an object. -/
def onKey
    (bucket key : String)
    (operation : MemoryDataStore → α × MemoryDataStore)
    (store : ShardedDataStore) : α × ShardedDataStore :=
  store.onShard layout (shardFor hash (makeKey bucket key)) operation

/-- Concatenate the listed parts into an object: the staging is in no shard, and
the body is installed in the shard of the destination. -/
def assembleObject
    (store : ShardedDataStore)
    (uploadId bucket key : String)
    (partNumbers : List Nat) : Result Nat × ShardedDataStore :=
  match store.onRest layout (·.takeStaging uploadId) with
  | (none, store) => (.error stagingNotFound, store)
  | (some staging, store) =>
      match assembledSize staging partNumbers with
      | none => (.error partMissing, store)
      | some total =>
          match onKey hash bucket key
              (·.installBody (makeKey bucket key) total
                (assembledBytes staging partNumbers)) store with
          | (false, store) => (.error capacityExceeded, store)
          | (true, store) => (.ok total, store)

/-- What the store with its shards answers. -/
def answer (store : ShardedDataStore) :
    DataRequest → DataAnswer × ShardedDataStore
  | .reserve bucket key totalSize =>
      onKey hash bucket key
        (MemoryDataStore.answer · (.reserve bucket key totalSize)) store
  | .writeRange bucket key offset source totalSize =>
      onKey hash bucket key
        (MemoryDataStore.answer ·
          (.writeRange bucket key offset source totalSize)) store
  | .read bucket key offset size =>
      onKey hash bucket key
        (MemoryDataStore.answer · (.read bucket key offset size)) store
  | .deleteObject bucket key =>
      onKey hash bucket key
        (MemoryDataStore.answer · (.deleteObject bucket key)) store
  | .writePart uploadId partNumber offset source =>
      store.onRest layout
        (MemoryDataStore.answer ·
          (.writePart uploadId partNumber offset source))
  | .abortMultipartData uploadId =>
      store.onRest layout
        (MemoryDataStore.answer · (.abortMultipartData uploadId))
  | .assembleObject uploadId bucket key partNumbers =>
      (assembleObject hash store uploadId bucket key partNumbers).map .size id

end Operations

section Refinement

variable
  {hash : String → Nat}
  {store : ShardedDataStore}
  {whole : MemoryDataStore}

/-- Assembling in sections is assembling. -/
theorem assembleObject_eq
    (store : MemoryDataStore)
    (uploadId bucket key : String)
    (partNumbers : List Nat) :
    store.assembleObject uploadId bucket key partNumbers =
      match store.takeStaging uploadId with
      | (none, store) => (.error stagingNotFound, store)
      | (some staging, store) =>
          match assembledSize staging partNumbers with
          | none => (.error partMissing, store)
          | some total =>
              match store.installBody (makeKey bucket key) total
                  (assembledBytes staging partNumbers) with
              | (false, store) => (.error capacityExceeded, store)
              | (true, store) => (.ok total, store) := by
  rw [MemoryDataStore.assembleObject, takeStaging]
  cases store.detachStaging uploadId with
  | none => rfl
  | some found => rfl

theorem refines_assembleObject
    (refines : Refines layout (shardFor hash) store whole)
    (uploadId bucket key : String)
    (partNumbers : List Nat) :
    (assembleObject hash store uploadId bucket key partNumbers).1 =
        (whole.assembleObject uploadId bucket key partNumbers).1 ∧
      Refines layout (shardFor hash)
        (assembleObject hash store uploadId bucket key partNumbers).2
        (whole.assembleObject uploadId bucket key partNumbers).2 := by
  rw [assembleObject, assembleObject_eq]
  obtain ⟨taken, afterTake⟩ := refines.onRest (local_takeStaging uploadId)
  generalize store.onRest layout (·.takeStaging uploadId) = left at *
  generalize whole.takeStaging uploadId = right at *
  obtain ⟨staging, store⟩ := left
  obtain ⟨_, whole⟩ := right
  obtain rfl : staging = _ := taken
  cases staging with
  | none => exact ⟨rfl, afterTake⟩
  | some staging =>
      dsimp only
      cases assembledSize staging partNumbers with
      | none => exact ⟨rfl, afterTake⟩
      | some total =>
          dsimp only at afterTake ⊢
          obtain ⟨installed, afterInstall⟩ := afterTake.onKey
            (local_installBody (makeKey bucket key) total
              (assembledBytes staging partNumbers))
          rw [onKey]
          generalize store.onShard layout _ _ = left at *
          generalize whole.installBody _ _ _ = right at *
          obtain ⟨fits, store⟩ := left
          obtain ⟨_, whole⟩ := right
          obtain rfl : fits = _ := installed
          cases fits <;> exact ⟨rfl, afterInstall⟩

theorem refines_answer
    (refines : Refines layout (shardFor hash) store whole)
    (request : DataRequest) :
    (store.answer hash request).1 = (whole.answer request).1 ∧
      Refines layout (shardFor hash) (store.answer hash request).2
        (whole.answer request).2 := by
  cases request with
  | reserve bucket key totalSize =>
      exact refines.onKey (local_reserve bucket key totalSize)
  | writeRange bucket key offset source totalSize =>
      exact refines.onKey
        (local_writeRange bucket key offset source totalSize)
  | read bucket key offset size =>
      exact refines.onKey (local_read bucket key offset size)
  | deleteObject bucket key =>
      exact refines.onKey (local_deleteObject bucket key)
  | writePart uploadId partNumber offset source =>
      exact refines.onRest (local_writePart uploadId partNumber offset source)
  | abortMultipartData uploadId =>
      exact refines.onRest (local_abortMultipartData uploadId)
  | assembleObject uploadId bucket key partNumbers =>
      obtain ⟨same, after⟩ :=
        refines_assembleObject refines uploadId bucket key partNumbers
      exact ⟨congrArg DataAnswer.size same, after⟩

/-- The data store answers as one with a whole table, and bodies stay in the
shards that the hashes of their objects select. -/
theorem sameAnswers (hash : String → Nat) (capacityBytes : Nat) :
    SameAnswers (Functional (answer hash))
      (Functional MemoryDataStore.answer) (Placed (shardFor hash))
      (init capacityBytes) (.init capacityBytes) := by
  have simulates : Simulates (Functional (answer hash))
      (Functional MemoryDataStore.answer) (Refines layout (shardFor hash)) :=
    .ofFunctions refines_answer
  have start : Refines layout (shardFor hash) (init capacityBytes)
      (.init capacityBytes) :=
    Refines.empty (MemoryDataStore.init capacityBytes) fun _ => rfl
  exact simulates.sameAnswers Refines.placed start

end Refinement

end ShardedDataStore

/-! ## Entries -/

/-- What the index store has beside the shards. -/
structure IndexRest where
  mpu : Table String MpuRecord
  mpuSeq : Nat

/-- Operations of the index store. -/
inductive IndexRequest
  | head (bucket key : String)
  | putObjectIndex (bucket key : String) (metadata : ObjectMetadata)
  | deleteObjectIndex (bucket key : String)
  | startMultipart (bucket key : String) (totalSizeHint : Option Nat)
      (now : Nat)
  | abortMultipart (uploadId : String)
  | commitMultipart (uploadId bucket key : String) (metadata : ObjectMetadata)

/-- What a caller of the index store sees. -/
inductive IndexAnswer
  | metadata (result : Result ObjectMetadata)
  | done (result : Result Bool)
  | started (uploadId : String)

namespace MemoryIndexStore

/-- The fields and the entries of a store. -/
def layout : MemoryIndexStore ≃
    IndexRest × (Unit → Table String ObjectMetadata) where
  toFun store := (⟨store.mpu, store.mpuSeq⟩, fun _ => store.entries)
  invFun parts :=
    { entries := parts.2 ()
      mpu := parts.1.mpu
      mpuSeq := parts.1.mpuSeq }
  left_inv _ := rfl
  right_inv _ := rfl

/-- What a store with a whole table answers. -/
def answer (store : MemoryIndexStore) :
    IndexRequest → IndexAnswer × MemoryIndexStore
  | .head bucket key => (.metadata (store.head bucket key), store)
  | .putObjectIndex bucket key metadata =>
      (.done (.ok true), store.putObjectIndex bucket key metadata)
  | .deleteObjectIndex bucket key =>
      (store.deleteObjectIndex bucket key).map .done id
  | .startMultipart bucket key totalSizeHint now =>
      (store.startMultipart bucket key totalSizeHint now).map .started id
  | .abortMultipart uploadId => (store.abortMultipart uploadId).map .done id
  | .commitMultipart uploadId bucket key metadata =>
      (store.commitMultipart uploadId bucket key metadata).map .metadata id

section Locality

variable {rest : IndexRest}

theorem local_head (bucket key : String) :
    LocalTo layout rest {makeKey bucket key}
      fun store => store.answer (.head bucket key) := by
  refine .query ?_
  intro left right _ _ same
  have found : left.entries.lookup (makeKey bucket key) =
      right.entries.lookup (makeKey bucket key) := same ()
  simp only [head, found]

theorem local_putObjectIndex
    (bucket key : String)
    (metadata : ObjectMetadata) :
    LocalTo layout rest {makeKey bucket key}
      fun store => store.answer (.putObjectIndex bucket key metadata) := by
  refine .atKey fun _ => ⟨.done (.ok true), rest, fun _ => .put metadata, ?_⟩
  rintro store rfl _
  rfl

theorem local_deleteObjectIndex (bucket key : String) :
    LocalTo layout rest {makeKey bucket key}
      fun store => store.answer (.deleteObjectIndex bucket key) := by
  refine .atKey fun seen =>
    ⟨.done (.ok (seen ()).isSome), rest, fun _ => .erase, ?_⟩
  rintro store rfl sees
  rw [← sees ()]
  rfl

theorem local_startMultipart
    (bucket key : String)
    (totalSizeHint : Option Nat)
    (now : Nat) :
    LocalTo layout rest ∅ fun store =>
      store.answer (.startMultipart bucket key totalSizeHint now) := by
  refine .offTables (.started (mpuId (rest.mpuSeq + 1) now))
    ⟨rest.mpu.emplace (mpuId (rest.mpuSeq + 1) now)
      ⟨bucket, key, totalSizeHint⟩, rest.mpuSeq + 1⟩ ?_
  rintro store rfl
  rfl

theorem local_abortMultipart (uploadId : String) :
    LocalTo layout rest ∅
      fun store => store.answer (.abortMultipart uploadId) := by
  refine .offTables (.done (.ok (rest.mpu.lookup uploadId).isSome))
    { rest with mpu := rest.mpu.erase uploadId } ?_
  rintro store rfl
  rfl

/-- The first section of a commit: whether there was an upload to take out. -/
def take (store : MemoryIndexStore) (uploadId : String) :
    Bool × MemoryIndexStore :=
  match store.takeMultipart uploadId with
  | none => (false, store)
  | some taken => (true, taken)

theorem local_take (uploadId : String) :
    LocalTo layout rest ∅ fun store => store.take uploadId := by
  cases found : rest.mpu.lookup uploadId with
  | none =>
      refine .offTables false rest ?_
      rintro store rfl
      have absent : store.mpu.lookup uploadId = none := found
      simp only [take, takeMultipart, absent]
      rfl
  | some record =>
      refine .offTables true { rest with mpu := rest.mpu.erase uploadId } ?_
      rintro store rfl
      have present : store.mpu.lookup uploadId = some record := found
      simp only [take, takeMultipart, present]
      rfl

end Locality

end MemoryIndexStore

/-- The index store as it is. -/
abbrev ShardedIndexStore := Sharded 32 IndexRest Unit String ObjectMetadata

namespace ShardedIndexStore

open MemoryIndexStore

section Operations

variable (hash : String → Nat)

/-- The shard of an object. -/
def shardFor (key : String) : Fin 32 := shardOf 32 hash key

/-- An empty store. -/
def init : ShardedIndexStore where
  rest := ⟨∅, 0⟩
  shards := fun _ _ => ∅

/-- Run an operation on the shard of an object. -/
def onKey
    (bucket key : String)
    (operation : MemoryIndexStore → α × MemoryIndexStore)
    (store : ShardedIndexStore) : α × ShardedIndexStore :=
  store.onShard layout (shardFor hash (makeKey bucket key)) operation

/-- Close an upload, which is in no shard, and register the final object in its
shard. -/
def commitMultipart
    (store : ShardedIndexStore)
    (uploadId bucket key : String)
    (metadata : ObjectMetadata) : Result ObjectMetadata × ShardedIndexStore :=
  match store.onRest layout (·.take uploadId) with
  | (false, store) => (.error uploadNotFound, store)
  | (true, store) =>
      (.ok metadata,
        (onKey hash bucket key
          (MemoryIndexStore.answer ·
            (.putObjectIndex bucket key metadata)) store).2)

/-- What the store with its shards answers. -/
def answer (store : ShardedIndexStore) :
    IndexRequest → IndexAnswer × ShardedIndexStore
  | .head bucket key =>
      onKey hash bucket key (MemoryIndexStore.answer · (.head bucket key)) store
  | .putObjectIndex bucket key metadata =>
      onKey hash bucket key
        (MemoryIndexStore.answer · (.putObjectIndex bucket key metadata)) store
  | .deleteObjectIndex bucket key =>
      onKey hash bucket key
        (MemoryIndexStore.answer · (.deleteObjectIndex bucket key)) store
  | .startMultipart bucket key totalSizeHint now =>
      store.onRest layout
        (MemoryIndexStore.answer ·
          (.startMultipart bucket key totalSizeHint now))
  | .abortMultipart uploadId =>
      store.onRest layout
        (MemoryIndexStore.answer · (.abortMultipart uploadId))
  | .commitMultipart uploadId bucket key metadata =>
      (commitMultipart hash store uploadId bucket key metadata).map .metadata id

end Operations

section Refinement

variable
  {hash : String → Nat}
  {store : ShardedIndexStore}
  {whole : MemoryIndexStore}

/-- Committing in sections is committing. -/
theorem commitMultipart_eq
    (store : MemoryIndexStore)
    (uploadId bucket key : String)
    (metadata : ObjectMetadata) :
    store.commitMultipart uploadId bucket key metadata =
      match store.take uploadId with
      | (false, store) => (.error uploadNotFound, store)
      | (true, store) =>
          (.ok metadata, store.putObjectIndex bucket key metadata) := by
  rw [MemoryIndexStore.commitMultipart, take]
  cases store.takeMultipart uploadId with
  | none => rfl
  | some taken => rfl

theorem refines_commitMultipart
    (refines : Refines layout (shardFor hash) store whole)
    (uploadId bucket key : String)
    (metadata : ObjectMetadata) :
    (commitMultipart hash store uploadId bucket key metadata).1 =
        (whole.commitMultipart uploadId bucket key metadata).1 ∧
      Refines layout (shardFor hash)
        (commitMultipart hash store uploadId bucket key metadata).2
        (whole.commitMultipart uploadId bucket key metadata).2 := by
  rw [commitMultipart, commitMultipart_eq]
  obtain ⟨taken, afterTake⟩ := refines.onRest (local_take uploadId)
  generalize store.onRest layout (·.take uploadId) = left at *
  generalize whole.take uploadId = right at *
  obtain ⟨existed, store⟩ := left
  obtain ⟨_, whole⟩ := right
  obtain rfl : existed = _ := taken
  cases existed with
  | false => exact ⟨rfl, afterTake⟩
  | true =>
      exact ⟨rfl, (afterTake.onKey
        (local_putObjectIndex bucket key metadata)).2⟩

theorem refines_answer
    (refines : Refines layout (shardFor hash) store whole)
    (request : IndexRequest) :
    (store.answer hash request).1 = (whole.answer request).1 ∧
      Refines layout (shardFor hash) (store.answer hash request).2
        (whole.answer request).2 := by
  cases request with
  | head bucket key => exact refines.onKey (local_head bucket key)
  | putObjectIndex bucket key metadata =>
      exact refines.onKey (local_putObjectIndex bucket key metadata)
  | deleteObjectIndex bucket key =>
      exact refines.onKey (local_deleteObjectIndex bucket key)
  | startMultipart bucket key totalSizeHint now =>
      exact refines.onRest (local_startMultipart bucket key totalSizeHint now)
  | abortMultipart uploadId =>
      exact refines.onRest (local_abortMultipart uploadId)
  | commitMultipart uploadId bucket key metadata =>
      obtain ⟨same, after⟩ :=
        refines_commitMultipart refines uploadId bucket key metadata
      exact ⟨congrArg IndexAnswer.metadata same, after⟩

/-- The index store answers as one with a whole table, and entries stay in the
shards that the hashes of their objects select. -/
theorem sameAnswers (hash : String → Nat) :
    SameAnswers (Functional (answer hash))
      (Functional MemoryIndexStore.answer) (Placed (shardFor hash))
      init .init := by
  have simulates : Simulates (Functional (answer hash))
      (Functional MemoryIndexStore.answer) (Refines layout (shardFor hash)) :=
    .ofFunctions refines_answer
  have start : Refines layout (shardFor hash) init .init :=
    Refines.empty MemoryIndexStore.init fun _ => rfl
  exact simulates.sameAnswers Refines.placed start

end Refinement

end ShardedIndexStore

end Gateway
end TurboAccess
