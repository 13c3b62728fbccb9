import TurboAccess.Lib.Machine
import TurboAccess.Lib.Placement
import TurboAccess.Gateway.Backend.Footprint

/-!
# Index and data agree

The index says which objects exist and how large they are, and the data store
has their bytes.  The two sizes are computed apart: the data store takes the
larger of the announced size and the end of the write, the index the announced
size when there is one.  A refused growth drops the body of an existing empty
object and leaves its index entry.

Operations run one after the other here.  Every operation keeps both tables,
stores one object in both, or drops one empty body; whether it keeps the
agreement is decided by its arguments and the state it finds.
-/

namespace TurboAccess
namespace Gateway

/-! ## Bodies after a write -/

namespace MemoryDataStore

/-- A reservation stores a body of the size that was asked for, or is refused
and drops an existing empty body. -/
theorem reserve_cases
    (store : MemoryDataStore)
    (bucket key : String)
    (totalSize : Nat) :
    (∃ reserved bytes,
      store.reserve bucket key totalSize = (.ok true, reserved) ∧
        store.Fits (makeKey bucket key) totalSize ∧
        bytes.length = totalSize ∧
        reserved.bodies = store.bodies.insert (makeKey bucket key) bytes) ∨
      ∃ refused,
        store.reserve bucket key totalSize =
            (.error capacityExceeded, refused) ∧
          ¬store.Fits (makeKey bucket key) totalSize ∧
          refused.bodies =
            if store.bodies.lookup (makeKey bucket key) = some [] then
              store.bodies.erase (makeKey bucket key)
            else store.bodies := by
  unfold reserve
  dsimp only
  cases fitted : store.fitBody (makeKey bucket key) totalSize with
  | mk granted next =>
      cases granted with
      | true =>
          exact .inl ⟨next, next.body (makeKey bucket key), rfl,
            fits_of_fitBody fitted, length_body_fitBody fitted,
            bodies_of_fitBody fitted⟩
      | false =>
          exact .inr ⟨next, rfl, not_fits_of_fitBody fitted,
            bodies_of_fitBody_refused fitted⟩

/-- A range write overwrites a body of the size that was asked for, or is
refused and drops an existing empty body. -/
theorem writeRange_cases
    (store : MemoryDataStore)
    (bucket key : String)
    (offset : Nat)
    (source : Bytes)
    (totalSize : Option Nat)
    {target : Nat}
    (targetEq : target = max (totalSize.getD (addWord offset source.length))
      (addWord offset source.length)) :
    (∃ written bytes,
      store.writeRange bucket key offset source totalSize =
          (.ok true, written) ∧
        store.Fits (makeKey bucket key) target ∧
        bytes.length = target ∧
        written.bodies = store.bodies.insert (makeKey bucket key)
          (Bytes.overwrite bytes offset source)) ∨
      ∃ refused,
        store.writeRange bucket key offset source totalSize =
            (.error capacityExceeded, refused) ∧
          ¬store.Fits (makeKey bucket key) target ∧
          refused.bodies =
            if store.bodies.lookup (makeKey bucket key) = some [] then
              store.bodies.erase (makeKey bucket key)
            else store.bodies := by
  unfold writeRange
  dsimp only
  rw [← targetEq]
  cases fitted : store.fitBody (makeKey bucket key) target with
  | mk granted next =>
      cases granted with
      | true =>
          refine .inl ⟨_, next.body (makeKey bucket key), rfl,
            fits_of_fitBody fitted, length_body_fitBody fitted, ?_⟩
          have stored := bodies_of_fitBody fitted
          split
          · next empty =>
              rw [List.isEmpty_iff.mp empty, Bytes.overwrite_nil]
              exact stored
          · rw [setBody, stored, Finmap.insert_insert]
      | false =>
          exact .inr ⟨next, rfl, not_fits_of_fitBody fitted,
            bodies_of_fitBody_refused fitted⟩

end MemoryDataStore

namespace CompositeBackend

/-- Copying nothing into a body that is there is no exception. -/
theorem copied_eq
    {data : MemoryDataStore}
    {id : String}
    {body : Bytes}
    (found : data.bodies.lookup id = some body)
    (offset : Nat)
    (source : Bytes) :
    (if source.isEmpty then data
      else data.setBody id ((data.body id).overwrite offset source)) =
      data.setBody id (body.overwrite offset source) := by
  have bodyEq : data.body id = body := by
    rw [MemoryDataStore.body, found, Option.getD_some]
  rw [bodyEq]
  split
  · next empty =>
      rw [List.isEmpty_iff.mp empty, Bytes.overwrite_nil,
        MemoryDataStore.setBody, Table.insert_of_lookup_some found]
  · rfl

/-- Writing a block inside a body of the announced size overwrites its range, and
takes no capacity. -/
theorem writeRange_inside
    {data : MemoryDataStore}
    {bucket key : String}
    {body block : Bytes}
    {offset : Nat}
    (found : data.bodies.lookup (makeKey bucket key) = some body)
    (inside : offset + block.length ≤ body.length)
    (inWord : body.length < wordModulus) :
    data.writeRange bucket key offset block (some body.length) =
      (.ok true, data.setBody (makeKey bucket key)
        (body.overwrite offset block)) := by
  have bodyEq : data.body (makeKey bucket key) = body := by
    rw [MemoryDataStore.body, found, Option.getD_some]
  have fitted : data.fitBody (makeKey bucket key) body.length =
      (true, data) := by
    simp only [MemoryDataStore.fitBody, bodyEq, gt_iff_lt, lt_irrefl,
      if_false, MemoryDataStore.setBody, Table.insert_of_lookup_some found]
  unfold MemoryDataStore.writeRange
  rw [addWord_of_lt (by omega)]
  dsimp only
  rw [Option.getD_some, Nat.max_eq_left inside, fitted]
  dsimp only
  rw [copied_eq found]

/-- The block loop over a body of the announced size leaves what one write of all
blocks leaves. -/
theorem writeEach_inside
    {bucket key : String}
    {data : MemoryDataStore}
    {body : Bytes}
    (offset : Nat)
    (blocks : List Bytes)
    (found : data.bodies.lookup (makeKey bucket key) = some body)
    (inside : offset + blocks.flatten.length ≤ body.length)
    (inWord : body.length < wordModulus) :
    writeEach bucket key body.length data offset blocks =
      (.ok (), data.setBody (makeKey bucket key)
        (body.overwrite offset blocks.flatten)) := by
  induction blocks generalizing data body offset with
  | nil =>
      rw [writeEach, List.flatten_nil, Bytes.overwrite_nil,
        MemoryDataStore.setBody, Table.insert_of_lookup_some found]
  | cons block blocks inductionHypothesis =>
      rw [List.flatten_cons, List.length_append] at inside
      have length : (body.overwrite offset block).length = body.length :=
        Bytes.length_overwrite (by omega)
      have stored : (data.setBody (makeKey bucket key)
          (body.overwrite offset block)).bodies.lookup (makeKey bucket key) =
            some (body.overwrite offset block) := by
        rw [MemoryDataStore.setBody, Finmap.lookup_insert]
      have rest := inductionHypothesis (offset + block.length) stored
        (by omega) (by omega)
      have joined : (body.overwrite offset block).overwrite
            (offset + block.length) blocks.flatten =
          body.overwrite offset (block ++ blocks.flatten) :=
        Tiling.place_append (by omega) block blocks.flatten
      rw [length, joined] at rest
      rw [writeEach, writeRange_inside found (by omega) inWord,
        addWord_of_lt (by omega)]
      dsimp only
      rw [rest, List.flatten_cons, MemoryDataStore.setBody,
        MemoryDataStore.setBody, MemoryDataStore.setBody,
        Finmap.insert_insert]

/-! ## Operations -/

/-- An operation of the backend with its arguments. -/
inductive Operation
  | write (bucket key : String) (source : Bytes)
  | writeBlocks (bucket key : String) (source : List Bytes)
  | writeRange (bucket key : String) (offset : Nat) (source : Bytes)
      (totalSize : Option Nat)
  | reserve (bucket key : String) (totalSize : Nat)
  | startMultipart (bucket key : String) (totalSizeHint : Option Nat)
  | writePart (uploadId : String) (partNumber offset : Nat) (source : Bytes)
  | writePartBlocks (uploadId : String) (partNumber offset : Nat)
      (source : List Bytes)
  | completeMultipart (uploadId : String) (parts : List PartRecord)
  | abortMultipart (uploadId : String)

/-- The backend after an operation, whether it succeeded or failed. -/
def apply (backend : CompositeBackend) (now : Nat) :
    Operation → CompositeBackend
  | .write bucket key source => (backend.write bucket key source now).2
  | .writeBlocks bucket key source =>
      (backend.writeBlocks bucket key source now).2
  | .writeRange bucket key offset source totalSize =>
      (backend.writeRange bucket key offset source totalSize now).2
  | .reserve bucket key totalSize => (backend.reserve bucket key totalSize now).2
  | .startMultipart bucket key totalSizeHint =>
      (backend.startMultipart bucket key totalSizeHint now).2
  | .writePart uploadId partNumber offset source =>
      (backend.writePart uploadId partNumber offset source now).2
  | .writePartBlocks uploadId partNumber offset source =>
      (backend.writePartBlocks uploadId partNumber offset source now).2
  | .completeMultipart uploadId parts =>
      (backend.completeMultipart uploadId parts now).2
  | .abortMultipart uploadId => (backend.abortMultipart uploadId).2

/-- The backend as a machine: any operations, one after the other. -/
def machine : Machine CompositeBackend (Operation × Nat) where
  initial backend := ∃ capacityBytes, backend = init capacityBytes
  step backend label := some (backend.apply label.2 label.1)

/-- The arguments and the assembled object fit the 64-bit words and vectors of
the code. -/
def InWords (backend : CompositeBackend) : Operation → Prop
  | .writeBlocks _ _ source => source.flatten.length < wordModulus
  | .writeRange _ _ offset _ _ => offset < wordModulus
  | .completeMultipart uploadId parts =>
      ∀ staging, backend.data.mpu.lookup uploadId = some staging →
        (MemoryDataStore.assembledBytes staging
          (orderedNumbers parts)).length < wordModulus
  | _ => True

/-! ## Agreement -/

/-- Index and data list the same objects with the same sizes. -/
structure Agrees (backend : CompositeBackend) : Prop where
  listed : ∀ id, (backend.index.entries.lookup id).isSome =
    (backend.data.bodies.lookup id).isSome
  sized : ∀ bucket key metadata body,
    backend.head bucket key = .ok metadata →
      backend.data.bodies.lookup (makeKey bucket key) = some body →
        metadata.contentLength = body.length

/-- A growth that is granted, or refused without dropping a body. -/
def SafeGrowth (store : MemoryDataStore) (id : String) (total : Nat) : Prop :=
  store.Fits id total ∨ store.bodies.lookup id ≠ some []

/-- An operation that keeps the agreement: a range write that is granted ends
within the size that the index registers, and an operation that is refused for
lack of capacity does not find an existing empty object. -/
def Sound (backend : CompositeBackend) : Operation → Prop
  | .write bucket key source =>
      SafeGrowth backend.data (makeKey bucket key) source.length
  | .writeBlocks bucket key source =>
      SafeGrowth backend.data (makeKey bucket key) source.flatten.length
  | .writeRange bucket key offset source totalSize =>
      let size := writtenSize offset source totalSize
      if backend.data.Fits (makeKey bucket key)
          (max size (addWord offset source.length)) then
        offset + source.length ≤ size
      else backend.data.bodies.lookup (makeKey bucket key) ≠ some []
  | .reserve bucket key totalSize =>
      SafeGrowth backend.data (makeKey bucket key) totalSize
  | .completeMultipart uploadId parts =>
      ∀ bucket key staging detached total,
        backend.mpuTargets.lookup uploadId = some (bucket, key) →
          backend.data.detachStaging uploadId = some (staging, detached) →
            MemoryDataStore.assembledSize staging (orderedNumbers parts) =
                some total →
              SafeGrowth (detached.releaseBytes staging.reservedBytes)
                (makeKey bucket key) total
  | _ => True

/-! ## The effect of one operation -/

/-- What an operation does to the two tables, and whether it was sound. -/
inductive Effect (backend next : CompositeBackend) (sound : Prop) : Prop
  | kept
      (holds : sound)
      (entries : next.index.entries = backend.index.entries)
      (bodies : next.data.bodies = backend.data.bodies)
  | stored (bucket key : String) (metadata : ObjectMetadata) (bytes : Bytes)
      (exactly : sound ↔ metadata.contentLength = bytes.length)
      (entries : next.index.entries =
        backend.index.entries.insert (makeKey bucket key) metadata)
      (bodies : next.data.bodies =
        backend.data.bodies.insert (makeKey bucket key) bytes)
  | dropped (bucket key : String)
      (fails : ¬sound)
      (empty : backend.data.bodies.lookup (makeKey bucket key) = some [])
      (entries : next.index.entries = backend.index.entries)
      (bodies : next.data.bodies =
        backend.data.bodies.erase (makeKey bucket key))

variable {backend next : CompositeBackend}

/-- The entry that `Head` reads. -/
theorem head_eq_ok
    {bucket key : String}
    {metadata : ObjectMetadata} :
    backend.head bucket key = .ok metadata ↔
      backend.index.entries.lookup (makeKey bucket key) = some metadata := by
  rw [head, MemoryIndexStore.head]
  cases backend.index.entries.lookup (makeKey bucket key) <;> simp

/-- Storing an object of one size in both tables keeps the agreement. -/
private theorem Agrees.store
    {bucket key : String}
    {metadata : ObjectMetadata}
    {bytes : Bytes}
    (agrees : backend.Agrees)
    (same : metadata.contentLength = bytes.length)
    (entries : next.index.entries =
      backend.index.entries.insert (makeKey bucket key) metadata)
    (bodies : next.data.bodies =
      backend.data.bodies.insert (makeKey bucket key) bytes) :
    next.Agrees where
  listed := by
    intro id
    rw [entries, bodies, Table.lookup_insert_eq, Table.lookup_insert_eq]
    split
    · rfl
    · exact agrees.listed id
  sized := by
    intro otherBucket otherKey other body found present
    rw [head_eq_ok, entries, Table.lookup_insert_eq] at found
    rw [bodies, Table.lookup_insert_eq] at present
    split at found
    · next own =>
        rw [if_pos own] at present
        cases found
        cases present
        exact same
    · next foreign =>
        rw [if_neg foreign] at present
        exact agrees.sized otherBucket otherKey other body
          (head_eq_ok.mpr found) present

/-- An operation keeps the agreement exactly when it is sound. -/
theorem Effect.agrees_iff
    {sound : Prop}
    (effect : Effect backend next sound)
    (agrees : backend.Agrees) :
    next.Agrees ↔ sound := by
  cases effect with
  | kept holds entries bodies =>
      refine iff_of_true ⟨?_, ?_⟩ holds
      · rw [entries, bodies]
        exact agrees.listed
      · intro bucket key metadata body found present
        rw [head_eq_ok, entries] at found
        rw [bodies] at present
        exact agrees.sized bucket key metadata body (head_eq_ok.mpr found)
          present
  | stored bucket key metadata bytes exactly entries bodies =>
      rw [exactly]
      constructor
      · intro agreesNext
        refine agreesNext.sized bucket key metadata bytes ?_ ?_
        · rw [head_eq_ok, entries, Finmap.lookup_insert]
        · rw [bodies, Finmap.lookup_insert]
      · intro same
        exact agrees.store same entries bodies
  | dropped bucket key fails empty entries bodies =>
      refine iff_of_false ?_ fails
      intro agreesNext
      have listed := agreesNext.listed (makeKey bucket key)
      rw [entries, bodies, Finmap.lookup_erase,
        agrees.listed (makeKey bucket key), empty] at listed
      cases listed

/-- A growth that is refused keeps both tables, or drops an empty body. -/
private theorem Effect.refused
    (bucket key : String)
    {sound : Prop}
    (decides : sound ↔
      backend.data.bodies.lookup (makeKey bucket key) ≠ some [])
    (entries : next.index.entries = backend.index.entries)
    (bodies : next.data.bodies =
      if backend.data.bodies.lookup (makeKey bucket key) = some [] then
        backend.data.bodies.erase (makeKey bucket key)
      else backend.data.bodies) :
    Effect backend next sound := by
  by_cases empty :
      backend.data.bodies.lookup (makeKey bucket key) = some []
  · rw [if_pos empty] at bodies
    refine .dropped bucket key ?_ empty entries bodies
    rw [decides]
    exact not_not_intro empty
  · rw [if_neg empty] at bodies
    exact .kept (decides.mpr empty) entries bodies

/-- A sized write is registered with the size it got. -/
private theorem length_overwrite_iff
    {bytes source : Bytes}
    {offset : Nat}
    {totalSize : Option Nat}
    (inWord : offset < wordModulus)
    (sized : bytes.length = max (writtenSize offset source totalSize)
      (addWord offset source.length)) :
    offset + source.length ≤ writtenSize offset source totalSize ↔
      writtenSize offset source totalSize =
        (Bytes.overwrite bytes offset source).length := by
  generalize writtenSize offset source totalSize = size at sized ⊢
  have wrapped : addWord offset source.length ≤ offset + source.length :=
    Nat.mod_le _ _
  constructor
  · intro inside
    rw [Bytes.length_overwrite (by omega), sized]
    omega
  · intro same
    by_cases inside : offset + source.length ≤ bytes.length
    · rw [Bytes.length_overwrite inside] at same
      omega
    · -- the copy runs past the end of the body
      simp only [Bytes.overwrite, List.length_append, List.length_take,
        List.length_drop] at same
      by_cases empty : source.length = 0
      · rw [empty] at sized inside
        have exactly : addWord offset 0 = offset :=
          Nat.mod_eq_of_lt (by omega)
        omega
      · omega

private theorem effect_writeRange
    (backend : CompositeBackend)
    (bucket key : String)
    {offset : Nat}
    (source : Bytes)
    (totalSize : Option Nat)
    (now : Nat)
    (inWord : offset < wordModulus) :
    Effect backend
      (backend.writeRange bucket key offset source totalSize now).2
      (backend.Sound (.writeRange bucket key offset source totalSize)) := by
  unfold writeRange
  rcases backend.data.writeRange_cases bucket key offset source totalSize
      rfl with
    ⟨written, bytes, answer, fits, length, stored⟩ | ⟨refused, answer, unfit,
      bodies⟩
  · rw [answer]
    refine .stored bucket key _ _ ?_ rfl stored
    apply Iff.trans (iff_of_eq (if_pos fits))
    exact length_overwrite_iff inWord length
  · rw [answer]
    refine .refused bucket key ?_ rfl bodies
    exact iff_of_eq (if_neg unfit)

private theorem sound_write
    (backend : CompositeBackend)
    (bucket key : String)
    (source : Bytes) :
    backend.Sound (.write bucket key source) =
      backend.Sound (.writeRange bucket key 0 source (some source.length)) := by
  have wrapped : addWord 0 source.length ≤ 0 + source.length :=
    Nat.mod_le _ _
  have target : max source.length (addWord 0 source.length) =
      source.length := by omega
  simp only [Sound, SafeGrowth, writtenSize, Option.getD_some, target,
    Nat.zero_add, le_refl]
  by_cases fits : backend.data.Fits (makeKey bucket key) source.length <;>
    simp [fits]

private theorem effect_reserve
    (backend : CompositeBackend)
    (bucket key : String)
    (totalSize now : Nat) :
    Effect backend (backend.reserve bucket key totalSize now).2
      (backend.Sound (.reserve bucket key totalSize)) := by
  unfold reserve
  rcases backend.data.reserve_cases bucket key totalSize with
    ⟨reserved, bytes, answer, fits, length, stored⟩ | ⟨refused, answer, unfit,
      bodies⟩
  · rw [answer]
    refine .stored bucket key _ _ ?_ rfl stored
    exact iff_of_true (.inl fits) length.symm
  · rw [answer]
    refine .refused bucket key ?_ rfl bodies
    simp only [Sound, SafeGrowth, unfit, false_or]

private theorem effect_writeBlocks
    (backend : CompositeBackend)
    (bucket key : String)
    {source : List Bytes}
    (now : Nat)
    (inWord : source.flatten.length < wordModulus) :
    Effect backend (backend.writeBlocks bucket key source now).2
      (backend.Sound (.writeBlocks bucket key source)) := by
  unfold writeBlocks
  dsimp only
  rcases backend.data.reserve_cases bucket key source.flatten.length with
    ⟨reserved, bytes, answer, fits, length, stored⟩ | ⟨refused, answer, unfit,
      bodies⟩
  · have found : reserved.bodies.lookup (makeKey bucket key) = some bytes := by
      rw [stored, Finmap.lookup_insert]
    have inside : 0 + source.flatten.length ≤ bytes.length := by omega
    have loop := writeEach_inside 0 source found inside (by omega)
    have kept := (Bytes.length_overwrite inside).trans length
    rw [length] at loop
    rw [answer]
    dsimp only
    rw [loop]
    refine .stored bucket key _ (bytes.overwrite 0 source.flatten) ?_ rfl ?_
    · exact iff_of_true (.inl fits) kept.symm
    · rw [MemoryDataStore.setBody, stored, Finmap.insert_insert]
  · rw [answer]
    refine .refused bucket key ?_ rfl bodies
    simp only [Sound, SafeGrowth, unfit, false_or]

/-- Staging a part touches neither table. -/
theorem writePartEach_bodies
    (uploadId : String)
    (partNumber : Nat)
    (blocks : List Bytes) :
    ∀ (data : MemoryDataStore) (offset : Nat),
      (writePartEach uploadId partNumber data offset blocks).2.bodies =
        data.bodies := by
  induction blocks with
  | nil =>
      intro data offset
      rfl
  | cons block blocks inductionHypothesis =>
      intro data offset
      have same := data.writePart_bodies uploadId partNumber offset block
      rw [writePartEach]
      split
      · next failed =>
          rw [failed] at same
          exact same
      · next staged =>
          rw [staged] at same
          rw [inductionHypothesis]
          exact same

/-- Every known destination belongs to an upload of the index. -/
def Tracked (backend : CompositeBackend) : Prop :=
  ∀ uploadId, backend.mpuTargets.lookup uploadId ≠ none →
    backend.index.mpu.lookup uploadId ≠ none

private theorem effect_completeMultipart
    {backend : CompositeBackend}
    {uploadId : String}
    {parts : List PartRecord}
    (now : Nat)
    (tracked : backend.Tracked)
    (inWords : backend.InWords (.completeMultipart uploadId parts)) :
    Effect backend (backend.completeMultipart uploadId parts now).2
      (backend.Sound (.completeMultipart uploadId parts)) := by
  unfold completeMultipart MemoryDataStore.assembleObject
  cases target : backend.mpuTargets.lookup uploadId with
  | none => exact .kept (by simp [Sound, target]) rfl rfl
  | some destination =>
  obtain ⟨bucket, key⟩ := destination
  dsimp only
  cases detached : backend.data.detachStaging uploadId with
  | none => exact .kept (by simp [Sound, detached]) rfl rfl
  | some pair =>
  obtain ⟨staging, rest⟩ := pair
  obtain ⟨found, restEq⟩ := MemoryDataStore.detachStaging_eq_some detached
  have released : (rest.releaseBytes staging.reservedBytes).bodies =
      backend.data.bodies := by
    rw [MemoryDataStore.releaseBytes_bodies, restEq]
  dsimp only
  cases size : MemoryDataStore.assembledSize staging
      (orderedNumbers parts) with
  | none =>
      refine .kept ?_ rfl released
      intro _ _ _ _ _ _ again sized
      cases detached.symm.trans again
      cases size.symm.trans sized
  | some total =>
  have decides : backend.Sound (.completeMultipart uploadId parts) ↔
      SafeGrowth (rest.releaseBytes staging.reservedBytes)
        (makeKey bucket key) total := by
    constructor
    · intro sound
      exact sound bucket key staging rest total target detached size
    · intro safe _ _ _ _ _ aimed again sized
      cases target.symm.trans aimed
      cases detached.symm.trans again
      cases size.symm.trans sized
      exact safe
  rcases placed : (rest.releaseBytes staging.reservedBytes).installBody
      (makeKey bucket key) total
      (MemoryDataStore.assembledBytes staging (orderedNumbers parts)) with
    ⟨granted, installed⟩
  simp only [placed]
  cases granted with
  | false =>
      have bodies := MemoryDataStore.bodies_of_installBody_refused placed
      rw [released] at bodies
      refine .refused bucket key ?_ rfl bodies
      have unfit := MemoryDataStore.not_fits_of_installBody placed
      rw [decides, SafeGrowth, released]
      simp [unfit]
  | true =>
      have bodies := MemoryDataStore.bodies_of_installBody placed
      rw [released] at bodies
      have length := MemoryDataStore.assembledSize_eq_some size (by
        have bounded := inWords staging found
        rwa [MemoryDataStore.assembledBytes, List.length_flatMap] at bounded)
      -- the upload is open, so its commit is not refused
      cases record : backend.index.mpu.lookup uploadId with
      | none => exact absurd record (tracked uploadId (by simp [target]))
      | some known =>
          simp only [MemoryIndexStore.commitMultipart,
            MemoryIndexStore.takeMultipart, record]
          refine .stored bucket key _ _ ?_ rfl bodies
          rw [decides]
          exact iff_of_true
            (.inl (MemoryDataStore.fits_of_installBody placed)) length

/-- Every operation has an effect of the listed kinds. -/
theorem effect_apply
    {backend : CompositeBackend}
    {operation : Operation}
    (now : Nat)
    (tracked : backend.Tracked)
    (inWords : backend.InWords operation) :
    Effect backend (backend.apply now operation) (backend.Sound operation) := by
  cases operation with
  | write bucket key source =>
      rw [sound_write]
      exact effect_writeRange backend bucket key source _ now (by decide)
  | writeBlocks bucket key source =>
      exact effect_writeBlocks backend bucket key now inWords
  | writeRange bucket key offset source totalSize =>
      exact effect_writeRange backend bucket key source totalSize now inWords
  | reserve bucket key totalSize =>
      exact effect_reserve backend bucket key totalSize now
  | startMultipart bucket key totalSizeHint => exact .kept trivial rfl rfl
  | writePart uploadId partNumber offset source =>
      have same := backend.data.writePart_bodies uploadId partNumber offset
        source
      simp only [apply, writePart]
      split
      · next failed =>
          rw [failed] at same
          exact .kept trivial rfl same
      · next staged =>
          rw [staged] at same
          exact .kept trivial rfl same
  | writePartBlocks uploadId partNumber offset source =>
      have same := writePartEach_bodies uploadId partNumber source
        backend.data offset
      simp only [apply, writePartBlocks]
      split
      · next failed =>
          rw [failed] at same
          exact .kept trivial rfl same
      · next staged =>
          rw [staged] at same
          exact .kept trivial rfl same
  | completeMultipart uploadId parts =>
      exact effect_completeMultipart now tracked inWords
  | abortMultipart uploadId =>
      exact .kept trivial rfl (by
        simp [apply, abortMultipart, eraseTarget])

/-- Destinations and uploads that stay as they are stay tracked. -/
private theorem Tracked.congr
    (tracked : backend.Tracked)
    (targets : next.mpuTargets = backend.mpuTargets)
    (uploads : next.index.mpu = backend.index.mpu) :
    next.Tracked := by
  intro uploadId known
  rw [targets] at known
  rw [uploads]
  exact tracked uploadId known

/-- A forgotten upload is forgotten on both sides. -/
private theorem Tracked.erase
    {uploadId : String}
    (tracked : backend.Tracked)
    (targets : next.mpuTargets = backend.mpuTargets.erase uploadId)
    (uploads : next.index.mpu = backend.index.mpu.erase uploadId) :
    next.Tracked := by
  intro other known
  rw [targets, Table.lookup_erase_eq] at known
  rw [uploads, Table.lookup_erase_eq]
  split
  · next same => simp [same] at known
  · next different =>
      rw [if_neg different] at known
      exact tracked other known

/-- Every operation keeps the destinations tracked. -/
theorem Tracked.apply
    {backend : CompositeBackend}
    (operation : Operation)
    (now : Nat)
    (tracked : backend.Tracked) :
    (backend.apply now operation).Tracked := by
  cases operation with
  | write bucket key source =>
      simp only [CompositeBackend.apply, write, writeRange]
      split <;> exact tracked.congr rfl rfl
  | writeBlocks bucket key source =>
      simp only [CompositeBackend.apply, writeBlocks]
      split
      · exact tracked.congr rfl rfl
      · split <;> exact tracked.congr rfl rfl
  | writeRange bucket key offset source totalSize =>
      simp only [CompositeBackend.apply, writeRange]
      split <;> exact tracked.congr rfl rfl
  | reserve bucket key totalSize =>
      simp only [CompositeBackend.apply, reserve]
      split <;> exact tracked.congr rfl rfl
  | startMultipart bucket key totalSizeHint =>
      intro uploadId known
      simp only [CompositeBackend.apply, startMultipart,
        MemoryIndexStore.startMultipart, addTarget,
        Table.lookup_emplace_eq] at known ⊢
      split at known
      · next opened => simp [opened]
      · next other =>
          rw [if_neg other]
          exact tracked uploadId known
  | writePart uploadId partNumber offset source =>
      simp only [CompositeBackend.apply, writePart]
      split <;> exact tracked.congr rfl rfl
  | writePartBlocks uploadId partNumber offset source =>
      simp only [CompositeBackend.apply, writePartBlocks]
      split <;> exact tracked.congr rfl rfl
  | completeMultipart uploadId parts =>
      simp only [CompositeBackend.apply, completeMultipart]
      split
      · exact tracked
      · split
        · exact tracked.congr rfl rfl
        · simp only [MemoryIndexStore.commitMultipart,
            MemoryIndexStore.takeMultipart]
          cases backend.index.mpu.lookup uploadId with
          | none => exact tracked.congr rfl rfl
          | some record => exact tracked.erase rfl rfl
  | abortMultipart uploadId => exact tracked.erase rfl rfl

/-- Runs of operations that fit the words of the code. -/
def Runs (backend : CompositeBackend) (label : Operation × Nat) : Prop :=
  backend.InWords label.1

/-- Runs of sound operations. -/
def SoundRuns (backend : CompositeBackend) (label : Operation × Nat) : Prop :=
  backend.InWords label.1 ∧ backend.Sound label.1

private theorem Tracked.of_reachable
    {guard : CompositeBackend → Operation × Nat → Prop}
    (reachable : machine.Reachable guard backend) :
    backend.Tracked := by
  refine reachable.invariant ?_ ?_
  · rintro start ⟨capacityBytes, rfl⟩ uploadId known
    exact absurd rfl known
  · intro state label after tracked _ stepped
    cases stepped
    exact tracked.apply label.1 label.2

/-- In every state reached by sound operations, index and data agree; and the
next operation keeps the agreement exactly when it is sound. -/
theorem agrees_iff_sound
    {backend : CompositeBackend}
    (reachable : machine.Reachable SoundRuns backend) :
    backend.Agrees ∧
      ∀ operation now, backend.InWords operation →
        ((backend.apply now operation).Agrees ↔ backend.Sound operation) := by
  have agrees : backend.Agrees := by
    refine reachable.induction ?_ ?_
    · rintro start ⟨capacityBytes, rfl⟩
      constructor
      · intro id
        rfl
      · intro bucket key metadata body found present
        cases present
    · intro state label after reached agrees allowed stepped
      cases stepped
      have effect := effect_apply label.2 (Tracked.of_reachable reached)
        allowed.1
      exact (effect.agrees_iff agrees).mpr allowed.2
  refine ⟨agrees, ?_⟩
  intro operation now inWords
  have effect := effect_apply now (Tracked.of_reachable reachable) inWords
  exact effect.agrees_iff agrees

theorem agrees_after_write :
    machine.Reachable SoundRuns
        ((init 4).apply 1 (.write "b" "k" [1, 2])) ∧
      ((init 4).apply 1 (.write "b" "k" [1, 2])).Agrees := by
  have reachable : machine.Reachable SoundRuns
      ((init 4).apply 1 (.write "b" "k" [1, 2])) := by
    refine ⟨init 4, [(.write "b" "k" [1, 2], 1)], ⟨4, rfl⟩, ?_⟩
    exact .cons ⟨trivial, .inl (by decide)⟩ rfl .nil
  exact ⟨reachable, (agrees_iff_sound reachable).1⟩

/-- A chunk that ends beyond the announced size of the object: the data store
keeps all of it, and the index registers the announced size. -/
theorem registered_too_small :
    ¬∀ backend, machine.Reachable Runs backend → backend.Agrees := by
  intro always
  have agrees := always
    ((init 4).apply 1 (.writeRange "b" "k" 0 [1, 2] (some 1)))
    ⟨init 4, [(.writeRange "b" "k" 0 [1, 2] (some 1), 1)], ⟨4, rfl⟩,
      .cons (by decide : 0 < wordModulus) rfl .nil⟩
  have sized := agrees.sized "b" "k" (makeMeta 1 1) [1, 2] rfl rfl
  revert sized
  decide

end CompositeBackend

end Gateway
end TurboAccess
