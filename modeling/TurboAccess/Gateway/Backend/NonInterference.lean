import TurboAccess.Gateway.Backend.Agreement
import TurboAccess.Gateway.Backend.Assembly

/-!
# Objects do not interfere

Every operation of the backend changes the index entry and the body of one
object at most: the object it names, or the destination of the upload it names.
Both tables are keyed by the bucket and the key joined with a slash, so objects
interfere exactly when their joined names are the same text.

Joined names of two objects are the same when one bucket continues the other
past a slash, and the key of the other starts with what it continues with.
-/

namespace TurboAccess
namespace Gateway

open Table (SameOff)

/-! ## Joined names -/

/-- Two texts joined at a separator are the same when their sides are, or when
they are cut at different separators. -/
theorem append_separator_inj_iff
    {α : Type*}
    {separator : α}
    {left right otherLeft otherRight : List α} :
    left ++ separator :: right = otherLeft ++ separator :: otherRight ↔
      (left = otherLeft ∧ right = otherRight) ∨
        ∃ middle,
          (left = otherLeft ++ separator :: middle ∧
            otherRight = middle ++ separator :: right) ∨
          (otherLeft = left ++ separator :: middle ∧
            right = middle ++ separator :: otherRight) := by
  rw [List.append_eq_append_iff]
  constructor
  · rintro (⟨extra, rfl, rest⟩ | ⟨extra, rfl, rest⟩)
    · cases extra with
      | nil => simpa using rest
      | cons first middle =>
          rw [List.cons_append, List.cons.injEq] at rest
          obtain ⟨rfl, rfl⟩ := rest
          exact .inr ⟨middle, .inr ⟨rfl, rfl⟩⟩
    · cases extra with
      | nil => simpa [eq_comm] using rest
      | cons first middle =>
          rw [List.cons_append, List.cons.injEq] at rest
          obtain ⟨rfl, rfl⟩ := rest
          exact .inr ⟨middle, .inl ⟨rfl, rfl⟩⟩
  · rintro (⟨rfl, rfl⟩ | ⟨middle, ⟨rfl, rfl⟩ | ⟨rfl, rfl⟩⟩)
    · exact .inl ⟨[], by simp⟩
    · exact .inr ⟨separator :: middle, rfl, rfl⟩
    · exact .inl ⟨separator :: middle, rfl, rfl⟩

/-- One bucket continues another past a slash, and the key in the other bucket
starts with what it continues with. -/
def Aliases (bucket key otherBucket otherKey : String) : Prop :=
  ∃ middle, bucket = makeKey otherBucket middle ∧ otherKey = makeKey middle key

/-- The joined names of two objects are the same text when the objects are the
same, or one is named in the other's bucket. -/
theorem makeKey_inj_iff
    {bucket key otherBucket otherKey : String} :
    makeKey bucket key = makeKey otherBucket otherKey ↔
      (bucket = otherBucket ∧ key = otherKey) ∨
        Aliases bucket key otherBucket otherKey ∨
        Aliases otherBucket otherKey bucket key := by
  have slash : "/".toList = ['/'] := by decide
  have joined : ∀ first second : String,
      (makeKey first second).toList =
        first.toList ++ '/' :: second.toList := by
    intro first second
    simp [makeKey, slash]
  unfold Aliases
  rw [← exists_or]
  simp only [← String.toList_inj, joined]
  rw [append_separator_inj_iff]
  refine or_congr_right ?_
  constructor
  · rintro ⟨middle, cuts⟩
    refine ⟨String.ofList middle, ?_⟩
    simpa using cuts
  · rintro ⟨middle, cuts⟩
    exact ⟨middle.toList, cuts⟩

/-! ## Bodies that an operation leaves -/

namespace MemoryDataStore

/-- A refused growth drops at most the body it was for. -/
private theorem sameOff_refused
    {before after : Table String Bytes}
    {id : String}
    (bodies : after =
      if before.lookup id = some [] then before.erase id else before) :
    SameOff id before after := by
  rw [bodies]
  split
  · exact .erase _
  · exact .refl _

theorem sameOff_reserve
    (store : MemoryDataStore)
    (bucket key : String)
    (totalSize : Nat) :
    SameOff (makeKey bucket key) store.bodies
      (store.reserve bucket key totalSize).2.bodies := by
  rcases store.reserve_cases bucket key totalSize with
    ⟨_, _, answer, _, _, stored⟩ | ⟨_, answer, _, bodies⟩
  · rw [answer]
    exact stored ▸ .insert _ _
  · rw [answer]
    exact sameOff_refused bodies

theorem sameOff_writeRange
    (store : MemoryDataStore)
    (bucket key : String)
    (offset : Nat)
    (source : Bytes)
    (totalSize : Option Nat) :
    SameOff (makeKey bucket key) store.bodies
      (store.writeRange bucket key offset source totalSize).2.bodies := by
  rcases store.writeRange_cases bucket key offset source totalSize rfl with
    ⟨_, _, answer, _, _, stored⟩ | ⟨_, answer, _, bodies⟩
  · rw [answer]
    exact stored ▸ .insert _ _
  · rw [answer]
    exact sameOff_refused bodies

theorem sameOff_assembleObject
    (store : MemoryDataStore)
    (uploadId bucket key : String)
    (partNumbers : List Nat) :
    SameOff (makeKey bucket key) store.bodies
      (store.assembleObject uploadId bucket key partNumbers).2.bodies := by
  unfold assembleObject
  cases taken : store.detachStaging uploadId with
  | none => exact .refl _
  | some pair =>
      obtain ⟨staging, detached⟩ := pair
      obtain ⟨-, rfl⟩ := detachStaging_eq_some taken
      dsimp only
      split
      · rw [releaseBytes_bodies]
        exact .refl _
      · split
        · next refused =>
            have bodies := bodies_of_installBody_refused refused
            rw [releaseBytes_bodies] at bodies
            exact sameOff_refused bodies
        · next placed =>
            have bodies := bodies_of_installBody placed
            rw [releaseBytes_bodies] at bodies
            exact bodies ▸ .insert _ _

end MemoryDataStore

namespace CompositeBackend

theorem sameOff_writeEach
    {bucket key : String}
    {totalSize : Nat}
    (blocks : List Bytes) :
    ∀ (data : MemoryDataStore) (offset : Nat),
      SameOff (makeKey bucket key) data.bodies
        (writeEach bucket key totalSize data offset blocks).2.bodies := by
  induction blocks with
  | nil =>
      intro data offset
      exact .refl _
  | cons block blocks inductionHypothesis =>
      intro data offset
      have first := data.sameOff_writeRange bucket key offset block
        (some totalSize)
      rw [writeEach]
      split
      · next failed =>
          rw [failed] at first
          exact first
      · next written =>
          rw [written] at first
          exact first.trans (inductionHypothesis _ _)

/-! ## Operations on one object -/

/-- The object that an operation is on: the one it names, or the destination of
the upload it names, when that is known. -/
def object (backend : CompositeBackend) :
    Operation → Option (String × String)
  | .write bucket key _ => some (bucket, key)
  | .writeBlocks bucket key _ => some (bucket, key)
  | .writeRange bucket key _ _ _ => some (bucket, key)
  | .reserve bucket key _ => some (bucket, key)
  | .startMultipart bucket key _ => some (bucket, key)
  | .writePart uploadId _ _ _ => backend.mpuTargets.lookup uploadId
  | .writePartBlocks uploadId _ _ _ => backend.mpuTargets.lookup uploadId
  | .completeMultipart uploadId _ => backend.mpuTargets.lookup uploadId
  | .abortMultipart uploadId => backend.mpuTargets.lookup uploadId

/-- An operation that is on an object, or on none. -/
def OnObject
    (bucket key : String)
    (backend : CompositeBackend)
    (label : Operation × Nat) : Prop :=
  ∀ object, backend.object label.1 = some object → object = (bucket, key)

/-- Index and data change at one name at most. -/
structure TouchesOnly
    (id : String)
    (backend next : CompositeBackend) : Prop where
  entries : SameOff id backend.index.entries next.index.entries
  bodies : SameOff id backend.data.bodies next.data.bodies

namespace TouchesOnly

variable {id : String} {backend middle next : CompositeBackend}

theorem refl (backend : CompositeBackend) : TouchesOnly id backend backend :=
  ⟨.refl _, .refl _⟩

theorem trans
    (first : TouchesOnly id backend middle)
    (second : TouchesOnly id middle next) :
    TouchesOnly id backend next :=
  ⟨first.entries.trans second.entries, first.bodies.trans second.bodies⟩

theorem head_eq
    {bucket key : String}
    (touches : TouchesOnly id backend next)
    (other : makeKey bucket key ≠ id) :
    next.head bucket key = backend.head bucket key := by
  rw [head, head, MemoryIndexStore.head, MemoryIndexStore.head,
    touches.entries _ other]

theorem read_eq
    {bucket key : String}
    (touches : TouchesOnly id backend next)
    (other : makeKey bucket key ≠ id)
    (offset size : Nat) :
    next.read bucket key offset size =
      backend.read bucket key offset size := by
  rw [read, read, MemoryDataStore.read, MemoryDataStore.read,
    touches.bodies _ other]

end TouchesOnly

theorem touchesOnly_writeRange
    (backend : CompositeBackend)
    (bucket key : String)
    (offset : Nat)
    (source : Bytes)
    (totalSize : Option Nat)
    (now : Nat) :
    TouchesOnly (makeKey bucket key) backend
      (backend.writeRange bucket key offset source totalSize now).2 := by
  have bodies := backend.data.sameOff_writeRange bucket key offset source
    totalSize
  revert bodies
  unfold writeRange
  rcases backend.data.writeRange bucket key offset source totalSize with
    ⟨error | reply, data⟩
  · exact fun bodies => ⟨.refl _, bodies⟩
  · exact fun bodies => ⟨.insert _ _, bodies⟩

theorem touchesOnly_reserve
    (backend : CompositeBackend)
    (bucket key : String)
    (totalSize now : Nat) :
    TouchesOnly (makeKey bucket key) backend
      (backend.reserve bucket key totalSize now).2 := by
  have bodies := backend.data.sameOff_reserve bucket key totalSize
  revert bodies
  unfold reserve
  rcases backend.data.reserve bucket key totalSize with ⟨error | reply, data⟩
  · exact fun bodies => ⟨.refl _, bodies⟩
  · exact fun bodies => ⟨.insert _ _, bodies⟩

theorem touchesOnly_writeBlocks
    (backend : CompositeBackend)
    (bucket key : String)
    (source : List Bytes)
    (now : Nat) :
    TouchesOnly (makeKey bucket key) backend
      (backend.writeBlocks bucket key source now).2 := by
  have reserved := backend.data.sameOff_reserve bucket key
    source.flatten.length
  revert reserved
  unfold writeBlocks
  dsimp only
  rcases backend.data.reserve bucket key source.flatten.length with
    ⟨error | reply, data⟩
  · exact fun reserved => ⟨.refl _, reserved⟩
  · intro reserved
    have written : SameOff (makeKey bucket key) data.bodies
        (writeEach bucket key source.flatten.length data 0 source).2.bodies :=
      sameOff_writeEach source data 0
    have bodies := reserved.trans written
    revert bodies
    dsimp only
    rcases writeEach bucket key source.flatten.length data 0 source with
      ⟨error | reply, data⟩
    · exact fun bodies => ⟨.refl _, bodies⟩
    · exact fun bodies => ⟨.insert _ _, bodies⟩

theorem touchesOnly_completeMultipart
    {backend : CompositeBackend}
    {uploadId bucket key : String}
    (target : ∀ object, backend.mpuTargets.lookup uploadId = some object →
      object = (bucket, key))
    (parts : List PartRecord)
    (now : Nat) :
    TouchesOnly (makeKey bucket key) backend
      (backend.completeMultipart uploadId parts now).2 := by
  unfold completeMultipart
  cases found : backend.mpuTargets.lookup uploadId with
  | none => exact .refl _
  | some object =>
      cases target object found
      have bodies := backend.data.sameOff_assembleObject uploadId bucket key
        (orderedNumbers parts)
      revert bodies
      dsimp only
      rcases backend.data.assembleObject uploadId bucket key
          (orderedNumbers parts) with ⟨error | size, data⟩
      · exact fun bodies => ⟨.refl _, bodies⟩
      · intro bodies
        unfold MemoryIndexStore.commitMultipart MemoryIndexStore.takeMultipart
        cases backend.index.mpu.lookup uploadId with
        | none => exact ⟨.refl _, bodies⟩
        | some record => exact ⟨.insert _ _, bodies⟩

/-- An operation on an object changes index and data at its name at most. -/
theorem touchesOnly_apply
    {backend : CompositeBackend}
    {bucket key : String}
    {label : Operation × Nat}
    (on : OnObject bucket key backend label) :
    TouchesOnly (makeKey bucket key) backend
      (backend.apply label.2 label.1) := by
  obtain ⟨operation, now⟩ := label
  cases operation with
  | write otherBucket otherKey source =>
      cases on _ rfl
      exact touchesOnly_writeRange backend bucket key 0 source _ now
  | writeBlocks otherBucket otherKey source =>
      cases on _ rfl
      exact touchesOnly_writeBlocks backend bucket key source now
  | writeRange otherBucket otherKey offset source totalSize =>
      cases on _ rfl
      exact touchesOnly_writeRange backend bucket key offset source _ now
  | reserve otherBucket otherKey totalSize =>
      cases on _ rfl
      exact touchesOnly_reserve backend bucket key totalSize now
  | startMultipart otherBucket otherKey totalSizeHint =>
      exact ⟨.refl _, .refl _⟩
  | writePart uploadId partNumber offset source =>
      have same := backend.data.writePart_bodies uploadId partNumber offset
        source
      revert same
      simp only [apply, writePart]
      rcases backend.data.writePart uploadId partNumber offset source with
        ⟨error | reply, data⟩ <;>
      exact fun same => ⟨.refl _, same ▸ .refl _⟩
  | writePartBlocks uploadId partNumber offset source =>
      have same := writePartEach_bodies uploadId partNumber source
        backend.data offset
      revert same
      simp only [apply, writePartBlocks]
      rcases writePartEach uploadId partNumber backend.data offset source with
        ⟨error | reply, data⟩ <;>
      exact fun same => ⟨.refl _, same ▸ .refl _⟩
  | completeMultipart uploadId parts =>
      exact touchesOnly_completeMultipart on parts now
  | abortMultipart uploadId =>
      refine ⟨.refl _, ?_⟩
      simp only [apply, abortMultipart, eraseTarget,
        MemoryDataStore.abortMultipartData_bodies]
      exact .refl _

/-- A run of operations on an object changes index and data at its name at
most. -/
theorem touchesOnly_of_path
    {backend after : CompositeBackend}
    {bucket key : String}
    {labels : List (Operation × Nat)}
    (path : machine.Path (OnObject bucket key) backend labels after) :
    TouchesOnly (makeKey bucket key) backend after := by
  refine path.preserves ?_ (TouchesOnly.refl backend)
  intro state label next touches on stepped
  cases stepped
  exact touches.trans (touchesOnly_apply on)

/-! ## Non-interference -/

/-- In every state, no run of operations on one object changes what `Head` and
`Read` answer about another. -/
def NonInterfering (bucket key otherBucket otherKey : String) : Prop :=
  ∀ backend after labels,
    machine.Reachable Machine.always backend →
      machine.Path (OnObject bucket key) backend labels after →
        after.head otherBucket otherKey =
            backend.head otherBucket otherKey ∧
          ∀ offset size, after.read otherBucket otherKey offset size =
            backend.read otherBucket otherKey offset size

/-- An empty object can be reserved in any backend, and is in the index then. -/
private theorem head_reserve_empty (bucket key : String) :
    ((init 0).reserve bucket key 0 0).2.head bucket key =
      .ok (makeMeta 0 0) := by
  have granted : ((init 0).data.reserve bucket key 0).1 = .ok true := by
    rcases (init 0).data.reserve_cases bucket key 0 with
      ⟨_, _, answer, _⟩ | ⟨_, _, unfit, _⟩
    · rw [answer]
    · exact absurd (.inl (Nat.zero_le _)) unfit
  rcases answered : (init 0).data.reserve bucket key 0 with ⟨result, data⟩
  rw [answered] at granted
  subst granted
  rw [reserve, answered]
  simp [head, MemoryIndexStore.head, MemoryIndexStore.putObjectIndex]

/-- Two objects do not interfere exactly when their joined names differ. -/
theorem nonInterfering_iff_makeKey_ne
    (bucket key otherBucket otherKey : String) :
    NonInterfering bucket key otherBucket otherKey ↔
      makeKey bucket key ≠ makeKey otherBucket otherKey := by
  constructor
  · intro apart same
    have path : machine.Path (OnObject bucket key) (init 0)
        [(.reserve bucket key 0, 0)]
        ((init 0).reserve bucket key 0 0).2 := by
      refine .cons ?_ rfl .nil
      intro object named
      exact (Option.some.inj named).symm
    have started : machine.Reachable Machine.always (init 0) :=
      ⟨init 0, [], ⟨0, rfl⟩, .nil⟩
    obtain ⟨unchanged, -⟩ := apart _ _ _ started path
    rw [head, MemoryIndexStore.head, ← same] at unchanged
    have reserved := head_reserve_empty bucket key
    rw [head, MemoryIndexStore.head, unchanged] at reserved
    cases reserved
  · intro distinct backend after labels _ path
    have touches := touchesOnly_of_path path
    exact ⟨touches.head_eq distinct.symm, touches.read_eq distinct.symm⟩

/-- Two objects of different names do not interfere exactly when neither is
named in the other's bucket. -/
theorem nonInterfering_iff
    {bucket key otherBucket otherKey : String}
    (distinct : (bucket, key) ≠ (otherBucket, otherKey)) :
    NonInterfering bucket key otherBucket otherKey ↔
      ¬Aliases bucket key otherBucket otherKey ∧
        ¬Aliases otherBucket otherKey bucket key := by
  rw [nonInterfering_iff_makeKey_ne, ne_eq, makeKey_inj_iff, not_or, not_or]
  apply and_iff_right
  rintro ⟨rfl, rfl⟩
  exact distinct rfl

theorem nonInterfering_iff_two_keys :
    NonInterfering "bucket" "one" "bucket" "two" ↔
      ¬Aliases "bucket" "one" "bucket" "two" ∧
        ¬Aliases "bucket" "two" "bucket" "one" :=
  nonInterfering_iff (by decide)

/-- A bucket whose name has a slash interferes with the bucket that has the name
before the slash. -/
theorem slash_in_bucket_interferes :
    ("a/b", "c") ≠ ("a", "b/c") ∧ ¬NonInterfering "a/b" "c" "a" "b/c" := by
  refine ⟨by decide, ?_⟩
  rw [nonInterfering_iff_makeKey_ne, not_ne_iff]
  decide

end CompositeBackend

end Gateway
end TurboAccess
