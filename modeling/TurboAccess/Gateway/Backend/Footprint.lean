import TurboAccess.Gateway.Backend.Capacity
import TurboAccess.Gateway.Backend.CompositeBackend

/-!
# Footprints of the backend operations

Which tables an operation of the stores leaves alone, and what it does to the
one entry it changes.  Object operations touch one body and no staging;
multipart operations touch one staging and no body; only the installation of an
assembled body crosses from one to the other.
-/

namespace TurboAccess
namespace Gateway
namespace MemoryDataStore

/-! ## Capacity -/

@[simp] theorem releaseBytes_mpu (store : MemoryDataStore) (bytes : Nat) :
    (store.releaseBytes bytes).mpu = store.mpu := by
  unfold releaseBytes
  split <;> rfl

@[simp] theorem releaseBytes_bodies (store : MemoryDataStore) (bytes : Nat) :
    (store.releaseBytes bytes).bodies = store.bodies := by
  unfold releaseBytes
  split <;> rfl

/-- Taking capacity changes the counter only. -/
theorem tables_of_reserveBytes
    {store reserved : MemoryDataStore}
    {growth : Nat}
    (taken : store.reserveBytes growth = some reserved) :
    reserved.mpu = store.mpu ∧ reserved.bodies = store.bodies := by
  unfold reserveBytes at taken
  split at taken
  · cases taken
    exact ⟨rfl, rfl⟩
  · dsimp only at taken
    split at taken
    · cases taken
    · cases taken
      exact ⟨rfl, rfl⟩

@[simp] theorem releaseBytes_capacityBytes
    (store : MemoryDataStore)
    (bytes : Nat) :
    (store.releaseBytes bytes).capacityBytes = store.capacityBytes := by
  unfold releaseBytes
  split <;> rfl

theorem capacityBytes_of_reserveBytes
    {store reserved : MemoryDataStore}
    {growth : Nat}
    (taken : store.reserveBytes growth = some reserved) :
    reserved.capacityBytes = store.capacityBytes := by
  unfold reserveBytes at taken
  split at taken
  · cases taken
    rfl
  · dsimp only at taken
    split at taken <;> cases taken
    rfl

/-! ## Bodies -/

@[simp] theorem setBody_mpu
    (store : MemoryDataStore)
    (id : String)
    (bytes : Bytes) :
    (store.setBody id bytes).mpu = store.mpu := rfl

@[simp] theorem dropBody_mpu (store : MemoryDataStore) (id : String) :
    (store.dropBody id).mpu = store.mpu := rfl

@[simp] theorem fitBody_mpu
    (store : MemoryDataStore)
    (id : String)
    (target : Nat) :
    (store.fitBody id target).2.mpu = store.mpu := by
  unfold fitBody
  dsimp only
  split
  · cases taken : store.reserveBytes (target - (store.body id).length) with
    | none =>
        dsimp only
        split <;> rfl
    | some reserved => exact (tables_of_reserveBytes taken).1
  · split
    · simp
    · rfl

/-- What is seen of a store is kept by a reservation when it is kept by making
room. -/
theorem view_reserve
    {α : Type}
    (store : MemoryDataStore)
    (view : MemoryDataStore → α)
    (bucket key : String)
    (totalSize : Nat)
    (kept : view (store.fitBody (makeKey bucket key) totalSize).2 =
      view store) :
    view (store.reserve bucket key totalSize).2 = view store := by
  rw [← kept]
  unfold reserve
  dsimp only
  split <;> next fits => rw [fits]

/-- What is seen of a store, its bodies apart, is kept by a write when it is kept
by making room. -/
theorem view_writeRange
    {α : Type}
    (store : MemoryDataStore)
    (view : MemoryDataStore → α)
    (bucket key : String)
    (offset : Nat)
    (source : Bytes)
    (totalSize : Option Nat)
    (kept : view (store.fitBody (makeKey bucket key)
      (max (totalSize.getD (addWord offset source.length))
        (addWord offset source.length))).2 = view store)
    (apart : ∀ (other : MemoryDataStore) bodies,
      view { other with bodies } = view other) :
    view (store.writeRange bucket key offset source totalSize).2 =
      view store := by
  rw [← kept]
  unfold writeRange
  dsimp only
  split
  · next fits => rw [fits]
  · next fits =>
      rw [fits]
      dsimp only
      split
      · rfl
      · exact apart _ _

@[simp] theorem reserve_mpu
    (store : MemoryDataStore)
    (bucket key : String)
    (totalSize : Nat) :
    (store.reserve bucket key totalSize).2.mpu = store.mpu :=
  store.view_reserve MemoryDataStore.mpu bucket key totalSize
    (store.fitBody_mpu _ _)

@[simp] theorem writeRange_mpu
    (store : MemoryDataStore)
    (bucket key : String)
    (offset : Nat)
    (source : Bytes)
    (totalSize : Option Nat) :
    (store.writeRange bucket key offset source totalSize).2.mpu =
      store.mpu :=
  store.view_writeRange MemoryDataStore.mpu bucket key offset source totalSize
    (store.fitBody_mpu _ _) fun _ _ => rfl

@[simp] theorem fitBody_capacityBytes
    (store : MemoryDataStore)
    (id : String)
    (target : Nat) :
    (store.fitBody id target).2.capacityBytes = store.capacityBytes := by
  unfold fitBody
  dsimp only
  split
  · cases taken : store.reserveBytes (target - (store.body id).length) with
    | none =>
        dsimp only
        split <;> rfl
    | some reserved =>
        have kept := capacityBytes_of_reserveBytes taken
        exact kept
  · split
    · rw [releaseBytes_capacityBytes]
      rfl
    · rfl

@[simp] theorem reserve_capacityBytes
    (store : MemoryDataStore)
    (bucket key : String)
    (totalSize : Nat) :
    (store.reserve bucket key totalSize).2.capacityBytes =
      store.capacityBytes :=
  store.view_reserve MemoryDataStore.capacityBytes bucket key totalSize
    (store.fitBody_capacityBytes _ _)

@[simp] theorem writeRange_capacityBytes
    (store : MemoryDataStore)
    (bucket key : String)
    (offset : Nat)
    (source : Bytes)
    (totalSize : Option Nat) :
    (store.writeRange bucket key offset source totalSize).2.capacityBytes =
      store.capacityBytes :=
  store.view_writeRange MemoryDataStore.capacityBytes bucket key offset source
    totalSize (store.fitBody_capacityBytes _ _) fun _ _ => rfl

/-- A reservation fails for want of capacity only. -/
theorem error_of_reserve
    {store failed : MemoryDataStore}
    {bucket key : String}
    {totalSize : Nat}
    {error : Error}
    (refused : store.reserve bucket key totalSize = (.error error, failed)) :
    error = capacityExceeded := by
  unfold reserve at refused
  dsimp only at refused
  split at refused <;> simp only [Prod.mk.injEq, Except.error.injEq,
    reduceCtorEq, false_and] at refused
  exact refused.1.symm

/-- A write fails for want of capacity only. -/
theorem error_of_writeRange
    {store failed : MemoryDataStore}
    {bucket key : String}
    {offset : Nat}
    {source : Bytes}
    {totalSize : Option Nat}
    {error : Error}
    (refused : store.writeRange bucket key offset source totalSize =
      (.error error, failed)) :
    error = capacityExceeded := by
  unfold writeRange at refused
  dsimp only at refused
  split at refused <;> simp only [Prod.mk.injEq, Except.error.injEq,
    reduceCtorEq, false_and] at refused
  exact refused.1.symm

@[simp] theorem installBody_mpu
    (store : MemoryDataStore)
    (id : String)
    (total : Nat)
    (assembled : Bytes) :
    (store.installBody id total assembled).2.mpu = store.mpu := by
  unfold installBody
  dsimp only
  split
  · cases taken : store.reserveBytes (total - (store.body id).length) with
    | none =>
        dsimp only
        split <;> rfl
    | some reserved => exact (tables_of_reserveBytes taken).1
  · split
    · simp
    · rfl

theorem mpu_of_installBody
    {store installed : MemoryDataStore}
    {id : String}
    {total : Nat}
    {assembled : Bytes}
    {placed : Bool}
    (executed : store.installBody id total assembled = (placed, installed)) :
    installed.mpu = store.mpu := by
  rw [← store.installBody_mpu id total assembled, executed]

@[simp] theorem installBody_capacityBytes
    (store : MemoryDataStore)
    (id : String)
    (total : Nat)
    (assembled : Bytes) :
    (store.installBody id total assembled).2.capacityBytes =
      store.capacityBytes := by
  unfold installBody
  dsimp only
  split
  · cases taken : store.reserveBytes (total - (store.body id).length) with
    | none =>
        dsimp only
        split <;> rfl
    | some reserved =>
        have kept := capacityBytes_of_reserveBytes taken
        exact kept
  · split
    · exact releaseBytes_capacityBytes _ _
    · rfl

/-- The capacity covers the growth of a body to a size. -/
def Fits (store : MemoryDataStore) (id : String) (total : Nat) : Prop :=
  total ≤ (store.body id).length ∨
    addWord store.usedBytes (total - (store.body id).length) ≤
      store.capacityBytes

instance (store : MemoryDataStore) (id : String) (total : Nat) :
    Decidable (store.Fits id total) :=
  inferInstanceAs (Decidable (_ ∨ _))

/-- A growth is granted exactly when the capacity covers it. -/
private theorem reserveBytes_ne_none
    {store : MemoryDataStore}
    {id : String}
    {total : Nat}
    (grows : total > (store.body id).length) :
    store.reserveBytes (total - (store.body id).length) ≠ none ↔
      store.Fits id total := by
  have growth : total - (store.body id).length ≠ 0 := by omega
  simp only [reserveBytes, if_neg growth, Fits]
  split
  · simp only [ne_eq, not_true_eq_false, false_iff]
    omega
  · simp only [ne_eq, reduceCtorEq, not_false_eq_true, true_iff]
    omega

/-- An installation succeeds exactly when the capacity covers the growth. -/
theorem installBody_fst
    (store : MemoryDataStore)
    (id : String)
    (total : Nat)
    (assembled : Bytes) :
    (store.installBody id total assembled).1 = true ↔
      store.Fits id total := by
  unfold installBody
  dsimp only
  by_cases grows : total > (store.body id).length
  · rw [if_pos grows, ← reserveBytes_ne_none grows]
    cases store.reserveBytes (total - (store.body id).length) <;> simp
  · rw [if_neg grows]
    have fits : store.Fits id total := .inl (by omega)
    split <;> simp [fits]

/-- A fit succeeds exactly when the capacity covers the growth. -/
theorem fitBody_fst
    (store : MemoryDataStore)
    (id : String)
    (target : Nat) :
    (store.fitBody id target).1 = true ↔ store.Fits id target := by
  unfold fitBody
  dsimp only
  by_cases grows : target > (store.body id).length
  · rw [if_pos grows, ← reserveBytes_ne_none grows]
    cases store.reserveBytes (target - (store.body id).length) <;> simp
  · rw [if_neg grows]
    have fits : store.Fits id target := .inl (by omega)
    split <;> simp [fits]

theorem fits_of_fitBody
    {store after : MemoryDataStore}
    {id : String}
    {target : Nat}
    (executed : store.fitBody id target = (true, after)) :
    store.Fits id target := by
  rw [← fitBody_fst, executed]

theorem not_fits_of_fitBody
    {store after : MemoryDataStore}
    {id : String}
    {target : Nat}
    (refused : store.fitBody id target = (false, after)) :
    ¬store.Fits id target := by
  rw [← fitBody_fst, refused]
  exact Bool.false_ne_true

theorem fits_of_installBody
    {store after : MemoryDataStore}
    {id : String}
    {total : Nat}
    {assembled : Bytes}
    (executed : store.installBody id total assembled = (true, after)) :
    store.Fits id total := by
  rw [← installBody_fst _ _ _ assembled, executed]

theorem not_fits_of_installBody
    {store after : MemoryDataStore}
    {id : String}
    {total : Nat}
    {assembled : Bytes}
    (refused : store.installBody id total assembled = (false, after)) :
    ¬store.Fits id total := by
  rw [← installBody_fst _ _ _ assembled, refused]
  exact Bool.false_ne_true

/-- A successful fit stores a body of the size that was asked for. -/
theorem bodies_of_fitBody
    {store fitted : MemoryDataStore}
    {id : String}
    {target : Nat}
    (fits : store.fitBody id target = (true, fitted)) :
    fitted.bodies = store.bodies.insert id (fitted.body id) := by
  unfold fitBody at fits
  dsimp only at fits
  split at fits
  · cases taken : store.reserveBytes (target - (store.body id).length) with
    | none => simp [taken] at fits
    | some reserved =>
        simp only [taken, Prod.mk.injEq, true_and] at fits
        rw [← fits, body_setBody, setBody, (tables_of_reserveBytes taken).2]
  · split at fits
    · simp only [Prod.mk.injEq, true_and] at fits
      rw [← fits, releaseBytes_setBody, body_setBody, setBody,
        releaseBytes_bodies]
    · simp only [Prod.mk.injEq, true_and] at fits
      rw [← fits, body_setBody, setBody]

/-- A successful installation makes the assembled bytes the body. -/
theorem bodies_of_installBody
    {store installed : MemoryDataStore}
    {id : String}
    {total : Nat}
    {assembled : Bytes}
    (succeeded : store.installBody id total assembled = (true, installed)) :
    installed.bodies = store.bodies.insert id assembled := by
  unfold installBody at succeeded
  dsimp only at succeeded
  split at succeeded
  · cases taken : store.reserveBytes (total - (store.body id).length) with
    | none => simp [taken] at succeeded
    | some reserved =>
        simp only [taken, Prod.mk.injEq, true_and] at succeeded
        rw [← succeeded, ← (tables_of_reserveBytes taken).2]
        rfl
  · split at succeeded
    · simp only [Prod.mk.injEq, true_and] at succeeded
      rw [← succeeded, setBody, releaseBytes_bodies]
    · simp only [Prod.mk.injEq, true_and] at succeeded
      rw [← succeeded, setBody]

/-- What a refused growth does to the bodies: an existing empty body is
dropped, and nothing else happens. -/
theorem bodies_of_refusal
    (store : MemoryDataStore)
    (id : String) :
    (if (store.body id).length = 0 then store.dropBody id
      else store.setBody id (store.body id)).bodies =
      if store.bodies.lookup id = some [] then store.bodies.erase id
      else store.bodies := by
  cases found : store.bodies.lookup id with
  | none =>
      simp only [body, found, Option.getD_none, List.length_nil, if_true,
        dropBody, reduceCtorEq, if_false]
      exact Table.erase_of_lookup_none found
  | some bytes =>
      by_cases filled : bytes = []
      · simp [body, found, filled, dropBody]
      · simp only [body, found, Option.getD_some, List.length_eq_zero_iff,
          if_neg filled, setBody, Option.some.injEq]
        exact Table.insert_of_lookup_some found

/-- A refused installation drops an existing empty body. -/
theorem bodies_of_installBody_refused
    {store installed : MemoryDataStore}
    {id : String}
    {total : Nat}
    {assembled : Bytes}
    (refused : store.installBody id total assembled = (false, installed)) :
    installed.bodies =
      if store.bodies.lookup id = some [] then store.bodies.erase id
      else store.bodies := by
  unfold installBody at refused
  dsimp only at refused
  split at refused
  · cases taken : store.reserveBytes (total - (store.body id).length) with
    | some reserved => simp [taken] at refused
    | none =>
        simp only [taken, Prod.mk.injEq, true_and] at refused
        rw [← refused]
        exact bodies_of_refusal store id
  · split at refused <;> simp at refused

/-- A refused fit drops an existing empty body. -/
theorem bodies_of_fitBody_refused
    {store fitted : MemoryDataStore}
    {id : String}
    {target : Nat}
    (refused : store.fitBody id target = (false, fitted)) :
    fitted.bodies =
      if store.bodies.lookup id = some [] then store.bodies.erase id
      else store.bodies := by
  unfold fitBody at refused
  dsimp only at refused
  split at refused
  · cases taken : store.reserveBytes (target - (store.body id).length) with
    | some reserved => simp [taken] at refused
    | none =>
        simp only [taken, Prod.mk.injEq, true_and] at refused
        rw [← refused]
        exact bodies_of_refusal store id
  · split at refused <;> simp at refused

/-! ## Stagings -/

/-- A part write touches no body. -/
@[simp] theorem writePart_bodies
    (store : MemoryDataStore)
    (uploadId : String)
    (partNumber offset : Nat)
    (source : Bytes) :
    (store.writePart uploadId partNumber offset source).2.bodies =
      store.bodies := by
  unfold writePart
  dsimp only
  split
  · split
    · rfl
    · next taken => exact (tables_of_reserveBytes taken).2
  · rfl

@[simp] theorem writePart_capacityBytes
    (store : MemoryDataStore)
    (uploadId : String)
    (partNumber offset : Nat)
    (source : Bytes) :
    (store.writePart uploadId partNumber offset source).2.capacityBytes =
      store.capacityBytes := by
  unfold writePart setStaging
  dsimp only
  split
  · split
    · rfl
    · next taken =>
        have kept := capacityBytes_of_reserveBytes taken
        exact kept
  · rfl

/-- A part write touches no other staging. -/
theorem lookup_writePart_of_ne
    (store : MemoryDataStore)
    {uploadId other : String}
    (partNumber offset : Nat)
    (source : Bytes)
    (distinct : other ≠ uploadId) :
    (store.writePart uploadId partNumber offset source).2.mpu.lookup other =
      store.mpu.lookup other := by
  unfold writePart setStaging
  dsimp only
  split
  · split
    · simp [distinct]
    · next taken =>
        simp [distinct, (tables_of_reserveBytes taken).1]
  · simp [distinct]

/-- A part write changes one part of its staging, which exists afterwards. -/
theorem lookup_writePart_self
    (store : MemoryDataStore)
    (uploadId : String)
    (partNumber offset : Nat)
    (source : Bytes) :
    ∃ bytes reservedBytes,
      (store.writePart uploadId partNumber offset source).2.mpu.lookup
          uploadId =
        some ⟨(store.staging uploadId).parts.insert partNumber bytes,
          reservedBytes⟩ := by
  unfold writePart setStaging
  dsimp only
  split
  · split <;> simp only [Finmap.lookup_insert] <;> exact ⟨_, _, rfl⟩
  · simp only [Finmap.lookup_insert]
    exact ⟨_, _, rfl⟩

/-- A part written whole, over nothing longer, is staged as it was sent. -/
theorem writePart_whole
    {store : MemoryDataStore}
    {uploadId : String}
    {partNumber : Nat}
    {source : Bytes}
    {reply : Bool}
    (written : (store.writePart uploadId partNumber 0 source).1 = .ok reply)
    (covers : ((store.staging uploadId).part partNumber).length ≤
      source.length)
    (bounded : source.length < wordModulus) :
    ∃ reservedBytes,
      (store.writePart uploadId partNumber 0 source).2.mpu.lookup uploadId =
        some ⟨(store.staging uploadId).parts.insert partNumber source,
          reservedBytes⟩ := by
  have finishEq : addWord 0 source.length = source.length := by
    rw [addWord_of_lt (by simpa using bounded), Nat.zero_add]
  revert written
  unfold writePart
  simp only [finishEq]
  split
  · split
    · intro written
      cases written
    · intro _
      have resized : ((((store.staging uploadId).part partNumber).resize
          source.length).overwrite 0 source) = source :=
        Bytes.overwrite_zero_of_length_le (by simp)
      simp only [resized, setStaging, Finmap.lookup_insert]
      exact ⟨_, rfl⟩
  · intro _
    simp only [Bytes.overwrite_zero_of_length_le covers, setStaging,
      Finmap.lookup_insert]
    exact ⟨_, rfl⟩

/-- A part whose growth the capacity covers is written, and takes its growth of
the capacity. -/
theorem writePart_of_capacity
    {store : MemoryDataStore}
    {uploadId : String}
    {partNumber offset : Nat}
    {source : Bytes}
    (bounded : offset + source.length < wordModulus)
    (room : store.usedBytes + (offset + source.length -
      ((store.staging uploadId).part partNumber).length) ≤
        store.capacityBytes)
    (noWrap : store.usedBytes + (offset + source.length -
      ((store.staging uploadId).part partNumber).length) < wordModulus) :
    (store.writePart uploadId partNumber offset source).1 = .ok true ∧
      (store.writePart uploadId partNumber offset source).2.usedBytes =
        store.usedBytes + (offset + source.length -
          ((store.staging uploadId).part partNumber).length) := by
  unfold writePart
  rw [addWord_of_lt bounded]
  dsimp only
  split
  · next grows =>
      have taken : store.reserveBytes (offset + source.length -
          ((store.staging uploadId).part partNumber).length) =
            some { store with usedBytes := store.usedBytes +
              (offset + source.length -
                ((store.staging uploadId).part partNumber).length) } := by
        rw [reserveBytes, if_neg (by omega), addWord_of_lt noWrap]
        dsimp only
        rw [if_neg (by omega)]
      rw [taken]
      exact ⟨rfl, rfl⟩
  · next within =>
      refine ⟨rfl, ?_⟩
      show store.usedBytes = _
      omega

/-- A new part for which there is room is written, and takes its length of the
capacity. -/
theorem writePart_of_room
    {store : MemoryDataStore}
    {uploadId : String}
    {partNumber : Nat}
    {source : Bytes}
    (unstaged : (store.staging uploadId).part partNumber = [])
    (room : store.usedBytes + source.length ≤ store.capacityBytes)
    (bounded : store.usedBytes + source.length < wordModulus) :
    (store.writePart uploadId partNumber 0 source).1 = .ok true ∧
      (store.writePart uploadId partNumber 0 source).2.usedBytes =
        store.usedBytes + source.length := by
  have growth : 0 + source.length -
      ((store.staging uploadId).part partNumber).length = source.length := by
    rw [unstaged, List.length_nil, Nat.sub_zero, Nat.zero_add]
  have written := @writePart_of_capacity store uploadId partNumber 0 source
    (by omega) (by rwa [growth]) (by rwa [growth])
  rwa [growth] at written

/-- A part write fails for want of capacity only. -/
theorem error_of_writePart
    {store : MemoryDataStore}
    {uploadId : String}
    {partNumber offset : Nat}
    {source : Bytes}
    {error : Error}
    (refused : (store.writePart uploadId partNumber offset source).1 =
      .error error) :
    error = capacityExceeded := by
  revert refused
  unfold writePart
  dsimp only
  repeat' split
  all_goals simp +contextual [eq_comm]

/-- A refused part write keeps the part, which exists afterwards. -/
theorem writePart_refused
    {store : MemoryDataStore}
    {uploadId : String}
    {partNumber offset : Nat}
    {source : Bytes}
    {error : Error}
    (refused : (store.writePart uploadId partNumber offset source).1 =
      .error error) :
    (store.writePart uploadId partNumber offset source).2.mpu.lookup
        uploadId =
      some { store.staging uploadId with
        parts := (store.staging uploadId).parts.insert partNumber
          ((store.staging uploadId).part partNumber) } := by
  revert refused
  unfold writePart
  dsimp only
  split
  · split
    · intro _
      simp only [setStaging, Finmap.lookup_insert]
    · intro refused
      cases refused
  · intro refused
    cases refused

@[simp] theorem abortMultipartData_bodies
    (store : MemoryDataStore)
    (uploadId : String) :
    (store.abortMultipartData uploadId).2.bodies = store.bodies := by
  unfold abortMultipartData
  split
  · rfl
  · simp

/-- Aborting the data of an upload removes its staging. -/
@[simp] theorem abortMultipartData_mpu
    (store : MemoryDataStore)
    (uploadId : String) :
    (store.abortMultipartData uploadId).2.mpu = store.mpu.erase uploadId := by
  unfold abortMultipartData
  split
  · next absent => exact (Table.erase_of_lookup_none absent).symm
  · simp

@[simp] theorem abortMultipartData_capacityBytes
    (store : MemoryDataStore)
    (uploadId : String) :
    (store.abortMultipartData uploadId).2.capacityBytes =
      store.capacityBytes := by
  unfold abortMultipartData
  split
  · rfl
  · dsimp only
    rw [releaseBytes_capacityBytes]

/-- Detaching takes the staging out and touches nothing else. -/
theorem detachStaging_eq_some
    {store detached : MemoryDataStore}
    {uploadId : String}
    {staging : MpuParts}
    (taken : store.detachStaging uploadId = some (staging, detached)) :
    store.mpu.lookup uploadId = some staging ∧
      detached = { store with mpu := store.mpu.erase uploadId } := by
  unfold detachStaging at taken
  split at taken
  · cases taken
  · next found =>
      simp only [Option.some.injEq, Prod.mk.injEq] at taken
      obtain ⟨rfl, rfl⟩ := taken
      exact ⟨found, rfl⟩

/-- The size of an assembly is only known when all listed parts are staged. -/
theorem lookup_of_assembledSize
    {staging : MpuParts}
    {partNumbers : List Nat}
    {total : Nat}
    (sized : assembledSize staging partNumbers = some total)
    {partNumber : Nat}
    (listed : partNumber ∈ partNumbers) :
    staging.parts.lookup partNumber = some (staging.part partNumber) := by
  have general : ∀ (rest : List Nat) (start : Nat),
      rest.foldlM (fun total number =>
        (staging.parts.lookup number).map fun part =>
          addWord total part.length) start = some total →
      partNumber ∈ rest →
      staging.parts.lookup partNumber = some (staging.part partNumber) := by
    intro rest
    induction rest with
    | nil => simp
    | cons head tail inductionHypothesis =>
        intro start folded member
        simp only [List.foldlM_cons, bind, Option.bind_eq_some_iff,
          Option.map_eq_some_iff] at folded
        obtain ⟨next, ⟨part, found, _⟩, folded⟩ := folded
        rcases List.mem_cons.mp member with rfl | later
        · rw [found]
          simp [MpuParts.part, found]
        · exact inductionHypothesis _ folded later
  exact general partNumbers 0 sized listed

/-- When all listed parts are staged, the size of an assembly is known. -/
theorem assembledSize_ne_none
    {staging : MpuParts}
    {partNumbers : List Nat}
    (staged : ∀ partNumber ∈ partNumbers,
      staging.parts.lookup partNumber ≠ none) :
    assembledSize staging partNumbers ≠ none := by
  have general : ∀ (rest : List Nat) (start : Nat),
      (∀ number ∈ rest, staging.parts.lookup number ≠ none) →
      rest.foldlM (fun total number =>
        (staging.parts.lookup number).map fun part =>
          addWord total part.length) start ≠ none := by
    intro rest
    induction rest with
    | nil => simp
    | cons head tail inductionHypothesis =>
        intro start present
        obtain ⟨part, found⟩ := Option.ne_none_iff_exists'.mp
          (present head List.mem_cons_self)
        simp only [List.foldlM_cons, bind, found, Option.map_some,
          Option.bind_some]
        exact inductionHypothesis _
          (fun number member => present number (List.mem_cons_of_mem _ member))
  exact general partNumbers 0 staged

end MemoryDataStore

namespace CompositeBackend

/-- The ordered numbers of a list of parts are the numbers of its parts. -/
theorem mem_orderedNumbers
    {parts : List PartRecord}
    {partNumber : Nat} :
    partNumber ∈ orderedNumbers parts ↔
      ∃ part ∈ parts, part.partNumber = partNumber := by
  unfold orderedNumbers
  rw [(List.perm_insertionSort _ _).mem_iff, List.mem_map]

/-- A refused part write of the backend is one of the data store. -/
theorem writePart_eq_error
    {backend next : CompositeBackend}
    {uploadId : String}
    {partNumber offset now : Nat}
    {source : Bytes}
    {error : Error}
    (refused : backend.writePart uploadId partNumber offset source now =
      (.error error, next)) :
    (backend.data.writePart uploadId partNumber offset source).1 =
        .error error ∧
      next = { backend with
        data := (backend.data.writePart uploadId partNumber offset
          source).2 } := by
  unfold writePart at refused
  split at refused
  · next written =>
      cases refused
      rw [written]
      exact ⟨rfl, rfl⟩
  · cases refused

/-- A part write of the backend is one of the data store, and its tag is made
from the clock. -/
theorem writePart_eq_ok
    {backend next : CompositeBackend}
    {uploadId etag : String}
    {partNumber offset now : Nat}
    {source : Bytes}
    (succeeded : backend.writePart uploadId partNumber offset source now =
      (.ok etag, next)) :
    (∃ reply, (backend.data.writePart uploadId partNumber offset source).1 =
        .ok reply) ∧
      etag = makePartEtag partNumber source.length now ∧
      next = { backend with
        data := (backend.data.writePart uploadId partNumber offset
          source).2 } := by
  unfold writePart at succeeded
  split at succeeded
  · cases succeeded
  · next reply data written =>
      cases succeeded
      rw [written]
      exact ⟨⟨reply, rfl⟩, rfl, rfl⟩

end CompositeBackend

end Gateway
end TurboAccess
