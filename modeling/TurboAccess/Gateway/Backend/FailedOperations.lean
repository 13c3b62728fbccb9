import TurboAccess.Gateway.Backend.Shards
import TurboAccess.Gateway.Gds.Binding

/-!
# What a failed operation of the data store leaves

An operation looks its object or part up before it asks for capacity, and the
lookup creates the entry.  A refused growth of an object drops the entry again,
told by the length of its body, so that an object that was there with an empty
body is dropped too.  A refused growth of a part drops nothing.  An assembly
takes the staging out before it can fail and never puts it back.

For every store and every request, a failure changes nothing exactly when the
request meets none of the three.
-/

namespace TurboAccess
namespace Gateway

/-- The caller sees a failure. -/
def DataAnswer.Failure : DataAnswer → Prop
  | .done result => result.success = false
  | .bytes result => result.success = false
  | .size result => result.success = false

namespace MemoryDataStore

/-! ## Refused growths -/

/-- A refused growth drops an object that was there with an empty body, and
changes nothing else. -/
theorem refusal_eq (store : MemoryDataStore) (id : String) :
    (if (store.body id).length = 0 then store.dropBody id
      else store.setBody id (store.body id)) =
      if store.bodies.lookup id = some [] then store.dropBody id
      else store := by
  have bodies := bodies_of_refusal store id
  split
  · next empty =>
      rw [if_pos empty] at bodies
      split
      · rfl
      · next absent =>
          rw [if_neg absent] at bodies
          exact congrArg (fun table => { store with bodies := table }) bodies
  · next filled =>
      rw [if_neg filled] at bodies
      have present : store.bodies.lookup id ≠ some [] := by
        intro found
        exact filled (by simp [body, found])
      rw [if_neg present] at bodies ⊢
      exact congrArg (fun table => { store with bodies := table }) bodies

theorem fitBody_refused
    {store fitted : MemoryDataStore}
    {id : String}
    {target : Nat}
    (refused : store.fitBody id target = (false, fitted)) :
    fitted = if store.bodies.lookup id = some [] then store.dropBody id
      else store := by
  rw [← refusal_eq]
  revert refused
  unfold fitBody
  dsimp only
  split
  · cases store.reserveBytes (target - (store.body id).length) with
    | none =>
        intro refused
        cases refused
        rfl
    | some reserved =>
        intro refused
        cases refused
  · split
    · intro refused
      cases refused
    · intro refused
      cases refused

/-! ## Sizes of assemblies -/

/-- Adding the sizes of staged parts from `start` on gives their sum, modulo
the size of a word. -/
theorem foldlM_addWord
    {staging : MpuParts}
    {partNumbers : List Nat}
    (staged : ∀ partNumber ∈ partNumbers,
      staging.parts.lookup partNumber ≠ none)
    {start : Nat}
    (bounded : start < wordModulus) :
    partNumbers.foldlM (fun total partNumber =>
        (staging.parts.lookup partNumber).map fun part =>
          addWord total part.length) start =
      some ((start + (assembledBytes staging partNumbers).length) %
        wordModulus) := by
  induction partNumbers generalizing start with
  | nil => simp [assembledBytes, Nat.mod_eq_of_lt bounded]
  | cons head tail inductionHypothesis =>
      obtain ⟨part, found⟩ := Option.ne_none_iff_exists'.mp
        (staged head List.mem_cons_self)
      have partEq : staging.part head = part := by
        simp [MpuParts.part, found]
      have next : addWord start part.length < wordModulus :=
        Nat.mod_lt _ (by decide)
      have rest := inductionHypothesis
        (fun number member => staged number (List.mem_cons_of_mem _ member))
        next
      simp only [List.foldlM_cons, bind, found, Option.map_some,
        Option.bind_some]
      rw [rest]
      simp only [assembledBytes, List.flatMap_cons, List.length_append, partEq,
        addWord, Nat.mod_add_mod, Nat.add_assoc]

/-- The size of an assembly is known exactly when all listed parts are staged,
and is then their total length, modulo the size of a word. -/
theorem assembledSize_eq_some_iff
    {staging : MpuParts}
    {partNumbers : List Nat}
    {total : Nat} :
    assembledSize staging partNumbers = some total ↔
      (∀ partNumber ∈ partNumbers,
        staging.parts.lookup partNumber ≠ none) ∧
      total = (assembledBytes staging partNumbers).length % wordModulus := by
  constructor
  · intro sized
    have staged : ∀ partNumber ∈ partNumbers,
        staging.parts.lookup partNumber ≠ none := by
      intro partNumber listed
      rw [lookup_of_assembledSize sized listed]
      simp
    have folded := foldlM_addWord staged (show 0 < wordModulus by decide)
    rw [Nat.zero_add] at folded
    rw [assembledSize, folded] at sized
    exact ⟨staged, (Option.some.inj sized).symm⟩
  · rintro ⟨staged, rfl⟩
    have folded := foldlM_addWord staged (show 0 < wordModulus by decide)
    rw [Nat.zero_add] at folded
    exact folded

/-- An assembly succeeds exactly when all listed parts are staged and the
capacity, with that of the staging given back, covers the object. -/
theorem assembleObject_ok_iff
    {store : MemoryDataStore}
    {uploadId : String}
    {staging : MpuParts}
    (bucket key : String)
    (partNumbers : List Nat)
    (found : store.mpu.lookup uploadId = some staging) :
    (store.assembleObject uploadId bucket key partNumbers).1.success = true ↔
      (∀ partNumber ∈ partNumbers,
        staging.parts.lookup partNumber ≠ none) ∧
      (store.releaseBytes staging.reservedBytes).Fits (makeKey bucket key)
        ((assembledBytes staging partNumbers).length % wordModulus) := by
  have released : ∀ total,
      (({ store with mpu := store.mpu.erase uploadId }).releaseBytes
        staging.reservedBytes).Fits (makeKey bucket key) total ↔
      (store.releaseBytes staging.reservedBytes).Fits (makeKey bucket key)
        total := by
    intro total
    rw [releaseBytes_eraseStaging]
    rfl
  unfold assembleObject detachStaging
  simp only [found]
  cases sized : assembledSize staging partNumbers with
  | none =>
      have missing : ¬∀ partNumber ∈ partNumbers,
          staging.parts.lookup partNumber ≠ none :=
        fun staged => assembledSize_ne_none staged sized
      simp [Result.success, missing]
  | some total =>
      obtain ⟨staged, rfl⟩ := assembledSize_eq_some_iff.mp sized
      have fits := installBody_fst
        (({ store with mpu := store.mpu.erase uploadId }).releaseBytes
          staging.reservedBytes)
        (makeKey bucket key)
        ((assembledBytes staging partNumbers).length % wordModulus)
        (assembledBytes staging partNumbers)
      rw [released] at fits
      rw [← fits]
      dsimp only
      split
      · next refused => simp [refused, Result.success]
      · next installed => simpa [installed, Result.success] using staged

/-- An assembly removes the staging of its upload, whatever it answers. -/
theorem assembleObject_mpu
    (store : MemoryDataStore)
    (uploadId bucket key : String)
    (partNumbers : List Nat) :
    (store.assembleObject uploadId bucket key partNumbers).2.mpu =
      store.mpu.erase uploadId := by
  unfold assembleObject
  split
  · next absent =>
      refine (Table.erase_of_lookup_none ?_).symm
      revert absent
      unfold detachStaging
      cases store.mpu.lookup uploadId <;> simp
  · next staging detached taken =>
      obtain ⟨found, rfl⟩ := detachStaging_eq_some taken
      dsimp only
      split
      · rw [releaseBytes_mpu]
      · next total sized =>
          split <;>
            next placed =>
              exact (mpu_of_installBody placed).trans (releaseBytes_mpu _ _)

/-! ## Failures that change nothing -/

/-- An object that is there with an empty body can have a size. -/
def EmptyBodyFits (store : MemoryDataStore) (id : String) (size : Nat) : Prop :=
  store.bodies.lookup id = some [] → store.Fits id size

/-- Every part of a list is staged, and the object they make fits into the
capacity once that of the staging is given back. -/
def Assembles
    (store : MemoryDataStore)
    (staging : MpuParts)
    (id : String)
    (partNumbers : List Nat) : Prop :=
  (∀ partNumber ∈ partNumbers, staging.parts.lookup partNumber ≠ none) ∧
    (store.releaseBytes staging.reservedBytes).Fits id
      ((assembledBytes staging partNumbers).length % wordModulus)

/-- The request grows no empty object that is there beyond the capacity, starts
no part beyond it, and takes no staging that does not make the object. -/
def FailsClean (store : MemoryDataStore) : DataRequest → Prop
  | .reserve bucket key totalSize =>
      store.EmptyBodyFits (makeKey bucket key) totalSize
  | .writeRange bucket key offset source totalSize =>
      store.EmptyBodyFits (makeKey bucket key)
        (Gds.targetSize totalSize offset source)
  | .writePart uploadId partNumber offset source =>
      (store.staging uploadId).parts.lookup partNumber = none →
        Gds.PartFits store uploadId partNumber offset source
  | .assembleObject uploadId bucket key partNumbers =>
      ∀ staging, store.mpu.lookup uploadId = some staging →
        store.Assembles staging (makeKey bucket key) partNumbers
  | .read .. => True
  | .deleteObject .. => True
  | .abortMultipartData .. => True

/-- A failure of the request changes neither the bodies, nor the staged parts,
nor the used bytes. -/
def Unchanged (store : MemoryDataStore) (request : DataRequest) : Prop :=
  (store.answer request).1.Failure →
    (store.answer request).2.bodies = store.bodies ∧
    (store.answer request).2.mpu = store.mpu ∧
    (store.answer request).2.usedBytes = store.usedBytes

/-- A fit that is refused changes nothing, unless an empty object was there. -/
theorem fitBody_unchanged_iff
    {store fitted : MemoryDataStore}
    {id : String}
    {target : Nat}
    (refused : store.fitBody id target = (false, fitted)) :
    (fitted.bodies = store.bodies ∧ fitted.mpu = store.mpu ∧
        fitted.usedBytes = store.usedBytes) ↔
      store.EmptyBodyFits id target := by
  have unfit := not_fits_of_fitBody refused
  rw [fitBody_refused refused, EmptyBodyFits]
  split
  · next found =>
      constructor
      · rintro ⟨kept, -, -⟩
        have dropped : (store.dropBody id).bodies.lookup id = none :=
          Finmap.lookup_erase id store.bodies
        rw [kept, found] at dropped
        cases dropped
      · intro fits
        exact absurd (fits found) unfit
  · next absent =>
      constructor
      · intro _ found
        exact absurd found absent
      · intro _
        exact ⟨rfl, rfl, rfl⟩

theorem reserve_unchanged_iff
    (store : MemoryDataStore)
    (bucket key : String)
    (totalSize : Nat) :
    store.Unchanged (.reserve bucket key totalSize) ↔
      store.EmptyBodyFits (makeKey bucket key) totalSize := by
  unfold Unchanged answer reserve
  dsimp only
  rcases fit : store.fitBody (makeKey bucket key) totalSize with
    ⟨success | success, fitted⟩
  · rw [← fitBody_unchanged_iff fit]
    simp [DataAnswer.Failure, Result.success]
  · have fits := fits_of_fitBody fit
    simp [DataAnswer.Failure, Result.success, EmptyBodyFits, fits]

theorem writeRange_unchanged_iff
    (store : MemoryDataStore)
    (bucket key : String)
    (offset : Nat)
    (source : Bytes)
    (totalSize : Option Nat) :
    store.Unchanged (.writeRange bucket key offset source totalSize) ↔
      store.EmptyBodyFits (makeKey bucket key)
        (Gds.targetSize totalSize offset source) := by
  unfold Unchanged answer writeRange Gds.targetSize
  dsimp only
  rcases fit : store.fitBody (makeKey bucket key)
      (max (totalSize.getD (addWord offset source.length))
        (addWord offset source.length)) with
    ⟨success | success, fitted⟩
  · rw [← fitBody_unchanged_iff fit]
    simp [DataAnswer.Failure, Result.success]
  · have fits := fits_of_fitBody fit
    simp [DataAnswer.Failure, Result.success, EmptyBodyFits, fits]

/-- A refused part write creates the staging and the part, and changes nothing
else. -/
theorem writePart_refused_eq
    {store next : MemoryDataStore}
    {uploadId : String}
    {partNumber offset : Nat}
    {source : Bytes}
    {error : Error}
    (refused : store.writePart uploadId partNumber offset source =
      (.error error, next)) :
    next = store.setStaging uploadId { store.staging uploadId with
      parts := (store.staging uploadId).parts.insert partNumber
        ((store.staging uploadId).part partNumber) } := by
  revert refused
  unfold writePart
  dsimp only
  split
  · split
    · intro refused
      cases refused
      rfl
    · intro refused
      cases refused
  · intro refused
    cases refused

/-- Creating a part changes nothing exactly when the part is there. -/
theorem mpu_createPart_iff
    (store : MemoryDataStore)
    (uploadId : String)
    (partNumber : Nat) :
    (store.setStaging uploadId { store.staging uploadId with
        parts := (store.staging uploadId).parts.insert partNumber
          ((store.staging uploadId).part partNumber) }).mpu = store.mpu ↔
      (store.staging uploadId).parts.lookup partNumber ≠ none := by
  constructor
  · intro kept
    have created := Finmap.lookup_insert store.mpu (a := uploadId)
      (b := { store.staging uploadId with
        parts := (store.staging uploadId).parts.insert partNumber
          ((store.staging uploadId).part partNumber) })
    rw [setStaging] at kept
    dsimp only at kept
    rw [kept] at created
    have parts := congrArg MpuParts.parts
      (show store.staging uploadId = _ by rw [staging, created, Option.getD_some])
    rw [parts]
    simp
  · intro present
    obtain ⟨bytes, found⟩ := Option.ne_none_iff_exists'.mp present
    have partEq : (store.staging uploadId).part partNumber = bytes := by
      simp [MpuParts.part, found]
    rw [partEq, Table.insert_of_lookup_some found]
    refine Table.insert_of_lookup_some ?_
    cases staged : store.mpu.lookup uploadId with
    | none =>
        rw [staging, staged, Option.getD_none, MpuParts.empty] at found
        simp at found
    | some staging => rw [MemoryDataStore.staging, staged, Option.getD_some]

theorem writePart_unchanged_iff
    (store : MemoryDataStore)
    (uploadId : String)
    (partNumber offset : Nat)
    (source : Bytes) :
    store.Unchanged (.writePart uploadId partNumber offset source) ↔
      ((store.staging uploadId).parts.lookup partNumber = none →
        Gds.PartFits store uploadId partNumber offset source) := by
  have fits := Gds.writePart_ok_iff store uploadId partNumber offset source
  rw [← fits]
  unfold Unchanged answer
  dsimp only
  rcases written : store.writePart uploadId partNumber offset source with
    ⟨error | reply, next⟩
  · have created := mpu_createPart_iff store uploadId partNumber
    rw [← writePart_refused_eq written] at created
    have bodies := store.writePart_bodies uploadId partNumber offset source
    simp only [written] at bodies
    have used : next.usedBytes = store.usedBytes := by
      rw [writePart_refused_eq written]
      rfl
    simp [DataAnswer.Failure, Result.success, created, bodies, used]
  · simp [DataAnswer.Failure, Result.success]

theorem assembleObject_unchanged_iff
    (store : MemoryDataStore)
    (uploadId bucket key : String)
    (partNumbers : List Nat) :
    store.Unchanged (.assembleObject uploadId bucket key partNumbers) ↔
      ∀ staging, store.mpu.lookup uploadId = some staging →
        store.Assembles staging (makeKey bucket key) partNumbers := by
  unfold Unchanged answer
  dsimp only [Prod.map, id, DataAnswer.Failure]
  cases found : store.mpu.lookup uploadId with
  | none =>
      have unknown : store.assembleObject uploadId bucket key partNumbers =
          (.error stagingNotFound, store) := by
        rw [assembleObject, detachStaging, found]
      simp [unknown]
  | some staging =>
      have succeeds := assembleObject_ok_iff bucket key partNumbers found
      constructor
      · intro unchanged other same
        cases same
        refine succeeds.mp ?_
        by_contra failed
        obtain ⟨-, kept, -⟩ := unchanged (by simpa using failed)
        have removed := Finmap.lookup_erase uploadId store.mpu
        rw [← assembleObject_mpu store uploadId bucket key partNumbers, kept,
          found] at removed
        cases removed
      · intro assembles failed
        rw [succeeds.mpr (assembles staging rfl)] at failed
        cases failed

/-- A failing operation of the data store changes nothing exactly when it does
not grow an empty object, start a part or take a staging in vain. -/
theorem failure_changes_nothing_iff
    (store : MemoryDataStore)
    (request : DataRequest) :
    store.Unchanged request ↔ store.FailsClean request := by
  cases request with
  | reserve bucket key totalSize =>
      exact reserve_unchanged_iff store bucket key totalSize
  | writeRange bucket key offset source totalSize =>
      exact writeRange_unchanged_iff store bucket key offset source totalSize
  | writePart uploadId partNumber offset source =>
      exact writePart_unchanged_iff store uploadId partNumber offset source
  | assembleObject uploadId bucket key partNumbers =>
      exact assembleObject_unchanged_iff store uploadId bucket key partNumbers
  | read bucket key offset size =>
      simp [Unchanged, answer, FailsClean]
  | deleteObject bucket key =>
      have succeeds : (store.deleteObject bucket key).1.success = true := by
        unfold deleteObject
        dsimp only
        split <;> rfl
      simp [Unchanged, answer, FailsClean, DataAnswer.Failure, succeeds]
  | abortMultipartData uploadId =>
      have succeeds :
          (store.abortMultipartData uploadId).1.success = true := by
        unfold abortMultipartData
        split <;> rfl
      simp [Unchanged, answer, FailsClean, DataAnswer.Failure, succeeds]

/-- A reservation that is refused removes an empty object that was there. -/
theorem failure_drops_empty_object :
    ¬((MemoryDataStore.init 0).reserve "b" "k" 0).2.Unchanged
      (.reserve "b" "k" 1) := by
  rw [reserve_unchanged_iff]
  intro fits
  exact absurd (fits (by decide)) (by decide)

end MemoryDataStore

end Gateway
end TurboAccess
