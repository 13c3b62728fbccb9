import TurboAccess.Lib.Machine
import TurboAccess.Gateway.Backend.MemoryDataStore

/-!
# Exact capacity accounting

The capacity counter of the memory data store equals the bytes the store holds:
object bodies, staged parts, and the staging an `assembleObject` call has
detached and not yet released.  The equation is proved section by section, for
any amount held outside the store, and then for every interleaving of critical
sections of any number of calls in which no sum wraps.
-/

namespace TurboAccess
namespace Gateway
namespace MemoryDataStore

/-! ## The capacity counter -/

theorem reserveBytes_eq_some
    {store reserved : MemoryDataStore}
    {growth : Nat}
    (taken : store.reserveBytes growth = some reserved)
    (within : store.usedBytes ≤ store.capacityBytes)
    (bounded : store.usedBytes + growth < wordModulus) :
    store.usedBytes + growth ≤ store.capacityBytes ∧
      reserved = { store with usedBytes := store.usedBytes + growth } := by
  unfold reserveBytes at taken
  rw [addWord_of_lt bounded] at taken
  by_cases none : growth = 0
  · subst none
    simp only [if_true, Option.some.injEq] at taken
    exact ⟨within, taken.symm⟩
  · simp only [if_neg none] at taken
    split at taken
    · cases taken
    · next fits =>
        simp only [Option.some.injEq] at taken
        exact ⟨Nat.le_of_not_gt fits, taken.symm⟩

theorem releaseBytes_eq
    {store : MemoryDataStore}
    {bytes : Nat}
    (held : bytes ≤ store.usedBytes)
    (bounded : store.usedBytes < wordModulus) :
    store.releaseBytes bytes =
      { store with usedBytes := store.usedBytes - bytes } := by
  unfold releaseBytes
  rw [subWord_of_le held bounded]
  split
  · next none => rw [none, Nat.sub_zero]
  · rfl

theorem releaseBytes_setBody
    (store : MemoryDataStore)
    (id : String)
    (bytes : Bytes)
    (count : Nat) :
    (store.setBody id bytes).releaseBytes count =
      (store.releaseBytes count).setBody id bytes := by
  unfold releaseBytes
  split <;> rfl

theorem releaseBytes_eraseStaging
    (store : MemoryDataStore)
    (uploadId : String)
    (count : Nat) :
    ({ store with mpu := store.mpu.erase uploadId }).releaseBytes count =
      { store.releaseBytes count with
        mpu := (store.releaseBytes count).mpu.erase uploadId } := by
  unfold releaseBytes
  dsimp only
  split <;> rfl

@[simp] theorem body_setBody
    (store : MemoryDataStore)
    (id : String)
    (bytes : Bytes) :
    (store.setBody id bytes).body id = bytes := by
  simp [body, setBody]

/-- A successful fit leaves a body of the size that was asked for. -/
theorem length_body_fitBody
    {store fitted : MemoryDataStore}
    {id : String}
    {target : Nat}
    (fits : store.fitBody id target = (true, fitted)) :
    (fitted.body id).length = target := by
  unfold fitBody at fits
  dsimp only at fits
  split at fits
  · cases taken : store.reserveBytes (target - (store.body id).length) with
    | none => simp [taken] at fits
    | some reserved =>
        simp only [taken, Prod.mk.injEq, true_and] at fits
        rw [← fits, body_setBody, Bytes.length_resize]
  · split at fits
    · simp only [Prod.mk.injEq, true_and] at fits
      rw [← fits, releaseBytes_setBody, body_setBody, Bytes.length_resize]
    · simp only [Prod.mk.injEq, true_and] at fits
      rw [← fits, body_setBody]
      omega

/-! ## Accounting of one section -/

/-- The store accounts for its contents and for `held` further bytes. -/
structure Accounts (store : MemoryDataStore) (held : Nat) : Prop where
  used : store.usedBytes =
    store.bodies.weight List.length +
      store.mpu.weight MpuParts.reservedBytes + held
  staged : ∀ uploadId staging, store.mpu.lookup uploadId = some staging →
    staging.reservedBytes = staging.size
  within : store.usedBytes ≤ store.capacityBytes
  bounded : store.usedBytes < wordModulus

namespace Accounts

/-- An empty store accounts for nothing. -/
theorem init (capacityBytes : Nat) : (init capacityBytes).Accounts 0 where
  used := rfl
  staged := by
    intro uploadId staging found
    simp [MemoryDataStore.init] at found
  within := Nat.zero_le _
  bounded := by
    show 0 < wordModulus
    decide

/-- Bytes held by the body of one object. -/
private theorem weightAt_bodies (store : MemoryDataStore) (id : String) :
    store.bodies.weightAt List.length id = (store.body id).length := by
  unfold Table.weightAt body
  cases store.bodies.lookup id <;> rfl

/-- The bodies weigh what they weighed, less the old body, plus the new. -/
private theorem weight_setBody
    (store : MemoryDataStore)
    (id : String)
    (bytes : Bytes) :
    (store.setBody id bytes).bodies.weight List.length +
        (store.body id).length =
      store.bodies.weight List.length + bytes.length := by
  rw [← weightAt_bodies]
  exact Table.weight_insert_add_weightAt List.length id bytes store.bodies

private theorem weight_dropBody (store : MemoryDataStore) (id : String) :
    (store.dropBody id).bodies.weight List.length + (store.body id).length =
      store.bodies.weight List.length := by
  rw [← weightAt_bodies]
  exact Table.weight_erase_add_weightAt List.length id store.bodies

/-- Install a body together with the difference to the old one. -/
private theorem replaceBody
    {store : MemoryDataStore}
    {held : Nat}
    (used : Nat)
    {id : String}
    {bytes : Bytes}
    (accounts : store.Accounts held)
    (settled : used + (store.body id).length =
      store.usedBytes + bytes.length)
    (within : used ≤ store.capacityBytes)
    (bounded : used < wordModulus) :
    ({ store with usedBytes := used }.setBody id bytes).Accounts held where
  used := by
    have weights := weight_setBody store id bytes
    have before := accounts.used
    simp only [setBody] at weights ⊢
    omega
  staged := accounts.staged
  within := within
  bounded := bounded

/-- A refused growth leaves the books as they are: an empty body is dropped,
any other body is untouched. -/
private theorem refuseBody
    {store : MemoryDataStore}
    {held : Nat}
    {id : String}
    (accounts : store.Accounts held) :
    (if (store.body id).length = 0 then store.dropBody id
      else store.setBody id (store.body id)).Accounts held := by
  split
  · next empty =>
      have weights := weight_dropBody store id
      exact
        { used := by
            have before := accounts.used
            simp only [dropBody] at weights ⊢
            omega
          staged := accounts.staged
          within := accounts.within
          bounded := accounts.bounded }
  · exact replaceBody store.usedBytes accounts rfl
      accounts.within accounts.bounded

/-- One body never holds more than the store uses. -/
private theorem body_length_le
    {store : MemoryDataStore}
    {held : Nat}
    (accounts : store.Accounts held)
    (id : String) :
    (store.body id).length ≤ store.usedBytes := by
  have entry := Table.weightAt_le_weight List.length id store.bodies
  rw [weightAt_bodies] at entry
  have before := accounts.used
  omega

/-- Fitting a body keeps the books, also when it is refused. -/
theorem fitBody
    {store : MemoryDataStore}
    {held target : Nat}
    {id : String}
    (accounts : store.Accounts held)
    (noWrap : store.usedBytes + (target - (store.body id).length) <
      wordModulus) :
    (store.fitBody id target).2.Accounts held := by
  unfold MemoryDataStore.fitBody
  have small := accounts.body_length_le id
  dsimp only
  split
  · next grows =>
      cases taken : store.reserveBytes (target - (store.body id).length) with
      | none => exact accounts.refuseBody
      | some reserved =>
          obtain ⟨fits, rfl⟩ :=
            reserveBytes_eq_some taken accounts.within noWrap
          refine replaceBody _ accounts ?_ fits noWrap
          rw [Bytes.length_resize]
          omega
  · split
    · next shrinks =>
        rw [releaseBytes_setBody,
          releaseBytes_eq (by omega) accounts.bounded]
        have before := accounts.within
        have bounded := accounts.bounded
        refine replaceBody
          (store.usedBytes - ((store.body id).length - target))
          accounts ?_ (by omega) (by omega)
        rw [Bytes.length_resize]
        omega
    · exact replaceBody store.usedBytes accounts rfl
        accounts.within accounts.bounded

theorem reserve
    {store : MemoryDataStore}
    {held totalSize : Nat}
    {bucket key : String}
    (accounts : store.Accounts held)
    (noWrap : store.usedBytes +
      (totalSize - (store.body (makeKey bucket key)).length) < wordModulus) :
    (store.reserve bucket key totalSize).2.Accounts held := by
  have fitted := accounts.fitBody noWrap
  unfold MemoryDataStore.reserve
  dsimp only
  split <;> next equation => rw [equation] at fitted; exact fitted

/-- Overwriting a range inside a body keeps the books. -/
private theorem overwriteBody
    {store : MemoryDataStore}
    {held offset : Nat}
    {id : String}
    {source : Bytes}
    (accounts : store.Accounts held)
    (inside : offset + source.length ≤ (store.body id).length) :
    (store.setBody id ((store.body id).overwrite offset source)).Accounts
      held :=
  replaceBody store.usedBytes accounts
    (by rw [Bytes.length_overwrite inside]) accounts.within accounts.bounded

theorem writeRange
    {store : MemoryDataStore}
    {held offset : Nat}
    {bucket key : String}
    {source : Bytes}
    {totalSize : Option Nat}
    (accounts : store.Accounts held)
    (inRange : offset + source.length < wordModulus)
    (noWrap : store.usedBytes +
      (max (totalSize.getD (offset + source.length))
          (offset + source.length) -
        (store.body (makeKey bucket key)).length) < wordModulus) :
    (store.writeRange bucket key offset source totalSize).2.Accounts held := by
  have fitted := accounts.fitBody noWrap
  unfold MemoryDataStore.writeRange
  rw [addWord_of_lt inRange]
  dsimp only
  split
  · next equation =>
      rw [equation] at fitted
      exact fitted
  · next fitBody equation =>
      rw [equation] at fitted
      have size := length_body_fitBody equation
      split
      · exact fitted
      · exact fitted.overwriteBody (by rw [size]; exact le_max_right _ _)

theorem deleteObject
    {store : MemoryDataStore}
    {held : Nat}
    {bucket key : String}
    (accounts : store.Accounts held) :
    (store.deleteObject bucket key).2.Accounts held := by
  unfold MemoryDataStore.deleteObject
  dsimp only
  cases found : store.bodies.lookup (makeKey bucket key) with
  | none => exact accounts
  | some bytes =>
      dsimp only
      have bodyEq : store.body (makeKey bucket key) = bytes := by
        simp [body, found]
      have weights := weight_dropBody store (makeKey bucket key)
      have small := accounts.body_length_le (makeKey bucket key)
      rw [bodyEq] at weights small
      have before := accounts.used
      have within := accounts.within
      have bounded := accounts.bounded
      rw [releaseBytes_eq small accounts.bounded]
      exact
        { used := by
            simp only [dropBody] at weights ⊢
            omega
          staged := accounts.staged
          within := by
            simp only [dropBody]
            omega
          bounded := by
            simp only [dropBody]
            omega }

/-! ### Staged uploads -/

private theorem weightAt_mpu (store : MemoryDataStore) (uploadId : String) :
    store.mpu.weightAt MpuParts.reservedBytes uploadId =
      (store.staging uploadId).reservedBytes := by
  unfold Table.weightAt MemoryDataStore.staging
  cases store.mpu.lookup uploadId <;> rfl

/-- Replace the staging of one upload together with the difference. -/
private theorem replaceStaging
    {store : MemoryDataStore}
    {held : Nat}
    (used : Nat)
    {uploadId : String}
    {staging : MpuParts}
    (accounts : store.Accounts held)
    (settled : used + (store.staging uploadId).reservedBytes =
      store.usedBytes + staging.reservedBytes)
    (exactStaging : staging.reservedBytes = staging.size)
    (within : used ≤ store.capacityBytes)
    (bounded : used < wordModulus) :
    ({ store with usedBytes := used }.setStaging uploadId staging).Accounts
      held where
  used := by
    have weights := Table.weight_insert_add_weightAt
      MpuParts.reservedBytes uploadId staging store.mpu
    rw [weightAt_mpu] at weights
    have before := accounts.used
    simp only [setStaging] at weights ⊢
    omega
  staged := by
    intro other found lookup
    simp only [setStaging, Table.lookup_insert_eq] at lookup
    split at lookup
    · cases lookup
      exact exactStaging
    · exact accounts.staged other found lookup
  within := within
  bounded := bounded

/-- The staging of an upload reserves the sizes of its parts, also when it is
created by the lookup. -/
theorem staging_exact
    {store : MemoryDataStore}
    {held : Nat}
    (accounts : store.Accounts held)
    (uploadId : String) :
    (store.staging uploadId).reservedBytes =
      (store.staging uploadId).size := by
  unfold MemoryDataStore.staging
  cases found : store.mpu.lookup uploadId with
  | none => rfl
  | some staging => exact accounts.staged uploadId staging found

/-- The staging of one upload never reserves more than the store uses. -/
private theorem reservedBytes_le
    {store : MemoryDataStore}
    {held : Nat}
    (accounts : store.Accounts held)
    (uploadId : String) :
    (store.staging uploadId).reservedBytes ≤ store.usedBytes := by
  have entry := Table.weightAt_le_weight MpuParts.reservedBytes uploadId
    store.mpu
  rw [weightAt_mpu] at entry
  have before := accounts.used
  omega

/-- Size of a staging after one part was replaced. -/
private theorem size_insert
    (staging : MpuParts)
    (reservedBytes partNumber : Nat)
    (part : Bytes) :
    (MpuParts.mk (staging.parts.insert partNumber part)
        reservedBytes).size + (staging.part partNumber).length =
      staging.size + part.length := by
  have weights := Table.weight_insert_add_weightAt List.length
    partNumber part staging.parts
  have oldWeight : staging.parts.weightAt List.length partNumber =
      (staging.part partNumber).length := by
    unfold Table.weightAt MpuParts.part
    cases staging.parts.lookup partNumber <;> rfl
  rw [oldWeight] at weights
  exact weights

theorem writePart
    {store : MemoryDataStore}
    {held partNumber offset : Nat}
    {uploadId : String}
    {source : Bytes}
    (accounts : store.Accounts held)
    (inRange : offset + source.length < wordModulus)
    (noWrap : store.usedBytes + (offset + source.length -
        ((store.staging uploadId).part partNumber).length) < wordModulus) :
    (store.writePart uploadId partNumber offset source).2.Accounts held := by
  have exactStaging := accounts.staging_exact uploadId
  have stagedSmall := accounts.reservedBytes_le uploadId
  have sizes := size_insert (store.staging uploadId)
  unfold MemoryDataStore.writePart
  rw [addWord_of_lt inRange]
  dsimp only
  split
  · next grows =>
      cases taken : store.reserveBytes (offset + source.length -
          ((store.staging uploadId).part partNumber).length) with
      | none =>
          refine replaceStaging store.usedBytes accounts rfl ?_
            accounts.within accounts.bounded
          have size := sizes (store.staging uploadId).reservedBytes partNumber
            ((store.staging uploadId).part partNumber)
          dsimp only
          omega
      | some reserved =>
          obtain ⟨fits, rfl⟩ :=
            reserveBytes_eq_some taken accounts.within noWrap
          have reservedSum :
              addWord (store.staging uploadId).reservedBytes
                (offset + source.length -
                  ((store.staging uploadId).part partNumber).length) =
              (store.staging uploadId).reservedBytes +
                (offset + source.length -
                  ((store.staging uploadId).part partNumber).length) :=
            addWord_of_lt (by omega)
          refine replaceStaging _ accounts ?_ ?_ fits noWrap
          · dsimp only
            omega
          · have size := sizes
              (addWord (store.staging uploadId).reservedBytes
                (offset + source.length -
                  ((store.staging uploadId).part partNumber).length))
              partNumber
              ((((store.staging uploadId).part partNumber).resize
                (offset + source.length)).overwrite offset source)
            rw [Bytes.length_overwrite (by rw [Bytes.length_resize]),
              Bytes.length_resize] at size
            dsimp only
            omega
  · next fits =>
      refine replaceStaging store.usedBytes accounts rfl ?_
        accounts.within accounts.bounded
      have size := sizes (store.staging uploadId).reservedBytes partNumber
        (((store.staging uploadId).part partNumber).overwrite offset source)
      rw [Bytes.length_overwrite (by omega)] at size
      dsimp only
      omega

/-- Taking the staging of an upload out of the table moves its reservation to
whoever holds it now. -/
theorem eraseStaging
    {store : MemoryDataStore}
    {held : Nat}
    {uploadId : String}
    {staging : MpuParts}
    (accounts : store.Accounts held)
    (found : store.mpu.lookup uploadId = some staging) :
    ({ store with mpu := store.mpu.erase uploadId }).Accounts
      (held + staging.reservedBytes) where
  used := by
    have weights := Table.weight_erase_add_weightAt
      MpuParts.reservedBytes uploadId store.mpu
    rw [Table.weightAt_of_lookup_some _ found] at weights
    have before := accounts.used
    dsimp only
    omega
  staged := by
    intro other staging lookup
    simp only [Table.lookup_erase_eq] at lookup
    split at lookup
    · cases lookup
    · exact accounts.staged other staging lookup
  within := accounts.within
  bounded := accounts.bounded

/-- Releasing what was held settles it. -/
theorem releaseBytes
    {store : MemoryDataStore}
    {held bytes : Nat}
    (accounts : store.Accounts (held + bytes)) :
    (store.releaseBytes bytes).Accounts held := by
  have before := accounts.used
  have within := accounts.within
  have bounded := accounts.bounded
  rw [releaseBytes_eq (by omega) bounded]
  exact
    { used := by dsimp only; omega
      staged := accounts.staged
      within := by dsimp only; omega
      bounded := by dsimp only; omega }

theorem abortMultipartData
    {store : MemoryDataStore}
    {held : Nat}
    {uploadId : String}
    (accounts : store.Accounts held) :
    (store.abortMultipartData uploadId).2.Accounts held := by
  unfold MemoryDataStore.abortMultipartData
  cases found : store.mpu.lookup uploadId with
  | none => exact accounts
  | some staging =>
      have released := (accounts.eraseStaging found).releaseBytes
      rw [releaseBytes_eraseStaging] at released
      exact released

theorem detachStaging
    {store detached : MemoryDataStore}
    {held : Nat}
    {uploadId : String}
    {staging : MpuParts}
    (accounts : store.Accounts held)
    (taken : store.detachStaging uploadId = some (staging, detached)) :
    detached.Accounts (held + staging.reservedBytes) := by
  unfold MemoryDataStore.detachStaging at taken
  cases found : store.mpu.lookup uploadId with
  | none => simp [found] at taken
  | some present =>
      simp only [found, Option.some.injEq, Prod.mk.injEq] at taken
      obtain ⟨rfl, rfl⟩ := taken
      exact accounts.eraseStaging found

/-- Installing an assembled body keeps the books, also when it is refused. -/
theorem installBody
    {store : MemoryDataStore}
    {held : Nat}
    {id : String}
    {assembled : Bytes}
    (accounts : store.Accounts held)
    (noWrap : store.usedBytes +
      (assembled.length - (store.body id).length) < wordModulus) :
    (store.installBody id assembled.length assembled).2.Accounts held := by
  unfold MemoryDataStore.installBody
  have small := accounts.body_length_le id
  have within := accounts.within
  have bounded := accounts.bounded
  dsimp only
  split
  · next grows =>
      cases taken : store.reserveBytes
          (assembled.length - (store.body id).length) with
      | none => exact accounts.refuseBody
      | some reserved =>
          obtain ⟨fits, rfl⟩ := reserveBytes_eq_some taken within noWrap
          exact replaceBody _ accounts (by omega) fits noWrap
  · split
    · next shrinks =>
        rw [releaseBytes_eq (by omega) bounded]
        exact replaceBody _ accounts (by omega) (by omega) (by omega)
    · exact replaceBody store.usedBytes accounts (by omega)
        within bounded

end Accounts

/-- While the listed sizes do not wrap, the computed total is the length of
the concatenation. -/
theorem assembledSize_eq_some
    {staging : MpuParts}
    {partNumbers : List Nat}
    {total : Nat}
    (sized : assembledSize staging partNumbers = some total)
    (noWrap : (partNumbers.map fun partNumber =>
      (staging.part partNumber).length).sum < wordModulus) :
    total = (assembledBytes staging partNumbers).length := by
  have general : ∀ (rest : List Nat) (start : Nat),
      rest.foldlM (fun total partNumber =>
        (staging.parts.lookup partNumber).map fun part =>
          addWord total part.length) start = some total →
      start + (rest.map fun partNumber =>
        (staging.part partNumber).length).sum < wordModulus →
      total = start + (assembledBytes staging rest).length := by
    intro rest
    induction rest with
    | nil =>
        intro start folded _
        simp only [List.foldlM_nil, pure, Option.some.injEq] at folded
        simp [assembledBytes, folded]
    | cons head tail inductionHypothesis =>
        intro start folded bounded
        simp only [List.foldlM_cons, bind, Option.bind_eq_some_iff,
          Option.map_eq_some_iff] at folded
        obtain ⟨next, ⟨part, found, rfl⟩, folded⟩ := folded
        have partEq : staging.part head = part := by
          simp [MpuParts.part, found]
        simp only [List.map_cons, List.sum_cons, partEq] at bounded
        rw [addWord_of_lt (by omega)] at folded
        have rest := inductionHypothesis _ folded (by omega)
        simp only [assembledBytes, List.flatMap_cons, List.length_append,
          partEq] at rest ⊢
        omega
  have start := general partNumbers 0 sized (by omega)
  omega

/-! ## Interleaved critical sections -/

/-- An `assembleObject` call between two of its sections. -/
inductive Assembly
  | detached (staging : MpuParts) (id : String) (partNumbers : List Nat)
  | released (id : String) (total : Nat) (assembled : Bytes)

namespace Assembly

/-- Capacity still reserved by a detached staging. -/
def held : Assembly → Nat
  | .detached staging _ _ => staging.reservedBytes
  | .released _ _ _ => 0

end Assembly

/-- The store and the `assembleObject` calls in flight. -/
structure Sections where
  store : MemoryDataStore
  assembling : Table Nat Assembly

/-- One critical section of an operation of the store. -/
inductive Section
  | reserve (bucket key : String) (totalSize : Nat)
  | writeRange
      (bucket key : String) (offset : Nat) (source : Bytes)
      (totalSize : Option Nat)
  | writePart
      (uploadId : String) (partNumber offset : Nat) (source : Bytes)
  | deleteObject (bucket key : String)
  | abortMultipartData (uploadId : String)
  | assembleDetach
      (call : Nat) (uploadId bucket key : String) (partNumbers : List Nat)
  | assembleRelease (call : Nat)
  | assembleInstall (call : Nat)

namespace Sections

/-- Execute one critical section. -/
def step (state : Sections) : Section → Option Sections
  | .reserve bucket key totalSize =>
      some { state with
        store := (state.store.reserve bucket key totalSize).2 }
  | .writeRange bucket key offset source totalSize =>
      some { state with
        store := (state.store.writeRange bucket key offset source
          totalSize).2 }
  | .writePart uploadId partNumber offset source =>
      some { state with
        store := (state.store.writePart uploadId partNumber offset
          source).2 }
  | .deleteObject bucket key =>
      some { state with store := (state.store.deleteObject bucket key).2 }
  | .abortMultipartData uploadId =>
      some { state with
        store := (state.store.abortMultipartData uploadId).2 }
  | .assembleDetach call uploadId bucket key partNumbers =>
      match state.assembling.lookup call,
          state.store.detachStaging uploadId with
      | some _, _ => none
      | none, none => some state
      | none, some (staging, detached) =>
          some
            { store := detached
              assembling := state.assembling.insert call
                (.detached staging (makeKey bucket key) partNumbers) }
  | .assembleRelease call =>
      match state.assembling.lookup call with
      | some (.detached staging id partNumbers) =>
          let released := state.store.releaseBytes staging.reservedBytes
          match assembledSize staging partNumbers with
          | none =>
              some
                { store := released
                  assembling := state.assembling.erase call }
          | some total =>
              some
                { store := released
                  assembling := state.assembling.insert call
                    (.released id total
                      (assembledBytes staging partNumbers)) }
      | _ => none
  | .assembleInstall call =>
      match state.assembling.lookup call with
      | some (.released id total assembled) =>
          some
            { store := (state.store.installBody id total assembled).2
              assembling := state.assembling.erase call }
      | _ => none

/-- The sums of offsets, lengths and sizes a section computes, as natural
numbers. -/
def sums (state : Sections) : Section → List Nat
  | .reserve bucket key totalSize =>
      [state.store.usedBytes +
        (totalSize - (state.store.body (makeKey bucket key)).length)]
  | .writeRange bucket key offset source totalSize =>
      [offset + source.length,
        state.store.usedBytes +
          (max (totalSize.getD (offset + source.length))
              (offset + source.length) -
            (state.store.body (makeKey bucket key)).length)]
  | .writePart uploadId partNumber offset source =>
      [offset + source.length,
        state.store.usedBytes + (offset + source.length -
          ((state.store.staging uploadId).part partNumber).length)]
  | .assembleRelease call =>
      match state.assembling.lookup call with
      | some (.detached staging _ partNumbers) =>
          [(partNumbers.map fun partNumber =>
            (staging.part partNumber).length).sum]
      | _ => []
  | .assembleInstall call =>
      match state.assembling.lookup call with
      | some (.released id _ assembled) =>
          [state.store.usedBytes +
            (assembled.length - (state.store.body id).length)]
      | _ => []
  | .deleteObject _ _ => []
  | .abortMultipartData _ => []
  | .assembleDetach _ _ _ _ _ => []

/-- No sum of the section exceeds the largest word. -/
def NoWrap (state : Sections) (label : Section) : Prop :=
  ∀ sum ∈ state.sums label, sum < wordModulus

instance (state : Sections) (label : Section) :
    Decidable (state.NoWrap label) :=
  inferInstanceAs (Decidable (∀ sum ∈ state.sums label, sum < wordModulus))

/-- All interleavings of critical sections, from an empty store. -/
def machine : Machine Sections Section where
  initial := fun state => ∃ capacityBytes, state = ⟨init capacityBytes, ∅⟩
  step := step

/-- The store accounts for everything detached, and every call that is about
to install a body knows its length. -/
structure Exact (state : Sections) : Prop where
  accounts : state.store.Accounts (state.assembling.weight Assembly.held)
  measured : ∀ call id total assembled,
    state.assembling.lookup call = some (.released id total assembled) →
    total = assembled.length

/-- A section that leaves the calls in flight alone is exact when it keeps the
books. -/
private theorem Exact.withStore
    {state : Sections}
    {store : MemoryDataStore}
    (exactState : state.Exact)
    (accounts : store.Accounts (state.assembling.weight Assembly.held)) :
    Exact { state with store := store } :=
  ⟨accounts, exactState.measured⟩

/-- So is a section that ends a call in flight. -/
private theorem Exact.withoutCall
    {state : Sections}
    {store : MemoryDataStore}
    {call : Nat}
    (exactState : state.Exact)
    (accounts : store.Accounts
      (Table.weight Assembly.held (state.assembling.erase call))) :
    Exact { store, assembling := state.assembling.erase call } := by
  refine ⟨accounts, ?_⟩
  intro other id total assembled found
  rw [Table.lookup_erase_eq, Option.ite_none_left_eq_some] at found
  exact exactState.measured other id total assembled found.2

/-- So is a section that starts a call or moves it on, when the call knows the
length of what it is about to install. -/
private theorem Exact.withCall
    {state : Sections}
    {store : MemoryDataStore}
    {call : Nat}
    {assembly : Assembly}
    (exactState : state.Exact)
    (accounts : store.Accounts
      (Table.weight Assembly.held (state.assembling.insert call assembly)))
    (measured : ∀ id total assembled,
      assembly = .released id total assembled → total = assembled.length) :
    Exact { store, assembling := state.assembling.insert call assembly } := by
  refine ⟨accounts, ?_⟩
  intro other id total assembled found
  rw [Table.lookup_insert_eq] at found
  split at found
  · exact measured id total assembled (Option.some.inj found)
  · exact exactState.measured other id total assembled found

/-- Each section keeps the accounting exact. -/
theorem Exact.step
    {state next : Sections}
    {label : Section}
    (exactState : state.Exact)
    (noWrap : state.NoWrap label)
    (stepped : state.step label = some next) :
    next.Exact := by
  have accounts := exactState.accounts
  cases label with
  | reserve bucket key totalSize =>
      cases stepped
      exact exactState.withStore (accounts.reserve (noWrap _ (by simp [sums])))
  | writeRange bucket key offset source totalSize =>
      cases stepped
      exact exactState.withStore (accounts.writeRange
        (noWrap _ (by simp [sums])) (noWrap _ (by simp [sums])))
  | writePart uploadId partNumber offset source =>
      cases stepped
      exact exactState.withStore (accounts.writePart
        (noWrap _ (by simp [sums])) (noWrap _ (by simp [sums])))
  | deleteObject bucket key =>
      cases stepped
      exact exactState.withStore accounts.deleteObject
  | abortMultipartData uploadId =>
      cases stepped
      exact exactState.withStore accounts.abortMultipartData
  | assembleDetach call uploadId bucket key partNumbers =>
      simp only [Sections.step] at stepped
      split at stepped
      · cases stepped
      · cases stepped
        exact exactState
      · next absent taken =>
          cases stepped
          refine exactState.withCall ?_ (fun _ _ _ => nofun)
          rw [Table.weight_insert_of_lookup_none _ _ absent]
          exact accounts.detachStaging taken
  | assembleRelease call =>
      simp only [Sections.step] at stepped
      split at stepped
      · next staging id partNumbers present =>
          have weights := Table.weight_erase_add_weightAt Assembly.held call
            state.assembling
          rw [Table.weightAt_of_lookup_some _ present] at weights
          have released : (state.store.releaseBytes
              staging.reservedBytes).Accounts
              (Table.weight Assembly.held (state.assembling.erase call)) := by
            apply Accounts.releaseBytes
            rw [← weights] at accounts
            exact accounts
          split at stepped
          · cases stepped
            exact exactState.withoutCall released
          · next total sized =>
              cases stepped
              have lengthEq := assembledSize_eq_some sized
                (noWrap _ (by simp [sums, present]))
              have stored := Table.weight_insert_add_weightAt Assembly.held
                call (.released id total (assembledBytes staging partNumbers))
                state.assembling
              rw [Table.weightAt_of_lookup_some _ present] at stored
              have same : Table.weight Assembly.held
                  (Finmap.insert call (.released id total
                    (assembledBytes staging partNumbers))
                    state.assembling) =
                  Table.weight Assembly.held
                    (state.assembling.erase call) := by
                simp only [Assembly.held] at stored weights ⊢
                omega
              refine exactState.withCall (by rw [same]; exact released) ?_
              rintro _ _ _ ⟨⟩
              exact lengthEq
      · cases stepped
  | assembleInstall call =>
      simp only [Sections.step] at stepped
      split at stepped
      · next id total assembled present =>
          cases stepped
          have lengthEq := exactState.measured call id total assembled present
          subst lengthEq
          have weights := Table.weight_erase_add_weightAt Assembly.held call
            state.assembling
          rw [Table.weightAt_of_lookup_some _ present] at weights
          simp only [Assembly.held, Nat.add_zero] at weights
          apply exactState.withoutCall
          rw [weights]
          exact accounts.installBody (noWrap _ (by simp [sums, present]))
      · cases stepped

/-- In every state reached by interleaved critical sections whose sums do not
wrap, the counter equals the bytes held by bodies, staged uploads and detached
stagings, every staged upload reserves exactly its parts, and the counter is
within the capacity. -/
theorem usedBytes_exact
    {state : Sections}
    (reachable : machine.Reachable NoWrap state) :
    state.store.usedBytes =
        state.store.bodies.weight List.length +
          state.store.mpu.weight MpuParts.reservedBytes +
          state.assembling.weight Assembly.held ∧
      (∀ uploadId staging,
        state.store.mpu.lookup uploadId = some staging →
          staging.reservedBytes = staging.parts.weight List.length) ∧
      state.store.usedBytes ≤ state.store.capacityBytes := by
  have exactState : state.Exact := by
    refine reachable.invariant ?_ ?_
    · rintro start ⟨capacityBytes, rfl⟩
      refine ⟨Accounts.init capacityBytes, ?_⟩
      intro call id total assembled found
      simp at found
    · intro before label after exactBefore allowed stepped
      exact exactBefore.step allowed stepped
  exact ⟨exactState.accounts.used, exactState.accounts.staged,
    exactState.accounts.within⟩

/-- An object, a refused write, and a staging detached but not released. -/
private def detachedRun : Option Sections :=
  machine.run NoWrap ⟨init 5, ∅⟩
    [.writeRange "b" "k" 0 [1, 2] none,
      .writePart "u" 1 0 [3, 4, 5],
      .writePart "u" 2 0 [6],
      .assembleDetach 0 "u" "b" "m" [1]]

private theorem detachedRun_isSome : detachedRun.isSome = true := by decide

theorem usedBytes_exact_while_detached :
    ∃ state, machine.Reachable NoWrap state ∧
      state.assembling.weight Assembly.held = 3 ∧
      state.store.usedBytes = 5 ∧
      state.store.usedBytes =
        state.store.bodies.weight List.length +
          state.store.mpu.weight MpuParts.reservedBytes +
          state.assembling.weight Assembly.held := by
  have reachable :
      machine.Reachable NoWrap (detachedRun.get detachedRun_isSome) :=
    .of_run ⟨5, rfl⟩ (Option.some_get detachedRun_isSome).symm
  exact ⟨_, reachable, by decide, by decide, (usedBytes_exact reachable).1⟩

end Sections
end MemoryDataStore
end Gateway
end TurboAccess
