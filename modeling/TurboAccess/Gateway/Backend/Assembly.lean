import TurboAccess.Gateway.Backend.Capacity
import TurboAccess.Gateway.Backend.Footprint

/-!
# Assembling an object

When nothing comes between its sections, `assembleObject` always has the
capacity it needs: it has just released at least as much.  It installs the
concatenation of the listed parts and removes the staging.
-/

namespace TurboAccess
namespace Gateway
namespace MemoryDataStore

/-- The listed parts of a staging fit into it. -/
theorem length_assembledBytes_le
    (staging : MpuParts)
    {numbers : List Nat}
    (distinct : numbers.Nodup) :
    (assembledBytes staging numbers).length ≤
      staging.size := by
  have sum := Table.sum_weightAt_le_weight List.length distinct staging.parts
  have lengths : (numbers.map fun number =>
        staging.parts.weightAt List.length number) =
      numbers.map fun number => (staging.part number).length := by
    apply List.map_congr_left
    intro number _
    unfold Table.weightAt MpuParts.part
    cases staging.parts.lookup number <;> rfl
  rw [lengths] at sum
  rw [assembledBytes, List.length_flatMap]
  exact sum

/-- The bytes of the listed parts. -/
theorem assembledBytes_eq
    {staging : MpuParts}
    {numbers : List Nat}
    {piece : Nat → Bytes}
    (staged : ∀ number ∈ numbers,
      staging.parts.lookup number = some (piece number)) :
    assembledBytes staging numbers = numbers.flatMap piece := by
  unfold assembledBytes
  apply List.flatMap_congr
  intro number member
  rw [MpuParts.part, staged number member, Option.getD_some]

/-- Assembling keeps the books, also when it is refused. -/
theorem Accounts.assembleObject
    {store : MemoryDataStore}
    {held : Nat}
    {numbers : List Nat}
    (key bucket object : String)
    (accounts : store.Accounts held)
    (distinct : numbers.Nodup)
    (small : store.capacityBytes + store.capacityBytes < wordModulus) :
    (store.assembleObject key bucket object numbers).2.Accounts held := by
  unfold MemoryDataStore.assembleObject
  cases taken : store.detachStaging key with
  | none => exact accounts
  | some split =>
      obtain ⟨staging, detached⟩ := split
      obtain ⟨found, rfl⟩ := detachStaging_eq_some taken
      have released := (accounts.detachStaging taken).releaseBytes
      have fits := length_assembledBytes_le staging distinct
      have exactly := accounts.staged key staging found
      have within := accounts.within
      have weight := Table.weightAt_le_weight MpuParts.reservedBytes key
        store.mpu
      rw [Table.weightAt_of_lookup_some _ found] at weight
      have used := accounts.used
      dsimp only
      cases sized : assembledSize staging numbers with
      | none => exact released
      | some total =>
          have length : total = (assembledBytes staging numbers).length := by
            apply assembledSize_eq_some sized
            rw [assembledBytes, List.length_flatMap] at fits
            omega
          subst length
          have room := released.within
          rw [releaseBytes_capacityBytes] at room
          have installed := @Accounts.installBody _ _ (makeKey bucket object)
            (assembledBytes staging numbers) released
            (by dsimp only at room; omega)
          dsimp only
          split <;> next equation => rw [equation] at installed; exact installed

@[simp] theorem assembleObject_capacityBytes
    (store : MemoryDataStore)
    (key bucket object : String)
    (numbers : List Nat) :
    (store.assembleObject key bucket object numbers).2.capacityBytes =
      store.capacityBytes := by
  unfold assembleObject
  cases taken : store.detachStaging key with
  | none => rfl
  | some split =>
      obtain ⟨staging, detached⟩ := split
      obtain ⟨-, rfl⟩ := detachStaging_eq_some taken
      dsimp only
      cases sized : assembledSize staging numbers with
      | none => exact releaseBytes_capacityBytes _ _
      | some total =>
          have kept := installBody_capacityBytes
            ({ store with mpu := store.mpu.erase key }.releaseBytes
              staging.reservedBytes) (makeKey bucket object) total
            (assembledBytes staging numbers)
          rw [releaseBytes_capacityBytes] at kept
          dsimp only
          split <;> next equation => rw [equation] at kept; exact kept

/-- An assembly that succeeds had a staging, and removes it. -/
theorem mpu_of_assembleObject
    {store installed : MemoryDataStore}
    {key bucket object : String}
    {numbers : List Nat}
    {size : Nat}
    (assembled : store.assembleObject key bucket object numbers =
      (.ok size, installed)) :
    store.mpu.lookup key ≠ none ∧ installed.mpu = store.mpu.erase key := by
  unfold assembleObject at assembled
  split at assembled
  · cases assembled
  · next staging detached taken =>
      obtain ⟨found, rfl⟩ := detachStaging_eq_some taken
      dsimp only at assembled
      split at assembled
      · cases assembled
      · next total sized =>
          have kept := installBody_mpu
            ({ store with mpu := store.mpu.erase key }.releaseBytes
              staging.reservedBytes) (makeKey bucket object) total
            (assembledBytes staging numbers)
          rw [releaseBytes_mpu] at kept
          split at assembled <;> cases assembled
          next placed =>
            rw [placed] at kept
            exact ⟨by rw [found]; simp, kept⟩

/-- An assembly that succeeds installs the listed parts of its staging, and
answers their size. -/
theorem installed_of_assembleObject
    {store installed : MemoryDataStore}
    {key bucket object : String}
    {numbers : List Nat}
    {size : Nat}
    (assembled : store.assembleObject key bucket object numbers =
      (.ok size, installed)) :
    ∃ staging, store.mpu.lookup key = some staging ∧
      assembledSize staging numbers = some size ∧
      installed.bodies = store.bodies.insert (makeKey bucket object)
        (assembledBytes staging numbers) := by
  unfold assembleObject at assembled
  split at assembled
  · cases assembled
  · next staging detached taken =>
      obtain ⟨found, rfl⟩ := detachStaging_eq_some taken
      dsimp only at assembled
      split at assembled
      · cases assembled
      · next sized =>
          split at assembled <;> cases assembled
          next placed =>
            refine ⟨staging, found, sized, ?_⟩
            rw [bodies_of_installBody placed, releaseBytes_bodies]

/-- Assembling staged parts succeeds. -/
theorem assembleObject_eq_ok
    {store : MemoryDataStore}
    {held : Nat}
    {key : String}
    {staging : MpuParts}
    {numbers : List Nat}
    {piece : Nat → Bytes}
    (bucket object : String)
    (accounts : store.Accounts held)
    (found : store.mpu.lookup key = some staging)
    (distinct : numbers.Nodup)
    (staged : ∀ number ∈ numbers,
      staging.parts.lookup number = some (piece number)) :
    ∃ installed,
      store.assembleObject key bucket object numbers =
          (.ok (numbers.flatMap piece).length, installed) ∧
        installed.bodies = store.bodies.insert (makeKey bucket object)
          (numbers.flatMap piece) ∧
        installed.mpu = store.mpu.erase key := by
  have bytes := assembledBytes_eq staged
  have fits := length_assembledBytes_le staging distinct
  have exactly := accounts.staged key staging found
  have within := accounts.within
  have bounded := accounts.bounded
  have weight := Table.weightAt_le_weight MpuParts.reservedBytes key store.mpu
  rw [Table.weightAt_of_lookup_some _ found] at weight
  have used := accounts.used
  have taken : store.detachStaging key =
      some (staging, { store with mpu := store.mpu.erase key }) := by
    rw [detachStaging, found]
  -- the size of the assembly
  have known : assembledSize staging numbers ≠ none := by
    apply assembledSize_ne_none
    intro number member
    rw [staged number member]
    simp
  obtain ⟨total, sized⟩ := Option.ne_none_iff_exists'.mp known
  have length : total = (numbers.flatMap piece).length := by
    rw [← bytes]
    apply assembledSize_eq_some sized
    rw [assembledBytes, List.length_flatMap] at fits
    omega
  -- the capacity released covers the body
  generalize releasedEq : ({ store with
    mpu := store.mpu.erase key }).releaseBytes staging.reservedBytes = freed
  have released : freed =
      { store with
        mpu := store.mpu.erase key
        usedBytes := store.usedBytes - staging.reservedBytes } := by
    rw [← releasedEq]
    exact releaseBytes_eq (by dsimp only; omega) bounded
  have room : freed.Fits (makeKey bucket object) total := by
    right
    rw [released, addWord_of_lt (by dsimp only; rw [bytes] at fits; omega)]
    dsimp only
    rw [bytes] at fits
    omega
  cases install : freed.installBody (makeKey bucket object) total
      (assembledBytes staging numbers) with
  | mk reply installed =>
      have succeeded : reply = true := by
        have answer := (freed.installBody_fst (makeKey bucket object) total
          (assembledBytes staging numbers)).mpr room
        rwa [install] at answer
      subst succeeded
      refine ⟨installed, ?_, ?_, ?_⟩
      · unfold assembleObject
        simp only [taken, releasedEq, sized, install]
        rw [length]
      · rw [bodies_of_installBody install, bytes, released]
      · rw [mpu_of_installBody install, released]

end MemoryDataStore

/-- A completion that succeeds installs the listed parts of its staging, in the
order of their numbers, and registers their size. -/
theorem CompositeBackend.installed_of_completeMultipart
    {backend after : CompositeBackend}
    {key bucket object : String}
    {parts : List PartRecord}
    {now : Nat}
    {metadata : ObjectMetadata}
    (target : backend.mpuTargets.lookup key = some (bucket, object))
    (completed : backend.completeMultipart key parts now =
      (.ok metadata, after)) :
    ∃ staging, backend.data.mpu.lookup key = some staging ∧
      MemoryDataStore.assembledSize staging (orderedNumbers parts) =
        some metadata.contentLength ∧
      after.data.bodies = backend.data.bodies.insert (makeKey bucket object)
        (MemoryDataStore.assembledBytes staging (orderedNumbers parts)) ∧
      after.head bucket object = .ok metadata := by
  rw [completeMultipart, target] at completed
  dsimp only at completed
  split at completed
  · cases completed
  · next size data assembled =>
      obtain ⟨staging, staged, sized, bodies⟩ :=
        MemoryDataStore.installed_of_assembleObject assembled
      rw [MemoryIndexStore.commitMultipart] at completed
      cases taken : backend.index.takeMultipart key with
      | none =>
          rw [taken] at completed
          cases completed
      | some index =>
          rw [taken] at completed
          cases completed
          refine ⟨staging, staged, sized, bodies, ?_⟩
          simp [head, MemoryIndexStore.head, eraseTarget,
            MemoryIndexStore.putObjectIndex]

/-- A completion of an open upload registers what the assembly has installed, and
closes the upload. -/
theorem CompositeBackend.completeMultipart_of_assembled
    {backend : CompositeBackend}
    {key bucket object : String}
    {parts : List PartRecord}
    {size : Nat}
    {data : MemoryDataStore}
    (target : backend.mpuTargets.lookup key = some (bucket, object))
    (known : backend.index.mpu.lookup key ≠ none)
    (assembled : backend.data.assembleObject key bucket object
      (orderedNumbers parts) = (.ok size, data))
    (now : Nat) :
    backend.completeMultipart key parts now =
      (.ok (makeMeta size now),
        eraseTarget
          { backend with
            data
            index := MemoryIndexStore.putObjectIndex
              { backend.index with mpu := backend.index.mpu.erase key }
              bucket object (makeMeta size now) } key) := by
  obtain ⟨record, found⟩ := Option.ne_none_iff_exists'.mp known
  rw [completeMultipart, target]
  dsimp only
  rw [assembled]
  dsimp only
  rw [MemoryIndexStore.commitMultipart, MemoryIndexStore.takeMultipart, found]

end Gateway
end TurboAccess
