import TurboAccess.Gateway.Backend.Capacity
import TurboAccess.Gateway.Backend.Footprint

/-!
# The data store without one staging

Taking the staging of an upload out of the store, with the capacity it takes,
gives a store in which every operation on other uploads and on objects does the
same, unless the larger store refuses it for want of capacity.
-/

namespace TurboAccess
namespace Gateway
namespace MemoryDataStore

/-- Take the staging of an upload out, with its capacity. -/
def withoutStaging
    (store : MemoryDataStore)
    (key : String) : MemoryDataStore :=
  { store with
    mpu := store.mpu.erase key
    usedBytes :=
      store.usedBytes - store.mpu.weightAt MpuParts.reservedBytes key }

variable {store : MemoryDataStore} {key : String} {held : Nat}

/-- A store without the staging is as it is. -/
theorem withoutStaging_of_lookup_none
    (absent : store.mpu.lookup key = none) :
    store.withoutStaging key = store := by
  unfold withoutStaging
  rw [Table.erase_of_lookup_none absent,
    Table.weightAt_of_lookup_none _ absent, Nat.sub_zero]

/-- A body and a staging take their capacity apart from each other. -/
private theorem Accounts.body_add_staging_le
    (accounts : store.Accounts held)
    (id key : String) :
    (store.body id).length +
        store.mpu.weightAt MpuParts.reservedBytes key ≤ store.usedBytes := by
  have bodies := Table.weightAt_le_weight List.length id store.bodies
  have stagings := Table.weightAt_le_weight MpuParts.reservedBytes key
    store.mpu
  have used := accounts.used
  have length : store.bodies.weightAt List.length id =
      (store.body id).length := by
    unfold Table.weightAt body
    cases store.bodies.lookup id <;> rfl
  omega

/-- Two stagings take their capacity apart from each other. -/
private theorem Accounts.stagings_le
    (accounts : store.Accounts held)
    {key other : String}
    (distinct : other ≠ key) :
    store.mpu.weightAt MpuParts.reservedBytes other +
        store.mpu.weightAt MpuParts.reservedBytes key + held ≤
      store.usedBytes := by
  have both := Table.sum_weightAt_le_weight MpuParts.reservedBytes
    (show [other, key].Nodup by simpa using distinct) store.mpu
  have used := accounts.used
  simp only [List.map_cons, List.map_nil, List.sum_cons, List.sum_nil] at both
  omega

/-- What the full store grants, the smaller one grants. -/
private theorem reserveBytes_withoutStaging
    {reserved : MemoryDataStore}
    {growth : Nat}
    (accounts : store.Accounts held)
    (bounded : store.usedBytes + growth < wordModulus)
    (taken : store.reserveBytes growth = some reserved) :
    (store.withoutStaging key).reserveBytes growth =
      some (reserved.withoutStaging key) := by
  have part := accounts.body_add_staging_le "" key
  obtain ⟨fits, rfl⟩ := reserveBytes_eq_some taken accounts.within bounded
  unfold reserveBytes withoutStaging
  dsimp only
  rw [addWord_of_lt (by omega)]
  split
  · next none => subst none; rfl
  · rw [if_neg (by omega)]
    congr 2
    omega

/-- Both stores give capacity back. -/
private theorem releaseBytes_withoutStaging
    (store : MemoryDataStore)
    {bytes : Nat}
    (bounded : store.usedBytes < wordModulus)
    (apart : bytes + store.mpu.weightAt MpuParts.reservedBytes key ≤
      store.usedBytes) :
    (store.withoutStaging key).releaseBytes bytes =
      (store.releaseBytes bytes).withoutStaging key := by
  rw [releaseBytes_eq (by omega) bounded,
    releaseBytes_eq (by unfold withoutStaging; dsimp only; omega)
      (by unfold withoutStaging; dsimp only; omega)]
  unfold withoutStaging
  dsimp only
  congr 1
  omega

/-- A body that fits into the full store fits into the smaller one. -/
private theorem fitBody_withoutStaging
    {fitted : MemoryDataStore}
    {id : String}
    {target : Nat}
    (accounts : store.Accounts held)
    (bounded : store.usedBytes + target < wordModulus)
    (fits : store.fitBody id target = (true, fitted)) :
    (store.withoutStaging key).fitBody id target =
      (true, fitted.withoutStaging key) := by
  have part := accounts.body_add_staging_le id key
  have same : (store.withoutStaging key).body id = store.body id := rfl
  unfold fitBody at fits ⊢
  dsimp only at fits ⊢
  rw [same]
  split at fits
  · next grows =>
      rw [if_pos grows]
      cases taken : store.reserveBytes (target - (store.body id).length) with
      | none => simp [taken] at fits
      | some reserved =>
          rw [reserveBytes_withoutStaging accounts (by omega) taken]
          simp only [taken, Prod.mk.injEq, true_and] at fits
          subst fits
          rfl
  · next fits' =>
      rw [if_neg fits']
      split at fits
      · next shrinks =>
          rw [if_pos shrinks]
          simp only [Prod.mk.injEq, true_and] at fits
          subst fits
          have apart : (store.body id).length - target +
              (store.setBody id ((store.body id).resize target)).mpu.weightAt
                MpuParts.reservedBytes key ≤ store.usedBytes := by
            simp only [setBody_mpu]
            omega
          exact congrArg (Prod.mk true)
            (releaseBytes_withoutStaging
              (store.setBody id ((store.body id).resize target))
              accounts.bounded apart)
      · next keeps =>
          rw [if_neg keeps]
          simp only [Prod.mk.injEq, true_and] at fits
          subst fits
          rfl

/-- A write that the full store accepts, the smaller one accepts. -/
theorem writeRange_withoutStaging
    {written : MemoryDataStore}
    {bucket object : String}
    {offset : Nat}
    {source : Bytes}
    {totalSize : Option Nat}
    {reply : Bool}
    (key : String)
    (accounts : store.Accounts held)
    (inRange : offset + source.length < wordModulus)
    (bounded : store.usedBytes + max (totalSize.getD (offset + source.length))
      (offset + source.length) < wordModulus)
    (succeeded : store.writeRange bucket object offset source totalSize =
      (.ok reply, written)) :
    (store.withoutStaging key).writeRange bucket object offset source
        totalSize =
      (.ok reply, written.withoutStaging key) := by
  unfold writeRange at succeeded ⊢
  rw [addWord_of_lt inRange] at succeeded ⊢
  dsimp only at succeeded ⊢
  split at succeeded
  · cases succeeded
  · next fitted fits =>
      rw [fitBody_withoutStaging accounts bounded fits]
      simp only [Prod.mk.injEq, Except.ok.injEq] at succeeded ⊢
      obtain ⟨rfl, rfl⟩ := succeeded
      refine ⟨rfl, ?_⟩
      split <;> rfl

/-- A reservation that the full store accepts, the smaller one accepts. -/
theorem reserve_withoutStaging
    {reserved : MemoryDataStore}
    {bucket object : String}
    {totalSize : Nat}
    {reply : Bool}
    (key : String)
    (accounts : store.Accounts held)
    (bounded : store.usedBytes + totalSize < wordModulus)
    (succeeded : store.reserve bucket object totalSize =
      (.ok reply, reserved)) :
    (store.withoutStaging key).reserve bucket object totalSize =
      (.ok reply, reserved.withoutStaging key) := by
  unfold reserve at succeeded ⊢
  dsimp only at succeeded ⊢
  split at succeeded
  · cases succeeded
  · next fitted fits =>
      rw [fitBody_withoutStaging accounts bounded fits]
      simp only [Prod.mk.injEq, Except.ok.injEq] at succeeded ⊢
      obtain ⟨rfl, rfl⟩ := succeeded
      exact ⟨rfl, rfl⟩

/-- An assembled body that fits into the full store fits into the smaller
one. -/
theorem installBody_withoutStaging
    {installed : MemoryDataStore}
    {id : String}
    {total : Nat}
    {assembled : Bytes}
    (key : String)
    (accounts : store.Accounts held)
    (bounded : store.usedBytes + total < wordModulus)
    (succeeded : store.installBody id total assembled = (true, installed)) :
    (store.withoutStaging key).installBody id total assembled =
      (true, installed.withoutStaging key) := by
  have part := accounts.body_add_staging_le id key
  have same : (store.withoutStaging key).body id = store.body id := rfl
  unfold installBody at succeeded ⊢
  dsimp only at succeeded ⊢
  rw [same]
  split at succeeded
  · next grows =>
      rw [if_pos grows]
      cases taken : store.reserveBytes (total - (store.body id).length) with
      | none => simp [taken] at succeeded
      | some reserved =>
          rw [reserveBytes_withoutStaging accounts (by omega) taken]
          simp only [taken, Prod.mk.injEq, true_and] at succeeded
          subst succeeded
          rfl
  · next fits =>
      rw [if_neg fits]
      split at succeeded
      · next shrinks =>
          rw [if_pos shrinks,
            releaseBytes_withoutStaging store accounts.bounded (by omega)]
          simp only [Prod.mk.injEq, true_and] at succeeded
          subst succeeded
          rfl
      · next keeps =>
          rw [if_neg keeps]
          simp only [Prod.mk.injEq, true_and] at succeeded
          subst succeeded
          rfl

/-! ### Stagings of other uploads -/

private theorem staging_withoutStaging
    {other : String}
    (distinct : other ≠ key) :
    (store.withoutStaging key).staging other = store.staging other := by
  unfold staging withoutStaging
  rw [Finmap.lookup_erase_ne distinct]

private theorem setStaging_withoutStaging
    (store : MemoryDataStore)
    {other : String}
    (staging : MpuParts)
    (distinct : other ≠ key) :
    (store.withoutStaging key).setStaging other staging =
      (store.setStaging other staging).withoutStaging key := by
  have tables : (store.mpu.erase key).insert other staging =
      Finmap.erase key (store.mpu.insert other staging) := by
    apply Finmap.ext_lookup
    intro id
    rw [Table.lookup_insert_eq, Table.lookup_erase_eq, Table.lookup_erase_eq,
      Table.lookup_insert_eq]
    split
    · next same =>
        subst same
        rw [if_neg distinct]
    · rfl
  have weights : Table.weightAt MpuParts.reservedBytes key
        (store.mpu.insert other staging) =
      store.mpu.weightAt MpuParts.reservedBytes key := by
    unfold Table.weightAt
    rw [Finmap.lookup_insert_of_ne _ (Ne.symm distinct)]
  unfold setStaging withoutStaging
  dsimp only
  rw [tables, weights]

/-- A part that the full store accepts for another upload, the smaller one
accepts. -/
theorem writePart_withoutStaging
    {written : MemoryDataStore}
    {other : String}
    {partNumber offset : Nat}
    {source : Bytes}
    {reply : Bool}
    (distinct : other ≠ key)
    (accounts : store.Accounts held)
    (inRange : offset + source.length < wordModulus)
    (bounded : store.usedBytes + (offset + source.length) < wordModulus)
    (succeeded : store.writePart other partNumber offset source =
      (.ok reply, written)) :
    (store.withoutStaging key).writePart other partNumber offset source =
      (.ok reply, written.withoutStaging key) := by
  unfold writePart at succeeded ⊢
  rw [addWord_of_lt inRange] at succeeded ⊢
  rw [staging_withoutStaging distinct]
  dsimp only at succeeded ⊢
  split at succeeded
  · next grows =>
      rw [if_pos grows]
      cases taken : store.reserveBytes (offset + source.length -
          ((store.staging other).part partNumber).length) with
      | none => simp [taken] at succeeded
      | some reserved =>
          rw [reserveBytes_withoutStaging accounts (by omega) taken]
          simp only [taken, Prod.mk.injEq, Except.ok.injEq] at succeeded
          obtain ⟨rfl, rfl⟩ := succeeded
          dsimp only
          rw [setStaging_withoutStaging reserved _ distinct]
  · next fits =>
      rw [if_neg fits]
      simp only [Prod.mk.injEq, Except.ok.injEq] at succeeded
      obtain ⟨rfl, rfl⟩ := succeeded
      rw [setStaging_withoutStaging store _ distinct]

/-- Taking a staging out of the table commutes with taking another one out
with its capacity. -/
private theorem eraseStaging_withoutStaging
    (store : MemoryDataStore)
    {other : String}
    (distinct : other ≠ key) :
    { store.withoutStaging key with
        mpu := (store.withoutStaging key).mpu.erase other } =
      ({ store with mpu := store.mpu.erase other }).withoutStaging key := by
  have weights : Table.weightAt MpuParts.reservedBytes key
        (store.mpu.erase other) =
      store.mpu.weightAt MpuParts.reservedBytes key := by
    unfold Table.weightAt
    rw [Finmap.lookup_erase_ne (Ne.symm distinct)]
  unfold withoutStaging
  dsimp only
  rw [weights, Finmap.erase_erase]

/-- Detaching another staging. -/
theorem detachStaging_withoutStaging
    (store : MemoryDataStore)
    {other : String}
    (distinct : other ≠ key) :
    (store.withoutStaging key).detachStaging other =
      (store.detachStaging other).map fun result =>
        (result.1, result.2.withoutStaging key) := by
  have found : (store.withoutStaging key).mpu.lookup other =
      store.mpu.lookup other := Finmap.lookup_erase_ne distinct
  unfold detachStaging
  rw [found]
  cases store.mpu.lookup other with
  | none => rfl
  | some staging =>
      simp only [Option.map_some, eraseStaging_withoutStaging store distinct]

/-- Releasing what a detached staging holds. -/
theorem releaseHeld_withoutStaging
    {bytes : Nat}
    (key : String)
    (accounts : store.Accounts (held + bytes)) :
    (store.withoutStaging key).releaseBytes bytes =
      (store.releaseBytes bytes).withoutStaging key := by
  have stagings := Table.weightAt_le_weight MpuParts.reservedBytes key
    store.mpu
  have used := accounts.used
  exact releaseBytes_withoutStaging store accounts.bounded (by omega)

/-- Aborting the data of another upload. -/
theorem abortMultipartData_withoutStaging
    {other : String}
    (distinct : other ≠ key)
    (accounts : store.Accounts held) :
    ((store.withoutStaging key).abortMultipartData other).2 =
      (store.abortMultipartData other).2.withoutStaging key := by
  have found : (store.withoutStaging key).mpu.lookup other =
      store.mpu.lookup other := Finmap.lookup_erase_ne distinct
  unfold abortMultipartData
  rw [found]
  cases present : store.mpu.lookup other with
  | none => rfl
  | some staging =>
      have apart := accounts.stagings_le distinct
      rw [Table.weightAt_of_lookup_some _ present] at apart
      dsimp only
      rw [releaseBytes_withoutStaging store accounts.bounded (by omega),
        eraseStaging_withoutStaging _ distinct]

/-- A staging that takes what it has added to the counter cannot be seen
without it. -/
private theorem withoutStaging_setStaging
    {changed : MemoryDataStore}
    {staging : MpuParts}
    (tables : changed.mpu = store.mpu)
    (bodies : changed.bodies = store.bodies)
    (capacity : changed.capacityBytes = store.capacityBytes)
    (counted : changed.usedBytes - staging.reservedBytes =
      store.usedBytes - store.mpu.weightAt MpuParts.reservedBytes key) :
    (changed.setStaging key staging).withoutStaging key =
      store.withoutStaging key := by
  unfold setStaging withoutStaging
  dsimp only
  rw [Table.erase_insert_self, tables, bodies, capacity,
    Table.weightAt_of_lookup_some _ (Finmap.lookup_insert _), counted]

/-- A part write to the upload itself cannot be seen without its staging. -/
theorem withoutStaging_writePart
    {partNumber offset : Nat}
    {source : Bytes}
    (accounts : store.Accounts held)
    (inRange : offset + source.length < wordModulus)
    (bounded : store.usedBytes + (offset + source.length) < wordModulus) :
    (store.writePart key partNumber offset source).2.withoutStaging key =
      store.withoutStaging key := by
  have weight : store.mpu.weightAt MpuParts.reservedBytes key =
      (store.staging key).reservedBytes := by
    unfold Table.weightAt staging
    cases store.mpu.lookup key <;> rfl
  have small := Table.weightAt_le_weight MpuParts.reservedBytes key store.mpu
  have used := accounts.used
  unfold writePart
  rw [addWord_of_lt inRange]
  dsimp only
  split
  · next grows =>
      cases taken : store.reserveBytes (offset + source.length -
          ((store.staging key).part partNumber).length) with
      | none => exact withoutStaging_setStaging rfl rfl rfl (by rw [← weight])
      | some reserved =>
          obtain ⟨_, rfl⟩ := reserveBytes_eq_some taken accounts.within
            (by omega)
          refine withoutStaging_setStaging rfl rfl rfl ?_
          dsimp only
          rw [addWord_of_lt (by omega), ← weight]
          omega
  · exact withoutStaging_setStaging rfl rfl rfl (by rw [← weight])

end MemoryDataStore

end Gateway
end TurboAccess
