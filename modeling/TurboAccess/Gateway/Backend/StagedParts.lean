import TurboAccess.Lib.Slices
import TurboAccess.Gateway.Backend.FailedOperations
import TurboAccess.Gateway.Backend.WordBounds

/-!
# What a part write leaves of the parts

A part write that succeeds places its bytes into the part, which grows to hold
them.  One that is refused leaves the bytes of every part, and no part write
changes another part of its upload.
-/

namespace TurboAccess
namespace Gateway
namespace MemoryDataStore

open Tiling

/-- The buffer of a part write is the part, grown to the end of the write. -/
theorem partBuffer_grown
    {store : MemoryDataStore}
    {uploadId : String}
    {partNumber offset : Nat}
    {source buffer : Bytes}
    (reached : store.partBuffer uploadId partNumber offset source =
      some buffer) :
    buffer = (store.staging uploadId).part partNumber ++
      List.replicate (addWord offset source.length -
        ((store.staging uploadId).part partNumber).length) 0 := by
  revert reached
  unfold partBuffer
  dsimp only
  split
  · next grows =>
      rw [Option.map_eq_some_iff]
      rintro ⟨reserved, -, rfl⟩
      rw [Bytes.resize, List.take_of_length_le (by omega)]
  · next within =>
      intro reached
      cases reached
      rw [Nat.sub_eq_zero_of_le (by omega), List.replicate_zero,
        List.append_nil]

/-- A part write that succeeds places its bytes into the part. -/
theorem part_writePart
    {store next : MemoryDataStore}
    {uploadId : String}
    {partNumber offset : Nat}
    {source : Bytes}
    {reply : Bool}
    (written : store.writePart uploadId partNumber offset source =
      (.ok reply, next))
    (bounded : offset + source.length < wordModulus) :
    (next.staging uploadId).part partNumber =
      placeGrow 0 ((store.staging uploadId).part partNumber)
        ⟨offset, source⟩ := by
  rcases store.writePart_buffer_cases uploadId partNumber offset source with
    ⟨_, refused⟩ | ⟨buffer, reached, _, placed⟩
  · rw [written] at refused
    cases refused
  · rw [written] at placed
    rw [placed, partBuffer_grown reached, addWord_of_lt bounded]
    rfl

/-- A part write that is refused leaves the bytes of all parts. -/
theorem part_writePart_refused
    {store next : MemoryDataStore}
    {uploadId : String}
    {partNumber offset : Nat}
    {source : Bytes}
    {error : Error}
    (refused : store.writePart uploadId partNumber offset source =
      (.error error, next)) :
    (next.staging uploadId).part partNumber =
      (store.staging uploadId).part partNumber := by
  rw [writePart_refused_eq refused]
  simp [staging, setStaging, MpuParts.part]

/-- A part write leaves the other parts of its upload. -/
theorem part_writePart_of_ne
    (store : MemoryDataStore)
    (uploadId : String)
    {partNumber other : Nat}
    (offset : Nat)
    (source : Bytes)
    (distinct : other ≠ partNumber) :
    ((store.writePart uploadId partNumber offset source).2.staging
        uploadId).part other =
      (store.staging uploadId).part other := by
  obtain ⟨bytes, reservedBytes, found⟩ :=
    store.lookup_writePart_self uploadId partNumber offset source
  unfold staging at found ⊢
  rw [found, Option.getD_some, MpuParts.part,
    Finmap.lookup_insert_of_ne _ distinct]
  rfl

end MemoryDataStore
end Gateway
end TurboAccess
