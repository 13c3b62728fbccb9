import TurboAccess.Client.Gds.TransferPath
import TurboAccess.Lib.Slices
import TurboAccess.Lib.Words

/-!
# The ranges of a split read

A read that is split is cut with two truncating divisions, and two cursors run
over the object and the buffer.  The ranges are cut exactly: they are
consecutive and cover what was asked for, each has its place in the buffer, and
no computation on the way wraps.
-/

namespace TurboAccess
namespace Client
namespace Gds

open Tiling (Consecutive InRange Range covered_of_inOrder extent extent_cons
  finish_of_consecutive inOrder_of_consecutive le_offset_of_consecutive
  pairwise_of_consecutive)

/-! ## Cutting in words -/

/-- Length of a range in 64-bit words, unless a computation wraps. -/
def lengthInWords (count baseAligned remBytes index : Nat) : Option Nat := do
  let last ← checkedSub count 1
  if index = last then checkedAdd baseAligned remBytes else some baseAligned

/-- The loop over the ranges in 64-bit words, with the cursors in the object and
in the buffer.  It stops at a computation that would wrap; moving the pointer of
the buffer is none. -/
def cutFrom
    (count baseAligned remBytes : Nat)
    (request : GetObjectRequest)
    (buffer : BufferView) :
    (cursorOff cursorBuf : Nat) → List Nat → Option (List SubGet)
  | _, _, [] => some []
  | cursorOff, cursorBuf, index :: indices => do
      let length ← lengthInWords count baseAligned remBytes index
      if length = 0 then
        cutFrom count baseAligned remBytes request buffer cursorOff cursorBuf
          indices
      else
        let nextOff ← checkedAdd cursorOff length
        let nextBuf ← checkedAdd cursorBuf length
        let rest ← cutFrom count baseAligned remBytes request buffer nextOff
          nextBuf indices
        some (({ request with offset := cursorOff, length := some length },
          { data := buffer.data + cursorBuf, size := length,
            type := buffer.type }) :: rest)

/-- The ranges of a read that is split, computed in words. -/
def cutCount
    (total count : Nat)
    (request : GetObjectRequest)
    (buffer : BufferView) : Option (List SubGet) := do
  let baseAligned ← checkedMul (total / count / gpuPageSize) gpuPageSize
  let alignedTotal ← checkedMul baseAligned count
  let remBytes ← checkedSub total alignedTotal
  cutFrom count baseAligned remBytes request buffer request.offset 0
    (List.range count)

/-- The requests of a parallel read, computed in words. -/
def cutInWords
    (options : GdsClientOptions)
    (request : GetObjectRequest)
    (buffer : BufferView) : Option (List SubGet) :=
  let total := request.length.getD 0
  let count := min options.parallelGetChunks total
  if count ≤ 1 then some [(request, buffer)]
  else cutCount total count request buffer

/-! ## The property -/

/-- The range of the object that a request is for. -/
def objectRange (sub : SubGet) : Range := ⟨sub.1.offset, sub.1.length.getD 0⟩

/-- Requests cut a read of `total` bytes into at most `chunks` ranges exactly. -/
structure ExactPartition
    (chunks total : Nat)
    (request : GetObjectRequest)
    (buffer : BufferView)
    (subs : List SubGet) : Prop where
  nonempty : ∀ sub ∈ subs, 0 < (objectRange sub).length
  consecutive : Consecutive request.offset (subs.map objectRange)
  disjoint : subs.Pairwise fun first second => ∀ position,
    ¬(InRange (objectRange first).offset (objectRange first).length position ∧
      InRange (objectRange second).offset (objectRange second).length
        position)
  covers : ∀ position, InRange request.offset total position ↔
    ∃ sub ∈ subs,
      InRange (objectRange sub).offset (objectRange sub).length position
  placed : ∀ sub ∈ subs, request.offset ≤ sub.1.offset ∧
    sub.2.data = buffer.data + (sub.1.offset - request.offset)
  aligned : ∀ sub ∈ subs.dropLast, gpuPageSize ∣ (objectRange sub).length
  few : subs.length ≤ min chunks total

/-! ## Lengths -/

section Lengths

variable (total count : Nat)

theorem baseAligned_le : baseAligned total count ≤ total / count := by
  unfold baseAligned
  exact Nat.div_mul_le_self _ _

/-- The ranges of the common length are no more than the whole. -/
theorem baseAligned_mul_le : baseAligned total count * count ≤ total := by
  calc baseAligned total count * count
      ≤ total / count * count :=
        Nat.mul_le_mul_right _ (baseAligned_le total count)
    _ ≤ total := Nat.div_mul_le_self _ _

/-- The lengths of all ranges add up to the whole. -/
theorem sum_rangeLength (positive : count ≠ 0) :
    ((List.range count).map (rangeLength total count)).sum = total := by
  obtain ⟨prior, rfl⟩ := Nat.exists_eq_add_one_of_ne_zero positive
  have bounded := baseAligned_mul_le total (prior + 1)
  have common : (List.range prior).map (rangeLength total (prior + 1)) =
      (List.range prior).map fun _ => baseAligned total (prior + 1) := by
    apply List.map_congr_left
    intro index member
    have below := List.mem_range.mp member
    rw [rangeLength, if_neg (by omega)]
  rw [List.range_succ, List.map_append, List.sum_append, common,
    List.map_const', List.length_range, List.sum_replicate_nat,
    List.map_singleton, List.sum_singleton, rangeLength, if_pos rfl]
  rw [Nat.mul_succ, Nat.mul_comm] at bounded
  rw [Nat.mul_succ, Nat.mul_comm (baseAligned total (prior + 1)) prior]
  omega

/-- The last range is not empty. -/
theorem rangeLength_last_pos
    (positive : count ≠ 0)
    (fits : count ≤ total) :
    0 < rangeLength total count (count - 1) := by
  have bounded := baseAligned_mul_le total count
  rw [rangeLength, if_pos (by omega)]
  by_cases empty : baseAligned total count = 0
  · rw [empty]
    omega
  · omega

end Lengths

/-! ## Ranges -/

section Ranges

variable
  {total count cursor : Nat}
  {indices : List Nat}

/-- No range is empty. -/
theorem pos_of_mem_rangesFrom
    {range : Nat × Nat}
    (listed : range ∈ rangesFrom total count cursor indices) :
    0 < range.2 := by
  induction indices generalizing cursor with
  | nil => cases listed
  | cons index rest inductionHypothesis =>
      rw [rangesFrom] at listed
      split at listed
      · exact inductionHypothesis listed
      · next filled =>
          rcases List.mem_cons.mp listed with rfl | later
          · exact Nat.pos_of_ne_zero filled
          · exact inductionHypothesis later

theorem length_rangesFrom_le :
    (rangesFrom total count cursor indices).length ≤ indices.length := by
  induction indices generalizing cursor with
  | nil => exact Nat.le_refl 0
  | cons index rest inductionHypothesis =>
      rw [rangesFrom]
      split
      · exact inductionHypothesis.trans (Nat.le_succ _)
      · exact Nat.succ_le_succ inductionHypothesis

/-- Later ranges begin where the earlier ones end. -/
theorem rangesFrom_append {later : List Nat} :
    rangesFrom total count cursor (indices ++ later) =
      rangesFrom total count cursor indices ++
        rangesFrom total count
          (cursor + (indices.map (rangeLength total count)).sum) later := by
  induction indices generalizing cursor with
  | nil => rfl
  | cons index rest inductionHypothesis =>
      rw [List.cons_append, rangesFrom, rangesFrom, List.map_cons,
        List.sum_cons]
      split
      · next empty => rw [inductionHypothesis, empty, Nat.zero_add]
      · rw [inductionHypothesis, List.cons_append, Nat.add_assoc]

/-- The ranges but the last one have the common length. -/
theorem length_of_mem_rangesFrom
    {range : Nat × Nat}
    (inner : ∀ index ∈ indices, index + 1 ≠ count)
    (listed : range ∈ rangesFrom total count cursor indices) :
    range.2 = baseAligned total count := by
  induction indices generalizing cursor with
  | nil => cases listed
  | cons index rest inductionHypothesis =>
      have innerRest := fun other member =>
        inner other (List.mem_cons_of_mem _ member)
      rw [rangesFrom] at listed
      split at listed
      · exact inductionHypothesis innerRest listed
      · rcases List.mem_cons.mp listed with rfl | later
        · exact if_neg (inner index List.mem_cons_self)
        · exact inductionHypothesis innerRest later

/-- The ranges but the last one, and the last one. -/
theorem subRanges_eq
    (positive : count ≠ 0)
    (fits : count ≤ total) :
    ∃ inner last, subRanges total count = inner ++ [last] ∧
      ∀ range ∈ inner, range.2 = baseAligned total count := by
  obtain ⟨prior, rfl⟩ := Nat.exists_eq_add_one_of_ne_zero positive
  have filled := rangeLength_last_pos total (prior + 1) positive fits
  rw [Nat.add_sub_cancel] at filled
  have single : ∀ cursor, rangesFrom total (prior + 1) cursor [prior] =
      [(cursor, rangeLength total (prior + 1) prior)] := by
    intro cursor
    rw [rangesFrom, if_neg filled.ne', rangesFrom]
  rw [subRanges, List.range_succ, rangesFrom_append, single]
  refine ⟨_, _, rfl, ?_⟩
  · intro range listed
    refine length_of_mem_rangesFrom ?_ listed
    intro index member
    have below := List.mem_range.mp member
    omega

variable
  (request : GetObjectRequest)
  (buffer : BufferView)

/-- The ranges are consecutive, and as long as all of them together. -/
theorem consecutive_rangesFrom :
    Consecutive (request.offset + cursor)
        (((rangesFrom total count cursor indices).map
          (subGet request buffer)).map objectRange) ∧
      extent (((rangesFrom total count cursor indices).map
          (subGet request buffer)).map objectRange) =
        (indices.map (rangeLength total count)).sum := by
  induction indices generalizing cursor with
  | nil => exact ⟨trivial, rfl⟩
  | cons index rest inductionHypothesis =>
      rw [rangesFrom, List.map_cons, List.sum_cons]
      split
      · next empty =>
          rw [empty, Nat.zero_add]
          exact inductionHypothesis
      · obtain ⟨consecutive, together⟩ :=
          @inductionHypothesis (cursor + rangeLength total count index)
        rw [List.map_cons, List.map_cons, extent_cons, together]
        rw [← Nat.add_assoc] at consecutive
        exact ⟨⟨rfl, consecutive⟩, rfl⟩

/-- The length of a range is computed without a wrap. -/
theorem lengthInWords_eq
    (positive : count ≠ 0)
    (word : total < wordModulus)
    (index : Nat) :
    lengthInWords count (baseAligned total count)
        (total - baseAligned total count * count) index =
      some (rangeLength total count index) := by
  have bounded := baseAligned_mul_le total count
  have whole : baseAligned total count ≤ baseAligned total count * count :=
    Nat.le_mul_of_pos_right _ (by omega)
  rw [lengthInWords, checkedSub_of_le (by omega), rangeLength]
  dsimp only [Option.bind_eq_bind, Option.bind_some]
  split
  · rw [if_pos (by omega), checkedAdd_of_lt (by omega)]
  · rw [if_neg (by omega)]

/-- The loop in words takes every step, and cuts these ranges. -/
theorem cutFrom_eq
    (positive : count ≠ 0)
    (word : request.offset + total < wordModulus)
    (within : cursor + (indices.map (rangeLength total count)).sum ≤ total) :
    cutFrom count (baseAligned total count)
        (total - baseAligned total count * count) request buffer
        (request.offset + cursor) cursor indices =
      some ((rangesFrom total count cursor indices).map
        (subGet request buffer)) := by
  induction indices generalizing cursor with
  | nil => rfl
  | cons index rest inductionHypothesis =>
      have bounded := baseAligned_mul_le total count
      rw [List.map_cons, List.sum_cons] at within
      rw [cutFrom, lengthInWords_eq positive (by omega), rangesFrom]
      dsimp only [Option.bind_eq_bind, Option.bind_some]
      split
      · next empty =>
          rw [empty, Nat.zero_add] at within
          exact inductionHypothesis within
      · rw [checkedAdd_of_lt (by omega), Option.bind_some,
          checkedAdd_of_lt (by omega), Option.bind_some, Nat.add_assoc,
          inductionHypothesis (by omega)]
        rfl

/-- So do the computations before it. -/
theorem cutCount_eq
    (positive : count ≠ 0)
    (word : request.offset + total < wordModulus) :
    cutCount total count request buffer =
      some ((subRanges total count).map (subGet request buffer)) := by
  have bounded := baseAligned_mul_le total count
  have whole : baseAligned total count ≤ baseAligned total count * count :=
    Nat.le_mul_of_pos_right _ (by omega)
  have cut := @cutFrom_eq total count 0 (List.range count) request buffer
    positive word (by rw [sum_rangeLength total count positive]; omega)
  unfold baseAligned at bounded whole cut
  rw [cutCount, checkedMul_of_lt (by omega)]
  dsimp only [Option.bind_eq_bind, Option.bind_some]
  rw [checkedMul_of_lt (by omega), Option.bind_some,
    checkedSub_of_le bounded, Option.bind_some]
  exact cut

end Ranges

/-! ## The theorem -/

/-- Requests that are consecutive and as long as the read are disjoint, and cover
it. -/
theorem covers_of_consecutive
    {total : Nat}
    {request : GetObjectRequest}
    {subs : List SubGet}
    (consecutive : Consecutive request.offset (subs.map objectRange))
    (together : extent (subs.map objectRange) = total) :
    (subs.Pairwise fun first second => ∀ position,
      ¬(InRange (objectRange first).offset (objectRange first).length
          position ∧
        InRange (objectRange second).offset (objectRange second).length
          position)) ∧
      ∀ position, InRange request.offset total position ↔
        ∃ sub ∈ subs,
          InRange (objectRange sub).offset (objectRange sub).length
            position := by
  constructor
  · have apart := List.pairwise_map.mp (pairwise_of_consecutive consecutive)
    refine apart.imp ?_
    rintro first second ends position ⟨inFirst, inSecond⟩
    exact absurd (inFirst.2.trans_le ends) (Nat.not_lt.mpr inSecond.1)
  · intro position
    constructor
    · rintro ⟨starts, below⟩
      obtain ⟨range, listed, covered⟩ := covered_of_inOrder
        (inOrder_of_consecutive consecutive) starts (by rwa [together])
      obtain ⟨sub, member, rfl⟩ := List.mem_map.mp listed
      exact ⟨sub, member, covered⟩
    · rintro ⟨sub, member, starts, below⟩
      have listed := List.mem_map_of_mem (f := objectRange) member
      have begins := le_offset_of_consecutive consecutive listed
      have ends := finish_of_consecutive consecutive listed
      rw [together] at ends
      exact ⟨begins.trans starts, below.trans_le ends⟩

/-- A read of one byte is not split. -/
theorem exactPartition_single
    {chunks total : Nat}
    {request : GetObjectRequest}
    {buffer : BufferView}
    (length : request.length = some total)
    (positive : 1 ≤ total)
    (several : 1 ≤ min chunks total) :
    ExactPartition chunks total request buffer [(request, buffer)] := by
  have filled : (objectRange (request, buffer)).length = total := by
    rw [objectRange, length]
    rfl
  have consecutive : Consecutive request.offset
      ([(request, buffer)].map objectRange) := ⟨rfl, trivial⟩
  have together : extent ([(request, buffer)].map objectRange) = total := by
    rw [List.map_singleton, extent_cons, filled]
    rfl
  obtain ⟨disjoint, covers⟩ := covers_of_consecutive consecutive together
  refine ⟨?_, consecutive, disjoint, covers, ?_, nofun, several⟩
  · intro sub listed
    cases List.mem_singleton.mp listed
    rwa [filled]
  · intro sub listed
    cases List.mem_singleton.mp listed
    exact ⟨Nat.le_refl _, by rw [Nat.sub_self]; rfl⟩

/-- A read of several ranges. -/
theorem exactPartition_several
    {chunks total : Nat}
    {request : GetObjectRequest}
    {buffer : BufferView}
    (nonzero : min chunks total ≠ 0)
    (fits : min chunks total ≤ total) :
    ExactPartition chunks total request buffer
      ((subRanges total (min chunks total)).map (subGet request buffer)) := by
  obtain ⟨consecutive, together⟩ := @consecutive_rangesFrom total
    (min chunks total) 0 (List.range (min chunks total)) request buffer
  rw [sum_rangeLength total _ nonzero] at together
  obtain ⟨disjoint, covers⟩ := covers_of_consecutive consecutive together
  obtain ⟨inner, last, split, common⟩ := subRanges_eq nonzero fits
  refine ⟨?_, consecutive, disjoint, covers, ?_, ?_, ?_⟩
  · intro sub listed
    obtain ⟨range, member, rfl⟩ := List.mem_map.mp listed
    exact pos_of_mem_rangesFrom member
  · intro sub listed
    obtain ⟨range, _, rfl⟩ := List.mem_map.mp listed
    refine ⟨Nat.le_add_right _ _, ?_⟩
    dsimp only [subGet]
    rw [Nat.add_sub_cancel_left]
  · intro sub listed
    rw [split, List.map_append, List.map_singleton,
      List.dropLast_concat] at listed
    obtain ⟨range, member, rfl⟩ := List.mem_map.mp listed
    change gpuPageSize ∣ range.2
    rw [common range member]
    exact Nat.dvd_mul_left _ _
  · rw [List.length_map]
    exact length_rangesFrom_le.trans (by rw [List.length_range])

/-- Every read that is split into two ranges or more is cut exactly, and no
computation wraps on the way. -/
theorem exactPartition_of_words
    {options : GdsClientOptions}
    {request : GetObjectRequest}
    {total : Nat}
    (buffer : BufferView)
    (length : request.length = some total)
    (positive : 1 ≤ total)
    (word : request.offset + total < wordModulus)
    (several : 2 ≤ options.parallelGetChunks) :
    cutInWords options request buffer =
        some (getObjectParallel options request buffer) ∧
      ExactPartition options.parallelGetChunks total request buffer
        (getObjectParallel options request buffer) := by
  rw [cutInWords, getObjectParallel, length, Option.getD_some]
  by_cases single : min options.parallelGetChunks total ≤ 1
  · rw [if_pos single, if_pos single]
    exact ⟨rfl, exactPartition_single length positive (by omega)⟩
  · have nonzero : min options.parallelGetChunks total ≠ 0 := by omega
    rw [if_neg single, if_neg single]
    exact ⟨cutCount_eq request buffer nonzero word,
      exactPartition_several nonzero (Nat.min_le_right _ _)⟩

private def twoRanges : GetObjectRequest :=
  { bucket := "bucket", key := "object", offset := 1, length := some 8193,
    timeout := 30000 }

/-- Two pages and a byte in two ranges: one page, and what is left. -/
theorem exactPartition_two_ranges :
    cutInWords { parallelGetChunks := 2 } twoRanges
          ⟨4096, 8193, .cudaDevice⟩ =
        some (getObjectParallel { parallelGetChunks := 2 } twoRanges
          ⟨4096, 8193, .cudaDevice⟩) ∧
      ExactPartition 2 8193 twoRanges ⟨4096, 8193, .cudaDevice⟩
        (getObjectParallel { parallelGetChunks := 2 } twoRanges
          ⟨4096, 8193, .cudaDevice⟩) :=
  exactPartition_of_words _ rfl (by decide) (by decide) (by decide)

end Gds
end Client
end TurboAccess
