import TurboAccess.Backend.DataPlane
import TurboAccess.Gateway.Checksum

/-!
# Entity tags and corruption

The backend makes an entity tag from a checksum by writing all its digits.  So it
gives different tags to objects that differ only within four consecutive bytes.
-/

namespace TurboAccess
namespace Backend

open Gateway Gateway.Gds

/-- Two byte strings of one length that differ, though only within a window. -/
structure DifferWithin (start width : Nat) (first second : Bytes) : Prop where
  length : first.length = second.length
  different : first ≠ second
  inside : ∀ place, first[place]? ≠ second[place]? →
    start ≤ place ∧ place < start + width

/-- Strings that differ within a window have the same bytes before it and after
it. -/
theorem DifferWithin.split
    {start width : Nat}
    {first second : Bytes}
    (differ : DifferWithin start width first second) :
    first.take start = second.take start ∧
      first.drop (start + width) = second.drop (start + width) := by
  have outside : ∀ place, place < start ∨ start + width ≤ place →
      first[place]? = second[place]? := by
    intro place out
    by_contra unequal
    have bounds := differ.inside place unequal
    omega
  constructor
  · apply List.ext_getElem?
    intro place
    rw [List.getElem?_take, List.getElem?_take]
    by_cases before : place < start
    · rw [if_pos before, if_pos before]
      exact outside place (Or.inl before)
    · rw [if_neg before, if_neg before]
  · apply List.ext_getElem?
    intro place
    rw [List.getElem?_drop, List.getElem?_drop]
    exact outside _ (Or.inr (Nat.le_add_right _ _))

/-- A string as what is before a window, in it and after it. -/
theorem window_eq (data : Bytes) (start width : Nat) :
    data.take start ++ (data.drop start).take width ++
      data.drop (start + width) = data := by
  rw [List.append_assoc, ← List.drop_drop, List.take_append_drop,
    List.take_append_drop]

/-- Strings that differ within four bytes have different checksums. -/
theorem DifferWithin.crc32c_ne
    {start : Nat}
    {first second : Bytes}
    (differ : DifferWithin start 4 first second) :
    crc32c first ≠ crc32c second := by
  obtain ⟨before, after⟩ := differ.split
  rw [← window_eq first start 4, ← window_eq second start 4, before, after]
  apply crc32c_ne_of_burst
  · simp only [List.length_take, List.length_drop, differ.length]
  · exact List.length_take_le 4 _
  · intro same
    apply differ.different
    rw [← window_eq first start 4, before, same, after, window_eq]

/-- Different checksums make different tags. -/
theorem buildEtag_injective : Function.Injective buildEtag := by
  intro first second same
  have digits := congrArg String.toList same
  unfold buildEtag at digits
  rw [String.toList_ofList, String.toList_ofList] at digits
  exact UInt32.toNat_inj.mp (replicate_append_hexDigits_inj digits)

/-- The checksum tells strings apart that differ only within four consecutive
bytes, so the tags of two such objects, answered or reported, are different. -/
theorem crc32c_ne_of_localised
    {start : Nat}
    {first second : Bytes}
    (differ : DifferWithin start 4 first second) :
    crc32c first ≠ crc32c second ∧
      ∀ request answers response report otherRequest otherAnswers
        otherResponse otherReport,
        received request.chunkSize answers = first →
        received otherRequest.chunkSize otherAnswers = second →
        gdsPut request answers = .ok (response, report) →
        gdsPut otherRequest otherAnswers = .ok (otherResponse, otherReport) →
          response.etag ≠ otherResponse.etag ∧
            report.etag ≠ otherReport.etag := by
  refine ⟨differ.crc32c_ne, ?_⟩
  intro request answers response report otherRequest otherAnswers otherResponse
    otherReport firstBytes secondBytes put otherPut
  obtain ⟨-, reported, answered⟩ := gdsPut_eq_ok put
  obtain ⟨-, otherReported, otherAnswered⟩ := gdsPut_eq_ok otherPut
  have apart : report.etag ≠ otherReport.etag := by
    rw [reported, otherReported, firstBytes, secondBytes]
    intro same
    exact differ.crc32c_ne (buildEtag_injective same)
  refine ⟨?_, apart⟩
  rw [answered, otherAnswered]
  exact apart

/-- A chunk of two bytes. -/
def twoByteChunk : GdsChunkRequest where
  sessionId := "pxs-0"
  transferTicket := "tkt-pxs-0"
  bucket := "bucket"
  objectKey := "key"
  checksumPolicy := "required"
  chunkOffset := 0
  chunkSize := 2
  rdmaToken := "token"
  uploadId := ""
  partNumber := 0

/-- A transfer that delivers a byte and then a seven. -/
def byteAndSeven (byte : UInt8) : CuObjAnswers where
  connected := true
  leaseOk := true
  channelOk := true
  transferred := 2
  status := "success"
  pinned := fun place => if place = 0 then byte else 7

/-- The first of two bytes is different. -/
theorem differWithin_two : DifferWithin 0 4 [1, 7] [2, 7] where
  length := rfl
  different := by decide
  inside := by
    intro place unequal
    cases place with
    | zero => omega
    | succ place => exact absurd rfl unequal

/-- The theorem at two puts of two bytes. -/
theorem crc32c_ne_of_localised_two :
    crc32c [1, 7] ≠ crc32c [2, 7] ∧
      buildEtag (crc32c [1, 7]) ≠ buildEtag (crc32c [2, 7]) := by
  obtain ⟨checksums, tags⟩ := crc32c_ne_of_localised differWithin_two
  refine ⟨checksums, ?_⟩
  exact (tags twoByteChunk (byteAndSeven 1) _ _ twoByteChunk (byteAndSeven 2)
    _ _ rfl rfl rfl rfl).1

end Backend
end TurboAccess
