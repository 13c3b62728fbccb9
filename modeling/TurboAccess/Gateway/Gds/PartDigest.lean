import TurboAccess.Gateway.Gds.PartChunks

/-!
# The digest tag of a part

Under the policy `md5` each accepted chunk of a part is fed into one digest, in
the order of arrival, and the tag of the last one is recorded.  The digest of an
upload is never started over, while a chunk that arrives again is placed over
its first copy.

For every layout of accepted chunks of a buffer, the recorded tag is the digest
of the staged bytes, whatever the hash and the bytes, exactly when the chunks
arrive in order and once, and the last one is not empty.
-/

namespace TurboAccess
namespace Gateway
namespace Gds

open Tiling

/-- Whatever the hash and the bytes of the client, the tag recorded of a new
part after the accepted chunks of a layout is the digest of the staged bytes. -/
def TagsStaged (layout : List Range) (total : Nat) : Prop :=
  ∀ (md5 : Bytes → Bytes) (options : GdsOptions) (uploadId : String)
    (partNumber : Nat) (media finish : Media) (upload : UploadPtr)
    (buffer : Bytes) (requests accepted : List PartRequest),
    media.uploads.store.find uploadId = some upload →
    media.staged upload partNumber = [] →
    media.fed upload partNumber = [] →
    buffer.length = total →
    uploadChunks md5 options uploadId partNumber "md5" media requests =
      (accepted, finish) →
    accepted.map PartRequest.range = layout →
    (∀ request ∈ accepted, request.piece = request.range.slice buffer) →
    ∃ progress, finish.recorded upload partNumber = some progress ∧
      progress.etag = md5Hex (md5 (finish.staged upload partNumber))

/-- The chunks of a layout arrive in order and once, none ends past what was
received, and the last one is not empty. -/
structure OnceInOrder (layout : List Range) : Prop where
  inOrder : InOrder 0 layout
  within : ∀ range ∈ layout, range.finish ≤ extent layout
  filled : ∀ last, layout.getLast? = some last → last.length ≠ 0

/-- What the accepted chunks of a buffer have made of a new part. -/
theorem uploaded_slices
    {md5 : Bytes → Bytes}
    {options : GdsOptions}
    {uploadId : String}
    {partNumber : Nat}
    {media finish : Media}
    {upload : UploadPtr}
    {buffer : Bytes}
    {requests accepted : List PartRequest}
    (known : media.uploads.store.find uploadId = some upload)
    (unstaged : media.staged upload partNumber = [])
    (unfed : media.fed upload partNumber = [])
    (word : buffer.length < wordModulus)
    (executed : uploadChunks md5 options uploadId partNumber "md5" media
      requests = (accepted, finish))
    (within : ∀ range ∈ accepted.map PartRequest.range,
      range.finish ≤ buffer.length)
    (slices : ∀ request ∈ accepted,
      request.piece = request.range.slice buffer) :
    finish.staged upload partNumber =
        placeGrowAll 0 [] ((accepted.map PartRequest.range).map fun range =>
          range.slice buffer) ∧
      finish.fed upload partNumber =
        (accepted.map PartRequest.range).flatMap (fun range =>
          (range.slice buffer).content) ∧
      ∀ last, accepted.getLast? = some last →
        ∃ progress, finish.recorded upload partNumber = some progress ∧
          progress.etag = tagOf md5 partNumber "md5" last
            (finish.fed upload partNumber) := by
  have bounded : ∀ request ∈ accepted, request.piece.finish < wordModulus := by
    intro request listed
    have ends := within _ (List.mem_map_of_mem listed)
    rw [slices request listed, Range.finish_slice ends]
    omega
  have uploaded := uploadChunks_uploaded md5 options uploadId partNumber "md5"
    known (by rw [executed]; exact bounded)
  rw [executed] at uploaded
  have pieces : accepted.map PartRequest.piece =
      (accepted.map PartRequest.range).map fun range => range.slice buffer := by
    rw [List.map_map]
    exact List.map_congr_left slices
  refine ⟨?_, ?_, ?_⟩
  · rw [uploaded.staged, unstaged, pieces]
  · rw [uploaded.fed, if_pos rfl, unfed, List.nil_append, List.flatMap_map]
    apply List.flatMap_congr
    intro request listed
    rw [slices request listed]
  · intro last ends
    exact ⟨_, uploaded.recorded last ends, rfl⟩

/-- Chunks that arrive in order and once are tagged with the digest of the
staged bytes. -/
theorem tagsStaged_of_onceInOrder
    {layout : List Range}
    {total : Nat}
    (nonempty : layout ≠ [])
    (word : total < wordModulus)
    (within : ∀ range ∈ layout, range.finish ≤ total)
    (once : OnceInOrder layout) :
    TagsStaged layout total := by
  intro md5 options uploadId partNumber media finish upload buffer requests
    accepted known unstaged unfed length executed laidOut slices
  subst length laidOut
  obtain ⟨staged, fed, recorded⟩ := uploaded_slices known unstaged unfed word
    executed within slices
  obtain ⟨last, ends⟩ := Option.ne_none_iff_exists'.mp
    (mt List.getLast?_eq_none_iff.mp (mt (congrArg _) nonempty))
  obtain ⟨progress, found, tagged⟩ := recorded last ends
  have filled := once.filled last.range
    (by rw [List.getLast?_map, ends, Option.map_some])
  refine ⟨progress, found, ?_⟩
  rw [tagged, tagOf, if_pos ⟨rfl, filled⟩, staged, fed,
    placeGrowAll_of_inOrder 0 within once.inOrder once.within]

/-- A tag made from the clock is longer than that of an empty digest. -/
theorem makePartEtag_ne_md5Hex_nil (partNumber size ticks : Nat) :
    makePartEtag partNumber size ticks ≠ md5Hex [] := by
  intro same
  have lengths := congrArg (fun text => text.toList.length) same
  simp [makePartEtag, md5Hex] at lengths
  omega

/-- After the chunks of such a layout, cut from a buffer, the tag of the last one
is the digest of the staged bytes. -/
theorem TagsStaged.tagOf_eq
    {layout : List Range}
    {buffer : Bytes}
    (tags : TagsStaged layout buffer.length)
    (nonempty : layout ≠ [])
    (word : buffer.length < wordModulus)
    (within : ∀ range ∈ layout, range.finish ≤ buffer.length)
    (md5 : Bytes → Bytes) :
    ∃ last, layout.getLast? = some last ∧
      tagOf md5 1 "md5" (sliceRequest buffer last)
          (layout.flatMap fun range => (range.slice buffer).content) =
        md5Hex (md5 (placeGrowAll 0 []
          (layout.map fun range => range.slice buffer))) := by
  have small : ∀ range ∈ layout,
      range.length ≤ (GdsOptions.mk buffer.length).maxChunkBytes := by
    intro range listed
    exact (Nat.le_add_left _ _).trans (within range listed)
  have executed := uploadChunks_slices md5 ⟨buffer.length⟩ 1 "md5" buffer
    layout word within small
  have laidOut : (layout.map (sliceRequest buffer)).map PartRequest.range =
      layout := by
    rw [List.map_map]
    exact List.map_id layout
  have slices : ∀ request ∈ layout.map (sliceRequest buffer),
      request.piece = request.range.slice buffer := by
    intro request listed
    obtain ⟨range, _, rfl⟩ := List.mem_map.mp listed
    exact piece_sliceRequest buffer range
  obtain ⟨staged, fed, recorded⟩ := uploaded_slices known_freshMedia
    (staged_freshMedia 1) rfl word (Prod.ext executed rfl)
    (by rw [laidOut]; exact within) slices
  obtain ⟨last, ends⟩ := Option.ne_none_iff_exists'.mp
    (mt List.getLast?_eq_none_iff.mp nonempty)
  obtain ⟨progress, found, tagged⟩ := recorded (sliceRequest buffer last)
    (by rw [List.getLast?_map, ends, Option.map_some])
  obtain ⟨claimed, same, digest⟩ := tags md5 ⟨buffer.length⟩ (mpuId 1 0) 1
    freshMedia _ 0 buffer _ _ known_freshMedia (staged_freshMedia 1) rfl rfl
    (Prod.ext executed rfl) laidOut slices
  rw [found, Option.some.injEq] at same
  rw [laidOut] at staged fed
  refine ⟨last, ends, ?_⟩
  rw [← staged, ← fed, ← tagged, same, digest]

/-- A layout after which the tag is always the digest of the staged bytes has
its chunks in order and once. -/
theorem onceInOrder_of_tagsStaged
    {layout : List Range}
    {total : Nat}
    (nonempty : layout ≠ [])
    (word : total < wordModulus)
    (within : ∀ range ∈ layout, range.finish ≤ total)
    (tags : TagsStaged layout total) :
    OnceInOrder layout := by
  have filled : ∀ last, layout.getLast? = some last → last.length ≠ 0 := by
    intro last ends empty
    have length : (List.replicate total (0 : UInt8)).length = total :=
      List.length_replicate
    rw [← length] at word within tags
    obtain ⟨other, same, tagged⟩ :=
      tags.tagOf_eq nonempty word within fun _ => []
    rw [ends, Option.some.injEq] at same
    subst same
    rw [tagOf, if_neg (fun both => both.2 empty)] at tagged
    exact makePartEtag_ne_md5Hex_nil _ _ _ tagged
  have same : ∀ buffer : Bytes, buffer.length = total →
      placeGrowAll 0 [] (layout.map fun range => range.slice buffer) =
        layout.flatMap fun range => (range.slice buffer).content := by
    intro buffer length
    by_contra differ
    subst length
    -- a hash that tells the fed bytes from the staged ones
    obtain ⟨last, ends, tagged⟩ := tags.tagOf_eq nonempty word within
      fun bytes =>
        if bytes = layout.flatMap (fun range => (range.slice buffer).content)
        then [0] else [1]
    rw [tagOf, if_pos ⟨rfl, filled last ends⟩, if_pos rfl, if_neg differ]
      at tagged
    revert tagged
    decide
  obtain ⟨inOrder, ended⟩ := (placeGrowAll_slices_iff 0
    (show (1 : UInt8) ≠ 0 by decide) within).mp same
  exact ⟨inOrder, ended, filled⟩

/-- The tag recorded after the chunks of a layout is the digest of the staged
bytes, whatever the hash and the bytes, exactly when the chunks arrive in order
and once, and the last one is not empty. -/
theorem recorded_md5_iff
    {layout : List Range}
    {total : Nat}
    (nonempty : layout ≠ [])
    (word : total < wordModulus)
    (within : ∀ range ∈ layout, range.finish ≤ total) :
    TagsStaged layout total ↔ OnceInOrder layout :=
  ⟨onceInOrder_of_tagsStaged nonempty word within,
    tagsStaged_of_onceInOrder nonempty word within⟩

theorem recorded_md5_iff_two_chunks :
    TagsStaged [⟨0, 1⟩, ⟨1, 1⟩] 2 ↔ OnceInOrder [⟨0, 1⟩, ⟨1, 1⟩] :=
  recorded_md5_iff (by simp) (by decide) (by decide)

/-- A chunk that is sent again after its answer was lost is hashed twice, and
staged once. -/
theorem retried_chunk_hashed_twice :
    ¬TagsStaged [⟨0, 1⟩, ⟨0, 1⟩] 1 := by
  intro tags
  obtain ⟨again, _⟩ := (onceInOrder_of_tagsStaged (by simp) (by decide)
    (by decide) tags).inOrder.2
  exact absurd (again (by decide)) (by decide)

end Gds
end Gateway
end TurboAccess
