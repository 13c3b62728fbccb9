import TurboAccess.Lib.Tiling
import TurboAccess.Client.Upload.PartDelivery
import TurboAccess.Client.Upload.PartRequests

/-!
# Declared offsets of parts

The application declares for every part where it belongs in the object.  The
declaration is checked by nobody and sent to nobody: the gateway puts the parts
together in the order of their numbers.  So the parts land where they belong,
whatever they contain, exactly when their ranges ascend with their numbers.

In one direction all runs are considered, with any order of the calls and any
number of attempts; in the other one a run is made that uploads the parts one
after the other.
-/

namespace TurboAccess
namespace Client

open Gateway (CoordinatorOptions ObjectMetadata UploadPtr)
open Gateway.Gds (Media stagePart)
open Gateway.Multipart (stagedPart)
open Tiling (Tiles marked)

/-- The parts of an object, numbered from one, with the ranges that the
application declares for them.  The ranges tile the object; none is empty, since
the client refuses empty parts. -/
structure DeclaredParts where
  count : Nat
  offset : Nat → Nat
  length : Nat → Nat
  total : Nat
  positive : 1 ≤ count
  numbered : count < 2 ^ 32
  nonempty : ∀ part ∈ List.range' 1 count, 0 < length part
  tiles : Tiles (List.range' 1 count) offset length total
  bounded : total < wordModulus

namespace DeclaredParts

/-- What the application passes for a part. -/
def spec (declared : DeclaredParts) (part : Nat) : PartSpec where
  partNumber := part
  objectOffset := declared.offset part
  bufferSize := declared.length part

/-- The uploads of the parts. -/
def plan
    (declared : DeclaredParts)
    (uploadId : String)
    (flow : DataFlow)
    (checksumPolicy : Nat → String) : PartsPlan where
  uploadId := uploadId
  flow := flow
  count := declared.count
  size part := (declared.spec part).bufferSize
  checksumPolicy := checksumPolicy
  numbered := declared.numbered

/-- Where the parts with smaller numbers end. -/
def start (declared : DeclaredParts) (part : Nat) : Nat :=
  ((List.range' 1 (part - 1)).map declared.length).sum

/-- The ranges ascend with the numbers of the parts: each begins where the parts
with smaller numbers end. -/
def Ascending (declared : DeclaredParts) : Prop :=
  ∀ part ∈ List.range' 1 declared.count,
    (declared.spec part).objectOffset = declared.start part

instance (declared : DeclaredParts) : Decidable declared.Ascending :=
  inferInstanceAs (Decidable (∀ part ∈ List.range' 1 declared.count,
    (declared.spec part).objectOffset = declared.start part))

/-- The lengths add up to the length of the object. -/
theorem sum_length (declared : DeclaredParts) :
    ((List.range' 1 declared.count).map declared.length).sum =
      declared.total :=
  declared.tiles.sum_length List.nodup_range'

theorem length_le_total
    (declared : DeclaredParts)
    {part : Nat}
    (member : part ∈ List.range' 1 declared.count) :
    declared.length part ≤ declared.total := by
  have within := declared.tiles.within part member
  omega

/-- The buffers of the parts have lengths that are words. -/
theorem short
    (declared : DeclaredParts)
    {content : Nat → Bytes}
    (sized : ∀ part ∈ List.range' 1 declared.count,
      (content part).length = (declared.spec part).bufferSize) :
    ∀ part, 1 ≤ part → part ≤ declared.count →
      (content part).length < wordModulus := by
  intro part above below
  have member : part ∈ List.range' 1 declared.count :=
    List.mem_range'_1.mpr ⟨above, by omega⟩
  rw [sized part member]
  exact (declared.length_le_total member).trans_lt declared.bounded

/-- The length of the parts up to the next one. -/
theorem sum_succ (declared : DeclaredParts) (count : Nat) :
    ((List.range' 1 (count + 1)).map declared.length).sum =
      ((List.range' 1 count).map declared.length).sum +
        declared.length (count + 1) := by
  rw [List.range'_concat, List.map_append, List.sum_append, one_mul,
    Nat.add_comm 1 count, List.map_singleton, List.sum_singleton]

/-- The first parts are not longer than the object. -/
theorem sum_le_total
    (declared : DeclaredParts)
    {count : Nat}
    (below : count ≤ declared.count) :
    ((List.range' 1 count).map declared.length).sum ≤ declared.total := by
  obtain ⟨rest, split⟩ := Nat.exists_eq_add_of_le below
  rw [← declared.sum_length, split, ← List.range'_append, List.map_append,
    List.sum_append]
  exact Nat.le_add_right _ _

/-- The parts before a part, the part, and the parts after it. -/
theorem range'_split
    {count part : Nat}
    (member : part ∈ List.range' 1 count) :
    List.range' 1 count =
      List.range' 1 (part - 1) ++
        part :: List.range' (part + 1) (count - part) := by
  rw [List.mem_range'_1] at member
  have whole : count = (part - 1) + (count - part + 1) := by omega
  have next : 1 + 1 * (part - 1) = part := by omega
  calc List.range' 1 count
      = List.range' 1 ((part - 1) + (count - part + 1)) := by rw [← whole]
    _ = List.range' 1 (part - 1) ++
          List.range' (1 + 1 * (part - 1)) (count - part + 1) :=
        List.range'_append.symm
    _ = List.range' 1 (part - 1) ++
          part :: List.range' (part + 1) (count - part) := by
        rw [next, List.range'_succ]

end DeclaredParts

namespace PartUploads

/-! ## The property -/

/-- A run in which all parts were uploaded, in any order and with any number of
attempts, and the upload was completed. -/
structure Completed (declared : DeclaredParts) where
  md5 : Bytes → Bytes
  policy : RetryPolicy
  uploadId : String
  flow : DataFlow
  checksumPolicy : Nat → String
  content : Nat → Bytes
  sized : ∀ part ∈ List.range' 1 declared.count,
    (content part).length = (declared.spec part).bufferSize
  media : Media
  maxPartSize : Nat
  upload : UploadPtr
  bucket : String
  key : String
  fresh : Fresh media.uploads uploadId upload bucket key
  labels : List Action
  finish : PartUploads
  path : (machine md5 policy (declared.plan uploadId flow checksumPolicy)).Path
    (Delivers content) (init media maxPartSize) labels finish
  succeeded : AllSucceeded (declared.plan uploadId flow checksumPolicy) finish
  parts : List PartRef
  snapshot : finish.handle.snapshotPartsForComplete = .ok parts
  options : CoordinatorOptions
  now : Nat
  metadata : ObjectMetadata
  after : Gateway.State
  completed : finish.media.uploads.completeUpload options
    ⟨uploadId, partRecords parts, Gds.DataFlow.toText flow⟩ now =
      (.ok metadata, after)

variable {declared : DeclaredParts}

/-- The object after the completion. -/
def Completed.object (run : Completed declared) : Bytes :=
  run.after.backend.data.body (Gateway.makeKey run.bucket run.key)

/-- The object has the declared length, and every part is where it was
declared to be. -/
structure Completed.Landed (run : Completed declared) : Prop where
  length : run.object.length = declared.total
  parts : ∀ part ∈ List.range' 1 declared.count,
    (run.object.drop (declared.spec part).objectOffset).take
        (declared.spec part).bufferSize =
      run.content part

/-- Whatever the parts contain, they land where they were declared to be. -/
def LandsAtOffsets (declared : DeclaredParts) : Prop :=
  ∀ run : Completed declared, run.Landed

/-! ## The object -/

/-- The object is the parts in the order of their numbers. -/
theorem Completed.object_eq (run : Completed declared) :
    run.object = (List.range' 1 declared.count).flatMap run.content := by
  obtain ⟨sound, delivered⟩ :=
    delivered_of_path run.fresh (declared.short run.sized) run.path
  exact body_of_completeUpload sound delivered run.succeeded run.snapshot
    run.completed

/-- Some of the parts are as long as was declared. -/
theorem Completed.map_length
    (run : Completed declared)
    {parts : List Nat}
    (listed : ∀ part ∈ parts, part ∈ List.range' 1 declared.count) :
    parts.map (fun part => (run.content part).length) =
      parts.map declared.length := by
  apply List.map_congr_left
  intro part member
  exact run.sized part (listed part member)

/-- When the ranges ascend with the numbers, every part lands where it
belongs. -/
theorem Completed.landed_of_ascending
    (run : Completed declared)
    (ascending : declared.Ascending) :
    run.Landed := by
  constructor
  · rw [run.object_eq, List.length_flatMap, run.map_length fun _ => id,
      declared.sum_length]
  · intro part member
    have split := DeclaredParts.range'_split member
    have before : (List.range' 1 (part - 1)).map
          (fun other => (run.content other).length) =
        (List.range' 1 (part - 1)).map declared.length := by
      apply run.map_length
      intro other listed
      rw [split]
      exact List.mem_append_left _ listed
    rw [run.object_eq, split, ascending part member, DeclaredParts.start,
      ← before, ← run.sized part member]
    exact Tiling.slice_flatMap _ _ part run.content

/-! ## A run for every declaration -/

/-- A gateway that has just opened its first upload. -/
def justOpened (capacityBytes : Nat) : Media where
  uploads := ((Gateway.State.init capacityBytes 0).createUpload ⟨0, 0⟩
    ⟨"b", "k", none, "cpu-direct", ""⟩ 0 0).2
  md5Ctxs := fun _ => ∅

theorem fresh_justOpened (capacityBytes : Nat) :
    Fresh (justOpened capacityBytes).uploads (Gateway.mpuId 1 0) 0 "b"
      "k" where
  located := Table.lookup_emplace_empty _ _
  target := Table.lookup_emplace_empty _ _
  unstaged := fun _ => rfl

/-- The uploads of the parts to that gateway. -/
abbrev uploads (declared : DeclaredParts) : PartsPlan :=
  declared.plan (Gateway.mpuId 1 0) .cpuDirect fun _ => "none"

/-- The same uploads as the gateway sees them. -/
def received (declared : DeclaredParts) (content : Nat → Bytes) :
    Gateway.Multipart.Plan where
  upload := 0
  fresh := (justOpened declared.total).uploads.store.objects 0
  count := declared.count
  piece := content
  writer := id

/-- The first parts have been uploaded, one after the other, to a gateway that
has room for all of them. -/
structure UpTo
    (declared : DeclaredParts)
    (content : Nat → Bytes)
    (count : Nat)
    (state : PartUploads) : Prop where
  limit : state.handle.maxPartSize = 0
  waiting : ∀ part, count < part → state.calls part = .waiting
  taken : ∀ part, 1 ≤ part → part ≤ count →
    ∃ etag, state.calls part = .succeeded 0 etag ∧ etag ≠ "" ∧
      (state.media.uploads.store.objects 0).parts.lookup part =
        some ⟨part, 0, (content part).length, etag⟩
  isOpen : (received declared content).Open state.media.uploads
  unstaged : ∀ part, count < part →
    stagedPart state.media.uploads 0 part = none
  accounts : state.media.uploads.backend.data.Accounts 0
  capacity : state.media.uploads.backend.data.capacityBytes = declared.total
  used : state.media.uploads.backend.data.usedBytes =
    ((List.range' 1 count).map declared.length).sum

theorem upTo_zero (declared : DeclaredParts) (content : Nat → Bytes) :
    UpTo declared content 0 (init (justOpened declared.total) 0) where
  limit := rfl
  waiting := fun _ _ => rfl
  taken := fun part above below => by omega
  isOpen :=
    { known := ⟨Nat.zero_lt_one, rfl, rfl⟩
      dataFlow := rfl
      active := rfl
      registered := (fresh_justOpened declared.total).located
      record := Option.ne_none_iff_exists'.mpr
        ⟨_, Table.lookup_emplace_empty _ _⟩
      target := (fresh_justOpened declared.total).target }
  unstaged := fun _ _ => rfl
  accounts := Gateway.MemoryDataStore.Accounts.init declared.total
  capacity := rfl
  used := rfl

variable
  {content : Nat → Bytes}
  {count : Nat}
  {state : PartUploads}

/-- There is room for the next part: it is staged. -/
theorem UpTo.stagePart_eq_ok
    (upTo : UpTo declared content count state)
    (below : count < declared.count)
    (size : (content (count + 1)).length = declared.length (count + 1)) :
    ∃ etag data call,
      stagePart state.media (state.media.uploads.backendId 0) (count + 1) 0
          (content (count + 1)) 0 =
        (.ok etag, { state.media with
          uploads := state.media.uploads.withData data }, call) ∧
      etag ≠ "" ∧ data.Accounts 0 ∧ data.capacityBytes = declared.total ∧
      data.usedBytes =
        ((List.range' 1 (count + 1)).map declared.length).sum := by
  have sum := declared.sum_succ count
  have fits : ((List.range' 1 (count + 1)).map declared.length).sum ≤
      declared.total := declared.sum_le_total below
  have bounded := declared.bounded
  have used := upTo.used
  have capacity := upTo.capacity
  have room : state.media.uploads.backend.data.usedBytes +
      (content (count + 1)).length ≤
        state.media.uploads.backend.data.capacityBytes := by
    omega
  have unstaged : (state.media.uploads.backend.data.staging
      (state.media.uploads.backendId 0)).part (count + 1) = [] := by
    rw [Gateway.Multipart.part_staging,
      upTo.unstaged (count + 1) (Nat.lt_succ_self count), Option.getD_none]
  obtain ⟨succeeded, usedBytes⟩ :=
    Gateway.MemoryDataStore.writePart_of_room unstaged room (by omega)
  have accounts := @Gateway.MemoryDataStore.Accounts.writePart _ _ (count + 1) 0
    (state.media.uploads.backendId 0) (content (count + 1)) upTo.accounts
    (by omega) (by rw [unstaged, List.length_nil]; omega)
  have kept := state.media.uploads.backend.data.writePart_capacityBytes
    (state.media.uploads.backendId 0) (count + 1) 0 (content (count + 1))
  rcases written : state.media.uploads.backend.data.writePart
    (state.media.uploads.backendId 0) (count + 1) 0 (content (count + 1)) with
    ⟨reply, data⟩
  rw [written] at succeeded usedBytes accounts kept
  obtain rfl : reply = .ok true := succeeded
  refine ⟨Gateway.makePartEtag (count + 1) (content (count + 1)).length 0,
    data, some (.writePart (state.media.uploads.backendId 0) (count + 1) 0
      (content (count + 1))), ?_, Gateway.makePartEtag_ne_empty _ _ _, accounts,
    kept.trans capacity, usedBytes.trans (by omega)⟩
  rw [stagePart, Gateway.CompositeBackend.writePart, written]
  rfl

/-- The next part is recorded, and its call returns. -/
theorem UpTo.succ
    {final : PartUploads}
    {etag : String}
    {data : Gateway.MemoryDataStore}
    (upTo : UpTo declared content count state)
    (limit : final.handle.maxPartSize = state.handle.maxPartSize)
    (others : ∀ part, part ≠ count + 1 → final.calls part = state.calls part)
    (called : final.calls (count + 1) = .succeeded 0 etag)
    (recorded : final.media.uploads =
      (state.media.uploads.withData data).registerPart 0 (count + 1) 0
        (content (count + 1)).length etag 0)
    (kept : ∀ part, part ≠ count + 1 →
      stagedPart (state.media.uploads.withData data) 0 part =
        stagedPart state.media.uploads 0 part)
    (named : etag ≠ "")
    (accounts : data.Accounts 0)
    (capacity : data.capacityBytes = declared.total)
    (used : data.usedBytes =
      ((List.range' 1 (count + 1)).map declared.length).sum) :
    UpTo declared content (count + 1) final where
  limit := limit.trans upTo.limit
  waiting := by
    intro part later
    rw [others part (by omega)]
    exact upTo.waiting part (by omega)
  taken := by
    intro part above below
    rw [recorded, Gateway.Multipart.objects_registerPart]
    dsimp only
    rw [Table.lookup_insert_eq]
    by_cases last : part = count + 1
    · subst last
      exact ⟨etag, called, named, if_pos rfl⟩
    · obtain ⟨other, succeeded, known, present⟩ :=
        upTo.taken part above (by omega)
      rw [others part last, if_neg last]
      exact ⟨other, succeeded, known, present⟩
  isOpen := by
    rw [recorded]
    exact (upTo.isOpen.withData data).registerPart _ _ _ _ _
  unstaged := by
    intro part later
    rw [recorded, Gateway.Multipart.stagedPart_registerPart,
      kept part (by omega)]
    exact upTo.unstaged part (by omega)
  accounts := by
    rw [recorded]
    exact accounts
  capacity := by
    rw [recorded]
    exact capacity
  used := by
    rw [recorded]
    exact used

/-- The next part is uploaded. -/
theorem UpTo.next
    (upTo : UpTo declared content count state)
    (sound : Sound (uploads declared) 0 state)
    (sized : ∀ part ∈ List.range' 1 declared.count,
      (content part).length = (declared.spec part).bufferSize)
    (below : count < declared.count) :
    ∃ labels final,
      (machine id defaultRetryPolicy (uploads declared)).Path
          (Delivers content) state labels final ∧
        UpTo declared content (count + 1) final := by
  have member : count + 1 ∈ List.range' 1 declared.count :=
    List.mem_range'_1.mpr ⟨by omega, by omega⟩
  have size := sized (count + 1) member
  have waiting := upTo.waiting (count + 1) (Nat.lt_succ_self count)
  have unsent : state.attempts (count + 1, 0) = .unsent := by
    apply sound.unmade (count + 1) 0
    rw [waiting]
    trivial
  have passed : state.handle.checkPart ((uploads declared).size (count + 1)) =
      none := by
    have nonempty : 0 < (uploads declared).size (count + 1) :=
      declared.nonempty (count + 1) member
    rw [MultipartUpload.checkPart, if_neg (Nat.ne_of_gt nonempty), upTo.limit,
      sound.unfinished]
    rfl
  obtain ⟨etag, data, call, staged, named, accounts, capacity, used⟩ :=
    upTo.stagePart_eq_ok below size
  have short := declared.short sized (count + 1) (by omega) below
  have covers : ((stagedPart state.media.uploads 0 (count + 1)).getD
      []).length ≤ (content (count + 1)).length := by
    rw [upTo.unstaged (count + 1) (Nat.lt_succ_self count)]
    exact Nat.zero_le _
  obtain ⟨-, -, after⟩ := stagedPart_of_stagePart staged short covers
  have located : state.media.uploads.lookup (uploads declared).uploadId =
      .ok 0 := by
    rw [Gateway.State.lookup, sound.located]
  have plain : ¬(uploads declared).Digests (count + 1) := by
    rintro ⟨⟨⟩, -⟩
  obtain ⟨labels, final, path, handle, calls, media⟩ :=
    part_alone (by omega) below waiting unsent passed located plain staged
  refine ⟨labels, final, path, upTo.succ ?_ ?_ ?_ ?_ ?_ named accounts capacity
    used⟩
  · rw [handle]
    rfl
  · intro part other
    rw [calls, Function.update_of_ne other]
  · rw [calls, Function.update_self]
  · rw [media, size]
    rfl
  · intro part other
    have kept := after part
    rw [if_neg other] at kept
    exact kept

/-- After any number of parts. -/
theorem exists_upTo
    (sized : ∀ part ∈ List.range' 1 declared.count,
      (content part).length = (declared.spec part).bufferSize)
    (below : count ≤ declared.count) :
    ∃ labels state,
      (machine id defaultRetryPolicy (uploads declared)).Path
          (Delivers content) (init (justOpened declared.total) 0) labels state ∧
        UpTo declared content count state := by
  induction count with
  | zero => exact ⟨[], _, .nil, upTo_zero declared content⟩
  | succ count inductionHypothesis =>
      obtain ⟨labels, state, path, upTo⟩ := inductionHypothesis (by omega)
      obtain ⟨sound, -⟩ := delivered_of_path
        (fresh_justOpened declared.total) (declared.short sized) path
      obtain ⟨more, final, further, later⟩ := upTo.next sound sized below
      exact ⟨labels ++ more, final, path.append further, later⟩

/-- For every declaration, and whatever the parts contain, there is a run in
which they are uploaded and the upload is completed. -/
theorem exists_completed
    (sized : ∀ part ∈ List.range' 1 declared.count,
      (content part).length = (declared.spec part).bufferSize) :
    ∃ run : Completed declared, run.content = content := by
  obtain ⟨labels, state, path, upTo⟩ := exists_upTo sized le_rfl
  obtain ⟨sound, delivered⟩ := delivered_of_path
    (fresh_justOpened declared.total) (declared.short sized) path
  have succeeded : AllSucceeded (uploads declared) state := by
    intro part above below
    obtain ⟨etag, taken, -⟩ := upTo.taken part above below
    exact ⟨0, etag, taken⟩
  have known : ∀ part ∈ List.range' 1 declared.count,
      state.takenEtag part ≠ "" ∧
        (state.media.uploads.store.objects 0).parts.lookup part =
          some ⟨part, 0, (content part).length, state.takenEtag part⟩ := by
    intro part member
    rw [List.mem_range'_1] at member
    obtain ⟨etag, taken, named, recorded⟩ :=
      upTo.taken part (by omega) (by omega)
    rw [takenEtag, taken]
    exact ⟨named, recorded⟩
  obtain ⟨backend, store, completed, -⟩ :=
    @Gateway.Multipart.completeUpload_eq_ok ⟨0, 0⟩ state.media.uploads
      (received declared content) 0 (partRecords state.handle.parts)
      state.takenEtag upTo.isOpen upTo.accounts declared.positive
      declared.numbered (stagedPart_of_succeeded sound delivered succeeded)
      known (fun _ _ _ => Nat.zero_le _) (sound.partRecords_perm succeeded) 0
  exact ⟨
    { md5 := id
      policy := defaultRetryPolicy
      uploadId := Gateway.mpuId 1 0
      flow := .cpuDirect
      checksumPolicy := fun _ => "none"
      content
      sized
      media := justOpened declared.total
      maxPartSize := 0
      upload := 0
      bucket := "b"
      key := "k"
      fresh := fresh_justOpened declared.total
      labels
      finish := state
      path
      succeeded
      parts := state.handle.parts
      snapshot := by
        rw [MultipartUpload.snapshotPartsForComplete, sound.unfinished]
        rfl
      options := ⟨0, 0⟩
      now := 0
      metadata := _
      after := ⟨backend, store⟩
      completed }, rfl⟩

/-! ## The theorem -/

/-- When marks in one part land where it belongs, the parts with smaller numbers
end there. -/
theorem ascending_of_landsAtOffsets (lands : LandsAtOffsets declared) :
    declared.Ascending := by
  intro part member
  obtain ⟨run, content⟩ := @exists_completed declared
    (marked declared.length part (1 : UInt8) 0)
    (fun other _ => Tiling.length_marked _ _ _ _ _)
  have split := DeclaredParts.range'_split member
  have distinct : (List.range' 1 declared.count).Nodup := List.nodup_range'
  rw [split, List.nodup_append, List.nodup_cons] at distinct
  obtain ⟨-, ⟨after, -⟩, apart⟩ := distinct
  have before : part ∉ List.range' 1 (part - 1) := by
    intro listed
    exact apart part listed part List.mem_cons_self rfl
  have landed := (lands run).parts part member
  rw [run.object_eq, content, split, List.flatMap_append, List.flatMap_cons,
    Tiling.flatMap_marked_of_notMem _ _ _ before,
    Tiling.flatMap_marked_of_notMem _ _ _ after, marked, if_pos rfl] at landed
  exact Tiling.offset_of_slice (by decide) (declared.nonempty part member)
    landed

/-- Whatever the parts contain, they land where they were declared to be, exactly
when their ranges ascend with their numbers. -/
theorem landsAtOffsets_iff_ascending (declared : DeclaredParts) :
    LandsAtOffsets declared ↔ declared.Ascending :=
  ⟨ascending_of_landsAtOffsets,
    fun ascending run => run.landed_of_ascending ascending⟩

/-! ## Two parts in the wrong order -/

/-- An object of three bytes: its end is the first part, its beginning the
second one. -/
def swapped : DeclaredParts where
  count := 2
  offset part := if part = 1 then 2 else 0
  length part := if part = 1 then 1 else 2
  total := 3
  positive := by decide
  numbered := by decide
  nonempty := by decide
  tiles :=
    { within := by decide
      covered := by
        unfold Tiling.InRange
        decide
      apart := by
        intro first firstListed second secondListed position inFirst inSecond
        unfold Tiling.InRange at inFirst inSecond
        rw [List.mem_range'_1] at firstListed secondListed
        split at inFirst <;> split at inSecond <;> omega }
  bounded := by decide

/-- The gateway puts the end of the object first. -/
theorem not_landed_swapped :
    ∃ run : Completed swapped,
      run.content 1 = [7] ∧ run.content 2 = [8, 9] ∧
        run.object = [7, 8, 9] ∧ ¬run.Landed := by
  obtain ⟨run, content⟩ := @exists_completed swapped
    (fun part => if part = 1 then [7] else [8, 9]) (by decide)
  have object : run.object = [7, 8, 9] := by
    rw [run.object_eq, content]
    rfl
  refine ⟨run, by rw [content]; rfl, by rw [content]; rfl, object, ?_⟩
  intro landed
  have end_first := landed.parts 1 (by decide)
  rw [object, content] at end_first
  revert end_first
  decide

end PartUploads
end Client
end TurboAccess
