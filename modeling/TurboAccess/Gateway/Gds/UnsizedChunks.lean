import TurboAccess.Gateway.Backend.ChunkOrder
import TurboAccess.Gateway.Gds.Executor

/-!
# Chunks of an object of no announced size

A session that announces no size leaves the size of the object to the chunks:
each gives the body the length at which it ends, also when the body is longer.
A chunk cuts off what earlier ones wrote beyond its end, and a later chunk that
closes the gap fills it with zeros.

For every content, every partition of it and every order of delivery, the object
is the content afterwards exactly when the last chunk ends it and no chunk with
a byte other than zero is delivered before one that precedes it.
-/

namespace TurboAccess
namespace Gateway

open Tiling

/-- Growing or cutting a vector to the end of a chunk, and overwriting the range
of the chunk, places it with a cut. -/
theorem resize_overwrite_eq_placeCut (bytes : Bytes) (chunk : Chunk) :
    (bytes.resize chunk.finish).overwrite chunk.offset chunk.content =
      placeCut 0 bytes chunk := by
  unfold Bytes.overwrite Bytes.resize placeCut Piece.finish
  rw [List.drop_eq_nil_of_le (by simp; omega), List.append_nil,
    List.take_append, List.take_take, List.take_replicate, List.length_take]
  congr 3
  · omega
  · omega

namespace MemoryDataStore

/-- A body for which there is room gets its size, and the counter the
difference. -/
theorem fitBody_of_room
    {store : MemoryDataStore}
    {id : String}
    {target : Nat}
    (held : (store.body id).length ≤ store.usedBytes)
    (room : store.usedBytes + target ≤
      store.capacityBytes + (store.body id).length)
    (word : store.capacityBytes < wordModulus)
    (usedWord : store.usedBytes < wordModulus) :
    store.fitBody id target =
      (true, { store with
        usedBytes := store.usedBytes + target - (store.body id).length
        bodies := store.bodies.insert id ((store.body id).resize target) }) := by
  unfold fitBody
  dsimp only
  by_cases grows : target > (store.body id).length
  · have taken : store.reserveBytes (target - (store.body id).length) =
        some { store with
          usedBytes := store.usedBytes + target - (store.body id).length } := by
      rw [reserveBytes, if_neg (by omega), addWord_of_lt (by omega)]
      dsimp only
      rw [if_neg (by omega), Nat.add_sub_assoc (by omega)]
    rw [if_pos grows, taken]
    rfl
  · rw [if_neg grows]
    by_cases shrinks : target < (store.body id).length
    · rw [if_pos shrinks, releaseBytes_setBody,
        releaseBytes_eq (by omega) usedWord]
      have difference : store.usedBytes -
          ((store.body id).length - target) =
            store.usedBytes + target - (store.body id).length := by omega
      rw [difference]
      rfl
    · have same : target = (store.body id).length := by omega
      have unchanged : (store.body id).resize target = store.body id := by
        simp [Bytes.resize, same]
      rw [if_neg shrinks, unchanged, same, Nat.add_sub_cancel]
      rfl

/-- A chunk for which there is room is placed into the body, which then ends
with it. -/
theorem writeRange_unsized
    {store : MemoryDataStore}
    {bucket key : String}
    {chunk : Chunk}
    (held : (store.body (makeKey bucket key)).length ≤ store.usedBytes)
    (room : store.usedBytes + chunk.finish ≤
      store.capacityBytes + (store.body (makeKey bucket key)).length)
    (word : store.capacityBytes < wordModulus)
    (usedWord : store.usedBytes < wordModulus) :
    store.writeRange bucket key chunk.offset chunk.content none =
      (.ok true, { store with
        usedBytes := store.usedBytes + chunk.finish -
          (store.body (makeKey bucket key)).length
        bodies := store.bodies.insert (makeKey bucket key)
          (placeCut 0 (store.body (makeKey bucket key)) chunk) }) := by
  have finish : addWord chunk.offset chunk.content.length = chunk.finish := by
    unfold Piece.finish at room ⊢
    exact addWord_of_lt (by omega)
  rw [← resize_overwrite_eq_placeCut]
  unfold writeRange
  dsimp only
  rw [Option.getD_none, Nat.max_self, finish,
    fitBody_of_room held room word usedWord]
  dsimp only
  split
  · next empty => rw [List.isEmpty_iff.mp empty, Bytes.overwrite_nil]
  · simp [setBody, body]

end MemoryDataStore

namespace Gds

/-- A chunk of an object as it is delivered: the chunk, what the cuObject server
answers, and the time. -/
structure Delivery where
  chunk : Chunk
  answers : CuObjAnswers
  now : Nat

/-- The chunk is within the limit of the server, and is transferred whole. -/
def Delivery.Whole (options : GdsOptions) (delivery : Delivery) : Prop :=
  delivery.chunk.content.length ≤ options.maxChunkBytes ∧
    (delivery.chunk.content ≠ [] →
      pullChunk delivery.answers = .ok delivery.chunk.content)

/-- Deliver chunks of the object of a session one after the other. -/
def putChunks
    (options : GdsOptions)
    (session : Session)
    (backend : CompositeBackend)
    (deliveries : List Delivery) : CompositeBackend :=
  deliveries.foldl (fun backend delivery =>
    (putChunk options backend session delivery.chunk.offset
      delivery.chunk.content.length delivery.answers delivery.now).2.1) backend

/-- A chunk that is transferred whole is written to the object. -/
theorem putChunk_of_whole
    {options : GdsOptions}
    {delivery : Delivery}
    (backend : CompositeBackend)
    (session : Session)
    (whole : delivery.Whole options) :
    putChunk options backend session delivery.chunk.offset
        delivery.chunk.content.length delivery.answers delivery.now =
      writeObject backend session delivery.chunk.offset delivery.chunk.content
        delivery.now := by
  obtain ⟨small, pulled⟩ := whole
  rw [putChunk, if_neg (Nat.not_lt.mpr small)]
  by_cases empty : delivery.chunk.content = []
  · rw [empty, List.length_nil, if_pos rfl]
  · rw [if_neg (by simpa using empty), pulled empty]

section Runs

variable {options : GdsOptions} {session : Session}

/-- One chunk through a session that announces no size. -/
theorem putChunk_unsized
    {backend : CompositeBackend}
    {delivery : Delivery}
    (unsized : session.expectedSize = 0)
    (whole : delivery.Whole options)
    (held : (backend.data.body
      (makeKey session.bucket session.objectKey)).length ≤
        backend.data.usedBytes)
    (room : backend.data.usedBytes + delivery.chunk.finish ≤
      backend.data.capacityBytes + (backend.data.body
        (makeKey session.bucket session.objectKey)).length)
    (word : backend.data.capacityBytes < wordModulus)
    (usedWord : backend.data.usedBytes < wordModulus) :
    ∃ next,
      (putChunk options backend session delivery.chunk.offset
          delivery.chunk.content.length delivery.answers delivery.now).2.1 =
        next ∧
      next.data = { backend.data with
        usedBytes := backend.data.usedBytes + delivery.chunk.finish -
          (backend.data.body
            (makeKey session.bucket session.objectKey)).length
        bodies := backend.data.bodies.insert
          (makeKey session.bucket session.objectKey)
          (placeCut 0 (backend.data.body
            (makeKey session.bucket session.objectKey)) delivery.chunk) } ∧
      next.headLength session.bucket session.objectKey =
        .ok delivery.chunk.finish := by
  have finish : addWord delivery.chunk.offset
      delivery.chunk.content.length = delivery.chunk.finish := by
    unfold Piece.finish at room ⊢
    exact addWord_of_lt (by omega)
  have total : totalSize session = none := by
    rw [totalSize, if_neg (by simp [unsized])]
  refine ⟨_, rfl, ?_⟩
  rw [putChunk_of_whole backend session whole, writeObject, total,
    CompositeBackend.writeRange,
    MemoryDataStore.writeRange_unsized held room word usedWord]
  refine ⟨rfl, ?_⟩
  rw [← finish]
  exact CompositeBackend.headLength_putObjectIndex _ _ _

/-- Chunks for which there is room are placed one after the other, each with a
cut, and the index has the end of the last one. -/
theorem putChunks_unsized
    {backend : CompositeBackend}
    {deliveries : List Delivery}
    {last : Delivery}
    {total : Nat}
    (unsized : session.expectedSize = 0)
    (whole : ∀ delivery ∈ deliveries, delivery.Whole options)
    (within : ∀ delivery ∈ deliveries, delivery.chunk.finish ≤ total)
    (held : (backend.data.body
      (makeKey session.bucket session.objectKey)).length ≤
        backend.data.usedBytes)
    (room : backend.data.usedBytes + total ≤
      backend.data.capacityBytes + (backend.data.body
        (makeKey session.bucket session.objectKey)).length)
    (word : backend.data.capacityBytes < wordModulus)
    (usedWord : backend.data.usedBytes < wordModulus)
    (ends : deliveries.getLast? = some last) :
    (putChunks options session backend deliveries).data.bodies.lookup
        (makeKey session.bucket session.objectKey) =
      some (placeCutAll 0 (backend.data.body
        (makeKey session.bucket session.objectKey))
        (deliveries.map Delivery.chunk)) ∧
    (putChunks options session backend deliveries).headLength session.bucket
        session.objectKey = .ok last.chunk.finish := by
  induction deliveries generalizing backend with
  | nil => cases ends
  | cons delivery rest inductionHypothesis =>
      have small := within delivery List.mem_cons_self
      obtain ⟨next, written, data, sized⟩ := putChunk_unsized unsized
        (whole delivery List.mem_cons_self) held (by omega) word usedWord
      have found : next.data.bodies.lookup
          (makeKey session.bucket session.objectKey) =
            some (placeCut 0 (backend.data.body
              (makeKey session.bucket session.objectKey)) delivery.chunk) := by
        rw [data]
        exact Finmap.lookup_insert _
      rw [putChunks, List.foldl_cons, written]
      by_cases ended : rest = []
      · subst ended
        rw [List.getLast?_singleton, Option.some.injEq] at ends
        subst ends
        exact ⟨found, sized⟩
      · have bodyEq : next.data.body
            (makeKey session.bucket session.objectKey) =
              placeCut 0 (backend.data.body
                (makeKey session.bucket session.objectKey))
                delivery.chunk := by
          rw [MemoryDataStore.body, found, Option.getD_some]
        have length := length_placeCut 0 (backend.data.body
          (makeKey session.bucket session.objectKey)) delivery.chunk
        have used : next.data.usedBytes =
            backend.data.usedBytes + delivery.chunk.finish -
              (backend.data.body
                (makeKey session.bucket session.objectKey)).length := by
          rw [data]
        have capacity : next.data.capacityBytes =
            backend.data.capacityBytes := by
          rw [data]
        have placed := @inductionHypothesis next
          (fun other later => whole other (List.mem_cons_of_mem _ later))
          (fun other later => within other (List.mem_cons_of_mem _ later))
          (by rw [bodyEq, length, used]; omega)
          (by rw [bodyEq, length, used, capacity]; omega)
          (by rw [capacity]; exact word)
          (by rw [used]; omega)
          (by rw [← ends, List.getLast?_cons_of_ne_nil ended])
        rw [bodyEq] at placed
        exact placed

end Runs

/-- Chunks of a new object, delivered in any order through a session that
announces no size, leave their content exactly when the last one ends it and no
chunk cuts off a byte other than zero of an earlier one. -/
theorem putChunks_unsized_iff
    {options : GdsOptions}
    {session : Session}
    {backend : CompositeBackend}
    (contents : List Bytes)
    (deliveries : List Delivery)
    (unsized : session.expectedSize = 0)
    (absent : backend.data.bodies.lookup
      (makeKey session.bucket session.objectKey) = none)
    (room : backend.data.usedBytes + contents.flatten.length ≤
      backend.data.capacityBytes)
    (word : backend.data.capacityBytes < wordModulus)
    (whole : ∀ delivery ∈ deliveries, delivery.Whole options)
    (order : (deliveries.map Delivery.chunk).Perm (inARow 0 contents)) :
    ((putChunks options session backend deliveries).data.bodies.lookup
          (makeKey session.bucket session.objectKey) =
        some contents.flatten ∧
      (putChunks options session backend deliveries).headLength session.bucket
          session.objectKey = .ok contents.flatten.length) ↔
    ∃ last,
      deliveries.getLast? = some last ∧
        last.chunk.finish = contents.flatten.length ∧
        (deliveries.map Delivery.chunk).Pairwise (Piece.Spares 0) := by
  cases ends : deliveries.getLast? with
  | none =>
      rw [List.getLast?_eq_none_iff] at ends
      subst ends
      simp [putChunks, absent]
  | some last =>
      have bodyEq : backend.data.body
          (makeKey session.bucket session.objectKey) = [] := by
        rw [MemoryDataStore.body, absent, Option.getD_none]
      have within : ∀ delivery ∈ deliveries,
          delivery.chunk.finish ≤ contents.flatten.length := by
        intro delivery listed
        have inRow := order.mem_iff.mp (List.mem_map_of_mem listed)
        rw [← Nat.zero_add contents.flatten.length]
        exact finish_of_mem_inARow inRow
      obtain ⟨found, sized⟩ := putChunks_unsized unsized whole within
        (by rw [bodyEq]; exact Nat.zero_le _)
        (by rw [bodyEq]; exact room) word (by omega) ends
      have exact := placeCutAll_inARow_iff 0 []
        order (by rw [List.getLast?_map, ends, Option.map_some])
      rw [bodyEq] at found
      rw [found, sized]
      simp only [Option.some.injEq, exists_eq_left', Except.ok.injEq]
      rw [exact]
      constructor
      · exact fun both => both.1
      · exact fun both => ⟨both, both.1⟩

/-- The answers to a transfer that brings the bytes of a client. -/
def CuObjAnswers.bringing (bytes : Bytes) : CuObjAnswers where
  connected := true
  leaseOk := true
  channelOk := true
  transferred := bytes.length
  status := "success"
  pinned := fun index => bytes.getD index 0

theorem view_bringing (bytes : Bytes) :
    (CuObjAnswers.bringing bytes).view = bytes := by
  apply List.ext_getElem
  · simp [CuObjAnswers.view, CuObjAnswers.bringing]
  · intro index below within
    simp [CuObjAnswers.view, CuObjAnswers.bringing,
      List.getElem?_eq_getElem within]

theorem pullChunk_bringing (bytes : Bytes) :
    pullChunk (CuObjAnswers.bringing bytes) = .ok bytes := by
  have positive : ¬(CuObjAnswers.bringing bytes).transferred < 0 :=
    Int.not_lt.mpr (Int.natCast_nonneg bytes.length)
  rw [pullChunk, if_neg positive, view_bringing]
  rfl

/-- The second of two bytes and then the first, to an object of unknown size. -/
def backwards : List Delivery :=
  [⟨⟨1, [2]⟩, .bringing [2], 5⟩, ⟨⟨0, [1]⟩, .bringing [1], 6⟩]

/-- A session for a new object whose size is not announced. -/
def unsizedSession : Session :=
  { (default : Session) with
    bucket := "bucket"
    objectKey := "key"
    op := .put }

theorem whole_backwards :
    ∀ delivery ∈ backwards, delivery.Whole GdsOptions.default := by
  simp [backwards, Delivery.Whole, GdsOptions.default, pullChunk_bringing]

theorem putChunks_unsized_iff_backwards :
    ((putChunks .default unsizedSession (.init 8)
          backwards).data.bodies.lookup (makeKey "bucket" "key") =
        some [1, 2] ∧
      (putChunks .default unsizedSession (.init 8) backwards).headLength
        "bucket" "key" = .ok 2) ↔
    ∃ last,
      backwards.getLast? = some last ∧ last.chunk.finish = 2 ∧
        (backwards.map Delivery.chunk).Pairwise (Piece.Spares 0) :=
  putChunks_unsized_iff [[1], [2]] backwards rfl rfl (by decide) (by decide)
    whole_backwards (.swap _ _ _)

/-- Delivered backwards, the two bytes leave an object of the first one. -/
theorem putChunks_cuts_second_byte :
    (putChunks .default unsizedSession (.init 8)
        backwards).data.bodies.lookup (makeKey "bucket" "key") = some [1] ∧
      (putChunks .default unsizedSession (.init 8) backwards).headLength
        "bucket" "key" = .ok 1 := by
  have within : ∀ delivery ∈ backwards, delivery.chunk.finish ≤ 2 := by decide
  obtain ⟨found, sized⟩ := @putChunks_unsized _ unsizedSession (.init 8) _ _ _
    rfl whole_backwards within (by decide) (by decide) (by decide) (by decide)
    rfl
  exact ⟨found, sized⟩

end Gds

end Gateway
end TurboAccess
