import TurboAccess.Lib.Placement
import TurboAccess.Gateway.Backend.FailedOperations

/-!
# Chunks of an object of an announced size

Each chunk of an object is written with the size of the whole object.  The first
one, whichever it is, gives the body its size or is refused; the later ones find
the body settled, or are refused as well.  So the order of chunks that share no
position does not matter.
-/

namespace TurboAccess
namespace Gateway

open Tiling

/-- Bytes of an object and the offset where they belong. -/
abbrev Chunk := Piece UInt8

/-- Overwriting the range of a chunk places it. -/
theorem overwrite_eq_place (bytes : Bytes) (chunk : Chunk) :
    bytes.overwrite chunk.offset chunk.content = place bytes chunk := rfl

namespace MemoryDataStore

/-- A body that has the size already is left alone. -/
theorem fitBody_of_settled
    {store : MemoryDataStore}
    {id : String}
    {body : Bytes}
    {total : Nat}
    (found : store.bodies.lookup id = some body)
    (settled : body.length = total) :
    store.fitBody id total = (true, store) := by
  have bodyEq : store.body id = body := by
    simp [MemoryDataStore.body, found]
  unfold fitBody
  dsimp only
  rw [bodyEq, if_neg (by omega), if_neg (by omega), setBody,
    Table.insert_of_lookup_some found]

/-- The store after a chunk found room: the body has its size, and holds the
chunk. -/
theorem writeRange_of_fits
    {store fitted : MemoryDataStore}
    {bucket key : String}
    {chunk : Chunk}
    {total : Nat}
    (word : total < wordModulus)
    (inside : chunk.Inside total)
    (fit : store.fitBody (makeKey bucket key) total = (true, fitted)) :
    store.writeRange bucket key chunk.offset chunk.content (some total) =
      (.ok true, fitted.setBody (makeKey bucket key)
        (place (fitted.body (makeKey bucket key)) chunk)) := by
  unfold Piece.Inside at inside
  have target : max ((some total).getD
      (addWord chunk.offset chunk.content.length))
      (addWord chunk.offset chunk.content.length) = total := by
    rw [addWord_of_lt (by omega), Option.getD_some]
    omega
  unfold writeRange
  dsimp only
  rw [target, fit]
  dsimp only
  split
  · next empty =>
      have stored := bodies_of_fitBody fit
      rw [← overwrite_eq_place, List.isEmpty_iff.mp empty, Bytes.overwrite_nil,
        setBody, stored, Finmap.insert_insert, ← stored]
  · rfl

/-- The store after a chunk found no room. -/
theorem writeRange_of_not_fits
    {store : MemoryDataStore}
    {bucket key : String}
    {chunk : Chunk}
    {total : Nat}
    (word : total < wordModulus)
    (inside : chunk.Inside total)
    (unfit : ¬store.Fits (makeKey bucket key) total) :
    store.writeRange bucket key chunk.offset chunk.content (some total) =
      (.error capacityExceeded,
        if store.bodies.lookup (makeKey bucket key) = some [] then
          store.dropBody (makeKey bucket key)
        else store) := by
  unfold Piece.Inside at inside
  have target : max ((some total).getD
      (addWord chunk.offset chunk.content.length))
      (addWord chunk.offset chunk.content.length) = total := by
    rw [addWord_of_lt (by omega), Option.getD_some]
    omega
  unfold writeRange
  dsimp only
  rw [target]
  rcases fit : store.fitBody (makeKey bucket key) total with
    ⟨success | success, fitted⟩
  · rw [← fitBody_refused fit]
  · exact absurd (fits_of_fitBody fit) unfit

/-- Where no room was found, none is found afterwards, and nothing changes any
more. -/
theorem refusal_idempotent
    {store refused : MemoryDataStore}
    {id : String}
    (refusedEq : refused =
      if store.bodies.lookup id = some [] then store.dropBody id else store)
    {total : Nat}
    (unfit : ¬store.Fits id total) :
    ¬refused.Fits id total ∧
      (if refused.bodies.lookup id = some [] then refused.dropBody id
        else refused) = refused := by
  by_cases found : store.bodies.lookup id = some []
  · rw [if_pos found] at refusedEq
    subst refusedEq
    have dropped : (store.dropBody id).bodies.lookup id = none :=
      Finmap.lookup_erase id store.bodies
    have sameLength : (store.dropBody id).body id = store.body id := by
      rw [body, body, dropped, found]
      rfl
    constructor
    · unfold Fits at unfit ⊢
      rw [sameLength]
      exact unfit
    · rw [dropped, if_neg (by simp)]
  · rw [if_neg found] at refusedEq
    subst refusedEq
    exact ⟨unfit, if_neg found⟩

end MemoryDataStore

namespace CompositeBackend

/-- Write chunks of an object of an announced size, each at its own time; the
chunks with whether they were stored. -/
def writeChunks
    (bucket key : String)
    (totalSize : Nat) :
    (backend : CompositeBackend) → (chunks : List (Chunk × Nat)) →
      List (Chunk × Bool) × CompositeBackend
  | backend, [] => ([], backend)
  | backend, (chunk, now) :: rest =>
      let (result, next) := backend.writeRange bucket key chunk.offset
        chunk.content (some totalSize) now
      let (outcomes, finish) := writeChunks bucket key totalSize next rest
      ((chunk, result.success) :: outcomes, finish)

/-- The size that the index has of an object. -/
def headLength (backend : CompositeBackend) (bucket key : String) :
    Result Nat :=
  (backend.head bucket key).map ObjectMetadata.contentLength

section Runs

variable {bucket key : String} {totalSize : Nat}

theorem headLength_putObjectIndex
    (backend : CompositeBackend)
    (data : MemoryDataStore)
    (metadata : ObjectMetadata) :
    ({ backend with
        data
        index := backend.index.putObjectIndex bucket key metadata }
      : CompositeBackend).headLength bucket key =
      .ok metadata.contentLength := by
  simp [headLength, head, MemoryIndexStore.head,
    MemoryIndexStore.putObjectIndex, Except.map]

/-- One chunk of an object for which there is room. -/
theorem writeRange_of_fits
    {backend : CompositeBackend}
    {fitted : MemoryDataStore}
    {chunk : Chunk}
    (now : Nat)
    (word : totalSize < wordModulus)
    (inside : chunk.Inside totalSize)
    (fit : backend.data.fitBody (makeKey bucket key) totalSize =
      (true, fitted)) :
    ∃ next,
      backend.writeRange bucket key chunk.offset chunk.content
          (some totalSize) now = (.ok (makeMeta totalSize now), next) ∧
        next.data = fitted.setBody (makeKey bucket key)
          (place (fitted.body (makeKey bucket key)) chunk) ∧
        next.headLength bucket key = .ok totalSize := by
  rw [writeRange, MemoryDataStore.writeRange_of_fits word inside fit]
  refine ⟨_, rfl, rfl, ?_⟩
  exact headLength_putObjectIndex _ _ _

/-- Chunks of an object for which there is room: the first one gives the body
its size, and all are stored where they belong. -/
theorem writeChunks_of_fits
    {backend : CompositeBackend}
    {fitted : MemoryDataStore}
    {chunks : List (Chunk × Nat)}
    (word : totalSize < wordModulus)
    (inside : ∀ chunk ∈ chunks.map Prod.fst, chunk.Inside totalSize)
    (nonempty : chunks ≠ [])
    (fit : backend.data.fitBody (makeKey bucket key) totalSize =
      (true, fitted)) :
    (writeChunks bucket key totalSize backend chunks).1 =
        chunks.map (fun timed => (timed.1, true)) ∧
      (writeChunks bucket key totalSize backend chunks).2.data =
        fitted.setBody (makeKey bucket key)
          (placeAll (fitted.body (makeKey bucket key))
            (chunks.map Prod.fst)) ∧
      (writeChunks bucket key totalSize backend chunks).2.headLength bucket
        key = .ok totalSize := by
  induction chunks generalizing backend fitted with
  | nil => exact absurd rfl nonempty
  | cons timed rest inductionHypothesis =>
      obtain ⟨chunk, now⟩ := timed
      have settled := MemoryDataStore.length_body_fitBody fit
      have chunkInside := inside chunk List.mem_cons_self
      obtain ⟨next, written, data, nextSized⟩ := writeRange_of_fits now word
        chunkInside fit
      unfold writeChunks
      simp only [written]
      by_cases last : rest = []
      · subst last
        exact ⟨rfl, data, nextSized⟩
      · -- the body has its size now, and the next chunk leaves it alone
        have found : next.data.bodies.lookup (makeKey bucket key) =
            some (place (fitted.body (makeKey bucket key)) chunk) := by
          rw [data]
          exact Finmap.lookup_insert _
        have length :
            (place (fitted.body (makeKey bucket key)) chunk).length =
              totalSize := by
          rw [length_place (by rw [settled]; exact chunkInside), settled]
        have bodyEq : next.data.body (makeKey bucket key) =
            place (fitted.body (makeKey bucket key)) chunk := by
          rw [MemoryDataStore.body, found, Option.getD_some]
        obtain ⟨outcomes, finish, finishSized⟩ := inductionHypothesis
          (fun other later => inside other (List.mem_cons_of_mem _ later))
          last (MemoryDataStore.fitBody_of_settled found length)
        refine ⟨?_, ?_, finishSized⟩
        · rw [outcomes]
          rfl
        · rw [finish, bodyEq, data, MemoryDataStore.setBody,
            MemoryDataStore.setBody, MemoryDataStore.setBody,
            Finmap.insert_insert]
          rfl

/-- Chunks of an object for which there is no room are all refused; an empty
object is dropped by the first one. -/
theorem writeChunks_of_not_fits
    {backend : CompositeBackend}
    {refused : MemoryDataStore}
    {chunks : List (Chunk × Nat)}
    (word : totalSize < wordModulus)
    (inside : ∀ chunk ∈ chunks.map Prod.fst, chunk.Inside totalSize)
    (nonempty : chunks ≠ [])
    (unfit : ¬backend.data.Fits (makeKey bucket key) totalSize)
    (refusedEq : refused =
      if backend.data.bodies.lookup (makeKey bucket key) = some [] then
        backend.data.dropBody (makeKey bucket key)
      else backend.data) :
    (writeChunks bucket key totalSize backend chunks).1 =
        chunks.map (fun timed => (timed.1, false)) ∧
      (writeChunks bucket key totalSize backend chunks).2 =
        { backend with data := refused } := by
  induction chunks generalizing backend with
  | nil => exact absurd rfl nonempty
  | cons timed rest inductionHypothesis =>
      obtain ⟨chunk, now⟩ := timed
      have answer : backend.writeRange bucket key chunk.offset chunk.content
          (some totalSize) now =
            (.error MemoryDataStore.capacityExceeded,
              { backend with data := refused }) := by
        rw [writeRange, MemoryDataStore.writeRange_of_not_fits word
          (inside chunk List.mem_cons_self) unfit, refusedEq]
      obtain ⟨refusedUnfit, kept⟩ :=
        MemoryDataStore.refusal_idempotent refusedEq unfit
      unfold writeChunks
      simp only [answer]
      by_cases last : rest = []
      · subst last
        exact ⟨rfl, rfl⟩
      · obtain ⟨outcomes, finish⟩ := @inductionHypothesis
          { backend with data := refused }
          (fun other later => inside other (List.mem_cons_of_mem _ later))
          last refusedUnfit kept.symm
        rw [outcomes, finish]
        exact ⟨rfl, rfl⟩

end Runs

/-- Chunks that share no position are stored or refused in any order alike, and
leave the same data store and the same size in the index.  Once a chunk is
stored, chunks that cover the object leave exactly what they are made of. -/
theorem writeChunks_order
    (backend : CompositeBackend)
    (bucket key : String)
    {totalSize : Nat}
    (first second : List (Chunk × Nat))
    (word : totalSize < wordModulus)
    (inside : ∀ chunk ∈ first.map Prod.fst, chunk.Inside totalSize)
    (apart : (first.map Prod.fst).Pairwise Piece.Apart)
    (reordered : (first.map Prod.fst).Perm (second.map Prod.fst)) :
    (writeChunks bucket key totalSize backend first).1.Perm
        (writeChunks bucket key totalSize backend second).1 ∧
      (writeChunks bucket key totalSize backend first).2.data =
        (writeChunks bucket key totalSize backend second).2.data ∧
      (writeChunks bucket key totalSize backend first).2.headLength bucket
          key =
        (writeChunks bucket key totalSize backend second).2.headLength bucket
          key ∧
      ((∃ outcome ∈ (writeChunks bucket key totalSize backend first).1,
          outcome.2 = true) →
        (∀ position < totalSize,
          ∃ chunk ∈ first.map Prod.fst, chunk.Covers position) →
        ∀ content,
          (writeChunks bucket key totalSize backend first).2.data.bodies.lookup
              (makeKey bucket key) = some content ↔
            MadeOf (first.map Prod.fst) totalSize content) := by
  have secondInside : ∀ chunk ∈ second.map Prod.fst, chunk.Inside totalSize :=
    fun chunk listed => inside chunk (reordered.mem_iff.mpr listed)
  have outcomesPerm : ∀ stored : Bool,
      (first.map fun timed => (timed.1, stored)).Perm
        (second.map fun timed => (timed.1, stored)) := by
    intro stored
    have mapped := reordered.map fun chunk => (chunk, stored)
    rw [List.map_map, List.map_map] at mapped
    exact mapped
  by_cases none : first = []
  · subst none
    have secondNone : second = [] := by simpa using reordered
    subst secondNone
    refine ⟨.refl _, rfl, rfl, ?_⟩
    rintro ⟨outcome, listed, _⟩
    cases listed
  · have secondSome : second ≠ [] := by
      intro empty
      subst empty
      exact none (by simpa using reordered)
    rcases fit : backend.data.fitBody (makeKey bucket key) totalSize with
      ⟨success | success, fitted⟩
    · have unfit := MemoryDataStore.not_fits_of_fitBody fit
      obtain ⟨firstOutcomes, firstFinish⟩ :=
        writeChunks_of_not_fits word inside none unfit rfl
      obtain ⟨secondOutcomes, secondFinish⟩ :=
        writeChunks_of_not_fits word secondInside secondSome unfit rfl
      rw [firstOutcomes, secondOutcomes, firstFinish, secondFinish]
      refine ⟨outcomesPerm false, rfl, rfl, ?_⟩
      rintro ⟨outcome, listed, stored⟩
      obtain ⟨timed, -, rfl⟩ := List.mem_map.mp listed
      cases stored
    · obtain ⟨firstOutcomes, firstData, firstSized⟩ :=
        writeChunks_of_fits word inside none fit
      obtain ⟨secondOutcomes, secondData, secondSized⟩ :=
        writeChunks_of_fits word secondInside secondSome fit
      have settled := MemoryDataStore.length_body_fitBody fit
      rw [← settled] at inside
      rw [firstOutcomes, secondOutcomes, firstData, secondData, firstSized,
        secondSized, placeAll_perm inside apart reordered]
      refine ⟨outcomesPerm true, rfl, rfl, ?_⟩
      intro _ covered content
      rw [← settled] at covered ⊢
      rw [← placeAll_eq_iff inside apart covered,
        placeAll_perm inside apart reordered]
      apply Iff.trans (Eq.congr_left (Finmap.lookup_insert _))
      exact Option.some_inj

theorem writeChunks_order_two_chunks :
    (writeChunks "bucket" "key" 3 (init 8)
        [(⟨1, [2, 3]⟩, 5), (⟨0, [1]⟩, 6)]).2.data =
      (writeChunks "bucket" "key" 3 (init 8)
        [(⟨0, [1]⟩, 5), (⟨1, [2, 3]⟩, 6)]).2.data :=
  (writeChunks_order (init 8) "bucket" "key"
    [(⟨1, [2, 3]⟩, 5), (⟨0, [1]⟩, 6)] [(⟨0, [1]⟩, 5), (⟨1, [2, 3]⟩, 6)]
    (by decide)
    (by simp [Piece.Inside])
    (by
      simp only [List.map_cons, List.map_nil, List.pairwise_cons,
        List.mem_singleton, forall_eq, List.not_mem_nil, false_implies,
        implies_true, List.Pairwise.nil, and_true]
      rintro position ⟨⟨starts, _⟩, _, ends⟩
      simp only [List.length_singleton] at starts ends
      omega)
    (.swap _ _ _)).2.1

end CompositeBackend

end Gateway
end TurboAccess
