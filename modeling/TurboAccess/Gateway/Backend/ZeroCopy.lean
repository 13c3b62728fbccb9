import TurboAccess.Gateway.Backend.Agreement
import TurboAccess.Gateway.Backend.StagedParts

/-!
# Zero-copy writes

A zero-copy buffer is a list of blocks.  Writing an object from one reserves the
whole size and then writes block by block; writing a part does without the
reservation.  The plain writes take the concatenation of the blocks at once.

For an object the two ways are the same.  For a part they are the same when
everything fits; the block loop does nothing for a buffer without blocks, and
leaves the blocks before the first one that is refused.
-/

namespace TurboAccess
namespace Gateway

open Tiling

/-- A zero-copy buffer: its blocks, of which some may be empty.  Its size is a
word. -/
structure IOBuf where
  blocks : List Bytes
  sized : blocks.flatten.length < wordModulus

/-- The bytes of a zero-copy buffer, copied into one string. -/
def IOBuf.payload (buffer : IOBuf) : Bytes := buffer.blocks.flatten

namespace CompositeBackend

/-! ## Objects -/

/-- Storing an object from a zero-copy buffer is storing the concatenation of its
blocks, whatever the clock reads. -/
theorem writeBlocks_eq_write
    (backend : CompositeBackend)
    (bucket key : String)
    (source : IOBuf) :
    backend.writeBlocks bucket key source.blocks =
      backend.write bucket key source.payload := by
  funext now
  have inWord := source.sized
  unfold writeBlocks write writeRange MemoryDataStore.reserve
    MemoryDataStore.writeRange IOBuf.payload writtenSize
  simp only [addWord_of_lt (show 0 + source.blocks.flatten.length <
    wordModulus by omega), Option.getD_some, Nat.zero_add, max_self]
  rcases fit : backend.data.fitBody (makeKey bucket key)
      source.blocks.flatten.length with ⟨granted | granted, fitted⟩
  · rfl
  · have length := MemoryDataStore.length_body_fitBody fit
    have stored : fitted.bodies.lookup (makeKey bucket key) =
        some (fitted.body (makeKey bucket key)) := by
      rw [MemoryDataStore.bodies_of_fitBody fit, Finmap.lookup_insert]
    have loop := writeEach_inside 0 source.blocks stored (by omega) (by omega)
    rw [length] at loop
    dsimp only
    rw [loop, copied_eq stored]

end CompositeBackend

/-! ## Parts -/

namespace MemoryDataStore

/-- A counter after some growth was added, if there was any. -/
def raised (used growth : Nat) : Nat :=
  if growth = 0 then used else addWord used growth

/-- Growing in two steps is growing in one. -/
theorem raised_raised (used first second : Nat) :
    raised (raised used first) second = raised used (first + second) := by
  by_cases unmoved : first = 0
  · simp [raised, unmoved]
  · by_cases last : second = 0
    · simp [raised, last]
    · rw [raised, if_neg last, raised, if_neg unmoved, raised,
        if_neg (by omega), addWord, addWord, addWord, Nat.mod_add_mod,
        Nat.add_assoc]

/-- The store with a part that exists. -/
def createPart
    (store : MemoryDataStore)
    (uploadId : String)
    (partNumber : Nat) : MemoryDataStore :=
  store.setStaging uploadId { store.staging uploadId with
    parts := (store.staging uploadId).parts.insert partNumber
      ((store.staging uploadId).part partNumber) }

/-- The store with bytes placed into a part, which grows to hold them. -/
def placePart
    (store : MemoryDataStore)
    (uploadId : String)
    (partNumber offset : Nat)
    (source : Bytes) : MemoryDataStore :=
  let staging := store.staging uploadId
  let part := staging.part partNumber
  let growth := offset + source.length - part.length
  { store with
    usedBytes := raised store.usedBytes growth
    mpu := store.mpu.insert uploadId
      { parts := staging.parts.insert partNumber
          (placeGrow 0 part ⟨offset, source⟩)
        reservedBytes := raised staging.reservedBytes growth } }

section Parts

variable {store : MemoryDataStore} {uploadId : String}
variable {partNumber offset : Nat}

@[simp] theorem part_placePart (source : Bytes) :
    ((store.placePart uploadId partNumber offset source).staging
        uploadId).part partNumber =
      placeGrow 0 ((store.staging uploadId).part partNumber)
        ⟨offset, source⟩ := by
  simp [placePart, staging, MpuParts.part]

/-- Bytes placed side by side are placed as one. -/
theorem placePart_append (first second : Bytes) :
    (store.placePart uploadId partNumber offset first).placePart uploadId
        partNumber (offset + first.length) second =
      store.placePart uploadId partNumber offset (first ++ second) := by
  have length := length_placeGrow 0
    ((store.staging uploadId).part partNumber) ⟨offset, first⟩
  have joined := placeGrow_append 0
    ((store.staging uploadId).part partNumber) offset first second
  have growth : (offset + first.length -
        ((store.staging uploadId).part partNumber).length) +
      (offset + first.length + second.length -
        max ((store.staging uploadId).part partNumber).length
          (offset + first.length)) =
      offset + (first ++ second).length -
        ((store.staging uploadId).part partNumber).length := by
    rw [List.length_append]
    omega
  unfold Piece.finish at length
  dsimp only at length
  rw [placePart, part_placePart, length, joined]
  simp only [placePart, staging, Finmap.lookup_insert, Option.getD_some,
    raised_raised, Finmap.insert_insert]
  unfold staging at growth
  rw [growth]

/-- A part write that is granted places its bytes. -/
theorem writePart_eq_placePart
    {source : Bytes}
    (fits : Gds.PartFits store uploadId partNumber offset source)
    (bounded : offset + source.length < wordModulus) :
    store.writePart uploadId partNumber offset source =
      (.ok true, store.placePart uploadId partNumber offset source) := by
  unfold Gds.PartFits at fits
  rw [addWord_of_lt bounded] at fits
  unfold writePart
  rw [addWord_of_lt bounded]
  dsimp only
  split
  · next grows =>
      have granted : store.reserveBytes (offset + source.length -
          ((store.staging uploadId).part partNumber).length) =
            some { store with
              usedBytes := addWord store.usedBytes
                (offset + source.length -
                  ((store.staging uploadId).part partNumber).length) } := by
        rw [reserveBytes, if_neg (by omega)]
        dsimp only
        rw [if_neg (by omega)]
      have placed : (((store.staging uploadId).part partNumber).resize
            (offset + source.length)).overwrite offset source =
          placeGrow 0 ((store.staging uploadId).part partNumber)
            ⟨offset, source⟩ := by
        rw [Bytes.resize, List.take_of_length_le (by omega)]
        rfl
      rw [granted, placePart, raised, raised, if_neg (by omega),
        if_neg (by omega), placed]
      rfl
  · next within =>
      have placed : ((store.staging uploadId).part partNumber).overwrite
            offset source =
          placeGrow 0 ((store.staging uploadId).part partNumber)
            ⟨offset, source⟩ := by
        rw [placeGrow, Piece.finish, Nat.sub_eq_zero_of_le
          (show offset + source.length ≤ _ by omega), List.replicate_zero,
          List.append_nil]
        rfl
      rw [placePart, raised, raised, if_pos (by omega), if_pos (by omega),
        placed]
      rfl

/-- A part write that is not granted creates the part. -/
theorem writePart_eq_createPart
    {source : Bytes}
    (unfit : ¬Gds.PartFits store uploadId partNumber offset source) :
    store.writePart uploadId partNumber offset source =
      (.error capacityExceeded, store.createPart uploadId partNumber) := by
  rcases written : store.writePart uploadId partNumber offset source with
    ⟨error | reply, next⟩
  · rw [writePart_refused_eq written, error_of_writePart
      (congrArg Prod.fst written)]
    rfl
  · exact absurd ((Gds.writePart_ok_iff _ _ _ _ _).mp ⟨reply, next, written⟩)
      unfit

/-- After a granted write, the bytes next to it fit exactly when both fit
together. -/
theorem partFits_placePart
    {first second : Bytes}
    (fits : Gds.PartFits store uploadId partNumber offset first)
    (bounded : offset + first.length ≤
        ((store.staging uploadId).part partNumber).length ∨
      offset + first.length + second.length < wordModulus) :
    Gds.PartFits (store.placePart uploadId partNumber offset first) uploadId
        partNumber (offset + first.length) second ↔
      Gds.PartFits store uploadId partNumber offset (first ++ second) := by
  have length := length_placeGrow 0
    ((store.staging uploadId).part partNumber) ⟨offset, first⟩
  have finish : addWord (offset + first.length) second.length =
      addWord offset (first ++ second).length := by
    rw [addWord, addWord, List.length_append, Nat.add_assoc]
  unfold Piece.finish at length
  dsimp only at length
  unfold Gds.PartFits at fits ⊢
  rw [part_placePart, length, finish]
  dsimp only [placePart]
  rcases bounded with inside | bounded
  · rw [Nat.max_eq_left inside, Nat.sub_eq_zero_of_le inside, raised,
      if_pos rfl]
  · rw [addWord_of_lt (by omega)] at fits
    rw [List.length_append, addWord_of_lt (by omega)]
    by_cases inside : offset + first.length ≤
        ((store.staging uploadId).part partNumber).length
    · rw [Nat.max_eq_left inside, Nat.sub_eq_zero_of_le inside, raised,
        if_pos rfl]
    · rw [Nat.max_eq_right (by omega), raised, if_neg (by omega)]
      have fitted := fits.resolve_left inside
      by_cases empty : second.length = 0
      · rw [empty, Nat.add_zero, Nat.sub_self]
        exact iff_of_true (.inl le_rfl) (.inr fitted)
      · have joined : addWord (addWord store.usedBytes
              (offset + first.length -
                ((store.staging uploadId).part partNumber).length))
            (offset + (first.length + second.length) -
              (offset + first.length)) =
            addWord store.usedBytes
              (offset + (first.length + second.length) -
                ((store.staging uploadId).part partNumber).length) := by
          rw [addWord, addWord, addWord, Nat.mod_add_mod]
          congr 1
          omega
        rw [joined, or_iff_right (by omega), or_iff_right (by omega)]

/-- Placing bytes that the part holds already creates the part. -/
theorem placePart_held
    {source : Bytes}
    (held : placeGrow 0 ((store.staging uploadId).part partNumber)
      ⟨offset, source⟩ = (store.staging uploadId).part partNumber) :
    store.placePart uploadId partNumber offset source =
      store.createPart uploadId partNumber := by
  have inside : offset + source.length ≤
      ((store.staging uploadId).part partNumber).length :=
    ((placeGrow_eq_self_iff _ _ _).mp held).1
  rw [placePart, held, Nat.sub_eq_zero_of_le inside, raised, raised,
    if_pos rfl, if_pos rfl]
  rfl

@[simp] theorem createPart_createPart :
    (store.createPart uploadId partNumber).createPart uploadId partNumber =
      store.createPart uploadId partNumber := by
  simp [createPart, setStaging, staging, MpuParts.part]

@[simp] theorem part_createPart :
    ((store.createPart uploadId partNumber).staging uploadId).part
        partNumber =
      (store.staging uploadId).part partNumber := by
  simp [createPart, setStaging, staging, MpuParts.part]

/-- A part never shrinks. -/
theorem length_part_writePart
    (store : MemoryDataStore)
    (uploadId : String)
    (partNumber offset : Nat)
    (source : Bytes) :
    ((store.staging uploadId).part partNumber).length ≤
      (((store.writePart uploadId partNumber offset source).2.staging
        uploadId).part partNumber).length := by
  by_cases fits : Gds.PartFits store uploadId partNumber offset source
  · rcases store.writePart_buffer_cases uploadId partNumber offset source with
      ⟨refused, _⟩ | ⟨buffer, reached, _, placed⟩
    · obtain ⟨buffer, reached⟩ := partBuffer_of_fits fits
      rw [refused] at reached
      cases reached
    · have length := (partBuffer_eq_some reached).2
      rw [placed, Bytes.overwrite]
      simp only [List.length_append, List.length_take, List.length_drop]
      omega
  · rw [writePart_eq_createPart fits, part_createPart]

/-- A granted write that leaves the length of the part is inside it. -/
theorem inside_of_length_writePart
    {source : Bytes}
    (fits : Gds.PartFits store uploadId partNumber offset source)
    (offsetInWord : offset < wordModulus)
    (kept : (((store.writePart uploadId partNumber offset source).2.staging
        uploadId).part partNumber).length ≤
      ((store.staging uploadId).part partNumber).length) :
    offset + source.length ≤
      ((store.staging uploadId).part partNumber).length := by
  rcases store.writePart_buffer_cases uploadId partNumber offset source with
    ⟨refused, _⟩ | ⟨buffer, reached, _, placed⟩
  · obtain ⟨buffer, reached⟩ := partBuffer_of_fits fits
    rw [refused] at reached
    cases reached
  · have length := (partBuffer_eq_some reached).2
    rw [placed, Bytes.overwrite] at kept
    simp only [List.length_append, List.length_take, List.length_drop] at kept
    by_cases empty : source.length = 0
    · rw [empty, addWord_of_lt (by omega)] at length
      omega
    · omega

end Parts

end MemoryDataStore

namespace CompositeBackend

open MemoryDataStore

/-- What holds of every prefix holds of the empty one, and of all that begin with
the first element. -/
private theorem forall_prefix_cons
    {α : Type}
    {holds : List α → Prop}
    {first : α}
    {rest : List α} :
    (∀ before, before <+: first :: rest → holds before) ↔
      holds [] ∧ ∀ tail, tail <+: rest → holds (first :: tail) := by
  constructor
  · intro all
    refine ⟨all [] List.nil_prefix, ?_⟩
    intro tail isTail
    exact all (first :: tail) (List.prefix_cons_iff.mpr
      (.inr ⟨tail, rfl, isTail⟩))
  · rintro ⟨start, later⟩ before isPrefix
    rcases List.prefix_cons_iff.mp isPrefix with rfl | ⟨tail, rfl, isTail⟩
    · exact start
    · exact later tail isTail

section Loop

variable {store : MemoryDataStore} {uploadId : String}
variable {partNumber offset : Nat}

/-- The block loop behind bytes that were placed succeeds exactly when they fit
together with the blocks up to any point, and places all blocks. -/
theorem writePartEach_placePart_iff
    {done : Bytes}
    (blocks : List Bytes)
    {after : MemoryDataStore}
    (fits : Gds.PartFits store uploadId partNumber offset done)
    (bounded : offset + done.length + blocks.flatten.length < wordModulus) :
    writePartEach uploadId partNumber
        (store.placePart uploadId partNumber offset done)
        (offset + done.length) blocks = (.ok (), after) ↔
      (∀ before, before <+: blocks →
        Gds.PartFits store uploadId partNumber offset
          (done ++ before.flatten)) ∧
        after = store.placePart uploadId partNumber offset
          (done ++ blocks.flatten) := by
  induction blocks generalizing done with
  | nil =>
      simp only [writePartEach, List.prefix_nil, forall_eq, List.flatten_nil,
        List.append_nil, fits, true_and, Prod.mk.injEq]
      exact eq_comm
  | cons block blocks inductionHypothesis =>
      rw [List.flatten_cons, List.length_append] at bounded
      have next : Gds.PartFits (store.placePart uploadId partNumber offset
            done) uploadId partNumber (offset + done.length) block ↔
          Gds.PartFits store uploadId partNumber offset (done ++ block) :=
        partFits_placePart fits (.inr (by omega))
      rw [writePartEach]
      by_cases granted : Gds.PartFits store uploadId partNumber offset
          (done ++ block)
      · have rest := inductionHypothesis granted
          (by rw [List.length_append]; omega)
        rw [writePart_eq_placePart (next.mpr granted) (by omega),
          addWord_of_lt (by omega), placePart_append]
        dsimp only
        rw [Nat.add_assoc, ← List.length_append, rest, List.flatten_cons,
          ← List.append_assoc]
        rw [forall_prefix_cons]
        simp only [List.flatten_nil, List.append_nil, fits, true_and,
          List.flatten_cons, List.append_assoc]
      · rw [writePart_eq_createPart fun fits => granted (next.mp fits)]
        simp only [Prod.mk.injEq, reduceCtorEq, false_and, false_iff]
        rintro ⟨all, -⟩
        have fitted := all [block] (by simp)
        rw [List.flatten_singleton] at fitted
        exact granted fitted

/-- The bytes of some blocks fit up to any block. -/
def PrefixesFit
    (store : MemoryDataStore)
    (uploadId : String)
    (partNumber offset : Nat)
    (blocks : List Bytes) : Prop :=
  ∀ before, before <+: blocks → before ≠ [] →
    Gds.PartFits store uploadId partNumber offset before.flatten

/-- The block loop succeeds exactly when the blocks fit up to any of them, and
places all of them. -/
theorem writePartEach_iff
    {blocks : List Bytes}
    {after : MemoryDataStore}
    (nonempty : blocks ≠ [])
    (bounded : offset + blocks.flatten.length < wordModulus) :
    writePartEach uploadId partNumber store offset blocks = (.ok (), after) ↔
      PrefixesFit store uploadId partNumber offset blocks ∧
        after = store.placePart uploadId partNumber offset
          blocks.flatten := by
  cases blocks with
  | nil => exact absurd rfl nonempty
  | cons block blocks =>
      rw [List.flatten_cons, List.length_append] at bounded
      rw [writePartEach]
      by_cases granted : Gds.PartFits store uploadId partNumber offset block
      · have rest := @writePartEach_placePart_iff store uploadId partNumber
          offset block blocks after granted (by omega)
        rw [writePart_eq_placePart granted (by omega),
          addWord_of_lt (by omega)]
        dsimp only
        rw [rest, List.flatten_cons]
        rw [PrefixesFit, forall_prefix_cons]
        simp only [ne_eq, not_true_eq_false, reduceCtorEq, not_false_eq_true,
          false_implies, true_implies, true_and, List.flatten_cons]
      · rw [writePart_eq_createPart granted]
        simp only [Prod.mk.injEq, reduceCtorEq, false_and, false_iff]
        rintro ⟨all, -⟩
        have fitted := all [block] (by simp) (List.cons_ne_nil _ _)
        rw [List.flatten_singleton] at fitted
        exact granted fitted

/-- The block loop goes on behind the blocks it has written. -/
theorem writePartEach_append
    {before : List Bytes}
    {middle : MemoryDataStore}
    (rest : List Bytes)
    (written : writePartEach uploadId partNumber store offset before =
      (.ok (), middle))
    (bounded : offset + before.flatten.length < wordModulus) :
    writePartEach uploadId partNumber store offset (before ++ rest) =
      writePartEach uploadId partNumber middle
        (offset + before.flatten.length) rest := by
  induction before generalizing store offset with
  | nil =>
      cases written
      rfl
  | cons block blocks inductionHypothesis =>
      rw [List.flatten_cons, List.length_append] at bounded ⊢
      rw [writePartEach] at written
      rw [List.cons_append, writePartEach]
      rcases step : store.writePart uploadId partNumber offset block with
        ⟨error | reply, next⟩
      · rw [step] at written
        cases written
      · rw [step] at written
        dsimp only at written ⊢
        rw [addWord_of_lt (by omega)] at written ⊢
        rw [inductionHypothesis written (by omega), Nat.add_assoc]

/-- The block loop never shrinks the part. -/
theorem length_part_writePartEach
    (blocks : List Bytes) :
    ((store.staging uploadId).part partNumber).length ≤
      (((writePartEach uploadId partNumber store offset
        blocks).2.staging uploadId).part partNumber).length := by
  induction blocks generalizing store offset with
  | nil => exact le_rfl
  | cons block blocks inductionHypothesis =>
      have first := length_part_writePart store uploadId partNumber offset
        block
      rw [writePartEach]
      rcases step : store.writePart uploadId partNumber offset block with
        ⟨error | reply, next⟩
      · rw [step] at first
        exact first
      · rw [step] at first
        have later := @inductionHypothesis next
          (addWord offset block.length)
        exact Nat.le_trans first later

/-- A block loop that fails and leaves the length of the part has written the
blocks before the refused one inside the part. -/
theorem refused_inside_of_length
    {blocks : List Bytes}
    {error : Error}
    {after : MemoryDataStore}
    (failed : writePartEach uploadId partNumber store offset blocks =
      (.error error, after))
    (kept : ((after.staging uploadId).part partNumber).length ≤
      ((store.staging uploadId).part partNumber).length)
    (partInWord : ((store.staging uploadId).part partNumber).length <
      wordModulus)
    (offsetInWord : offset < wordModulus) :
    ∃ before block rest,
      blocks = before ++ block :: rest ∧
        ¬Gds.PartFits store uploadId partNumber offset
          (before ++ [block]).flatten ∧
        (before = [] ∧ (after.staging uploadId).part partNumber =
            (store.staging uploadId).part partNumber ∨
          offset + before.flatten.length ≤
              ((store.staging uploadId).part partNumber).length ∧
            (after.staging uploadId).part partNumber =
              placeGrow 0 ((store.staging uploadId).part partNumber)
                ⟨offset, before.flatten⟩) := by
  induction blocks generalizing store offset with
  | nil => cases failed
  | cons block blocks inductionHypothesis =>
      rw [writePartEach] at failed
      by_cases granted : Gds.PartFits store uploadId partNumber offset block
      · rcases written : store.writePart uploadId partNumber offset block with
          ⟨refusal | reply, next⟩
        · obtain ⟨_, _, accepted⟩ :=
            (Gds.writePart_ok_iff _ _ _ _ _).mpr granted
          rw [written] at accepted
          cases accepted
        · rw [written] at failed
          dsimp only at failed
          have grows := @length_part_writePartEach next uploadId partNumber
            (addWord offset block.length) blocks
          rw [failed] at grows
          have inside := inside_of_length_writePart granted offsetInWord
            (by rw [written]; exact grows.trans kept)
          have placed := writePart_eq_placePart granted (by omega)
          rw [written] at placed
          cases placed
          rw [addWord_of_lt (by omega)] at failed
          have length := length_placeGrow 0
            ((store.staging uploadId).part partNumber) ⟨offset, block⟩
          rw [Piece.finish, Nat.max_eq_left inside] at length
          obtain ⟨before, refused, rest, rfl, unfit, earlier⟩ :=
            inductionHypothesis failed
              (by rw [part_placePart, length]; exact kept)
              (by rw [part_placePart, length]; exact partInWord)
              (by omega)
          rw [partFits_placePart granted (.inl inside)] at unfit
          refine ⟨block :: before, refused, rest, rfl, unfit, .inr ?_⟩
          rw [part_placePart, length] at earlier
          rw [List.flatten_cons, List.length_append]
          rcases earlier with ⟨rfl, staged⟩ | ⟨within, staged⟩
          · rw [List.flatten_nil, List.append_nil]
            exact ⟨by simpa using inside, staged⟩
          · refine ⟨by omega, ?_⟩
            rw [staged, placeGrow_append]
      · refine ⟨[], block, blocks, rfl, by simpa using granted, .inl ⟨rfl, ?_⟩⟩
        rw [writePart_eq_createPart granted] at failed
        cases failed
        exact part_createPart

/-- A block loop whose blocks before the refused one are what the part holds
already creates the part. -/
theorem writePartEach_unchanged
    {before : List Bytes}
    {block : Bytes}
    (rest : List Bytes)
    (refused : ¬Gds.PartFits store uploadId partNumber offset
      (before ++ [block]).flatten)
    (earlier : before = [] ∨
      placeGrow 0 ((store.staging uploadId).part partNumber)
          ⟨offset, before.flatten⟩ =
        (store.staging uploadId).part partNumber)
    (partInWord : ((store.staging uploadId).part partNumber).length <
      wordModulus) :
    writePartEach uploadId partNumber store offset
        (before ++ block :: rest) =
      (.error capacityExceeded, store.createPart uploadId partNumber) := by
  rw [List.flatten_append, List.flatten_singleton] at refused
  by_cases first : before = []
  · subst first
    rw [List.flatten_nil, List.nil_append] at refused
    rw [List.nil_append, writePartEach, writePart_eq_createPart refused]
  · have held := earlier.resolve_left first
    have inside : offset + before.flatten.length ≤
        ((store.staging uploadId).part partNumber).length :=
      ((placeGrow_eq_self_iff _ _ _).mp held).1
    have prefixes : PrefixesFit store uploadId partNumber offset before := by
      rintro front ⟨back, rfl⟩ _
      rw [List.flatten_append, List.length_append] at inside
      left
      rw [addWord_of_lt (by omega)]
      omega
    have loop := (writePartEach_iff first (by omega)).mpr ⟨prefixes, rfl⟩
    have fits := prefixes before List.prefix_rfl first
    have unfit := mt (partFits_placePart fits (.inl inside)).mp refused
    rw [placePart_held held] at loop unfit
    rw [writePartEach_append _ loop (by omega), writePartEach,
      writePart_eq_createPart unfit, createPart_createPart]

end Loop

/-! ### When the two ways agree -/

/-- The staged parts of every upload. -/
def stagedParts
    (backend : CompositeBackend)
    (uploadId : String) : Option (Table Nat Bytes) :=
  (backend.data.mpu.lookup uploadId).map MpuParts.parts

/-- Writing a range of a part from a zero-copy buffer does what the plain write
of its payload does, and the plain write copies inside the part. -/
structure PartWritesAgree
    (backend : CompositeBackend)
    (uploadId : String)
    (partNumber offset : Nat)
    (source : IOBuf)
    (now : Nat) : Prop where
  inside : backend.data.Exact
    (.writePart uploadId partNumber offset source.payload)
  success :
    (backend.writePartBlocks uploadId partNumber offset source.blocks
        now).1.success =
      (backend.writePart uploadId partNumber offset source.payload
        now).1.success
  parts : ∀ upload,
    (backend.writePartBlocks uploadId partNumber offset source.blocks
        now).2.stagedParts upload =
      (backend.writePart uploadId partNumber offset source.payload
        now).2.stagedParts upload
  used :
    (backend.writePartBlocks uploadId partNumber offset source.blocks
        now).2.data.usedBytes =
      (backend.writePart uploadId partNumber offset source.payload
        now).2.data.usedBytes

/-- The part is there, and nothing has to be filled up to the offset. -/
def ReachesOffset
    (store : MemoryDataStore)
    (uploadId : String)
    (partNumber offset : Nat) : Prop :=
  (store.staging uploadId).parts.lookup partNumber ≠ none ∧
    offset ≤ ((store.staging uploadId).part partNumber).length

/-- Some block is refused, and the blocks before it, if there are any, are what
the part holds already. -/
def RefusedUnchanged
    (store : MemoryDataStore)
    (uploadId : String)
    (partNumber offset : Nat)
    (blocks : List Bytes) : Prop :=
  ∃ before block rest,
    blocks = before ++ block :: rest ∧
      ¬Gds.PartFits store uploadId partNumber offset
        (before ++ [block]).flatten ∧
      (before = [] ∨
        placeGrow 0 ((store.staging uploadId).part partNumber)
            ⟨offset, before.flatten⟩ =
          (store.staging uploadId).part partNumber)

instance
    (store : MemoryDataStore)
    (uploadId : String)
    (partNumber offset : Nat)
    (source : Bytes) :
    Decidable (Gds.PartFits store uploadId partNumber offset source) :=
  inferInstanceAs (Decidable (_ ∨ _))

/-- There are no blocks, and nothing to create; or everything fits, up to any
block; or the whole does not fit, and the blocks before the one that is refused
change nothing. -/
def BlocksHarmless
    (store : MemoryDataStore)
    (uploadId : String)
    (partNumber offset : Nat)
    (source : IOBuf) : Prop :=
  if source.blocks = [] then
    ReachesOffset store uploadId partNumber offset
  else if Gds.PartFits store uploadId partNumber offset source.payload then
    offset + source.payload.length < wordModulus ∧
      PrefixesFit store uploadId partNumber offset source.blocks
  else RefusedUnchanged store uploadId partNumber offset source.blocks

section Agreement

variable {backend : CompositeBackend} {uploadId : String}
variable {partNumber offset now : Nat}

/-- A granted part write copies inside the part exactly when its end is a
word. -/
theorem exact_writePart_iff_bounded
    {store : MemoryDataStore}
    {source : Bytes}
    (words : store.InWords)
    (offsetInWord : offset < wordModulus)
    (fits : Gds.PartFits store uploadId partNumber offset source) :
    store.Exact (.writePart uploadId partNumber offset source) ↔
      offset + source.length < wordModulus := by
  have partInWord := words.parts uploadId partNumber
  constructor
  · intro exact
    obtain ⟨buffer, reached⟩ := partBuffer_of_fits fits
    have length := (partBuffer_eq_some reached).2
    by_cases empty : source = []
    · rw [empty, List.length_nil, Nat.add_zero]
      exact offsetInWord
    · have copied := exact buffer reached empty
      have finish : addWord offset source.length < wordModulus :=
        Nat.mod_lt _ (Nat.two_pow_pos 64)
      omega
  · intro bounded buffer reached _
    have length := (partBuffer_eq_some reached).2
    rw [addWord_of_lt bounded] at length
    omega

/-- A part that exists is among the staged parts. -/
theorem stagedParts_createPart :
    stagedParts { backend with
        data := backend.data.createPart uploadId partNumber } uploadId =
      some ((backend.data.staging uploadId).parts.insert partNumber
        ((backend.data.staging uploadId).part partNumber)) := by
  simp [stagedParts, createPart, setStaging]

theorem stagedParts_placePart (source : Bytes) :
    stagedParts { backend with
        data := backend.data.placePart uploadId partNumber offset source }
        uploadId =
      some ((backend.data.staging uploadId).parts.insert partNumber
        (placeGrow 0 ((backend.data.staging uploadId).part partNumber)
          ⟨offset, source⟩)) := by
  simp [stagedParts, placePart]

/-- The bytes of a part, as the staged parts have them. -/
theorem part_eq_of_stagedParts
    {parts : Table Nat Bytes}
    (staged : backend.stagedParts uploadId = some parts) :
    (backend.data.staging uploadId).parts = parts := by
  obtain ⟨staging, found, rfl⟩ := Option.map_eq_some_iff.mp staged
  rw [MemoryDataStore.staging, found, Option.getD_some]

theorem writePart_granted
    {source : Bytes}
    (fits : Gds.PartFits backend.data uploadId partNumber offset source)
    (bounded : offset + source.length < wordModulus) :
    backend.writePart uploadId partNumber offset source now =
      (.ok (makePartEtag partNumber source.length now), { backend with
        data := backend.data.placePart uploadId partNumber offset
          source }) := by
  rw [writePart, writePart_eq_placePart fits bounded]

theorem writePart_unfit
    {source : Bytes}
    (unfit : ¬Gds.PartFits backend.data uploadId partNumber offset source) :
    backend.writePart uploadId partNumber offset source now =
      (.error capacityExceeded, { backend with
        data := backend.data.createPart uploadId partNumber }) := by
  rw [writePart, writePart_eq_createPart unfit]

/-- With nothing to write, only the plain write creates and fills the part. -/
theorem partWritesAgree_nil_iff
    {source : IOBuf}
    (words : backend.data.InWords)
    (offsetInWord : offset < wordModulus)
    (none : source.blocks = []) :
    PartWritesAgree backend uploadId partNumber offset source now ↔
      ReachesOffset backend.data uploadId partNumber offset := by
  have payload : source.payload = [] := by rw [IOBuf.payload, none]; rfl
  have loop : backend.writePartBlocks uploadId partNumber offset
      source.blocks now = (.ok (makePartEtag partNumber 0 now), backend) := by
    rw [none]
    rfl
  have length := length_placeGrow 0
    ((backend.data.staging uploadId).part partNumber) ⟨offset, []⟩
  have bounded : offset + ([] : Bytes).length < wordModulus := offsetInWord
  constructor
  · intro agree
    have success := agree.success
    have parts := agree.parts uploadId
    rw [loop, payload] at success parts
    by_cases fits : Gds.PartFits backend.data uploadId partNumber offset []
    · rw [writePart_granted fits bounded, stagedParts_placePart] at parts
      have staged := part_eq_of_stagedParts parts
      constructor
      · rw [staged, Finmap.lookup_insert]
        exact Option.some_ne_none _
      · have part : (backend.data.staging uploadId).part partNumber =
            placeGrow 0 ((backend.data.staging uploadId).part partNumber)
              ⟨offset, []⟩ := by
          conv_lhs => rw [MpuParts.part, staged]
          rw [Finmap.lookup_insert, Option.getD_some]
        rw [← part] at length
        have reached : offset + 0 ≤ _ := max_eq_left_iff.mp length.symm
        exact reached
    · rw [writePart_unfit fits] at success
      cases success
  · rintro ⟨present, reached⟩
    have fits : Gds.PartFits backend.data uploadId partNumber offset [] := by
      left
      rw [addWord_of_lt bounded]
      exact reached
    have held : placeGrow 0
          ((backend.data.staging uploadId).part partNumber) ⟨offset, []⟩ =
        (backend.data.staging uploadId).part partNumber := by
      rw [placeGrow_eq_self_iff]
      exact ⟨reached, rfl⟩
    have created := (mpu_createPart_iff backend.data uploadId
      partNumber).mpr present
    have plain := @writePart_granted backend uploadId partNumber offset now []
      fits bounded
    rw [placePart_held held] at plain
    refine ⟨?_, ?_, ?_, ?_⟩
    · rw [payload]
      exact (exact_writePart_iff_bounded words offsetInWord fits).mpr bounded
    · rw [loop, payload, plain]
      rfl
    · intro upload
      rw [loop, payload, plain, stagedParts, stagedParts]
      dsimp only
      rw [createPart, created]
    · rw [loop, payload, plain]
      rfl

/-- When the whole fits, the block loop does the same exactly when nothing wraps
and the blocks fit up to any of them. -/
theorem partWritesAgree_fits_iff
    {source : IOBuf}
    (words : backend.data.InWords)
    (offsetInWord : offset < wordModulus)
    (nonempty : source.blocks ≠ [])
    (fits : Gds.PartFits backend.data uploadId partNumber offset
      source.payload) :
    PartWritesAgree backend uploadId partNumber offset source now ↔
      offset + source.payload.length < wordModulus ∧
        PrefixesFit backend.data uploadId partNumber offset
          source.blocks := by
  have exact_iff := exact_writePart_iff_bounded words offsetInWord fits
  constructor
  · intro agree
    have bounded := exact_iff.mp agree.inside
    have success := agree.success
    rw [writePart_granted fits bounded, writePartBlocks] at success
    refine ⟨bounded, ?_⟩
    rcases loop : writePartEach uploadId partNumber backend.data offset
        source.blocks with ⟨error | reply, after⟩
    · rw [loop] at success
      cases success
    · exact ((writePartEach_iff nonempty bounded).mp loop).1
  · rintro ⟨bounded, prefixes⟩
    have loop := (writePartEach_iff nonempty bounded).mpr ⟨prefixes, rfl⟩
    have same : backend.writePartBlocks uploadId partNumber offset
        source.blocks now =
      backend.writePart uploadId partNumber offset source.payload now := by
      rw [writePart_granted fits bounded, writePartBlocks, loop]
      rfl
    refine ⟨exact_iff.mpr bounded, ?_, ?_, ?_⟩
    · rw [same]
    · intro upload
      rw [same]
    · rw [same]

/-- When the whole does not fit, the block loop does the same exactly when the
blocks before the refused one change nothing. -/
theorem partWritesAgree_unfit_iff
    {source : IOBuf}
    (words : backend.data.InWords)
    (offsetInWord : offset < wordModulus)
    (unfit : ¬Gds.PartFits backend.data uploadId partNumber offset
      source.payload) :
    PartWritesAgree backend uploadId partNumber offset source now ↔
      RefusedUnchanged backend.data uploadId partNumber offset
        source.blocks := by
  have partInWord := words.parts uploadId partNumber
  have plain := @writePart_unfit backend uploadId partNumber offset now
    source.payload unfit
  constructor
  · intro agree
    have success := agree.success
    have parts := agree.parts uploadId
    rw [plain, stagedParts_createPart, writePartBlocks] at parts
    rw [plain, writePartBlocks] at success
    rcases loop : writePartEach uploadId partNumber backend.data offset
        source.blocks with ⟨error | reply, after⟩
    · rw [loop] at parts
      have staged := part_eq_of_stagedParts parts
      have part : (after.staging uploadId).part partNumber =
          (backend.data.staging uploadId).part partNumber := by
        rw [MpuParts.part, staged, Finmap.lookup_insert, Option.getD_some]
      obtain ⟨before, block, rest, split, refused, earlier⟩ :=
        refused_inside_of_length loop (le_of_eq (congrArg _ part)) partInWord
          offsetInWord
      refine ⟨before, block, rest, split, refused, ?_⟩
      rcases earlier with ⟨first, _⟩ | ⟨_, placed⟩
      · exact .inl first
      · exact .inr (placed.symm.trans part)
    · rw [loop] at success
      cases success
  · rintro ⟨before, block, rest, split, refused, earlier⟩
    have loop : writePartEach uploadId partNumber backend.data offset
        source.blocks =
      (.error capacityExceeded,
        backend.data.createPart uploadId partNumber) := by
      rw [split]
      exact writePartEach_unchanged rest refused earlier partInWord
    have same : backend.writePartBlocks uploadId partNumber offset
        source.blocks now =
      backend.writePart uploadId partNumber offset source.payload now := by
      rw [plain, writePartBlocks, loop]
    refine ⟨?_, ?_, ?_, ?_⟩
    · intro buffer reached
      exact absurd (partBuffer_eq_some reached).1 unfit
    · rw [same]
    · intro upload
      rw [same]
    · rw [same]

end Agreement

/-- Writing a range of a part from a zero-copy buffer does what the plain write
does exactly when no block changes anything that the plain write leaves. -/
theorem partWritesAgree_iff
    (backend : CompositeBackend)
    (uploadId : String)
    (partNumber offset : Nat)
    (source : IOBuf)
    (now : Nat)
    (words : backend.data.InWords)
    (offsetInWord : offset < wordModulus) :
    PartWritesAgree backend uploadId partNumber offset source now ↔
      BlocksHarmless backend.data uploadId partNumber offset source := by
  unfold BlocksHarmless
  split
  · next none => exact partWritesAgree_nil_iff words offsetInWord none
  · next nonempty =>
      split
      · next fits =>
          exact partWritesAgree_fits_iff words offsetInWord nonempty fits
      · next unfit =>
          exact partWritesAgree_unfit_iff words offsetInWord unfit

/-- Two blocks of two bytes. -/
def twoBlocks : IOBuf := ⟨[[1, 2], [3, 4]], by decide⟩

theorem partWritesAgree_iff_two_blocks :
    PartWritesAgree (.init 8) "upload" 1 0 twoBlocks 5 ↔
      BlocksHarmless (CompositeBackend.init 8).data "upload" 1 0 twoBlocks :=
  partWritesAgree_iff _ _ _ _ _ _ (inWords_init (by decide)) (by decide)

/-- With room for three bytes, the first of two blocks of two bytes stays
staged, and counted. -/
theorem writePartBlocks_keeps_first_block :
    ¬PartWritesAgree (.init 3) "upload" 1 0 twoBlocks 5 := by
  intro agree
  have used := agree.used
  revert used
  decide

end CompositeBackend

end Gateway
end TurboAccess
