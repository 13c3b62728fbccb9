import TurboAccess.Gateway.Backend.Shards
import TurboAccess.Gateway.Gds.Binding

/-!
# Sizes and offsets at the ends of the word

The data store adds sizes and offsets of requests without a check.  A sum that
wraps passes the comparison with the capacity, or with the size of the body that
is there, and the copy that follows goes by the offset.

For all values of words, the store answers as natural numbers would have it
exactly when the sum does not wrap, or the wrapped sum is refused as well.
-/

namespace TurboAccess
namespace Gateway

/-- A request that takes capacity or copies bytes. -/
inductive SizeRequest
  | reserveBytes (growth : Nat)
  | writeRange (bucket key : String) (offset : Nat) (source : Bytes)
      (totalSize : Option Nat)
  | writePart (uploadId : String) (partNumber offset : Nat) (source : Bytes)

/-- All sizes of a request are words. -/
def SizeRequest.InWords : SizeRequest → Prop
  | .reserveBytes growth => growth < wordModulus
  | .writeRange _ _ offset source totalSize =>
      offset < wordModulus ∧ source.length < wordModulus ∧
        totalSize.getD 0 < wordModulus
  | .writePart _ _ offset source =>
      offset < wordModulus ∧ source.length < wordModulus

namespace MemoryDataStore

/-- All sizes of a store are words. -/
structure InWords (store : MemoryDataStore) : Prop where
  used : store.usedBytes < wordModulus
  capacity : store.capacityBytes < wordModulus
  bodies : ∀ id, (store.body id).length < wordModulus
  parts : ∀ uploadId partNumber,
    ((store.staging uploadId).part partNumber).length < wordModulus

/-! ## The buffers of the copies -/

/-- The body that a range write copies into, unless it is refused before. -/
def rangeBuffer
    (store : MemoryDataStore)
    (bucket key : String)
    (offset : Nat)
    (source : Bytes)
    (totalSize : Option Nat) : Option Bytes :=
  match store.fitBody (makeKey bucket key)
      (Gds.targetSize totalSize offset source) with
  | (false, _) => none
  | (true, fitted) => some (fitted.body (makeKey bucket key))

/-- The part that a part write copies into, unless it is refused before. -/
def partBuffer
    (store : MemoryDataStore)
    (uploadId : String)
    (partNumber offset : Nat)
    (source : Bytes) : Option Bytes :=
  let part := (store.staging uploadId).part partNumber
  let finish := addWord offset source.length
  if finish > part.length then
    (store.reserveBytes (finish - part.length)).map fun _ =>
      part.resize finish
  else some part

/-- A range write is refused, or copies its bytes into the buffer. -/
theorem writeRange_buffer_cases
    (store : MemoryDataStore)
    (bucket key : String)
    (offset : Nat)
    (source : Bytes)
    (totalSize : Option Nat) :
    (store.rangeBuffer bucket key offset source totalSize = none ∧
      (store.writeRange bucket key offset source totalSize).1 =
        .error capacityExceeded) ∨
    ∃ buffer,
      store.rangeBuffer bucket key offset source totalSize = some buffer ∧
      (store.writeRange bucket key offset source totalSize).1 = .ok true ∧
      (store.writeRange bucket key offset source totalSize).2.body
        (makeKey bucket key) = buffer.overwrite offset source := by
  unfold writeRange rangeBuffer Gds.targetSize
  dsimp only
  rcases store.fitBody (makeKey bucket key)
      (max (totalSize.getD (addWord offset source.length))
        (addWord offset source.length)) with
    ⟨success | success, fitted⟩
  · exact .inl ⟨rfl, rfl⟩
  · refine .inr ⟨_, rfl, rfl, ?_⟩
    dsimp only
    split
    · next empty => rw [List.isEmpty_iff.mp empty, Bytes.overwrite_nil]
    · rw [body_setBody]

/-- A part write is refused, or copies its bytes into the buffer. -/
theorem writePart_buffer_cases
    (store : MemoryDataStore)
    (uploadId : String)
    (partNumber offset : Nat)
    (source : Bytes) :
    (store.partBuffer uploadId partNumber offset source = none ∧
      (store.writePart uploadId partNumber offset source).1 =
        .error capacityExceeded) ∨
    ∃ buffer,
      store.partBuffer uploadId partNumber offset source = some buffer ∧
      (store.writePart uploadId partNumber offset source).1 = .ok true ∧
      ((store.writePart uploadId partNumber offset source).2.staging
        uploadId).part partNumber = buffer.overwrite offset source := by
  unfold writePart partBuffer
  dsimp only
  by_cases grows : addWord offset source.length >
      ((store.staging uploadId).part partNumber).length
  · rw [if_pos grows, if_pos grows]
    cases store.reserveBytes (addWord offset source.length -
        ((store.staging uploadId).part partNumber).length) with
    | none => exact .inl ⟨rfl, rfl⟩
    | some reserved =>
        refine .inr ⟨_, rfl, rfl, ?_⟩
        simp [staging, setStaging, MpuParts.part]
  · rw [if_neg grows, if_neg grows]
    refine .inr ⟨_, rfl, rfl, ?_⟩
    simp [staging, setStaging, MpuParts.part]

/-- The buffer of a range write that is not refused has the size that was asked
for. -/
theorem rangeBuffer_eq_some
    {store : MemoryDataStore}
    {bucket key : String}
    {offset : Nat}
    {source : Bytes}
    {totalSize : Option Nat}
    {buffer : Bytes}
    (reached : store.rangeBuffer bucket key offset source totalSize =
      some buffer) :
    store.Fits (makeKey bucket key)
        (Gds.targetSize totalSize offset source) ∧
      buffer.length = Gds.targetSize totalSize offset source := by
  revert reached
  unfold rangeBuffer
  rcases fit : store.fitBody (makeKey bucket key)
      (Gds.targetSize totalSize offset source) with
    ⟨success | success, fitted⟩
  · intro reached
    cases reached
  · intro reached
    cases reached
    exact ⟨fits_of_fitBody fit, length_body_fitBody fit⟩

theorem rangeBuffer_of_fits
    {store : MemoryDataStore}
    {bucket key : String}
    {offset : Nat}
    {source : Bytes}
    {totalSize : Option Nat}
    (fits : store.Fits (makeKey bucket key)
      (Gds.targetSize totalSize offset source)) :
    ∃ buffer,
      store.rangeBuffer bucket key offset source totalSize = some buffer := by
  rw [← fitBody_fst] at fits
  unfold rangeBuffer
  rcases fit : store.fitBody (makeKey bucket key)
      (Gds.targetSize totalSize offset source) with
    ⟨success | success, fitted⟩
  · rw [fit] at fits
    cases fits
  · exact ⟨_, rfl⟩

/-- The buffer of a part write that is not refused covers the end of the
write. -/
theorem partBuffer_eq_some
    {store : MemoryDataStore}
    {uploadId : String}
    {partNumber offset : Nat}
    {source buffer : Bytes}
    (reached : store.partBuffer uploadId partNumber offset source =
      some buffer) :
    Gds.PartFits store uploadId partNumber offset source ∧
      buffer.length = max ((store.staging uploadId).part partNumber).length
        (addWord offset source.length) := by
  rw [← Gds.writePart_ok_iff]
  rcases store.writePart_buffer_cases uploadId partNumber offset source with
    ⟨refused, _⟩ | ⟨_, _, written, _⟩
  · rw [refused] at reached
    cases reached
  · refine ⟨⟨true, _, Prod.ext written rfl⟩, ?_⟩
    revert reached
    unfold partBuffer
    dsimp only
    split
    · next grows =>
        rw [Option.map_eq_some_iff]
        rintro ⟨reserved, -, rfl⟩
        rw [Bytes.length_resize]
        omega
    · next within =>
        intro reached
        cases reached
        omega

theorem partBuffer_of_fits
    {store : MemoryDataStore}
    {uploadId : String}
    {partNumber offset : Nat}
    {source : Bytes}
    (fits : Gds.PartFits store uploadId partNumber offset source) :
    ∃ buffer,
      store.partBuffer uploadId partNumber offset source = some buffer := by
  rw [← Gds.writePart_ok_iff] at fits
  obtain ⟨reply, next, written⟩ := fits
  rcases store.writePart_buffer_cases uploadId partNumber offset source with
    ⟨_, refused⟩ | ⟨buffer, reached, _⟩
  · rw [written] at refused
    cases refused
  · exact ⟨buffer, reached⟩

/-! ## Sums that wrap -/

/-- The store answers a request as natural numbers would have it: the capacity
is compared with the sum, and the bytes are copied inside the buffer. -/
def Exact (store : MemoryDataStore) : SizeRequest → Prop
  | .reserveBytes growth =>
      (store.reserveBytes growth).isSome = true ↔
        store.usedBytes + growth ≤ store.capacityBytes
  | .writeRange bucket key offset source totalSize =>
      ∀ buffer,
        store.rangeBuffer bucket key offset source totalSize = some buffer →
        source ≠ [] → offset + source.length ≤ buffer.length
  | .writePart uploadId partNumber offset source =>
      ∀ buffer,
        store.partBuffer uploadId partNumber offset source = some buffer →
        source ≠ [] → offset + source.length ≤ buffer.length

/-- The sum of a request does not wrap, or what is left of it is refused. -/
def WrapsRefused (store : MemoryDataStore) : SizeRequest → Prop
  | .reserveBytes growth =>
      (growth = 0 → store.usedBytes ≤ store.capacityBytes) ∧
      (store.usedBytes + growth < wordModulus ∨
        store.capacityBytes < store.usedBytes + growth - wordModulus)
  | .writeRange bucket key offset source totalSize =>
      source = [] ∨ offset + source.length < wordModulus ∨
        ¬store.Fits (makeKey bucket key)
          (Gds.targetSize totalSize offset source)
  | .writePart uploadId partNumber offset source =>
      source = [] ∨ offset + source.length < wordModulus ∨
        ¬Gds.PartFits store uploadId partNumber offset source

theorem addWord_of_wraps
    {left right : Nat}
    (leftWord : left < wordModulus)
    (rightWord : right < wordModulus)
    (wraps : wordModulus ≤ left + right) :
    addWord left right = left + right - wordModulus := by
  unfold addWord
  rw [Nat.mod_eq_sub_mod wraps]
  exact Nat.mod_eq_of_lt (by omega)

theorem exact_reserveBytes_iff
    {store : MemoryDataStore}
    {growth : Nat}
    (words : store.InWords)
    (word : growth < wordModulus) :
    store.Exact (.reserveBytes growth) ↔
      store.WrapsRefused (.reserveBytes growth) := by
  have used := words.used
  have capacity := words.capacity
  unfold Exact WrapsRefused reserveBytes
  by_cases none : growth = 0
  · subst none
    simp [used]
  · simp only [if_neg none]
    by_cases wraps : wordModulus ≤ store.usedBytes + growth
    · rw [addWord_of_wraps used word wraps]
      split
      · simp only [Option.isSome_none, Bool.false_eq_true, false_iff]
        omega
      · simp only [Option.isSome_some, true_iff]
        omega
    · rw [addWord_of_lt (by omega)]
      split
      · simp only [Option.isSome_none, Bool.false_eq_true, false_iff]
        omega
      · simp only [Option.isSome_some, true_iff]
        omega

/-- A copy that ends within `size`, which is a word and covers the end of the
copy as the code computes it, does not wrap. -/
theorem copy_inside_iff
    {offset size : Nat}
    {source : Bytes}
    (word : size < wordModulus)
    (covers : addWord offset source.length ≤ size) :
    offset + source.length ≤ size ↔ offset + source.length < wordModulus := by
  constructor
  · intro inside
    omega
  · intro bounded
    rw [addWord_of_lt bounded] at covers
    exact covers

theorem exact_writeRange_iff
    {store : MemoryDataStore}
    (bucket key : String)
    (offset : Nat)
    (source : Bytes)
    {totalSize : Option Nat}
    (word : totalSize.getD 0 < wordModulus) :
    store.Exact (.writeRange bucket key offset source totalSize) ↔
      store.WrapsRefused (.writeRange bucket key offset source totalSize) := by
  have finish : addWord offset source.length < wordModulus :=
    Nat.mod_lt _ (by decide)
  have target : Gds.targetSize totalSize offset source < wordModulus := by
    unfold Gds.targetSize
    cases totalSize with
    | none => simpa using finish
    | some total => exact max_lt word finish
  have covers : addWord offset source.length ≤
      Gds.targetSize totalSize offset source := le_max_right _ _
  unfold Exact WrapsRefused
  constructor
  · intro exact
    by_contra wraps
    push Not at wraps
    obtain ⟨filled, wraps, fits⟩ := wraps
    obtain ⟨buffer, reached⟩ := rangeBuffer_of_fits fits
    have inside := exact buffer reached filled
    rw [(rangeBuffer_eq_some reached).2] at inside
    omega
  · intro refused buffer reached filled
    obtain ⟨fits, length⟩ := rangeBuffer_eq_some reached
    rw [length, copy_inside_iff target covers]
    rcases refused with empty | bounded | unfit
    · exact absurd empty filled
    · exact bounded
    · exact absurd fits unfit

theorem exact_writePart_iff
    {store : MemoryDataStore}
    (uploadId : String)
    (partNumber offset : Nat)
    (source : Bytes)
    (words : store.InWords) :
    store.Exact (.writePart uploadId partNumber offset source) ↔
      store.WrapsRefused (.writePart uploadId partNumber offset source) := by
  have finish : addWord offset source.length < wordModulus :=
    Nat.mod_lt _ (by decide)
  have size : max ((store.staging uploadId).part partNumber).length
      (addWord offset source.length) < wordModulus :=
    max_lt (words.parts uploadId partNumber) finish
  have covers : addWord offset source.length ≤
      max ((store.staging uploadId).part partNumber).length
        (addWord offset source.length) := le_max_right _ _
  unfold Exact WrapsRefused
  constructor
  · intro exact
    by_contra wraps
    push Not at wraps
    obtain ⟨filled, wraps, fits⟩ := wraps
    obtain ⟨buffer, reached⟩ := partBuffer_of_fits fits
    have inside := exact buffer reached filled
    rw [(partBuffer_eq_some reached).2] at inside
    omega
  · intro refused buffer reached filled
    obtain ⟨fits, length⟩ := partBuffer_eq_some reached
    rw [length, copy_inside_iff size covers]
    rcases refused with empty | bounded | unfit
    · exact absurd empty filled
    · exact bounded
    · exact absurd fits unfit

/-- On words, the store answers as natural numbers would have it exactly when
the sum of the request does not wrap, or what is left of it is refused. -/
theorem exact_iff_wrapsRefused
    (store : MemoryDataStore)
    (request : SizeRequest)
    (words : store.InWords)
    (requestWords : request.InWords) :
    store.Exact request ↔ store.WrapsRefused request := by
  cases request with
  | reserveBytes growth => exact exact_reserveBytes_iff words requestWords
  | writeRange bucket key offset source totalSize =>
      exact exact_writeRange_iff bucket key offset source requestWords.2.2
  | writePart uploadId partNumber offset source =>
      exact exact_writePart_iff uploadId partNumber offset source words

/-- An empty store of any capacity is in words. -/
theorem inWords_init
    {capacityBytes : Nat}
    (word : capacityBytes < wordModulus) :
    (MemoryDataStore.init capacityBytes).InWords where
  used := Nat.zero_lt_of_lt word
  capacity := word
  bodies id := by
    simp [MemoryDataStore.init, body]
  parts uploadId partNumber := by
    simp [MemoryDataStore.init, staging, MpuParts.empty, MpuParts.part]

theorem exact_iff_wrapsRefused_two_bytes :
    (MemoryDataStore.init 8).Exact
        (.writeRange "bucket" "key" 4 [1, 2] none) ↔
      (MemoryDataStore.init 8).WrapsRefused
        (.writeRange "bucket" "key" 4 [1, 2] none) :=
  exact_iff_wrapsRefused _ _ (inWords_init (by decide))
    ⟨by decide, by decide, by decide⟩

/-- One byte at the last offset of the word is copied into an empty body. -/
theorem writeRange_wraps_past_body :
    ¬(MemoryDataStore.init 8).Exact
      (.writeRange "bucket" "key" (wordModulus - 1) [1] none) := by
  intro exact
  have inside := exact [] (by decide) (by decide)
  revert inside
  decide

end MemoryDataStore

end Gateway
end TurboAccess
