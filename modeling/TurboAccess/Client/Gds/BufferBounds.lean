import TurboAccess.Client.Gds.Partition

/-!
# Where a read writes

A request asks the gateway to write its range to its buffer, as far as the buffer
reaches.  A single read has the buffer of the caller.  The ranges of a parallel
read are cut from the length that was asked for, and each has a buffer of its
own length, so that a read longer than the buffer is written past its end.
-/

namespace TurboAccess
namespace Client
namespace Gds

open Tiling (InRange)

/-! ## The property and its condition -/

/-- The requests ask for a position of memory to be written. -/
def AsksFor (subs : List SubGet) (position : Nat) : Prop :=
  ∃ sub ∈ subs, InRange sub.2.data (requestedBytes sub) position

/-- The requests ask for no other position than those of the buffer, and of as
much of it as the read is long. -/
def WithinBuffer
    (request : GetObjectRequest)
    (buffer : BufferView)
    (subs : List SubGet) : Prop :=
  ∀ position, AsksFor subs position →
    InRange buffer.data (requestedBytes (request, buffer)) position

/-- A read is not split, or is no longer than its buffer. -/
def FitsBuffer
    (options : GdsClientOptions)
    (executor : Bool)
    (request : GetObjectRequest)
    (buffer : BufferView) : Prop :=
  isParallel options executor request = false ∨
    min options.parallelGetChunks (request.length.getD 0) ≤ 1 ∨
    request.length.getD 0 ≤ buffer.size

/-! ## What is asked for -/

theorem asksFor_single (request : GetObjectRequest) (buffer : BufferView) :
    AsksFor [(request, buffer)] =
      InRange buffer.data (requestedBytes (request, buffer)) := by
  ext position
  simp [AsksFor]

/-- A request for a range asks for all of it. -/
@[simp] theorem requestedBytes_subGet
    (request : GetObjectRequest)
    (buffer : BufferView)
    (range : Nat × Nat) :
    requestedBytes (subGet request buffer range) = range.2 :=
  Nat.min_self _

/-- The ranges of a read that is split ask for as much as the read is long. -/
theorem asksFor_several
    {total count : Nat}
    (nonzero : count ≠ 0)
    (request : GetObjectRequest)
    (buffer : BufferView) :
    AsksFor ((subRanges total count).map (subGet request buffer)) =
      InRange buffer.data total := by
  obtain ⟨consecutive, together⟩ := @consecutive_rangesFrom total count 0
    (List.range count) { request with offset := buffer.data } buffer
  rw [Nat.add_zero] at consecutive
  rw [sum_rangeLength total _ nonzero] at together
  have covers := (covers_of_consecutive consecutive together).2
  ext position
  rw [covers position]
  simp only [AsksFor, List.mem_map, subRanges, exists_exists_and_eq_and,
    requestedBytes_subGet]
  rfl

/-! ## The theorem -/

/-- A read that passes the checks asks for positions within its buffer exactly
when it is not split, or is no longer than the buffer. -/
theorem withinBuffer_iff
    {available : Bool}
    {options : GdsClientOptions}
    {executor : Bool}
    {request : GetObjectRequest}
    {buffer : BufferView}
    {subs : List SubGet}
    (served : getObject available options executor request buffer = .ok subs) :
    WithinBuffer request buffer subs ↔
      FitsBuffer options executor request buffer := by
  have single : WithinBuffer request buffer [(request, buffer)] := by
    intro position asks
    rwa [asksFor_single] at asks
  unfold FitsBuffer
  revert served
  rw [getObject]
  split
  · nofun
  split
  · next parallel =>
      rintro ⟨⟩
      rw [getObjectParallel]
      split
      · next few => exact iff_of_true single (.inr (.inl few))
      · next several =>
          have nonzero : min options.parallelGetChunks
              (request.length.getD 0) ≠ 0 := by omega
          rw [WithinBuffer, asksFor_several nonzero]
          simp only [parallel, several, Bool.true_eq_false, false_or]
          obtain ⟨total, length⟩ : ∃ total, request.length = some total := by
            cases length : request.length with
            | none => simp [isParallel, length] at parallel
            | some total => exact ⟨total, rfl⟩
          simp only [requestedBytes, length, Option.getD_some] at several ⊢
          unfold InRange
          constructor
          · intro within
            have last := within (buffer.data + (total - 1)) (by omega)
            omega
          · intro fits position inRange
            omega
  · next single_ =>
      rintro ⟨⟩
      exact iff_of_true single (.inl (by simpa using single_))

private def longGet : GetObjectRequest :=
  { bucket := "bucket", key := "object", offset := 0, length := some 8192,
    timeout := 30000 }

/-- A buffer of one page. -/
private def onePage : BufferView := ⟨4096, 4096, .cudaDevice⟩

private def splitTwo : GdsClientOptions :=
  { parallelGetThreshold := 0, parallelGetChunks := 2 }

theorem withinBuffer_iff_two_pages :
    WithinBuffer longGet ⟨4096, 8192, .cudaDevice⟩
        (getObjectParallel splitTwo longGet ⟨4096, 8192, .cudaDevice⟩) ↔
      FitsBuffer splitTwo true longGet ⟨4096, 8192, .cudaDevice⟩ :=
  @withinBuffer_iff true _ _ _ _ _ rfl

/-- Two pages are read into a buffer of one. -/
theorem second_range_past_buffer :
    ¬∀ available options executor request buffer subs,
      getObject available options executor request buffer = .ok subs →
        WithinBuffer request buffer subs := by
  intro within
  have inside := within true splitTwo true longGet onePage _ rfl 8192
    ⟨_, List.mem_cons_of_mem _ List.mem_cons_self, by decide, by decide⟩
  exact absurd inside.2 (by decide)

end Gds
end Client
end TurboAccess
