import TurboAccess.Client.Gds.Handshake

/-!
# Splitting a read

A read of a known length over the threshold is split into ranges that are read
by sub-requests of the executor, each into its part of the buffer.  All ranges
but the last have the same length, a multiple of the page size; the last one
takes what is left.  Empty ranges are left out.
-/

namespace TurboAccess
namespace Client
namespace Gds

def gpuPageSize : Nat := 4096

/-- Length of every range but the last. -/
def baseAligned (total count : Nat) : Nat :=
  total / count / gpuPageSize * gpuPageSize

/-- Length of one of the ranges. -/
def rangeLength (total count index : Nat) : Nat :=
  if index + 1 = count then
    baseAligned total count + (total - baseAligned total count * count)
  else baseAligned total count

/-- The ranges of some indices with their offsets, from a cursor on. -/
def rangesFrom (total count cursor : Nat) : List Nat → List (Nat × Nat)
  | [] => []
  | index :: indices =>
      if rangeLength total count index = 0 then
        rangesFrom total count cursor indices
      else
        (cursor, rangeLength total count index) ::
          rangesFrom total count (cursor + rangeLength total count index)
            indices

/-- The ranges of a read that is split. -/
def subRanges (total count : Nat) : List (Nat × Nat) :=
  rangesFrom total count 0 (List.range count)

/-- A request for one range, with its part of the buffer. -/
abbrev SubGet := GetObjectRequest × BufferView

def subGet
    (request : GetObjectRequest)
    (buffer : BufferView)
    (range : Nat × Nat) : SubGet :=
  ({ request with offset := request.offset + range.1, length := some range.2 },
    { data := buffer.data + range.1, size := range.2, type := buffer.type })

/-- Whether a read goes to the parallel path. -/
def isParallel
    (options : GdsClientOptions)
    (executor : Bool)
    (request : GetObjectRequest) : Bool :=
  match request.length with
  | none => false
  | some total =>
      total ≥ options.parallelGetThreshold ∧ options.parallelGetChunks ≥ 2 ∧
        executor

/-- The requests of a parallel read; of a single one there is just itself. -/
def getObjectParallel
    (options : GdsClientOptions)
    (request : GetObjectRequest)
    (buffer : BufferView) : List SubGet :=
  let total := request.length.getD 0
  let count := min options.parallelGetChunks total
  if count ≤ 1 then [(request, buffer)]
  else (subRanges total count).map (subGet request buffer)

/-- The requests that a read is served by. -/
def getObject
    (available : Bool)
    (options : GdsClientOptions)
    (executor : Bool)
    (request : GetObjectRequest)
    (buffer : BufferView) : Result (List SubGet) :=
  match preflightGds available buffer.type with
  | .error error => .error error
  | .ok () =>
      if isParallel options executor request then
        .ok (getObjectParallel options request buffer)
      else .ok [(request, buffer)]

/-- The bytes that a request reads into its buffer. -/
def requestedBytes (sub : SubGet) : Nat :=
  min (sub.1.length.getD sub.2.size) sub.2.size

end Gds
end Client
end TurboAccess
