import TurboAccess.Client.Gds.BufferBounds
import TurboAccess.Client.Gds.OneVersion
import TurboAccess.Client.Gds.ShortTransfers

/-!
# What a read delivers

A request of a read becomes one chunk.  The gateway reads the range as far as
the object reaches, pushes what it has read to the buffer of the request, and
answers without a number of bytes; the client returns the number it has asked
for, and a split read the sum of these.

So a read that succeeds has delivered what it returns exactly when the object
reaches to the end of what was asked for, and the buffer does too.
-/

namespace TurboAccess
namespace Client

open Gateway.Gds (Config ControlPlane GdsChunkRequest GdsChunkResponse Transfer
  transferGet)

/-- The dispatcher of a read. -/
def ChunkDispatcher.ofGet
    (session : TransferSession)
    (request : Gds.GetObjectRequest)
    (checksumPolicy : String) : ChunkDispatcher where
  bucket := request.bucket
  key := request.key
  offset := request.offset
  checksumPolicy
  requestId := session.requestId
  sessionId := session.sessionId
  ticket := session.ticket

namespace Gds

open Tiling (Consecutive InRange Piece Range elementAt elementAt_of_consecutive
  extent)

/-! ## One request -/

/-- A read into a buffer by its only chunk.  The gateway of the session, the
token of the buffer and the answer to the chunk are arguments. -/
def executeTransferGet
    (session : TransferSession)
    (gatewayId checksumPolicy : String)
    (sub : SubGet)
    (token : Result String)
    (gdsChunk : GdsChunkRequest → Result GdsChunkResponse) :
    Result TransferOutcome :=
  if sub.2.data = 0 ∨ sub.2.size = 0 then
    .error (makeInvalidArgument
      "GDS transfer requires non-null buffer and positive size")
  else if requestedBytes sub = 0 then
    .error (makeInvalidArgument "Requested transfer length is zero")
  else
    match token with
    | .error error => .error error
    | .ok rdmaToken =>
        let dispatcher := ChunkDispatcher.ofGet session sub.1 checksumPolicy
        match dispatcher.dispatch rdmaToken sub.1.offset
            (requestedBytes sub) with
        | .error error => .error error
        | .ok chunk =>
            match gdsChunk chunk with
            | .error error => .error error
            | .ok response =>
                .ok
                  { requestId := session.requestId
                    sessionId := session.sessionId
                    gatewayId :=
                      if response.selectedGateway = "" then gatewayId
                      else response.selectedGateway
                    transferStatus :=
                      if response.transferStatus = "" then "completed"
                      else response.transferStatus
                    rdmaReply := response.rdmaReply
                    etag := response.etag
                    version := response.version
                    bytesTransferred := requestedBytes sub
                    serverCrc32c :=
                      if response.crc32c ≠ 0 then some response.crc32c
                      else none }

/-- What the layers below have for one request: the session with its gateway, the
token of the buffer, and at the gateway the session that the chunk is prepared
with, the state, and what the transfer depends on. -/
structure Layers where
  opened : Result (TransferSession × String)
  token : Result String
  prepared : Except String Gateway.SessionPtr
  plane : ControlPlane
  transfer : Transfer

section Layers

variable
  (config : Config)
  (rpcFailure : String → Error)
  (checksumPolicy : String)

/-- The answer of the gateway to a chunk. -/
def Layers.gdsGet
    (layers : Layers)
    (chunk : GdsChunkRequest) : Result GdsChunkResponse :=
  match layers.prepared with
  | .error text => .error (rpcFailure text)
  | .ok ptr =>
      match (transferGet config layers.plane ptr chunk layers.transfer).1 with
      | .error text => .error (rpcFailure text)
      | .ok response => .ok response

def getObjectSingle (layers : Layers) (sub : SubGet) : Result TransferOutcome :=
  match layers.opened with
  | .error error => .error error
  | .ok (session, gatewayId) =>
      executeTransferGet session gatewayId checksumPolicy sub layers.token
        (layers.gdsGet config rpcFailure)

/-- The bytes that the gateway pushes for a request that it answers. -/
def Layers.pushed (layers : Layers) (sub : SubGet) : Bytes :=
  match layers.prepared with
  | .error _ => []
  | .ok ptr =>
      let session := layers.plane.sessions.objects ptr
      match layers.plane.backend.read session.bucket session.objectKey
          sub.1.offset (requestedBytes sub) with
      | .error _ => []
      | .ok bytes => bytes

/-! ## The whole read -/

/-- The outcome of a split read before its results are taken. -/
def emptyOutcome : TransferOutcome where
  requestId := ""
  sessionId := ""
  gatewayId := ""
  transferStatus := "completed"
  rdmaReply := ""
  etag := ""
  version := ""
  bytesTransferred := 0
  serverCrc32c := none

/-- Take a result: its bytes, and its texts where there is none yet. -/
def TransferOutcome.take (soFar outcome : TransferOutcome) : TransferOutcome :=
  { soFar with
    bytesTransferred := soFar.bytesTransferred + outcome.bytesTransferred
    etag := if soFar.etag = "" then outcome.etag else soFar.etag
    version := if soFar.version = "" then outcome.version else soFar.version
    requestId :=
      if soFar.requestId = "" then outcome.requestId else soFar.requestId
    sessionId :=
      if soFar.sessionId = "" then outcome.sessionId else soFar.sessionId
    gatewayId :=
      if soFar.gatewayId = "" then outcome.gatewayId else soFar.gatewayId }

/-- Take the results in order, up to the first failure. -/
def collect (soFar : TransferOutcome) :
    List (Result TransferOutcome) → Result TransferOutcome
  | [] => .ok soFar
  | .error error :: _ => .error error
  | .ok outcome :: results => collect (soFar.take outcome) results

/-- A read is served by sub-requests of the executor. -/
def isSplit
    (options : GdsClientOptions)
    (executor : Bool)
    (request : GetObjectRequest) : Bool :=
  isParallel options executor request &&
    decide (1 < min options.parallelGetChunks (request.length.getD 0))

/-- The result of a read, whose requests find the given layers. -/
def readObject
    (available : Bool)
    (options : GdsClientOptions)
    (executor : Bool)
    (request : GetObjectRequest)
    (buffer : BufferView)
    (layers : SubGet → Layers) : Result TransferOutcome :=
  match preflightGds available buffer.type with
  | .error error => .error error
  | .ok () =>
      let single := fun sub =>
        getObjectSingle config rpcFailure checksumPolicy (layers sub) sub
      if isSplit options executor request then
        collect emptyOutcome
          ((getObjectParallel options request buffer).map single)
      else single (request, buffer)

end Layers

/-! ## The property and its condition -/

/-- The object of a request has a content, and the gateway prepares the chunk
with a session for that object. -/
structure Serves
    (body : Bytes)
    (request : GetObjectRequest)
    (layers : Layers) : Prop where
  session : ∀ ptr, layers.prepared = .ok ptr →
    (layers.plane.sessions.objects ptr).bucket = request.bucket ∧
      (layers.plane.sessions.objects ptr).objectKey = request.key
  stored : layers.plane.backend.data.bodies.lookup
    (Gateway.makeKey request.bucket request.key) = some body

/-- The pieces that the requests of a read leave in memory. -/
def landed (subs : List SubGet) (layers : SubGet → Layers) :
    List (Piece UInt8) :=
  subs.map fun sub => ⟨sub.2.data, (layers sub).pushed sub⟩

/-- The positions of a buffer that are written. -/
def writtenPositions
    (buffer : BufferView)
    (pieces : List (Piece UInt8)) : List Nat :=
  (List.range buffer.size).filter fun position =>
    (elementAt pieces (buffer.data + position)).isSome

/-- As many positions of a buffer are written as the client returns, and these
are the first ones, with the bytes of the object from an offset on. -/
structure ReportsDelivered
    (body : Bytes)
    (offset : Nat)
    (buffer : BufferView)
    (pieces : List (Piece UInt8))
    (bytesTransferred : Nat) : Prop where
  count : (writtenPositions buffer pieces).length = bytesTransferred
  content : ∀ position ∈ writtenPositions buffer pieces,
    position < bytesTransferred ∧
      elementAt pieces (buffer.data + position) = body[offset + position]?

/-- The number of bytes that a read asks for. -/
def askedBytes
    (options : GdsClientOptions)
    (executor : Bool)
    (request : GetObjectRequest)
    (buffer : BufferView) : Nat :=
  if isSplit options executor request then request.length.getD 0
  else requestedBytes (request, buffer)

/-- What a read asks for is in the object, and fits the buffer. -/
def RangeInside
    (body : Bytes)
    (options : GdsClientOptions)
    (executor : Bool)
    (request : GetObjectRequest)
    (buffer : BufferView) : Prop :=
  request.offset + askedBytes options executor request buffer ≤ body.length ∧
    askedBytes options executor request buffer ≤ buffer.size

/-! ## A request that succeeds -/

/-- The chunk of a read has its offset and its size. -/
theorem chunk_of_dispatch
    {session : TransferSession}
    {request : GetObjectRequest}
    {checksumPolicy rdmaToken : String}
    {offset size : Nat}
    {chunk : GdsChunkRequest}
    (made : (ChunkDispatcher.ofGet session request checksumPolicy).dispatch
      rdmaToken offset size = .ok chunk) :
    chunk.chunkOffset = offset ∧ chunk.chunkSize = size := by
  rw [ChunkDispatcher.dispatch] at made
  split at made
  · cases made
  · cases made
    exact ⟨rfl, rfl⟩

section Single

variable
  {config : Config}
  {rpcFailure : String → Error}
  {checksumPolicy : String}
  {layers : Layers}
  {sub : SubGet}
  {outcome : TransferOutcome}

/-- A request that succeeds asks for some bytes, returns their number, and its
chunk is answered. -/
theorem answered_of_executeTransferGet
    {session : TransferSession}
    {gatewayId : String}
    {token : Result String}
    {gdsChunk : GdsChunkRequest → Result GdsChunkResponse}
    (succeeded : executeTransferGet session gatewayId checksumPolicy sub token
      gdsChunk = .ok outcome) :
    outcome.bytesTransferred = requestedBytes sub ∧
      requestedBytes sub ≠ 0 ∧
      ∃ chunk response, gdsChunk chunk = .ok response ∧
        chunk.chunkOffset = sub.1.offset ∧
        chunk.chunkSize = requestedBytes sub := by
  revert succeeded
  fun_cases executeTransferGet session gatewayId checksumPolicy sub token
    gdsChunk
  all_goals
    intro succeeded
    cases succeeded
  case case6 positive rdmaToken dispatcher chunk made response answered =>
    exact ⟨rfl, positive, chunk, response, answered, chunk_of_dispatch made⟩

/-- A chunk that is answered was pushed. -/
theorem pushed_of_gdsGet
    {chunk : GdsChunkRequest}
    {response : GdsChunkResponse}
    (positive : requestedBytes sub ≠ 0)
    (same : chunk.chunkOffset = sub.1.offset ∧
      chunk.chunkSize = requestedBytes sub)
    (answered : layers.gdsGet config rpcFailure chunk = .ok response) :
    ∃ ptr, layers.prepared = .ok ptr ∧
      layers.plane.backend.read (layers.plane.sessions.objects ptr).bucket
          (layers.plane.sessions.objects ptr).objectKey sub.1.offset
          (requestedBytes sub) = .ok (layers.pushed sub) := by
  rw [Layers.gdsGet] at answered
  split at answered
  · cases answered
  · next ptr prepared =>
      refine ⟨ptr, prepared, ?_⟩
      rw [transferGet, same.1, same.2] at answered
      split at answered
      · cases answered
      · next _ transferred =>
          split at transferred
          · cases transferred
          · next head _ =>
              split at transferred
              · cases transferred
              · next served =>
                  obtain ⟨bytes, read, _⟩ :=
                    Versions.serve_of_getChunk head positive served
                  rw [Layers.pushed, prepared]
                  dsimp only
                  rw [read]

/-- A request that succeeds asks for some bytes, returns their number, and leaves
in its buffer what the object has of them. -/
theorem delivered_of_getObjectSingle
    {body : Bytes}
    {request : GetObjectRequest}
    (serves : Serves body request layers)
    (succeeded : getObjectSingle config rpcFailure checksumPolicy layers sub =
      .ok outcome) :
    outcome.bytesTransferred = requestedBytes sub ∧
      requestedBytes sub ≠ 0 ∧
      layers.pushed sub =
        (body.drop sub.1.offset).take (requestedBytes sub) := by
  rw [getObjectSingle] at succeeded
  split at succeeded
  · cases succeeded
  · obtain ⟨returned, positive, chunk, response, answered, same⟩ :=
      answered_of_executeTransferGet succeeded
    obtain ⟨ptr, prepared, read⟩ := pushed_of_gdsGet positive same answered
    obtain ⟨bucket, objectKey⟩ := serves.session ptr prepared
    rw [bucket, objectKey] at read
    obtain ⟨stored, found, bytes⟩ := Versions.read_eq_ok read
    rw [serves.stored] at found
    cases found
    refine ⟨returned, positive, ?_⟩
    rw [bytes, Nat.min_comm, ← List.length_drop]
    exact List.take_eq_take_min.symm

end Single

/-! ## A read that succeeds -/

/-- Results that are all taken are successes, and their bytes are added up. -/
theorem collect_eq_ok
    {soFar outcome : TransferOutcome}
    {results : List (Result TransferOutcome)}
    (collected : collect soFar results = .ok outcome) :
    ∃ outcomes : List TransferOutcome, results = outcomes.map .ok ∧
      outcome.bytesTransferred = soFar.bytesTransferred +
        (outcomes.map TransferOutcome.bytesTransferred).sum := by
  induction results generalizing soFar with
  | nil =>
      cases collected
      exact ⟨[], rfl, rfl⟩
  | cons result results inductionHypothesis =>
      cases result with
      | error => cases collected
      | ok first =>
          obtain ⟨outcomes, rfl, total⟩ := inductionHypothesis collected
          refine ⟨first :: outcomes, rfl, ?_⟩
          rw [total, List.map_cons, List.sum_cons, ← Nat.add_assoc]
          rfl

section Read

variable
  {available : Bool}
  {options : GdsClientOptions}
  {executor : Bool}
  {request : GetObjectRequest}
  {buffer : BufferView}

/-- The requests of a read that passes the checks. -/
theorem servedBy_eq
    (passes : preflightGds available buffer.type = .ok ()) :
    servedBy available options executor request buffer =
      if isSplit options executor request then
        (subRanges (request.length.getD 0)
          (min options.parallelGetChunks (request.length.getD 0))).map
            (subGet request buffer)
      else [(request, buffer)] := by
  rw [servedBy, getObject, passes, isSplit]
  dsimp only
  cases isParallel options executor request with
  | false => rfl
  | true =>
      rw [if_pos rfl, Bool.true_and]
      dsimp only
      rw [getObjectParallel]
      by_cases few : min options.parallelGetChunks
          (request.length.getD 0) ≤ 1
      · rw [if_pos few, if_neg]
        rw [decide_eq_true_iff]
        exact Nat.not_lt.mpr few
      · rw [if_neg few, if_pos (decide_eq_true (Nat.lt_of_not_le few))]

/-- What a request asks for. -/
def askedRange (sub : SubGet) : Range := ⟨sub.1.offset, requestedBytes sub⟩

/-- What the requests of a read ask for is consecutive, and what the read asks
for; each request has its place in the buffer. -/
theorem consecutive_servedBy
    (passes : preflightGds available buffer.type = .ok ()) :
    let subs := servedBy available options executor request buffer
    Consecutive request.offset (subs.map askedRange) ∧
      extent (subs.map askedRange) =
        askedBytes options executor request buffer ∧
      ∀ sub ∈ subs,
        sub.2.data = buffer.data + (sub.1.offset - request.offset) := by
  intro subs
  rw [show subs = _ from servedBy_eq passes, askedBytes]
  split
  · next split_ =>
      have several : 1 < min options.parallelGetChunks
          (request.length.getD 0) := by
        rw [isSplit, Bool.and_eq_true, decide_eq_true_iff] at split_
        exact split_.2
      have exact_ := @exactPartition_several options.parallelGetChunks
        (request.length.getD 0) request buffer (by omega) (Nat.min_le_right _ _)
      have ranges := @consecutive_rangesFrom (request.length.getD 0)
        (min options.parallelGetChunks (request.length.getD 0)) 0
        (List.range (min options.parallelGetChunks (request.length.getD 0)))
        request buffer
      rw [sum_rangeLength _ _ (by omega)] at ranges
      have same : ∀ ranges : List (Nat × Nat),
          (ranges.map (subGet request buffer)).map askedRange =
            (ranges.map (subGet request buffer)).map objectRange := by
        intro ranges
        rw [List.map_map, List.map_map]
        apply List.map_congr_left
        intro range _
        rw [Function.comp_apply, Function.comp_apply, askedRange,
          requestedBytes_subGet]
        rfl
      rw [same]
      exact ⟨ranges.1, ranges.2, fun sub listed => (exact_.placed sub listed).2⟩
  · refine ⟨⟨rfl, trivial⟩, Nat.add_zero _, ?_⟩
    intro sub listed
    cases List.mem_singleton.mp listed
    rw [Nat.sub_self]
    rfl

variable
  {config : Config}
  {rpcFailure : String → Error}
  {checksumPolicy : String}
  {layers : SubGet → Layers}
  {outcome : TransferOutcome}
  {body : Bytes}

/-- A read that succeeds passes the checks, and so does each of its requests; it
returns what they ask for together. -/
theorem singles_of_readObject
    (succeeded : readObject config rpcFailure checksumPolicy available options
      executor request buffer layers = .ok outcome) :
    preflightGds available buffer.type = .ok () ∧
      ∃ outcomes : List TransferOutcome,
        (servedBy available options executor request buffer).map (fun sub =>
          getObjectSingle config rpcFailure checksumPolicy (layers sub) sub) =
            outcomes.map .ok ∧
        outcome.bytesTransferred =
          (outcomes.map TransferOutcome.bytesTransferred).sum := by
  revert succeeded
  rw [readObject]
  split
  · nofun
  · next passes =>
      rw [servedBy_eq passes]
      dsimp only
      split
      · next split_ =>
          intro collected
          have several : ¬min options.parallelGetChunks
              (request.length.getD 0) ≤ 1 := by
            rw [isSplit, Bool.and_eq_true, decide_eq_true_iff] at split_
            omega
          rw [getObjectParallel, if_neg several] at collected
          obtain ⟨outcomes, same, total⟩ := collect_eq_ok collected
          refine ⟨passes, outcomes, same, ?_⟩
          rw [total]
          exact Nat.zero_add _
      · intro single
        refine ⟨passes, [outcome], ?_, ?_⟩
        · rw [List.map_singleton, List.map_singleton, single]
        · rw [List.map_singleton, List.sum_singleton]

/-- What requests return that all succeed. -/
theorem bytesTransferred_of_singles
    {subs : List SubGet}
    {single : SubGet → Result TransferOutcome}
    {outcomes : List TransferOutcome}
    (singles : subs.map single = outcomes.map .ok)
    (returns : ∀ sub outcome, single sub = .ok outcome →
      outcome.bytesTransferred = requestedBytes sub) :
    outcomes.map TransferOutcome.bytesTransferred =
      subs.map requestedBytes := by
  induction subs generalizing outcomes with
  | nil =>
      cases outcomes with
      | nil => rfl
      | cons => cases singles
  | cons sub rest inductionHypothesis =>
      cases outcomes with
      | nil => cases singles
      | cons outcome later =>
          obtain ⟨first, others⟩ := List.cons.inj singles
          rw [List.map_cons, List.map_cons, returns sub outcome first,
            inductionHypothesis others]

/-- A read that succeeds returns what it has asked for, which is not nothing, and
leaves in memory what the object has of it. -/
theorem delivered_of_readObject
    (serves : ∀ sub, Serves body request (layers sub))
    (succeeded : readObject config rpcFailure checksumPolicy available options
      executor request buffer layers = .ok outcome) :
    outcome.bytesTransferred = askedBytes options executor request buffer ∧
      askedBytes options executor request buffer ≠ 0 ∧
      ∀ position,
        elementAt (landed (servedBy available options executor request buffer)
            layers) (buffer.data + position) =
          if position < askedBytes options executor request buffer then
            body[request.offset + position]?
          else none := by
  obtain ⟨passes, outcomes, singles, total⟩ := singles_of_readObject succeeded
  obtain ⟨consecutive, together, placed⟩ := @consecutive_servedBy available
    options executor request buffer passes
  let subs := servedBy available options executor request buffer
  have served : ∀ sub ∈ subs, ∃ single, getObjectSingle config rpcFailure
      checksumPolicy (layers sub) sub = .ok single := by
    intro sub listed
    have member := List.mem_map_of_mem (f := fun sub => getObjectSingle config
      rpcFailure checksumPolicy (layers sub) sub) listed
    rw [singles] at member
    obtain ⟨single, _, same⟩ := List.mem_map.mp member
    exact ⟨single, same.symm⟩
  refine ⟨?_, ?_, ?_⟩
  · rw [total, ← together, extent, List.map_map,
      bytesTransferred_of_singles singles]
    · rfl
    · intro sub single succeeded
      exact (delivered_of_getObjectSingle (serves sub) succeeded).1
  · rw [askedBytes]
    split
    · next split_ =>
        rw [isSplit, Bool.and_eq_true, decide_eq_true_iff] at split_
        omega
    · next whole =>
        obtain ⟨single, succeeded⟩ := served (request, buffer) (by
          rw [show subs = _ from servedBy_eq passes, if_neg whole]
          exact List.mem_singleton_self _)
        exact (delivered_of_getObjectSingle (serves _) succeeded).2.1
  · intro position
    have pieces : landed subs layers = (subs.map askedRange).map fun range =>
        (range.slice body).move request.offset buffer.data := by
      rw [landed, List.map_map]
      apply List.map_congr_left
      intro sub listed
      obtain ⟨single, succeeded⟩ := served sub listed
      obtain ⟨_, _, pushed⟩ :=
        delivered_of_getObjectSingle (serves sub) succeeded
      rw [pushed, placed sub listed]
      rfl
    rw [show landed (servedBy available options executor request buffer)
      layers = _ from pieces,
      elementAt_of_consecutive consecutive le_rfl, together]
    unfold InRange
    exact if_congr (by omega) rfl rfl

/-! ## The theorem -/

/-- The positions of a range that are below a bound. -/
theorem filter_range_lt (size bound : Nat) :
    (List.range size).filter (fun position => decide (position < bound)) =
      List.range (min size bound) := by
  induction size with
  | zero => simp
  | succ size inductionHypothesis =>
      rw [List.range_succ, List.filter_append, inductionHypothesis]
      by_cases below : size < bound
      · have kept : [size].filter (fun position =>
            decide (position < bound)) = [size] := by
          simp [below]
        rw [kept, Nat.min_eq_left (Nat.le_of_lt below),
          Nat.min_eq_left (Nat.succ_le_of_lt below), List.range_succ]
      · have dropped : [size].filter (fun position =>
            decide (position < bound)) = [] := by
          simpa using below
        rw [dropped, List.append_nil, Nat.min_eq_right (by omega),
          Nat.min_eq_right (by omega)]

/-- A read that succeeds returns the number of bytes that it has delivered, and
has delivered those bytes of the object, exactly when the object reaches to the
end of what was asked for, and the buffer does too. -/
theorem reportsDelivered_iff
    (serves : ∀ sub, Serves body request (layers sub))
    (succeeded : readObject config rpcFailure checksumPolicy available options
      executor request buffer layers = .ok outcome) :
    ReportsDelivered body request.offset buffer
        (landed (servedBy available options executor request buffer) layers)
        outcome.bytesTransferred ↔
      RangeInside body options executor request buffer := by
  obtain ⟨returned, asked, delivered⟩ :=
    delivered_of_readObject serves succeeded
  have written : writtenPositions buffer
      (landed (servedBy available options executor request buffer) layers) =
        List.range (min buffer.size
          (min (askedBytes options executor request buffer)
            (body.length - request.offset))) := by
    rw [writtenPositions, ← filter_range_lt]
    apply List.filter_congr
    intro position _
    rw [delivered, Bool.eq_iff_iff, decide_eq_true_iff]
    split
    · rw [Option.isSome_iff_exists, ← Option.ne_none_iff_exists', ne_eq,
        List.getElem?_eq_none_iff]
      omega
    · simp only [Option.isSome_none, Bool.false_eq_true, false_iff]
      omega
  rw [returned, RangeInside]
  constructor
  · intro reports
    have count := reports.count
    rw [written, List.length_range] at count
    omega
  · rintro ⟨inObject, inBuffer⟩
    constructor
    · rw [written, List.length_range]
      omega
    · intro position member
      rw [written, List.mem_range] at member
      have below : position < askedBytes options executor request buffer := by
        omega
      rw [delivered, if_pos below]
      exact ⟨below, rfl⟩

end Read

/-- A session that is opened for the object. -/
private def openedSessions : Gateway.SessionStore :=
  ((Gateway.SessionStore.init "gateway" 10).create
    ⟨"ses", "", "bucket", "object", .get, .gpuDirect, "", 0, 0, "", false⟩
    ⟨(0, 0), (0, 0), (0, 1), "", 0⟩).2

/-- A gateway with an object, whose server pushes all of it. -/
private def holding (body : Bytes) : Layers where
  opened := .ok (⟨"req", "ses", "ticket"⟩, "gateway")
  token := .ok "token"
  prepared := .ok 0
  plane :=
    ⟨openedSessions,
      ⟨{ Gateway.State.init 16 10 with
          backend := ((Gateway.CompositeBackend.init 16).write "bucket" "object"
            body 0).2 }, fun _ => ∅⟩⟩
  transfer := ⟨⟨true, true, true, body.length, "", fun _ => 0⟩, 0, 0, 0⟩

/-- A read of two bytes. -/
private def readTwo : GetObjectRequest :=
  { bucket := "bucket", key := "object", offset := 0, length := some 2,
    timeout := 30000 }

private def byteBuffer : BufferView := ⟨4096, 2, .cudaDevice⟩

private def readConfig : Config := ⟨id, .default, true⟩

private def failure (text : String) : Error := makeInvalidArgument text

private theorem serves_holding_one :
    Serves [7] readTwo (holding [7]) := by
  refine ⟨?_, by decide⟩
  rintro ptr ⟨⟩
  exact ⟨rfl, rfl⟩

private theorem serves_holding_two :
    Serves [7, 8] readTwo (holding [7, 8]) := by
  refine ⟨?_, by decide⟩
  rintro ptr ⟨⟩
  exact ⟨rfl, rfl⟩

private theorem readTwo_two :
    ∃ outcome, readObject readConfig failure "none" true {} false readTwo
      byteBuffer (fun _ => holding [7, 8]) = .ok outcome :=
  ⟨_, rfl⟩

private theorem readTwo_one :
    ∃ outcome, readObject readConfig failure "none" true {} false readTwo
        byteBuffer (fun _ => holding [7]) = .ok outcome ∧
      outcome.bytesTransferred = 2 :=
  ⟨_, rfl, rfl⟩

/-- Both bytes of an object are read. -/
theorem reportsDelivered_iff_two_bytes :
    ∃ outcome, readObject readConfig failure "none" true {} false readTwo
        byteBuffer (fun _ => holding [7, 8]) = .ok outcome ∧
      (ReportsDelivered [7, 8] 0 byteBuffer
          (landed (servedBy true {} false readTwo byteBuffer)
            fun _ => holding [7, 8]) outcome.bytesTransferred ↔
        RangeInside [7, 8] {} false readTwo byteBuffer) :=
  readTwo_two.imp fun _ succeeded =>
    ⟨succeeded, reportsDelivered_iff (fun _ => serves_holding_two) succeeded⟩

/-- Two bytes are read of an object of one byte. -/
theorem short_object_reported_whole :
    ¬∀ config rpcFailure checksumPolicy available options executor request
      buffer layers outcome body,
      (∀ sub, Serves body request (layers sub)) →
        readObject config rpcFailure checksumPolicy available options executor
            request buffer layers = .ok outcome →
          ReportsDelivered body request.offset buffer
            (landed (servedBy available options executor request buffer)
              layers) outcome.bytesTransferred := by
  intro delivers
  obtain ⟨outcome, succeeded, two⟩ := readTwo_one
  have reports := delivers readConfig failure "none" true {} false readTwo
    byteBuffer (fun _ => holding [7]) outcome [7]
    (fun _ => serves_holding_one) succeeded
  have count := reports.count
  rw [two] at count
  revert count
  decide

end Gds
end Client
end TurboAccess
