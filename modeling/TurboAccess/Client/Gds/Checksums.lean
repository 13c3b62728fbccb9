import TurboAccess.Client.Gds.Delivery

/-!
# The checksum of a read

The gateway takes the checksum of the bytes it pushes and answers with it, where
zero stands for no checksum; the client hands it on unless it is zero.  A split
read has one checksum for every range, and hands on none of them.

So a read that has delivered bytes carries their checksum exactly when it is not
split and this checksum is not zero.
-/

namespace TurboAccess
namespace Client
namespace Gds

open Gateway (crc32c)
open Gateway.Gds (Config GdsChunkRequest GdsChunkResponse GetChunkOutcome
  CuObjAnswers getChunk transferGet)
open Tiling (Piece elementAt)

/-- The bytes that pieces leave in the first positions of a buffer. -/
def deliveredBytes
    (buffer : BufferView)
    (pieces : List (Piece UInt8))
    (count : Nat) : Bytes :=
  (List.range count).filterMap fun position =>
    elementAt pieces (buffer.data + position)

/-- An outcome carries the checksum of the bytes that were delivered, if any. -/
def CarriesChecksum (outcome : TransferOutcome) (bytes : Bytes) : Prop :=
  bytes ≠ [] → outcome.serverCrc32c = some (crc32c bytes)

/-- The bytes of the object that a read asks for. -/
def rangeOf
    (body : Bytes)
    (options : GdsClientOptions)
    (executor : Bool)
    (request : GetObjectRequest)
    (buffer : BufferView) : Bytes :=
  (body.drop request.offset).take (askedBytes options executor request buffer)

/-! ## One request -/

/-- The checksum of a chunk is that of the bytes that were read for it. -/
theorem crc32c_of_getChunk
    {options : Gateway.Gds.GdsOptions}
    {backend : Gateway.CompositeBackend}
    {session : Gateway.Session}
    {objectOffset length : Nat}
    {answers : CuObjAnswers}
    {chunk : GetChunkOutcome}
    {call : Option Gateway.Gds.BackendCall}
    {bytes : Bytes}
    (positive : length ≠ 0)
    (read : backend.read session.bucket session.objectKey objectOffset length =
      .ok bytes)
    (answer : getChunk options backend session objectOffset length answers =
      (.ok chunk, call)) :
    chunk.crc32c = crc32c bytes := by
  revert answer
  fun_cases getChunk options backend session objectOffset length answers
  all_goals
    intro answer
    cases answer
  case case2 empty => exact absurd empty positive
  case case6 found foundRead nothing =>
    obtain rfl : found = bytes := Except.ok.inj (foundRead.symm.trans read)
    rw [List.length_eq_zero_iff.mp nothing]
    decide
  case case10 found foundRead _ _ _ _ =>
    obtain rfl : found = bytes := Except.ok.inj (foundRead.symm.trans read)
    rfl

section Single

variable
  {config : Config}
  {rpcFailure : String → Error}
  {checksumPolicy : String}
  {layers : Layers}
  {sub : SubGet}
  {outcome : TransferOutcome}

/-- The answer to a chunk has the checksum of the bytes that are pushed. -/
theorem crc32c_of_gdsGet
    {chunk : GdsChunkRequest}
    {response : GdsChunkResponse}
    (positive : requestedBytes sub ≠ 0)
    (same : chunk.chunkOffset = sub.1.offset ∧
      chunk.chunkSize = requestedBytes sub)
    (answered : layers.gdsGet config rpcFailure chunk = .ok response) :
    response.crc32c = crc32c (layers.pushed sub) := by
  obtain ⟨ptr, prepared, read⟩ := pushed_of_gdsGet positive same answered
  rw [Layers.gdsGet, prepared] at answered
  dsimp only at answered
  rw [transferGet, same.1, same.2] at answered
  split at answered
  · cases answered
  · next transferred =>
      split at transferred
      · cases transferred
      · split at transferred
        · cases transferred
        · next served =>
            cases transferred
            cases answered
            exact crc32c_of_getChunk positive read served

/-- A request that succeeds hands on the checksum of what is pushed, unless it is
zero. -/
theorem serverCrc32c_of_getObjectSingle
    (succeeded : getObjectSingle config rpcFailure checksumPolicy layers sub =
      .ok outcome) :
    outcome.serverCrc32c =
      if crc32c (layers.pushed sub) ≠ 0 then some (crc32c (layers.pushed sub))
      else none := by
  rw [getObjectSingle] at succeeded
  split at succeeded
  · cases succeeded
  · next session gatewayId opened =>
      revert succeeded
      fun_cases executeTransferGet session gatewayId checksumPolicy sub
        layers.token (layers.gdsGet config rpcFailure)
      all_goals
        intro succeeded
        cases succeeded
      case case6 positive rdmaToken dispatcher chunk made response answered =>
        rw [← crc32c_of_gdsGet positive (chunk_of_dispatch made) answered]

end Single

/-! ## A whole read -/

/-- Results are taken without their checksums. -/
theorem serverCrc32c_of_collect
    {soFar outcome : TransferOutcome}
    {results : List (Result TransferOutcome)}
    (collected : collect soFar results = .ok outcome) :
    outcome.serverCrc32c = soFar.serverCrc32c := by
  induction results generalizing soFar with
  | nil =>
      cases collected
      rfl
  | cons result results inductionHypothesis =>
      cases result with
      | error => cases collected
      | ok first =>
          rw [collect] at collected
          rw [inductionHypothesis collected, TransferOutcome.take]

/-- The elements of a list from an offset on, as far as there are any. -/
theorem filterMap_range_getElem?
    {α : Type*}
    (body : List α)
    (offset count : Nat) :
    (List.range count).filterMap (fun position => body[offset + position]?) =
      (body.drop offset).take count := by
  induction count with
  | zero => simp
  | succ count inductionHypothesis =>
      rw [List.range_succ, List.filterMap_append, inductionHypothesis,
        List.take_add_one, List.getElem?_drop]
      cases found : body[offset + count]? <;> simp [found]

section Read

variable
  {available : Bool}
  {options : GdsClientOptions}
  {executor : Bool}
  {request : GetObjectRequest}
  {buffer : BufferView}
  {config : Config}
  {rpcFailure : String → Error}
  {checksumPolicy : String}
  {layers : SubGet → Layers}
  {outcome : TransferOutcome}
  {body : Bytes}

/-- What a read that succeeds has delivered is what the object has of the range
that was asked for. -/
theorem deliveredBytes_of_readObject
    (serves : ∀ sub, Serves body request (layers sub))
    (succeeded : readObject config rpcFailure checksumPolicy available options
      executor request buffer layers = .ok outcome) :
    deliveredBytes buffer
        (landed (servedBy available options executor request buffer) layers)
        outcome.bytesTransferred =
      rangeOf body options executor request buffer := by
  obtain ⟨returned, -, delivered⟩ := delivered_of_readObject serves succeeded
  rw [returned, rangeOf, ← filterMap_range_getElem?]
  apply List.filterMap_congr
  intro position inside
  rw [delivered, if_pos (List.mem_range.mp inside)]

/-- A split read carries no checksum; another one that of the range, unless it is
zero. -/
theorem serverCrc32c_of_readObject
    (serves : ∀ sub, Serves body request (layers sub))
    (succeeded : readObject config rpcFailure checksumPolicy available options
      executor request buffer layers = .ok outcome) :
    outcome.serverCrc32c =
      if isSplit options executor request then none
      else
        let range := rangeOf body options executor request buffer
        if crc32c range ≠ 0 then some (crc32c range) else none := by
  revert succeeded
  rw [readObject]
  split
  · intro failed
    cases failed
  · dsimp only
    split
    · intro collected
      exact serverCrc32c_of_collect collected
    · next whole =>
        intro single
        have asked : askedBytes options executor request buffer =
            requestedBytes (request, buffer) := if_neg whole
        obtain ⟨-, -, pushed⟩ := delivered_of_getObjectSingle (serves _) single
        rw [serverCrc32c_of_getObjectSingle single, pushed, rangeOf, asked]

/-- A read carries the checksum of what it has delivered exactly when that is
nothing, or the read is not split and the checksum of the range is not zero. -/
theorem carriesChecksum_iff
    (serves : ∀ sub, Serves body request (layers sub))
    (succeeded : readObject config rpcFailure checksumPolicy available options
      executor request buffer layers = .ok outcome) :
    CarriesChecksum outcome
        (deliveredBytes buffer
          (landed (servedBy available options executor request buffer) layers)
          outcome.bytesTransferred) ↔
      rangeOf body options executor request buffer = [] ∨
        isSplit options executor request = false ∧
          crc32c (rangeOf body options executor request buffer) ≠ 0 := by
  rw [CarriesChecksum, deliveredBytes_of_readObject serves succeeded,
    serverCrc32c_of_readObject serves succeeded, ne_eq, ← or_iff_not_imp_left]
  apply or_congr_right
  cases isSplit options executor request with
  | true => simp
  | false =>
      dsimp only
      rw [if_neg Bool.false_ne_true]
      split
      · next nonzero => exact iff_of_true rfl ⟨rfl, nonzero⟩
      · next zero => exact iff_of_false nofun fun both => zero both.2

end Read

/-- A gateway session for an object. -/
private def sessionsOfObject : Gateway.SessionStore :=
  ((Gateway.SessionStore.init "gateway" 10).create
    ⟨"ses", "", "bucket", "object", .get, .gpuDirect, "", 0, 0, "", false⟩
    ⟨(0, 0), (0, 0), (0, 1), "", 0⟩).2

/-- A gateway that stores an object, whose server pushes all of it. -/
private def storing (body : Bytes) : Layers where
  opened := .ok (⟨"req", "ses", "ticket"⟩, "gateway")
  token := .ok "token"
  prepared := .ok 0
  plane :=
    ⟨sessionsOfObject,
      ⟨{ Gateway.State.init 16 10 with
          backend := ((Gateway.CompositeBackend.init 16).write "bucket" "object"
            body 0).2 }, fun _ => ∅⟩⟩
  transfer := ⟨⟨true, true, true, body.length, "", fun _ => 0⟩, 0, 0, 0⟩

/-- A read of four bytes. -/
private def readFour : GetObjectRequest :=
  { bucket := "bucket", key := "object", offset := 0, length := some 4,
    timeout := 30000 }

private def fourBytes : BufferView := ⟨4096, 4, .cudaDevice⟩

/-- Options that split every read. -/
private def splitting : GdsClientOptions :=
  { parallelGetThreshold := 1, parallelGetChunks := 2 }

private def cudaConfig : Config := ⟨id, .default, true⟩

/-- Four bytes whose checksum is zero. -/
private def zeroChecksum : Bytes := [171, 155, 224, 155]

private theorem serves_storing
    {body : Bytes}
    (stored : (storing body).plane.backend.data.bodies.lookup
      (Gateway.makeKey "bucket" "object") = some body) :
    Serves body readFour (storing body) := by
  refine ⟨?_, stored⟩
  rintro ptr ⟨⟩
  exact ⟨rfl, rfl⟩

/-- A read of four bytes that is not split. -/
theorem carriesChecksum_iff_four_bytes :
    ∃ outcome, readObject cudaConfig makeInvalidArgument "none" true {} false
        readFour fourBytes (fun _ => storing [1, 2, 3, 4]) = .ok outcome ∧
      (CarriesChecksum outcome
          (deliveredBytes fourBytes
            (landed (servedBy true {} false readFour fourBytes)
              fun _ => storing [1, 2, 3, 4]) outcome.bytesTransferred) ↔
        rangeOf [1, 2, 3, 4] {} false readFour fourBytes = [] ∨
          isSplit {} false readFour = false ∧
            crc32c (rangeOf [1, 2, 3, 4] {} false readFour fourBytes) ≠ 0) := by
  have read : ∃ outcome, readObject cudaConfig makeInvalidArgument "none" true
      {} false readFour fourBytes (fun _ => storing [1, 2, 3, 4]) =
        .ok outcome := ⟨_, rfl⟩
  obtain ⟨outcome, succeeded⟩ := read
  exact ⟨outcome, succeeded,
    carriesChecksum_iff (fun _ => serves_storing (by decide)) succeeded⟩

/-- Neither a split read nor one of four bytes with the checksum zero carries a
checksum. -/
theorem checksum_dropped :
    ¬(∀ config rpcFailure checksumPolicy available options executor request
        buffer layers outcome body,
        isSplit options executor request = true →
          (∀ sub, Serves body request (layers sub)) →
            readObject config rpcFailure checksumPolicy available options
                executor request buffer layers = .ok outcome →
              CarriesChecksum outcome
                (deliveredBytes buffer
                  (landed (servedBy available options executor request buffer)
                    layers) outcome.bytesTransferred)) ∧
      ¬∀ config rpcFailure checksumPolicy available options executor request
        buffer layers outcome body,
        isSplit options executor request = false →
          (∀ sub, Serves body request (layers sub)) →
            readObject config rpcFailure checksumPolicy available options
                executor request buffer layers = .ok outcome →
              CarriesChecksum outcome
                (deliveredBytes buffer
                  (landed (servedBy available options executor request buffer)
                    layers) outcome.bytesTransferred) := by
  constructor
  · intro carries
    have read : ∃ outcome, readObject cudaConfig makeInvalidArgument "none"
        true splitting true readFour fourBytes
          (fun _ => storing [1, 2, 3, 4]) = .ok outcome ∧
        outcome.serverCrc32c = none ∧ outcome.bytesTransferred = 4 :=
      ⟨_, rfl, rfl, rfl⟩
    obtain ⟨outcome, succeeded, nothing, four⟩ := read
    have carried := carries cudaConfig makeInvalidArgument "none" true splitting
      true readFour fourBytes (fun _ => storing [1, 2, 3, 4]) outcome
      [1, 2, 3, 4] (by decide) (fun _ => serves_storing (by decide)) succeeded
    rw [CarriesChecksum, nothing, four] at carried
    exact absurd (carried (by decide)) nofun
  · intro carries
    have read : ∃ outcome, readObject cudaConfig makeInvalidArgument "none"
        true {} false readFour fourBytes (fun _ => storing zeroChecksum) =
          .ok outcome ∧
        outcome.serverCrc32c = none ∧ outcome.bytesTransferred = 4 :=
      ⟨_, rfl, rfl, rfl⟩
    obtain ⟨outcome, succeeded, nothing, four⟩ := read
    have carried := carries cudaConfig makeInvalidArgument "none" true {} false
      readFour fourBytes (fun _ => storing zeroChecksum) outcome zeroChecksum
      (by decide) (fun _ => serves_storing (by decide)) succeeded
    rw [CarriesChecksum, nothing, four] at carried
    exact absurd (carried (by decide)) nofun

end Gds
end Client
end TurboAccess
