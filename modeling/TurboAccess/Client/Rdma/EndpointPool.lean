import TurboAccess.Client.Rdma.TransferPath
import TurboAccess.Lib.Protocol

/-!
# The pool of endpoints

The pool keeps idle endpoints by the text of their host and port.  Acquiring a
slot takes an idle endpoint, or creates one and unpacks the remote key on it;
returning a slot destroys its key and keeps the endpoint if there is room;
discarding it destroys the key and closes the endpoint.  The sections under the
mutex of the pool and the calls of the transport are requests here, so that the
operations of several writes may interleave between any two of them.
-/

namespace TurboAccess
namespace Client
namespace UcxEndpointPool

open Program (perform)
open RdmaTransferPath (EpSlot PutCall makeTransportFailure)

/-! ## Requests -/

/-- What the operations of the pool and a write ask for.  `takeIdle` and
`giveIdle` are the sections under the mutex. -/
inductive PoolCall
  | takeIdle (key : String)
  | inetPton (host : String)
  | createEp (host : String) (port : UInt16)
  | unpackRkey (ep : Option Nat) (packedRkey : Bytes)
  | destroyRkey (rkey : Nat)
  | giveIdle (key : String) (slot : EpSlot)
  | closeEp (ep : Option Nat)
  | transfer (call : PutCall)

@[reducible] def PoolCall.Answer : PoolCall → Type
  | .takeIdle _ => Option EpSlot
  | .inetPton _ => Bool
  | .createEp _ _ => Except String Nat
  | .unpackRkey _ _ => Except String Nat
  | .destroyRkey _ => Unit
  | .giveIdle _ _ => Unit
  | .closeEp _ => Unit
  | .transfer call => call.Answer

abbrev PoolProgram := Program PoolCall PoolCall.Answer

def takeIdle (key : String) : PoolProgram (Option EpSlot) :=
  perform (PoolCall.takeIdle key)

def inetPton (host : String) : PoolProgram Bool :=
  perform (PoolCall.inetPton host)

def createEp (host : String) (port : UInt16) :
    PoolProgram (Except String Nat) :=
  perform (PoolCall.createEp host port)

def epRkeyUnpack (ep : Option Nat) (packedRkey : Bytes) :
    PoolProgram (Except String Nat) :=
  perform (PoolCall.unpackRkey ep packedRkey)

def giveIdle (key : String) (slot : EpSlot) : PoolProgram Unit :=
  perform (PoolCall.giveIdle key slot)

def closeEp (ep : Option Nat) : PoolProgram Unit :=
  perform (PoolCall.closeEp ep)

/-- Destroy a key unless it is null. -/
def rkeyDestroy : Option Nat → PoolProgram Unit
  | none => pure ()
  | some rkey => perform (PoolCall.destroyRkey rkey)

/-! ## Operations -/

/-- The text under which the pool keeps endpoints. -/
def key (host : String) (port : UInt16) : String :=
  host ++ ":" ++ toString port.toNat

/-- A failed unpacking leaves the key of a new endpoint null. -/
def acquire (host : String) (port : UInt16) (packedRkey : Bytes) :
    PoolProgram (Result EpSlot) := do
  match ← takeIdle (key host port) with
  | some slot => pure (.ok slot)
  | none =>
      let valid ← inetPton host
      if valid = false then
        pure (.error (makeTransportFailure ("invalid UCX host: " ++ host) ""
          false))
      else
        match ← createEp host port with
        | .error status => pure (.error (makeTransportFailure status "" true))
        | .ok ep =>
            if packedRkey = [] then pure (.ok ⟨some ep, none⟩)
            else
              match ← epRkeyUnpack (some ep) packedRkey with
              | .error _ => pure (.ok ⟨some ep, none⟩)
              | .ok rkey => pure (.ok ⟨some ep, some rkey⟩)

def giveBack (host : String) (port : UInt16) (slot : EpSlot) :
    PoolProgram Unit :=
  if slot.ep = none then pure ()
  else do
    rkeyDestroy slot.rkey
    giveIdle (key host port) { slot with rkey := none }

def discard (slot : EpSlot) : PoolProgram Unit :=
  if slot.ep = none then pure ()
  else do
    rkeyDestroy slot.rkey
    closeEp slot.ep

/-- What a request of a write does with the pool of the client. -/
def handler : (call : PutCall) → PoolProgram call.Answer
  | .acquire host port packedRkey => acquire host port packedRkey
  | .giveBack host port slot => giveBack host port slot
  | .discard slot => discard slot
  | .unpackRkey ep packedRkey => epRkeyUnpack ep packedRkey
  | .now => perform (PoolCall.transfer .now)
  | .randomWord => perform (PoolCall.transfer .randomWord)
  | .openSession opening => perform (PoolCall.transfer (.openSession opening))
  | .prepareTransfer sessionId transferBytes =>
      perform (PoolCall.transfer (.prepareTransfer sessionId transferBytes))
  | .putAndNotify ep data size gwRaddr gwRkey sessionId deadline =>
      perform (PoolCall.transfer
        (.putAndNotify ep data size gwRaddr gwRkey sessionId deadline))
  | .commitObject request =>
      perform (PoolCall.transfer (.commitObject request))
  | .commitPart request => perform (PoolCall.transfer (.commitPart request))
  | .abortSession sessionId =>
      perform (PoolCall.transfer (.abortSession sessionId))

/-! ## The pool and the transport -/

/-- The idle slots of the pool by their key, and what the transport has: live
endpoints with their peers, and live keys with the endpoints that they were
unpacked on and the bytes that they were unpacked from. -/
structure Transport where
  idle : String → List EpSlot
  endpoints : Nat → Option (String × UInt16)
  rkeys : Nat → Option (Nat × Bytes)

/-- A pool that was just made. -/
def Transport.new : Transport := ⟨fun _ => [], fun _ => none, fun _ => none⟩

/-- Close an endpoint. -/
def Transport.close (transport : Transport) : Option Nat → Transport
  | none => transport
  | some ep =>
      { transport with
        endpoints := Function.update transport.endpoints ep none }

/-- What a request may answer and does.  The handle of a new endpoint or key is
that of no live one; those of dead ones may come again. -/
inductive Effect (maxIdle : Nat) :
    Transport → Request PoolCall PoolCall.Answer → Transport → Prop
  | taken {transport : Transport} {key : String} {slot : EpSlot}
      {rest : List EpSlot}
      (found : transport.idle key = slot :: rest) :
      Effect maxIdle transport ⟨.takeIdle key, some slot⟩
        { transport with idle := Function.update transport.idle key rest }
  | missed {transport : Transport} {key : String}
      (empty : transport.idle key = []) :
      Effect maxIdle transport ⟨.takeIdle key, none⟩ transport
  | parsed {transport : Transport} {host : String} {valid : Bool} :
      Effect maxIdle transport ⟨.inetPton host, valid⟩ transport
  | created {transport : Transport} {host : String} {port : UInt16} {ep : Nat}
      (fresh : transport.endpoints ep = none) :
      Effect maxIdle transport ⟨.createEp host port, .ok ep⟩
        { transport with
          endpoints :=
            Function.update transport.endpoints ep (some (host, port)) }
  | notCreated {transport : Transport} {host : String} {port : UInt16}
      {status : String} :
      Effect maxIdle transport ⟨.createEp host port, .error status⟩ transport
  | unpacked {transport : Transport} {ep : Nat} {packedRkey : Bytes}
      {rkey : Nat}
      (fresh : transport.rkeys rkey = none) :
      Effect maxIdle transport ⟨.unpackRkey (some ep) packedRkey, .ok rkey⟩
        { transport with
          rkeys := Function.update transport.rkeys rkey
            (some (ep, packedRkey)) }
  | notUnpacked {transport : Transport} {ep : Option Nat} {packedRkey : Bytes}
      {status : String} :
      Effect maxIdle transport ⟨.unpackRkey ep packedRkey, .error status⟩
        transport
  | destroyed {transport : Transport} {rkey : Nat} :
      Effect maxIdle transport ⟨.destroyRkey rkey, ()⟩
        { transport with rkeys := Function.update transport.rkeys rkey none }
  | kept {transport : Transport} {key : String} {slot : EpSlot}
      (room : (transport.idle key).length < maxIdle) :
      Effect maxIdle transport ⟨.giveIdle key slot, ()⟩
        { transport with
          idle := Function.update transport.idle key
            (transport.idle key ++ [slot]) }
  | full {transport : Transport} {key : String} {slot : EpSlot}
      (full : ¬ (transport.idle key).length < maxIdle) :
      Effect maxIdle transport ⟨.giveIdle key slot, ()⟩
        (transport.close slot.ep)
  | closed {transport : Transport} {ep : Option Nat} :
      Effect maxIdle transport ⟨.closeEp ep, ()⟩ (transport.close ep)
  | transferred {transport : Transport} {call : PutCall}
      {reply : call.Answer} :
      Effect maxIdle transport ⟨.transfer call, reply⟩ transport

/-- A key is that of one host and port only. -/
theorem key_inj
    {firstHost secondHost : String}
    {firstPort secondPort : UInt16}
    (same : key firstHost firstPort = key secondHost secondPort) :
    firstHost = secondHost ∧ firstPort = secondPort := by
  have noColon : ∀ number, ':' ∉ (Nat.toDigits 10 number).reverse := by
    intro number member
    have digit := Nat.isDigit_of_mem_toDigits (by decide) (by decide)
      (List.mem_reverse.mp member)
    revert digit
    decide
  have texts := congrArg (fun text => text.toList.reverse) same
  simp only [key, String.toList_append, Nat.toString_eq_repr, Nat.toList_repr,
    List.reverse_append, List.append_assoc] at texts
  obtain ⟨digits, hosts⟩ :=
    append_separator_inj (noColon _) (noColon _) texts
  have digits := List.reverse_injective digits
  refine ⟨String.toList_injective (List.reverse_injective hosts), ?_⟩
  apply UInt16.toNat_inj.mp
  rw [← @Nat.ofDigitChars_ten_toDigits firstPort.toNat, digits,
    Nat.ofDigitChars_ten_toDigits]

end UcxEndpointPool
end Client
end TurboAccess
