import VirtioAccel.Device.Decoder

/-! Bounded response framing: the payload goes first, the header commits it. -/

namespace VirtioAccel
variable {σ : Type} [ByteSink σ]

inductive ResponseWriteError where
  | frameTooLarge | insufficientCapacity | sourceAccess | sinkAccess
  deriving DecidableEq

/-- Exact payload destination of one preflighted response. -/
structure ResponsePayload (σ : Type) where
  sink : σ
  payloadBytes : UInt32
  used : UInt32

instance : ByteSink (ResponsePayload σ) where
  len window := window.payloadBytes.toUInt64
  writeAt window offset data :=
    if window.payloadBytes.toNat < offset.toNat + data.length then (.error .outOfBounds, window)
    else
      let written := ByteSink.writeAt window.sink (responseHeaderBytes + offset) data
      (written.1, { window with sink := written.2 })

namespace ResponseWriter

def preflight (maxResponseBytes : UInt32) (capacity payloadBytes : UInt64) : Except ResponseWriteError UInt32 :=
  let total := ResponseHeader.codec.size + payloadBytes.toNat
  if 2 ^ 64 ≤ total then .error .frameTooLarge
  else if maxResponseBytes.toNat < total ∨ 2 ^ 32 ≤ total then .error .frameTooLarge
  else if capacity.toNat < total then .error .insufficientCapacity
  else .ok (UInt32.ofNat total)

def payload (maxResponseBytes : UInt32) (sink : σ) (payloadBytes : UInt64) :
    Except ResponseWriteError (ResponsePayload σ) :=
  match preflight maxResponseBytes (ByteSink.len sink) payloadBytes with
  | .error error => .error error
  | .ok used =>
    if 2 ^ 32 ≤ payloadBytes.toNat then .error .frameTooLarge
    else .ok { sink, payloadBytes := payloadBytes.toUInt32, used }

def writeHeader (sink : σ) (status : StatusCode) (requestId : UInt64) (payloadBytes : UInt32) :
    Except ResponseWriteError Unit × σ :=
  let written :=
    ByteSink.writeAt sink 0 (ResponseHeader.codec.encode (ResponseHeader.new status payloadBytes requestId))
  (written.1.mapError (fun _ => .sinkAccess), written.2)

def writeEmpty (maxResponseBytes : UInt32) (sink : σ) (status : StatusCode) (requestId : UInt64) :
    Except ResponseWriteError UInt32 × σ :=
  match preflight maxResponseBytes (ByteSink.len sink) 0 with
  | .error error => (.error error, sink)
  | .ok used =>
    let written := writeHeader sink status requestId 0
    (written.1.map (fun _ => used), written.2)

end ResponseWriter

/-- Commit the response header after the payload has been initialised. -/
def ResponsePayload.commit (window : ResponsePayload σ) (status : StatusCode) (requestId : UInt64) :
    Except ResponseWriteError UInt32 × σ :=
  let written := ResponseWriter.writeHeader window.sink status requestId window.payloadBytes
  (written.1.map (fun _ => window.used), written.2)

end VirtioAccel
