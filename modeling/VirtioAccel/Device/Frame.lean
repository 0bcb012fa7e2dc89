import VirtioAccel.Transport.Regions
import VirtioAccel.Device.Response

/-! Preflight of one command frame, before state or backend can be reached. -/

namespace VirtioAccel
variable {σ : Type} [ByteSink σ]

/-- Why a frame has no answer. -/
inductive UnusableFrame where
  | chainLayout (error : ChainLayoutError)
  | request (error : UnrecoverableDecodeError)
  | insufficientResponse (requestId required available : UInt64)
  deriving DecidableEq

/-- What is known of a frame before it is served. -/
inductive FramePreflight where
  | ready (request : DecodedRequest)
  | rejected (requestId : UInt64) (status : StatusCode) (used : UInt32)
  | unusable (frame : UnusableFrame)

/-- The chain shape and the lengths of both ports. -/
def checkChain (decoder : FrameDecoder) (regions : List ChainRegion) (requestBytes responseBytes : UInt64) :
    Except ChainLayoutError Unit := do
  let layout ← validateChainLayout regions decoder.limits.maxChainDescriptors
  layout.validatePortLengths requestBytes responseBytes

def preflightCommandFrame (decoder : FrameDecoder) (reserve : Bool) (regions : List ChainRegion)
    (request : ByteSource) (response : σ) : Except ResponseWriteError FramePreflight × σ :=
  match checkChain decoder regions request.len (ByteSink.len response) with
  | .error error => (.ok (.unusable (.chainLayout error)), response)
  | .ok () =>
    match decoder.decode reserve request (ByteSink.len response) with
    | .ok decoded => (.ok (.ready decoded), response)
    | .error (.protocol requestId status) =>
      let written := ResponseWriter.writeEmpty decoder.limits.maxResponseBytes response status requestId
      (written.1.map (fun used => .rejected requestId status used), written.2)
    | .error (.unrecoverable error) => (.ok (.unusable (.request error)), response)
    | .error (.insufficientResponse requestId required available) =>
      (.ok (.unusable (.insufficientResponse requestId required available)), response)

end VirtioAccel
