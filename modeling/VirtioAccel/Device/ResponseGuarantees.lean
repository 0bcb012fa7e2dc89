import VirtioAccel.Device.EngineGuarantees
import VirtioAccel.Device.ProcessedFrames

/-! What a guest may rely on about the bytes of a response. -/

namespace VirtioAccel
open Checked
variable {V : Handles} {σ : Type}
variable {config : WireConfig}

theorem WireConfig.validate_eq_ok (valid : config.validate = .ok ()) :
    minMaxRequestBytes ≤ config.maxRequestBytes ∧ minMaxResponseBytes ≤ config.maxResponseBytes := by
  simp only [WireConfig.validate] at valid
  iterate 4
    split at valid
    · cases valid
  rename_i request
  split at valid
  · cases valid
  rename_i response
  exact ⟨(not_not.mp request).1, (not_not.mp response).1⟩

/-- A decoder that could be made takes a header and one object identifier, and
has room to answer with a header. -/
theorem DecoderLimits.new_room {info : DeviceInfo} {limits : DecoderLimits}
    (made : DecoderLimits.new config info = .ok limits) :
    24 ≤ limits.maxRequestBytes.toNat ∧ 16 ≤ limits.maxResponseBytes.toNat := by
  simp only [DecoderLimits.new, bind_eq_ok, mapError_eq_ok, pure_eq_ok] at made
  obtain ⟨_, valid, _, _, _, _, _, _, rfl⟩ := made
  obtain ⟨request, response⟩ := WireConfig.validate_eq_ok valid
  have leastRequest : minMaxRequestBytes.toNat = 97 := rfl
  have leastResponse : minMaxResponseBytes.toNat = 92 := rfl
  rw [UInt32.le_iff_toNat_le] at request response
  dsimp only
  omega

/-- The header that starts a response of this length, and the request it answers. -/
structure Headed [FramedSink σ] (request : ByteSource) (after : σ) (requestId : UInt64) (status : StatusCode)
    (used : UInt32) (header : ResponseHeader) : Prop where
  carried : request.Carries requestId
  bytes : (FramedSink.bytes after).take 16 = ResponseHeader.codec.encode header
  requestId : header.requestId = requestId
  flags : header.flags = 0
  status : header.status = status.value
  length : used.toNat = 16 + header.payloadBytes.toNat

theorem Answered.headed [FramedSink σ] {request : ByteSource} {before after : σ} {requestId : UInt64}
    {status : StatusCode} {used : UInt32} {payload : List UInt8} (carried : request.Carries requestId)
    (answered : Answered before after requestId status used payload) :
    ∃ header, Headed request after requestId status used header := by
  have length := answered.length
  have small := used.toNat_lt
  refine ⟨ResponseHeader.new status (UInt32.ofNat payload.length) requestId, carried, ?_, rfl, rfl, rfl, ?_⟩
  · have bytes := congrArg (List.take 16) answered.bytes
    rw [List.take_take, Nat.min_eq_left (by omega)] at bytes
    exact bytes.trans (List.take_left' (ResponseHeader.codec.encode_length _))
  · rw [length]
    simp only [ResponseHeader.new, UInt32.toNat_ofNat']
    rw [Nat.mod_eq_of_lt (by omega)]

namespace CommandProcessor
variable {p : CommandProcessor V}

theorem Reachable.frame_room (reach : Reachable p) :
    24 ≤ p.decoder.limits.maxRequestBytes.toNat ∧ 16 ≤ p.decoder.limits.maxResponseBytes.toNat := by
  induction reach with
  | new unused created =>
    simp only [CommandProcessor.new, bind_eq_ok, mapError_eq_ok, pure_eq_ok] at created
    obtain ⟨_, _, info, _, _, _, limits, made, state, _, rfl⟩ := created
    exact DecoderLimits.new_room made
  | process alloc regions request response reach ih =>
    rw [(Moves.kept (process_moves reach.accounted.graph alloc regions request response)).decoder]
    exact ih
  | reset ns reach ih =>
    rw [(Moves.kept (reset_moves reach.accounted.graph ns)).decoder]
    exact ih

/-- Responses are framed as the wire format says, for any chain, frame and
sink, and a frame that preflight stops changes nothing but its own header. -/
theorem Reachable.response_framed [ReliableSink σ] (reach : Reachable p) (whole : p.accelerator.ReadsWhole)
    (alloc : Allocator) (regions : List ChainRegion) (request : ByteSource) (response : σ) :
    ∃ outcome p' after writes, p.process alloc regions request response = (.ok outcome, p', after) ∧
      p.process alloc regions request (Traced.start response) = (.ok outcome, p', ⟨after, writes⟩) ∧
      (∀ frame, outcome = .unusable frame → after = response ∧ writes = [] ∧ p' = p) ∧
      (∀ requestId status used, (preflightCommandFrame p.decoder alloc.decodedBindings regions request response).1 =
          .ok (.rejected requestId status used) →
        outcome = .response requestId status used ∧ used = 16 ∧ writes = [(0, 16)] ∧ p' = p) ∧
      ∀ requestId status used, outcome = .response requestId status used →
        (∃ header, Headed request after requestId status used header) ∧
        used.toNat ≤ (ByteSink.len response).toNat ∧ used ≤ p.decoder.limits.maxResponseBytes ∧
        ∀ i < used.toNat, Covers writes i := by
  have limit := reach.frame_room.2
  have processed := process_processed reach.accounted.graph limit alloc regions request (Traced.start response)
  have bare : p.process alloc regions request (Traced.start response).sink = _ := Traced.forgets.process p
  have checked : (preflightCommandFrame p.decoder alloc.decodedBindings regions request (Traced.start response)).1 =
      (preflightCommandFrame p.decoder alloc.decodedBindings regions request response).1 :=
    (congrArg Prod.fst (Traced.forgets.preflight (Traced.start response))).symm
  rw [checked] at processed
  generalize p.process alloc regions request (Traced.start response) = result at processed bare
  generalize (preflightCommandFrame p.decoder alloc.decodedBindings regions request response).1 =
    preflight at processed
  cases processed with
  | unusable =>
    refine ⟨_, _, _, _, bare, rfl, ?_, ?_, ?_⟩
    · intro _ _
      exact ⟨rfl, rfl, rfl⟩
    · intro _ _ _ rejected
      cases rejected
    · intro _ _ _ answered
      cases answered
  | rejected carried bad answered recorded =>
    refine ⟨_, _, _, _, bare, rfl, ?_, ?_, ?_⟩
    · intro _ unusable
      cases unusable
    · intro _ _ _ rejected
      cases rejected
      exact ⟨rfl, rfl, recorded, rfl⟩
    · intro _ _ _ same
      cases same
      refine ⟨answered.forget.headed carried, answered.fits, UInt32.le_iff_toNat_le.mpr limit, fun i below => ?_⟩
      rw [recorded]
      exact .header below
  | stopped accepted halted same answered covers =>
    refine ⟨_, _, _, _, bare, rfl, ?_, ?_, ?_⟩
    · intro _ unusable
      cases unusable
    · intro _ _ _ rejected
      cases rejected
    · intro _ _ _ same
      cases same
      obtain ⟨carried, _⟩ := FrameDecoder.decode_carries accepted
      exact ⟨answered.forget.headed carried, answered.fits, UInt32.le_iff_toNat_le.mpr limit, covers whole⟩
  | handled accepted running meant short same answered covers =>
    refine ⟨_, _, _, _, bare, rfl, ?_, ?_, ?_⟩
    · intro _ unusable
      cases unusable
    · intro _ _ _ rejected
      cases rejected
    · intro _ _ _ same
      cases same
      obtain ⟨carried, largest, _⟩ := FrameDecoder.decode_carries accepted
      have length := answered.length
      exact ⟨answered.forget.headed carried, answered.fits, UInt32.le_iff_toNat_le.mpr (by omega), covers whole⟩

theorem agreeable_readsWhole (info : DeviceInfo) : (agreeable info).ReadsWhole := by
  intro log buffer offset bytes _ i below
  have wrote : ((Transfer.write 0 (List.replicate bytes.toNat 0) Transfer.finish).writes bytes).2 =
      [(0, bytes.toNat)] := by
    simp [Transfer.writes]
  change Covers ((Transfer.write 0 (List.replicate bytes.toNat 0) Transfer.finish).writes bytes).2 i
  rw [wrote]
  exact ⟨(0, bytes.toNat), by simp, Nat.zero_le i, by omega⟩

/-- A request for a context, in a chain with room for an object ID. -/
def createFrame : List UInt8 :=
  RequestHeader.codec.encode (RequestHeader.new .createContext 8 1) ++ CreateContextRequest.codec.encode ⟨0, 0⟩

def createRegions : List ChainRegion := [⟨.deviceReadable, 24⟩, ⟨.deviceWritable, 24⟩]

def blank : SliceSink := ⟨List.replicate 24 0, by decide⟩

/-- The answer to CREATE_CONTEXT writes each of its 24 bytes. -/
theorem Reachable.response_framed_create : ∃ start p' after writes, fresh (agreeable sampleInfo) = .ok start ∧
    start.process roomy createRegions (.slice createFrame) (Traced.start blank) =
      (.ok (.response 1 .ok 24), p', ⟨after, writes⟩) ∧
    (∃ header, Headed (.slice createFrame) after 1 .ok 24 header) ∧ ∀ i < 24, Covers writes i := by
  obtain ⟨outcome, p', after, writes, _, traced, _, _, framed⟩ := Reachable.response_framed
    (Reachable.of_fresh (agreeable sampleInfo) rfl rfl) (agreeable_readsWhole sampleInfo) roomy createRegions
    (.slice createFrame) blank
  have answered : outcome = .response 1 .ok 24 := by
    have evaluated := congrArg Prod.fst traced
    exact (Except.ok.inj evaluated).symm
  obtain ⟨headed, _, _, covers⟩ := framed 1 .ok 24 answered
  exact ⟨_, p', after, writes, rfl, by rw [← answered]; exact traced, headed, covers⟩

end CommandProcessor

end VirtioAccel
