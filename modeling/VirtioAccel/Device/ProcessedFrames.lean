import VirtioAccel.Device.DecoderFailures
import VirtioAccel.Device.Answers

/-! What one call of `process` comes to when the writes of its sink succeed. -/

namespace VirtioAccel
variable {V : Handles} {σ τ : Type} [ReliableSink σ]

/-- Preflight never fails for its sink: it leaves the sink alone or writes one header. -/
inductive Preflighted (decoder : FrameDecoder) (reserve : Bool) (request : ByteSource) (sink : Traced σ) :
    Except ResponseWriteError FramePreflight × Traced σ → Prop
  | unusable {frame} : Preflighted decoder reserve request sink (.ok (.unusable frame), sink)
  | ready {decoded} : decoder.decode reserve request (ByteSink.len sink) = .ok decoded →
      Preflighted decoder reserve request sink (.ok (.ready decoded), sink)
  | rejected {requestId status after} : request.Carries requestId → status ≠ .ok →
      Answered sink after requestId status 16 [] → after.writes = sink.writes ++ [(0, 16)] →
      Preflighted decoder reserve request sink (.ok (.rejected requestId status 16), after)

theorem preflightCommandFrame_cases {decoder : FrameDecoder} (limit : 16 ≤ decoder.limits.maxResponseBytes.toNat)
    (reserve : Bool) (regions : List ChainRegion) (request : ByteSource) (sink : Traced σ) :
    Preflighted decoder reserve request sink (preflightCommandFrame decoder reserve regions request sink) := by
  unfold preflightCommandFrame
  split
  · exact .unusable
  split
  · rename_i accepted
    exact .ready accepted
  · rename_i requestId status failed
    obtain ⟨carries, room, bad⟩ := FrameDecoder.decode_rejects failed
    obtain ⟨after, written, answered, recorded⟩ :=
      ResponseWriter.writeEmpty_answered rfl limit room status requestId
    simp only [written]
    exact .rejected carries bad answered recorded
  · exact .unusable
  · exact .unusable

namespace CommandProcessor
variable {p : CommandProcessor V}

/-- What processing a frame can come to. Only a frame that decodes, on a
running processor, reaches a handler. -/
inductive Processed (p : CommandProcessor V) (alloc : Allocator) (request : ByteSource) (sink : Traced σ) :
    Except ResponseWriteError FramePreflight →
    Except CommandProcessError CommandOutcome × CommandProcessor V × Traced σ → Prop
  | unusable {frame} : Processed p alloc request sink (.ok (.unusable frame)) (.ok (.unusable frame), p, sink)
  | rejected {requestId status after} : request.Carries requestId → status ≠ .ok →
      Answered sink after requestId status 16 [] → after.writes = sink.writes ++ [(0, 16)] →
      Processed p alloc request sink (.ok (.rejected requestId status 16))
        (.ok (.response requestId status 16), p, after)
  | stopped {decoded p' after} :
      p.decoder.decode alloc.decodedBindings request (ByteSink.len sink) = .ok decoded → p.health ≠ .running →
      p'.state = p.state → Answered sink after decoded.requestId .deviceLost 16 [] →
      (p.accelerator.ReadsWhole → ∀ i < 16, Covers after.writes i) →
      Processed p alloc request sink (.ok (.ready decoded))
        (.ok (.response decoded.requestId .deviceLost 16), p', after)
  | handled {decoded status used payload p' after} :
      p.decoder.decode alloc.decodedBindings request (ByteSink.len sink) = .ok decoded → p.health = .running →
      (p.serving.dispatch alloc decoded.body).2.Says status payload →
      payload.length ≤ decoded.body.successPayload →
      p'.state = (p.serving.dispatch alloc decoded.body).1.state →
      Answered sink after decoded.requestId status used payload →
      (p.accelerator.ReadsWhole → ∀ i < used.toNat, Covers after.writes i) →
      Processed p alloc request sink (.ok (.ready decoded))
        (.ok (.response decoded.requestId status used), p', after)

/-- Where a response comes from, on a sink whose writes may fail. -/
inductive Responded [HonestSink τ] (p : CommandProcessor V) (alloc : Allocator) (request : ByteSource) (sink : τ)
    (requestId : UInt64) (status : StatusCode) (used : UInt32) (p' : CommandProcessor V) (after : τ) : Prop
  | rejected : request.Carries requestId → status ≠ .ok → Answered sink after requestId status used [] → p' = p →
      Responded p alloc request sink requestId status used p' after
  | stopped {decoded} : p.decoder.decode alloc.decodedBindings request (ByteSink.len sink) = .ok decoded →
      decoded.requestId = requestId → p.health ≠ .running → status = .deviceLost →
      Answered sink after requestId status used [] → p' = p →
      Responded p alloc request sink requestId status used p' after
  | handled {decoded payload} : p.decoder.decode alloc.decodedBindings request (ByteSink.len sink) = .ok decoded →
      decoded.requestId = requestId → p.health = .running →
      (p.serving.dispatch alloc decoded.body).2.Says status payload →
      Answered sink after requestId status used payload →
      p'.state = (p.serving.dispatch alloc decoded.body).1.state →
      ((∀ buffer range, (p.serving.dispatch alloc decoded.body).2 ≠ .transfer buffer range) →
        p' = (p.serving.dispatch alloc decoded.body).1) →
      Responded p alloc request sink requestId status used p' after

theorem process_responded [HonestSink τ] {alloc : Allocator} {regions : List ChainRegion} {request : ByteSource}
    {sink after : τ} {requestId : UInt64} {status : StatusCode} {used : UInt32} {p' : CommandProcessor V}
    (done : p.process alloc regions request sink = (.ok (.response requestId status used), p', after)) :
    Responded p alloc request sink requestId status used p' after := by
  rcases p.process_cases alloc regions request sink with
    ⟨_, _, _, same⟩ | ⟨requestId', status', used', sink', preflight, same⟩ | ⟨_, _, _, same⟩ |
      ⟨decoded, _, accepted, ⟨halted, same⟩ | ⟨running, same⟩⟩
  · cases same.symm.trans done
  · cases same.symm.trans done
    obtain ⟨failed, written⟩ := preflight_rejected preflight
    obtain ⟨carries, _, bad⟩ := FrameDecoder.decode_rejects failed
    obtain ⟨rfl, answered⟩ := ResponseWriter.writeEmpty_written rfl written
    exact .rejected carries bad answered rfl
  · cases same.symm.trans done
  · obtain ⟨_, _, _, outcome, answered, meant, _, kept⟩ := respond_said (same.symm.trans done)
    cases outcome
    cases meant
    exact .stopped accepted rfl halted rfl answered (kept (by simp))
  · obtain ⟨_, _, _, outcome, answered, meant, state, kept⟩ := respond_said (same.symm.trans done)
    cases outcome
    exact .handled accepted rfl running meant answered state kept

/-- What becomes of a frame. -/
theorem process_processed (graph : p.state.Consistent) (limit : 16 ≤ p.decoder.limits.maxResponseBytes.toNat)
    (alloc : Allocator) (regions : List ChainRegion) (request : ByteSource) (sink : Traced σ) :
    Processed p alloc request sink (preflightCommandFrame p.decoder alloc.decodedBindings regions request sink).1
      (p.process alloc regions request sink) := by
  have preflight := preflightCommandFrame_cases limit alloc.decodedBindings regions request sink
  unfold process
  generalize preflightCommandFrame p.decoder alloc.decodedBindings regions request sink = outcome at preflight
  cases preflight with
  | unusable => exact .unusable
  | rejected carries bad answered recorded => exact .rejected carries bad answered recorded
  | @ready decoded accepted =>
    obtain ⟨carries, largest, capacity⟩ := FrameDecoder.decode_carries accepted
    by_cases running : p.health = .running
    · have valid := FrameDecoder.decode_valid accepted
      have handled := dispatch_handled (p := p.serving) graph running alloc valid
      have answers := dispatch_answers (p := p.serving) graph alloc valid
      have whole := dispatch_whole (p := p.serving) graph alloc valid
      have decoder : (p.serving.dispatch alloc decoded.body).1.decoder = p.decoder :=
        (Moves.kept handled.moves).decoder
      have sized := answers.sized
      obtain ⟨status, used, payload, p', after, done, answered, meant, short, state, covers⟩ :=
        respond_answers (p := (p.serving.dispatch alloc decoded.body).1) sink decoded.requestId
          (p.serving.dispatch alloc decoded.body).2 (by rw [decoder]; omega) (by omega)
      simp only [if_neg (not_not.mpr running), done]
      exact .handled accepted running meant (short.trans sized) state answered (fun reads => covers (whole reads))
    · obtain ⟨status, used, payload, p', after, done, answered, meant, short, state, covers⟩ :=
        respond_answers (p := p) sink decoded.requestId (.empty .deviceLost false) limit
          (by simp only [Response.size]; omega)
      simp only [if_pos running, done]
      cases meant
      have length := answered.length
      have sixteen : used = 16 := UInt32.toNat_inj.mp length
      subst sixteen
      exact .stopped accepted running state answered (fun _ => covers trivial)

end CommandProcessor

end VirtioAccel
