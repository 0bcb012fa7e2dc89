import VirtioAccel.Device.ResponseGuarantees

/-! Bytes of the sink beyond the used length. Sinks here may also refuse writes. -/

namespace VirtioAccel
open FramedSink ResponseWriter
variable {V : Handles} {σ : Type} [FramedSink σ]
variable {status : StatusCode} {requestId : UInt64} {used : UInt32} {i : Nat} {sink : σ}

namespace ResponseWriter
variable {maxResponseBytes : UInt32}

theorem writeHeader_outside (sink : σ) (status : StatusCode) (requestId : UInt64) (payloadBytes : UInt32)
    (beyond : 16 ≤ i) : (bytes (writeHeader sink status requestId payloadBytes).2)[i]? =
      (bytes sink)[i]? := by
  refine outside sink 0 _ i (.inr ?_)
  simpa using beyond

theorem writeEmpty_outside (maxResponseBytes : UInt32) (sink : σ) (status : StatusCode) (requestId : UInt64)
    (beyond : 16 ≤ i) : (bytes (writeEmpty maxResponseBytes sink status requestId).2)[i]? =
      (bytes sink)[i]? := by
  unfold writeEmpty
  split
  · rfl
  · exact writeHeader_outside sink status requestId 0 beyond

theorem writeEmpty_used (done : (writeEmpty maxResponseBytes sink status requestId).1 = .ok used) :
    used.toNat = 16 := by
  unfold writeEmpty at done
  split at done
  · cases done
  rename_i total passed
  have same : used = total := commit_used ⟨sink, 0, total⟩ done
  rw [same, (preflight_eq_ok passed).1]
  rfl

/-- A committed window leaves what lies behind it as it was when it was opened. -/
theorem commit_tail {first last : ResponsePayload σ} (start : first.sink = sink)
    (total : first.used.toNat = 16 + first.payloadBytes.toNat) (kept : first.Within last)
    (done : (last.commit status requestId).1 = .ok used) (beyond : used.toNat ≤ i) :
    (bytes (last.commit status requestId).2)[i]? = (bytes sink)[i]? := by
  have same := commit_used last done
  rw [same, kept.used, total] at beyond
  refine (writeHeader_outside last.sink status requestId last.payloadBytes (by omega)).trans ?_
  rw [kept.outside i (.inr beyond), start]

theorem writeBytes_tail {payload : List UInt8}
    (done : (CommandProcessor.writeBytes maxResponseBytes sink status requestId payload).1 = .ok used)
    (beyond : used.toNat ≤ i) :
    (bytes (CommandProcessor.writeBytes maxResponseBytes sink status requestId payload).2)[i]? =
      (bytes sink)[i]? := by
  unfold CommandProcessor.writeBytes at done ⊢
  split at done
  · cases done
  rename_i short
  rw [if_neg short]
  split at done
  · cases done
  rename_i window opened
  obtain ⟨start, size, total, _⟩ := payload_eq_ok opened
  rw [← size] at total
  have kept := ResponsePayload.Within.write window 0 payload
  split at done
  · cases done
  rename_i last written
  rw [written] at kept
  exact commit_tail start total kept done beyond

end ResponseWriter

namespace CommandProcessor
variable {p : CommandProcessor V}
variable {written : Except ResponseWriteError UInt32 × σ} {regions : List ChainRegion} {request : ByteSource}
  {response : σ}

/-- A response leaves the sink beyond its used length as it was. -/
def TailKept (before : σ) (result : Except CommandProcessError CommandOutcome × CommandProcessor V × σ) : Prop :=
  ∀ requestId status used, result.1 = .ok (.response requestId status used) →
    ∀ i : Nat, used.toNat ≤ i → (bytes result.2.2)[i]? = (bytes before)[i]?

omit [FramedSink σ] in
theorem completeResponse_ok (done : written.1 = .ok used) (status : StatusCode) (requestId : UInt64)
    (mutated : Bool) :
    p.completeResponse written status requestId mutated =
    (.ok (.response requestId status used), p, written.2) := by
  rcases written with ⟨_ | total, after⟩
  · cases done
  cases done
  rfl

theorem TailKept.complete {before : σ}
    (kept : ∀ used, written.1 = .ok used → ∀ i : Nat, used.toNat ≤ i → (bytes written.2)[i]? = (bytes before)[i]?)
    (status : StatusCode) (requestId : UInt64) (mutated : Bool) :
    TailKept before (p.completeResponse written status requestId mutated) := by
  intro requestId' status' used done i beyond
  rcases written with ⟨_ | total, after⟩
  · cases done
  cases done
  exact kept used rfl i beyond

/-- The read a frame asks for is made, fails, and has changed the sink behind
the header that then reports the failure. -/
structure TornRead (p : CommandProcessor V) (sink : σ) (requestId : UInt64) (buffer : Owned V .buffer)
    (range : BufferRange) (error : BackendError) : Prop where
  failed : ((p.accelerator.transfer buffer range.offset range.bytes).run
    (⟨sink, range.bytes.toUInt32, UInt32.ofNat (16 + range.bytes.toNat)⟩ : ResponsePayload σ)).1 = .error error
  reported : ∃ used, (writeEmpty p.decoder.limits.maxResponseBytes
    ((p.accelerator.transfer buffer range.offset range.bytes).run
      (⟨sink, range.bytes.toUInt32, UInt32.ofNat (16 + range.bytes.toNat)⟩ : ResponsePayload σ)).2.sink
    (statusFromBackendError error) requestId).1 = .ok used
  torn : ∃ i : Nat, 16 ≤ i ∧ (bytes ((p.accelerator.transfer buffer range.offset range.bytes).run
      (⟨sink, range.bytes.toUInt32, UInt32.ofNat (16 + range.bytes.toNat)⟩ : ResponsePayload σ)).2.sink)[i]? ≠
    (bytes sink)[i]?

theorem transferResponse_tail_iff {buffer : Owned V .buffer} {range : BufferRange}
    (limit : 16 + range.bytes.toNat ≤ p.decoder.limits.maxResponseBytes.toNat)
    (room : 16 + range.bytes.toNat ≤ (ByteSink.len sink).toNat) :
    TailKept sink (p.transferResponse sink requestId buffer range) ↔
      ¬ ∃ error, TornRead p sink requestId buffer range error := by
  have opened := payload_ok sink range.bytes limit room
  obtain ⟨start, size, total, _⟩ := payload_eq_ok opened
  replace total := total.trans (congrArg (16 + ·) size.symm)
  have kept := ResponsePayload.Within.run (p.accelerator.transfer buffer range.offset range.bytes)
    ⟨sink, range.bytes.toUInt32, UInt32.ofNat (16 + range.bytes.toNat)⟩
  obtain ⟨accelerator, ⟨finished, done⟩ | ⟨error, failed, done⟩⟩ :=
    transferResponse_cases requestId buffer opened rfl
  · rw [done]
    refine iff_of_true (.complete (fun used committed i beyond => ?_) _ _ _) ?_
    · exact commit_tail start total kept committed beyond
    rintro ⟨error, torn⟩
    cases finished.symm.trans torn.failed
  rw [done]
  constructor
  · rintro tail ⟨error', torn⟩
    cases failed.symm.trans torn.failed
    obtain ⟨used, reported⟩ := torn.reported
    obtain ⟨i, beyond, changed⟩ := torn.torn
    have sixteen := writeEmpty_used reported
    rw [completeResponse_ok reported] at tail
    have same := tail _ _ _ rfl i (by omega)
    rw [writeEmpty_outside _ _ _ _ beyond] at same
    exact changed same
  · intro whole
    refine .complete (fun used reported i beyond => ?_) _ _ _
    have sixteen := writeEmpty_used reported
    rw [writeEmpty_outside _ _ _ _ (by omega)]
    by_contra changed
    exact whole ⟨error, failed, ⟨used, reported⟩, i, by omega, changed⟩

theorem respond_tail {response : Response V} (settled : ∀ buffer range, response ≠ .transfer buffer range)
    (requestId : UInt64) : TailKept sink (p.respond sink requestId response) := by
  cases response with
  | empty status mutated =>
    refine .complete (fun used done i beyond => ?_) _ _ _
    have sixteen := writeEmpty_used done
    exact writeEmpty_outside _ _ _ _ (by omega)
  | bytes status payload mutated =>
    exact .complete (fun used done i beyond => writeBytes_tail done beyond) _ _ _
  | transfer buffer range => exact absurd rfl (settled buffer range)

theorem preflight_rejected_tail {decoder : FrameDecoder} {reserve : Bool}
    (rejected : preflightCommandFrame decoder reserve regions request response =
      (.ok (.rejected requestId status used), sink))
    (beyond : used.toNat ≤ i) :
    (bytes sink)[i]? = (bytes response)[i]? := by
  obtain ⟨_, written⟩ := preflight_rejected rejected
  have sixteen := writeEmpty_used (congrArg Prod.fst written)
  rw [← show _ = sink from congrArg Prod.snd written]
  exact writeEmpty_outside _ _ _ _ (by omega)

/-- The frame is a read that a running device accepts and its backend tears. -/
structure Tears (p : CommandProcessor V) (alloc : Allocator) (regions : List ChainRegion) (request : ByteSource)
    (response : σ) : Prop where
  chain : checkChain p.decoder regions request.len (ByteSink.len response) = .ok ()
  running : p.health = .running
  read : ∃ decoded id range record buffer error,
    p.decoder.decode alloc.decodedBindings request (ByteSink.len response) = .ok decoded ∧
    decoded.body = .readBuffer id range ∧ p.state.bufferRecord id = .ok record ∧
    validateTransfer record range BufferUsage.transferSource = .ok () ∧ record.resource.get = .ok buffer ∧
    TornRead p response decoded.requestId buffer range error

theorem Tears.preflight {alloc : Allocator} (tears : Tears p alloc regions request response) :
    ∃ decoded, preflightCommandFrame p.decoder alloc.decodedBindings regions request response =
      (.ok (.ready decoded), response) := by
  obtain ⟨decoded, _, _, _, _, _, accepted, _⟩ := tears.read
  exact ⟨decoded, by simp only [preflightCommandFrame, tears.chain, accepted]⟩

/-- A read that reaches the backend, and one that does not. -/
theorem readBuffer_split (p : CommandProcessor V) (id : ObjectId) (range : BufferRange) :
    (∃ record buffer, p.state.bufferRecord id = .ok record ∧
      validateTransfer record range BufferUsage.transferSource = .ok () ∧ record.resource.get = .ok buffer ∧
      p.readBuffer id range = (p, .transfer buffer range)) ∨
    (∃ status mutated, (p.readBuffer id range).2 = .empty status mutated) ∧
      ∀ record buffer, p.state.bufferRecord id = .ok record →
        validateTransfer record range BufferUsage.transferSource = .ok () → record.resource.get = .ok buffer →
        False := by
  unfold readBuffer
  cases found : p.state.bufferRecord id with
  | error error => exact .inr ⟨⟨_, _, rfl⟩, fun _ _ same _ _ => by cases same⟩
  | ok record =>
    cases valid : validateTransfer record range BufferUsage.transferSource with
    | error status =>
      refine .inr ⟨⟨status, false, by simp only [valid]⟩, fun _ _ same fine _ => ?_⟩
      cases same
      cases valid.symm.trans fine
    | ok =>
      cases live : record.resource.get with
      | error error =>
        refine .inr ⟨⟨statusFromDeviceStateError error, false, by simp only [valid, live]; rfl⟩,
          fun _ _ same _ held => ?_⟩
        cases same
        cases live.symm.trans held
      | ok buffer => exact .inl ⟨record, buffer, rfl, valid, live, by simp only [valid, live]⟩

/-- Nothing beyond the used length is written, except by a read that the
backend fails after it has changed the payload window. -/
theorem Reachable.tail_kept_iff (reach : Reachable p) (alloc : Allocator) (regions : List ChainRegion)
    (request : ByteSource) (response : σ) :
    TailKept response (p.process alloc regions request response) ↔ ¬ Tears p alloc regions request response := by
  have graph := reach.accounted.graph
  rcases p.process_cases alloc regions request response with
    ⟨error, sink, preflight, done⟩ | ⟨requestId, status, used, sink, preflight, done⟩ |
      ⟨frame, sink, preflight, done⟩ | ⟨decoded, chain, accepted, ⟨halted, done⟩ | ⟨running, done⟩⟩
  · rw [done]
    refine iff_of_true (fun _ _ _ answered => by cases answered) fun tears => ?_
    obtain ⟨decoded, ready⟩ := tears.preflight
    cases preflight.symm.trans ready
  · rw [done]
    refine iff_of_true (fun _ _ _ answered i beyond => ?_) fun tears => ?_
    · cases answered
      exact preflight_rejected_tail preflight beyond
    obtain ⟨decoded, ready⟩ := tears.preflight
    cases preflight.symm.trans ready
  · rw [done]
    refine iff_of_true (fun _ _ _ answered => by cases answered) fun tears => ?_
    obtain ⟨decoded, ready⟩ := tears.preflight
    cases preflight.symm.trans ready
  · rw [done]
    exact iff_of_true (respond_tail (by simp) _) fun tears => halted tears.running
  · rw [done]
    obtain ⟨_, limit, room⟩ := FrameDecoder.decode_carries accepted
    by_cases reading : ∃ id range, decoded.body = .readBuffer id range
    · obtain ⟨id, range, body⟩ := reading
      rw [body] at limit room ⊢
      simp only [dispatch]
      rcases readBuffer_split p.serving id range with
        ⟨record, buffer, found, valid, live, ready⟩ | ⟨⟨status, mutated, refused⟩, never⟩
      · rw [ready]
        refine (transferResponse_tail_iff (p := p.serving) limit room).trans (not_congr ⟨?_, ?_⟩)
        · rintro ⟨error, torn⟩
          exact ⟨chain, running, decoded, id, range, record, buffer, error, accepted, body, found, valid, live,
            torn.failed, torn.reported, torn.torn⟩
        · rintro ⟨_, _, decoded', id', range', record', buffer', error, accepted', body', found', _, live', torn⟩
          cases accepted.symm.trans accepted'
          cases body.symm.trans body'
          cases found.symm.trans found'
          cases live.symm.trans live'
          exact ⟨error, torn.failed, torn.reported, torn.torn⟩
      · rw [refused]
        refine iff_of_true (respond_tail (by simp) _) ?_
        rintro ⟨_, _, decoded', id', range', record', buffer', error, accepted', body', found', valid', live', _⟩
        cases accepted.symm.trans accepted'
        cases body.symm.trans body'
        exact never record' buffer' found' valid' live'
    · have answers := dispatch_answers (p := p.serving) graph alloc (FrameDecoder.decode_valid accepted)
      refine iff_of_true (respond_tail (fun buffer range same => ?_) _) ?_
      · rw [same] at answers
        generalize decoded.body = body at answers reading
        cases answers
        exact reading ⟨_, _, rfl⟩
      · rintro ⟨_, _, decoded', id', range', _, _, _, accepted', body', _⟩
        cases accepted.symm.trans accepted'
        exact reading ⟨id', range', body'⟩

/-- A request for the eight bytes of the sample buffer. -/
def readFrame : List UInt8 :=
  RequestHeader.codec.encode (RequestHeader.new .readBuffer 24 1) ++
    TransferBufferRequest.codec.encode ⟨(ObjectId.new 0 1 0 .buffer).raw, 0, 8⟩

/-- Eight bytes more than the answer needs, all marked. -/
def marked : SliceSink := ⟨List.replicate 32 7, by decide⟩

def markedRegions : List ChainRegion := [⟨.deviceReadable, 40⟩, ⟨.deviceWritable, 32⟩]

/-- The read fills twenty-four bytes, and the marks behind them stay. -/
theorem Reachable.tail_kept_iff_read : ∃ start, fresh (agreeable sampleInfo) = .ok start ∧
    (start.withBuffer.process roomy markedRegions (.slice readFrame) marked).1 = .ok (.response 1 .ok 24) ∧
    TailKept marked (start.withBuffer.process roomy markedRegions (.slice readFrame) marked) ∧
    (start.withBuffer.process roomy markedRegions (.slice readFrame) marked).2.2.bytes[24]? = some 7 := by
  have outcome {start} (made : fresh (agreeable sampleInfo) = .ok start) :
      (start.withBuffer.process roomy markedRegions (.slice readFrame) marked).1 = .ok (.response 1 .ok 24) := by
    cases made
    decide +kernel
  refine ⟨_, rfl, outcome rfl, ?_⟩
  have kept := (Reachable.tail_kept_iff (Reachable.of_fresh (agreeable sampleInfo) rfl rfl).withBuffer roomy
    markedRegions (.slice readFrame) marked).mpr (by
      rintro ⟨_, _, decoded, id, range, record, buffer, error, accepted, body, _, _, _, torn⟩
      cases accepted
      cases body
      cases torn.failed)
  exact ⟨kept, kept 1 .ok 24 (outcome rfl) 24 (Nat.le_refl _)⟩

/-- A backend whose reads break off after one byte. -/
def tearing (info : DeviceInfo) : Accelerator (fun _ => Unit) where
  deviceInfo := .ok info
  behaviour log call := match call with
    | .readBuffer _ _ _ => Transfer.write 0 [170] (fun _ => .finish (.error (.external 0 5)))
    | call => (agreeable info).behaviour log call
  log := []

def readRegions : List ChainRegion := [⟨.deviceReadable, 40⟩, ⟨.deviceWritable, 24⟩]

/-- The read fails, sixteen bytes are used, and the seventeenth has changed. -/
theorem torn_read_past_used : ∃ start, fresh (tearing sampleInfo) = .ok start ∧ Reachable start.withBuffer ∧
    (start.withBuffer.process roomy readRegions (.slice readFrame) blank).1 = .ok (.response 1 .internalError 16) ∧
    (start.withBuffer.process roomy readRegions (.slice readFrame) blank).2.2.bytes[16]? = some 170 ∧
    ¬ TailKept blank (start.withBuffer.process roomy readRegions (.slice readFrame) blank) := by
  obtain ⟨start, made, outcome, changed⟩ : ∃ start, fresh (tearing sampleInfo) = .ok start ∧
      (start.withBuffer.process roomy readRegions (.slice readFrame) blank).1 =
      .ok (.response 1 .internalError 16) ∧
      (start.withBuffer.process roomy readRegions (.slice readFrame) blank).2.2.bytes[16]? = some 170 :=
    ⟨_, rfl, by decide +kernel, by decide +kernel⟩
  refine ⟨start, made, (Reachable.of_fresh (tearing sampleInfo) rfl made).withBuffer, outcome, changed,
    fun kept => ?_⟩
  have same := kept 1 .internalError 16 outcome 16 (Nat.le_refl _)
  cases changed.symm.trans same

end CommandProcessor

end VirtioAccel
