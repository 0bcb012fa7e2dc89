import VirtioAccel.Guest.RoundTrip
import VirtioAccel.Device.ResponseGuarantees

/-! Every response of the device is one the guest understands. -/

namespace VirtioAccel.Guest
open List CommandProcessor
open DriverChainBytes (readable writable)
variable {V : Handles} {Q χ ε θ σ : Type} [DriverChainBytes χ ε]

/-- The state of an event as the guest learns it. -/
def EventState.reported : VirtioAccel.EventState → EventState
  | .pending => .pending
  | .complete => .complete
  | .failed error => .failed (statusFromBackendError error)
  | .cancelled => .cancelled

/-- The handle names an object the command made. -/
def Made (p p' : CommandProcessor V) (epoch : QueueEpoch) (kind : ObjectKind) (handle : Handle) : Prop :=
  handle.epoch = epoch ∧ Appears p p' kind handle.id

/-- What the guest is told is what the device did. A poll is about the event
it names. -/
def Reports (p p' : CommandProcessor V) (start : Start) (epoch : QueueEpoch) (status : StatusCode) (used : UInt32) :
    (operation : Operation) → OperationResult operation.Output → Prop
  | _, .deviceError reported => reported = status ∧ status ≠ .ok
  | .createContext, .success context => status = .ok ∧ Made p p' epoch .context context.handle
  | .allocateBuffer _ _, .success buffer => status = .ok ∧ Made p p' epoch .buffer buffer.handle
  | .loadProgram _ _, .success program => status = .ok ∧ Made p p' epoch .program program.handle
  | .createExecutionQueue _, .success queue => status = .ok ∧ Made p p' epoch .queue queue.handle
  | .submit _, .success (.accepted event) => status = .ok ∧ Made p p' epoch .event event.handle
  | .submit _, .success (.indeterminate reported event) =>
    reported = status ∧ status ≠ .ok ∧ Made p p' epoch .event event.handle
  | .readBuffer _, .success output => status = .ok ∧ used.toNat = 16 + output.bytes.toNat
  | .pollEvent, .success state => status = .ok ∧ ∃ named record event found, start = .pollEvent named ∧
      p.state.Holds .event named.handle.id record event ∧
      p'.accelerator.log =
        p.accelerator.log ++
        [⟨p.state, .pollEvent event, (.ok found : Except BackendError VirtioAccel.EventState)⟩] ∧
      state = EventState.reported found
  | _, .success _ => status = .ok

theorem isSuccess_eq_false {status : StatusCode} (bad : status ≠ .ok) : status.isSuccess = false := by
  simp only [StatusCode.isSuccess, beq_eq_false_iff_ne]
  exact fun same => bad (congrArg StatusCode.mk same)

theorem statusFromBackendError_known (error : BackendError) : (statusFromBackendError error).isKnown = true := by
  cases error <;> rfl

namespace Operation
variable {chain : χ} {epoch : QueueEpoch} {config : GuestConfig}
variable {id : ObjectId}

/-- A failure without a payload is understood by every operation. -/
theorem decode_refused (operation : Operation) {status : StatusCode} (bad : status ≠ .ok) :
    operation.decode chain status 0 epoch config = .ok (.deviceError status) := by
  have failed := isSuccess_eq_false bad
  cases operation <;> simp [decode, ordinaryObject, ordinary, decodeSubmit, failed, expectPayload,
    Checked.refuseIf]; rfl

theorem objectId_raw (id : ObjectId) : (objectId id.raw : Except (ResponseError ε) ObjectId) = .ok id := by
  simp [objectId, ObjectId.fromRaw, id.nonzero]

theorem ordinaryObject_read {T : Type} (construct : ObjectId → T)
    (read : readPayload chain ObjectPayload.codec = .ok ⟨id.raw⟩) :
    ordinaryObject .ok 8 chain construct = .ok (.success (construct id)) := by
  have paid : (expectPayload 8 (UInt64.ofNat ObjectPayload.codec.size) : Except (ResponseError ε) Unit) = .ok () :=
    rfl
  simp only [ordinaryObject, ordinary, paid, read, bind, Except.bind, objectId_raw]
  rfl

theorem decodeEvent_read (epoch : QueueEpoch) (context : ObjectId)
    (read : readPayload chain SubmitResponse.codec = .ok ⟨id.raw⟩) :
    decodeEvent chain epoch context = .ok { handle := ⟨id, epoch⟩, context := some context } := by
  simp only [decodeEvent, read, bind, Except.bind, objectId_raw]
  rfl

/-- A submission that carries an event: accepted, or in doubt. -/
theorem decodeSubmit_paid (epoch : QueueEpoch) (context : ObjectId)
    (read : readPayload chain SubmitResponse.codec = .ok ⟨id.raw⟩) :
    decodeSubmit context chain .ok (UInt32.ofNat (SubmitResponse.codec.encode ⟨id.raw⟩).length) epoch =
        .ok (.success (.accepted { handle := ⟨id, epoch⟩, context := some context })) ∧
      ∀ error, decodeSubmit context chain (statusFromBackendError error)
          (UInt32.ofNat (SubmitResponse.codec.encode ⟨id.raw⟩).length) epoch =
        .ok (.success (.indeterminate (statusFromBackendError error)
            { handle := ⟨id, epoch⟩, context := some context })) := by
  have size : UInt32.ofNat (SubmitResponse.codec.encode ⟨id.raw⟩).length = 8 := by
    rw [SubmitResponse.codec.encode_length]
    rfl
  have paid : (expectPayload 8 (UInt64.ofNat SubmitResponse.codec.size) : Except (ResponseError ε) Unit) = .ok () :=
    rfl
  have event := decodeEvent_read epoch context read
  refine ⟨?_, fun error => ?_⟩
  · simp only [size, decodeSubmit, paid, event]
    rfl
  simp only [size, decodeSubmit, paid, event, isSuccess_eq_false (statusFromBackendError_ne_ok error),
    statusFromBackendError_known error]
  rfl

theorem decodeEventState_read {state : VirtioAccel.EventState}
    (read : readPayload chain WireEventState.codec = .ok (wireEventState state)) :
    decodeEventState chain = .ok (EventState.reported state) := by
  simp only [decodeEventState, read, bind, Except.bind]
  cases state with
  | pending | complete | cancelled => rfl
  | failed error => cases error <;> rfl

end Operation

/-- A chain whose response area starts with this response. -/
structure Holds (chain : χ) (requestId : UInt64) (status : StatusCode) (used : UInt32) (payload : List UInt8) :
    Prop where
  length : used.toNat = 16 + payload.length
  fits : used.toNat ≤ (writable chain).length
  bytes : (writable chain).take used.toNat =
    ResponseHeader.codec.encode (ResponseHeader.new status (UInt32.ofNat payload.length) requestId) ++ payload

namespace Holds
variable {chain : χ} {requestId : UInt64} {status : StatusCode} {used : UInt32}

theorem reads {payload : List UInt8} (holds : Holds chain requestId status used payload) {offset : UInt64} {n : Nat}
    (within : offset.toNat + n ≤ used.toNat) :
    DriverChainBuffer.readDeviceWritable chain offset n = .ok (((ResponseHeader.codec.encode
      (ResponseHeader.new status (UInt32.ofNat payload.length) requestId) ++ payload).drop offset.toNat).take
        n) := by
  rw [DriverChainBytes.reads chain offset n (within.trans holds.fits), ← holds.bytes, drop_take, take_take,
    Nat.min_eq_left (by omega)]

theorem header {payload : List UInt8} (holds : Holds chain requestId status used payload) :
    DriverChainBuffer.readDeviceWritable chain 0 ResponseHeader.codec.size =
      .ok (ResponseHeader.codec.encode (ResponseHeader.new status (UInt32.ofNat payload.length) requestId)) := by
  have length := holds.length
  have size := ResponseHeader.codec_size
  rw [holds.reads (by rw [size]; exact show 0 + 16 ≤ used.toNat by omega), UInt64.toNat_zero, drop_zero,
    take_left' (ResponseHeader.codec.encode_length _)]

/-- The payload of a response is read back. -/
theorem payload {T : Type} {codec : Codec T} {value : T}
    (holds : Holds chain requestId status used (codec.encode value))
    (small : codec.size ≤ Operation.maxFixedPayloadBytes) : Operation.readPayload chain codec = .ok value := by
  have length := holds.length
  have size := codec.encode_length value
  have head := ResponseHeader.codec.encode_length
    (ResponseHeader.new status (UInt32.ofNat (codec.encode value).length) requestId)
  unfold Operation.readPayload
  rw [if_neg (Nat.not_lt.mpr small), holds.reads (show 16 + codec.size ≤ used.toNat by omega),
    show (16 : UInt64).toNat = ResponseHeader.codec.size from rfl, ← head, drop_left, ← size, take_length]
  simp only [codec.decode_encode]

/-- A response with the awaited request ID that fits the client's limit comes
down to what the operation makes of it. -/
theorem validate {payload : List UInt8} {client : GuestClient Q χ} {pending : Pending}
    (holds : Holds chain pending.requestId status used payload)
    (limit : used.toNat ≤ client.config.wire.maxResponseBytes.toNat) :
    client.validateResponse pending chain used =
      pending.operation.decode chain status (UInt32.ofNat payload.length) pending.epoch client.config := by
  have length := holds.length
  have bound := used.toNat_lt
  have read : (DriverChainBuffer.readDeviceWritable chain 0 ResponseHeader.codec.size).mapError
    ResponseError.headerAccess =
      .ok (ResponseHeader.codec.encode
          (ResponseHeader.new status (UInt32.ofNat payload.length) pending.requestId)) := by
    rw [holds.header]
    rfl
  have long : ¬ used.toUInt64 < responseHeaderBytes := by
    rw [UInt64.lt_iff_toNat_lt, UInt32.toNat_toUInt64, responseHeaderBytes_toNat]
    omega
  have short : ¬ client.config.wire.maxResponseBytes < used := by
    rw [UInt32.lt_iff_toNat_lt]
    omega
  have total : responseHeaderBytes + (UInt32.ofNat payload.length).toUInt64 = used.toUInt64 := by
    rw [← UInt64.toNat_inj, UInt64.toNat_add, responseHeaderBytes_toNat, UInt32.toNat_toUInt64,
      UInt32.toNat_toUInt64,
      UInt32.toNat_ofNat_of_lt' (show payload.length < 2 ^ 32 by omega), Nat.mod_eq_of_lt (by omega),
      length]
  simp only [GuestClient.validateResponse, read, bind, Except.bind, ResponseHeader.codec.decode_encode]
  simp [Checked.refuseIf, long, short, total, ResponseHeader.new]

end Holds

namespace GuestClient
variable [DriverQueue Q χ θ] {p p' : CommandProcessor V} {start : Start} {chain : χ}

omit [DriverQueue Q χ θ] in
/-- What a handler chose to answer, as the guest understands it. -/
theorem answers_report {body : DecodedRequestBody} {response : Response V} {status : StatusCode}
    {requestId : UInt64}
    {used : UInt32} {payload : List UInt8} {last : CommandProcessor V} (epoch : QueueEpoch) (config : GuestConfig)
    (answers : Answers p p' body response) (meant : response.Says status payload)
    (state : last.state = p'.state) (kept : (∀ buffer range, response ≠ .transfer buffer range) → last = p')
    (taken : Start.Taken start body) (other : start ≠ .getDeviceInfo)
    (holds : Holds chain requestId status used payload) :
    ∃ result, start.operation.decode chain status (UInt32.ofNat payload.length) epoch config = .ok result ∧
      Reports p last start epoch status used start.operation result := by
  have shape := taken.opcode
  have length := holds.length
  have made {kind : ObjectKind} {id : ObjectId} (appears : Appears p p' kind id) : Appears p last kind id := by
    obtain ⟨absent, record, handle, present⟩ := appears
    exact ⟨absent, record, handle, state ▸ present⟩
  cases answers with
  | refused bad =>
    cases meant
    exact ⟨_, start.operation.decode_refused bad, by cases start <;> exact ⟨rfl, bad⟩⟩
  | done quiet =>
    cases meant
    have bytes := quiet.symm.trans taken.payload
    cases start with
    | createContext | allocateBuffer | loadProgram | loadProgramPrepared | createExecutionQueue | submit | pollEvent
    | getDeviceInfo => simp [Start.operation, Operation.successBytes] at bytes
    | readBuffer buffer range =>
      exact absurd (UInt64.toNat_inj.mp (show range.bytes.toNat = (0 : UInt64).toNat from bytes.symm))
        range.bytes_nonzero
    | _ => exact ⟨.success (), rfl, rfl⟩
  | info => cases start <;> first | exact absurd rfl other | cases shape
  | @made _ kind id creates appears =>
    cases meant
    have read := holds.payload (by decide)
    have size : UInt32.ofNat (ObjectPayload.codec.encode ⟨id.raw⟩).length = 8 := by
      rw [ObjectPayload.codec.encode_length]
      rfl
    rw [size]
    cases body with
    | createContext | allocateBuffer | loadProgram | createQueue =>
      cases creates
      cases start <;> first
        | cases shape; done
        | exact ⟨_, Operation.ordinaryObject_read _ read, rfl, rfl, made appears⟩
    | _ => cases creates
  | @accepted _ _ _ _ id appears =>
    cases meant
    cases start with
    | submit queue retained program bindings timeoutNs =>
      have decoded := Operation.decodeSubmit_paid epoch (queue.context.get retained) (holds.payload (by decide))
      exact ⟨_, decoded.1, rfl, rfl, made appears⟩
    | _ => cases shape
  | @indeterminate _ _ _ _ id error appears =>
    cases meant
    cases start with
    | submit queue retained program bindings timeoutNs =>
      have decoded := Operation.decodeSubmit_paid epoch (queue.context.get retained) (holds.payload (by decide))
      exact ⟨_, decoded.2 _, rfl, statusFromBackendError_ne_ok error, rfl, made appears⟩
    | _ => cases shape
  | @polled id record event found present logged =>
    cases meant
    cases start with
    | pollEvent named =>
      cases taken.object _ _ rfl
      have read := Operation.decodeEventState_read (holds.payload (by decide))
      cases kept (by simp)
      have size : UInt32.ofNat (WireEventState.codec.encode (wireEventState found)).length = 8 := by
        rw [WireEventState.codec.encode_length]
        rfl
      refine ⟨.success (EventState.reported found), ?_, rfl, named, record, event, found, rfl, present, logged, rfl⟩
      simp only [size, Start.operation, Operation.decode, Operation.ordinary, read]
      rfl
    | _ => cases shape
  | @transfer id buffer range =>
    cases start with
    | readBuffer buffer' asked =>
      cases meant with
      | read sized =>
        have bytes : range.bytes = asked.bytes := UInt64.toNat_inj.mp taken.payload
        rw [bytes] at sized
        have paid : (Operation.expectPayload (UInt32.ofNat payload.length) asked.bytes :
          Except (ResponseError ε) Unit) =
            .ok () := by
          have bound := used.toNat_lt
          refine Checked.refuseIf_eq_ok.mpr (not_not.mpr (UInt64.toNat_inj.mp ?_))
          rw [UInt32.toNat_toUInt64, UInt32.toNat_ofNat', sized, Nat.mod_eq_of_lt (by omega)]
        refine ⟨.success ⟨asked.bytes⟩, ?_, rfl, by rw [length, sized]⟩
        simp only [Start.operation, Operation.decode, Operation.ordinary, paid]
        rfl
      | failed =>
        have bad := statusFromBackendError_ne_ok
        exact ⟨_, Operation.decode_refused _ (bad _), rfl, bad _⟩
    | _ => cases shape

/-- Whatever the device answers to a request, in any state and with any
backend, the client that published it understands the answer, and it says what
the device did. -/
theorem response_understood [HonestSink σ] {client client' : GuestClient Q χ} {published : Published χ}
    {alloc : Allocator} {regions : List ChainRegion} {request : ByteSource} {sink after : σ} {requestId : UInt64}
    {status : StatusCode} {used : UInt32} (later : GuestClient Q χ) (completed : χ) (reach : Reachable p)
    (other : start ≠ .getDeviceInfo) (started : client.start chain start = (.ok published, client'))
    (serves : request.Serves (readable published.chain))
    (done : p.process alloc regions request sink = (.ok (.response requestId status used), p', after))
    (returned : writable completed = FramedSink.bytes after) (same : later.config = client.config) :
    ∃ result, later.validateResponse published.pending completed used = .ok result ∧
      Reports p p' start published.pending.epoch status used published.pending.operation result := by
  obtain ⟨payloadBytes, responseBytes, data, starts, sized, _⟩ := start_starts started
  have response := starts.response
  have typed := starts.typed
  have holds {payload : List UInt8} (answered : Answered sink after requestId status used payload)
      (named : requestId = published.pending.requestId) : Holds completed published.pending.requestId status used
          payload := by
    refine ⟨answered.length, ?_, ?_⟩
    · rw [returned, FramedSink.bytes_length, answered.len]
      exact answered.fits
    rw [returned, ← named]
    exact answered.bytes
  have refused (answered : Answered sink after requestId status used []) (carries : request.Carries requestId)
      (bad : status ≠ .ok) :
      ∃ result, later.validateResponse published.pending completed used = .ok result ∧
        Reports p p' start published.pending.epoch status used published.pending.operation result := by
    have length := answered.length
    refine ⟨.deviceError status, ?_, ?_⟩
    · rw [(holds answered (starts.carries serves carries)).validate (by
        rw [same, length]; simp only [length_nil]; omega)]
      exact Operation.decode_refused _ bad
    · exact ⟨rfl, bad⟩
  cases process_responded done with
  | rejected carries bad answered _ => exact refused answered carries bad
  | stopped accepted named _ lost answered _ =>
    obtain ⟨carries, _⟩ := FrameDecoder.decode_carries accepted
    exact refused answered (named ▸ carries) (by rw [lost]; decide)
  | @handled decoded payload accepted named running meant answered state kept =>
    obtain ⟨carries, _⟩ := FrameDecoder.decode_carries accepted
    have taken := start_taken started serves accepted
    have answers := dispatch_answers (p := p.serving) reach.accounted.graph alloc
      (FrameDecoder.decode_valid accepted)
    have short := (meant.length_le.trans answers.sized).trans taken.payload.le
    have length := answered.length
    have held := holds answered (starts.carries serves (named ▸ carries))
    have understood := answers_report published.pending.epoch later.config answers meant state
      kept taken other held
    rw [held.validate (by rw [same]; omega)]
    rw [← typed] at understood
    exact understood

/-- Room for the request and the identifier of a context. -/
def contextChain : SliceChain := ⟨blank, blank⟩

/-- A context is created, and the guest reads its handle. -/
theorem response_understood_create : ∃ device published client' p' after result,
    fresh (agreeable sampleInfo) = .ok device ∧
    sampleClient.start contextChain .createContext = (.ok published, client') ∧
    device.process roomy createRegions (.slice (readable published.chain))
      blank = (.ok (.response 1 .ok 24), p', after) ∧
    client'.validateResponse published.pending (⟨published.chain.request, after⟩ : SliceChain) 24 = .ok result ∧
    Reports device p' .createContext published.pending.epoch .ok 24 published.pending.operation result := by
  have started : ∃ published client', sampleClient.start contextChain .createContext = (.ok published, client') ∧
      (readable published.chain) = createFrame ∧ client'.config = sampleClient.config :=
    ⟨_, _, rfl, rfl, rfl⟩
  obtain ⟨published, client', started, bytes, config⟩ := started
  have answered : ∃ device p' after, fresh (agreeable sampleInfo) = .ok device ∧
      device.process roomy createRegions (.slice createFrame)
        blank = (.ok (.response 1 .ok 24), p', after) := ⟨_, _, _, rfl, rfl⟩
  obtain ⟨device, p', after, created, done⟩ := answered
  rw [← bytes] at done
  have serves : (ByteSource.slice (readable published.chain)).Serves (readable published.chain) :=
    ByteSource.slice_serves (by rw [bytes]; decide)
  obtain ⟨result, understood, reports⟩ := response_understood client'
    (⟨published.chain.request, after⟩ : SliceChain)
    (Reachable.of_fresh (agreeable sampleInfo) rfl created)
    (by simp) started serves done rfl config
  exact ⟨device, published, client', p', after, result, created, started, done, understood, reports⟩

end GuestClient

end VirtioAccel.Guest
