import VirtioAccel.Conformance.CleanRoomAnswers

/-! The clean-room codec: what it writes it reads, and what it reads it writes. -/

namespace VirtioAccel.CleanRoom
open Checked
variable {bytes output : List UInt8} {values : List Binding}
variable {context : ResponseContext} {written : List UInt8} {response : Response} {total : Nat}

/-- Equal requests, where bindings are compared one by one: a decoded
submission keeps its bindings encoded. -/
def RequestBody.Same : RequestBody → RequestBody → Prop
  | .submit left, .submit right => left.queueId = right.queueId ∧ left.programId = right.programId ∧
      left.timeoutNs = right.timeoutNs ∧ left.bindings.count = right.bindings.count ∧
      ∀ index, left.bindings.get index = right.bindings.get index
  | left, right => left = right

theorem Bindings.get_past {bindings : Bindings} {count index : UInt32} (counted : bindings.count = .ok count)
    (past : count.toNat ≤ index.toNat) : bindings.get index = .error .invalidArgument := by
  cases bindings with
  | encoded bytes count' =>
    cases counted
    have refused : refuseIf (count ≤ index) Error.invalidArgument = .error .invalidArgument :=
      refuseIf_eq_error.mpr ⟨UInt32.le_iff_toNat_le.mpr past, rfl⟩
    rw [Bindings.get, refused]
    rfl
  | values list =>
    simp only [Bindings.count, bind_eq_ok, refuseIf_eq_ok, Nat.not_le, pure_eq_ok] at counted
    obtain ⟨_, small, rfl⟩ := counted
    rw [UInt32.toNat_ofNat_of_lt' small] at past
    rw [Bindings.get, List.getElem?_eq_none past]
    rfl

/-- Two ways to hold the same bindings cannot be told apart. -/
theorem Bindings.same_of_list {left right : Bindings} (first : left.list = .ok values)
    (second : right.list = .ok values) : left.count = right.count ∧ ∀ index, left.get index = right.get index := by
  obtain ⟨counted, small, each⟩ := list_eq_ok first
  obtain ⟨counted', _, each'⟩ := list_eq_ok second
  have count : (UInt32.ofNat values.length).toNat = values.length := by rw [UInt32.toNat_ofNat_of_lt' small]
  refine ⟨counted.trans counted'.symm, fun index => ?_⟩
  by_cases inside : index.toNat < values.length
  · have here := (each index.toNat inside).trans (each' index.toNat inside).symm
    rwa [UInt32.ofNat_toNat] at here
  · rw [get_past counted (by omega), get_past counted' (by omega)]

/-- What a body is decoded to from its payload: the same, with its bindings encoded. -/
theorem RequestBody.exists_raw {body : RequestBody} {len : Nat} (computed : requestPayloadLen body = .ok len) :
    ∃ decoded : RequestBody, decoded.Raw ∧ decoded.Same body ∧ decoded.opcode = body.opcode ∧
    decoded.payload = body.payload ∧
      requestPayloadLen decoded = .ok len := by
  cases body with
  | submit request =>
    simp only [requestPayloadLen, bind_eq_ok, validateBindings_eq_ok] at computed
    obtain ⟨_, named, _, values, listed, some, few, valid, distinct, rfl⟩ := computed
    obtain ⟨again, checked⟩ := validateBindings_pack values some few valid distinct
    refine ⟨.submit ⟨request.queueId, request.programId, request.timeoutNs, .pack values⟩, ⟨_, _, rfl⟩,
      ⟨rfl, rfl, rfl, Bindings.same_of_list again listed⟩, rfl, ?_, bind_eq_ok.mpr ⟨(), named, checked⟩⟩
    rw [RequestBody.payload, RequestBody.payload, again, listed]
  | _ => exact ⟨_, by trivial, by rfl, by rfl, by rfl, computed⟩

/-- Equal requests, up to how their bindings are held. -/
def Request.Same (left right : Request) : Prop := left.requestId = right.requestId ∧ left.body.Same right.body

variable {request : Request}

theorem Request.encode_decodes (encodes : request.encode output = .ok (total, written)) :
    ∃ decoded, decodeRequest (written.take total) = .ok decoded ∧ decoded.Same request := by
  obtain ⟨named, computed, rfl, few, _, rfl⟩ := Request.encode_eq_ok.mp encodes
  obtain ⟨decoded, raw, same, opcode, payload, again⟩ := RequestBody.exists_raw computed
  rw [List.take_left]
  refine ⟨⟨request.requestId, decoded⟩, decodeRequest_eq_ok.mpr ⟨named, few, ?_, raw, ?_⟩, rfl, same⟩
  · rw [payload]
    exact again
  · rw [frame, frame, opcode, payload]

theorem decodeRequest_encodes (decodes : decodeRequest bytes = .ok request) (room : bytes.length ≤ output.length) :
    request.encode output = .ok (bytes.length, bytes ++ output.drop bytes.length) := by
  obtain ⟨named, few, computed, _, rfl⟩ := decodeRequest_eq_ok.mp decodes
  exact Request.encode_eq_ok.mpr ⟨named, computed, rfl, few, room, rfl⟩

theorem Response.encode_decodes (encodes : response.encode context output = .ok (total, written)) :
    decodeResponse (written.take total) context = .ok response := by
  obtain ⟨some, named, answer, rfl, few, _, rfl⟩ := Response.encode_eq_ok.mp encodes
  rw [List.take_left]
  exact decodeResponse_eq_ok.mpr ⟨some, named, answer, few, rfl⟩

theorem decodeResponse_encodes (decodes : decodeResponse bytes context = .ok response)
    (room : bytes.length ≤ output.length) :
    response.encode context output = .ok (bytes.length, bytes ++ output.drop bytes.length) := by
  obtain ⟨some, named, answer, few, rfl⟩ := decodeResponse_eq_ok.mp decodes
  exact Response.encode_eq_ok.mpr ⟨some, named, answer, rfl, few, room, rfl⟩

/-- Each format has one encoding for what it can say, and says one thing with each encoding. -/
theorem codec_bijective :
    (∀ (request : Request) output total written, request.encode output = .ok (total, written) →
      ∃ decoded, decodeRequest (written.take total) = .ok decoded ∧ decoded.Same request) ∧
    (∀ bytes request output, decodeRequest bytes = .ok request → bytes.length ≤ output.length →
      request.encode output = .ok (bytes.length, bytes ++ output.drop bytes.length)) ∧
    (∀ (response : Response) context output total written, response.encode context output = .ok (total, written) →
      decodeResponse (written.take total) context = .ok response) ∧
    (∀ bytes response context output, decodeResponse bytes context = .ok response → bytes.length ≤ output.length →
      response.encode context output = .ok (bytes.length, bytes ++ output.drop bytes.length)) :=
  ⟨fun _ _ _ _ => Request.encode_decodes, fun _ _ _ => decodeRequest_encodes, fun _ _ _ _ _ =>
    Response.encode_decodes, fun _ _ _ _ => decodeResponse_encodes⟩

end VirtioAccel.CleanRoom
