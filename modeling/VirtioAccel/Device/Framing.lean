import VirtioAccel.Device.SinkTraces
import VirtioAccel.Device.EngineRuns

/-! What a response leaves in its sink. -/

namespace VirtioAccel
open List ByteSink CommandProcessor
variable {V : Handles} {σ : Type}
variable {used : UInt32}

/-- The answer of a backend read into a destination of this length whose
in-range writes succeed, and the ranges it writes there. -/
def Transfer.writes (len : UInt64) : Transfer → Except BackendError Unit × List (Nat × Nat)
  | .finish result => (result, [])
  | .write offset data next =>
    if offset.toNat + data.length ≤ len.toNat then
      let rest := (next (.ok ())).writes len
      (rest.1, (offset.toNat, data.length) :: rest.2)
    else (next (.error .outOfBounds)).writes len

/-- A read that succeeds has written its whole destination. -/
def Transfer.Whole (len : UInt64) (transfer : Transfer) : Prop :=
  (transfer.writes len).1 = .ok () → ∀ i < len.toNat, Covers (transfer.writes len).2 i

/-- Every read of the backend is whole. -/
def Accelerator.ReadsWhole (self : Accelerator V) : Prop :=
  ∀ (log : List (Exchange V)) (buffer : Owned V .buffer) (offset bytes : UInt64),
    Transfer.Whole bytes (self.behaviour log (.readBuffer buffer offset bytes) : Transfer)

namespace ResponsePayload

/-- What no write through the window changes. -/
structure Within [FramedSink σ] (before after : ResponsePayload σ) : Prop where
  payloadBytes : after.payloadBytes = before.payloadBytes
  used : after.used = before.used
  len : len after.sink = len before.sink
  outside : ∀ i : Nat, i < 16 ∨ 16 + before.payloadBytes.toNat ≤ i →
    (FramedSink.bytes after.sink)[i]? = (FramedSink.bytes before.sink)[i]?

theorem place (offset : UInt64) (small : offset.toNat < 2 ^ 32) :
    (responseHeaderBytes + offset).toNat = 16 + offset.toNat := by
  rw [UInt64.toNat_add, responseHeaderBytes_toNat, Nat.mod_eq_of_lt (by omega)]

section Framed
variable [FramedSink σ] {first second third : ResponsePayload σ}

theorem Within.refl (window : ResponsePayload σ) : Within window window := ⟨rfl, rfl, rfl, fun _ _ => rfl⟩

theorem Within.trans (left : Within first second) (right : Within second third) : Within first third := by
  refine ⟨right.payloadBytes.trans left.payloadBytes, right.used.trans left.used, right.len.trans left.len, ?_⟩
  intro i away
  exact (right.outside i (by rw [left.payloadBytes]; exact away)).trans (left.outside i away)

theorem Within.write (window : ResponsePayload σ) (offset : UInt64) (data : List UInt8) :
    Within window (writeAt window offset data).2 := by
  by_cases within : offset.toNat + data.length ≤ window.payloadBytes.toNat
  · have small := window.payloadBytes.toNat_lt
    rw [writeAt_within window within]
    refine ⟨rfl, rfl, FramedSink.len_writeAt window.sink _ data, fun i away => ?_⟩
    refine FramedSink.outside window.sink _ data i ?_
    rw [place offset (by omega)]
    omega
  · rw [writeAt_past window within]
    exact .refl window

/-- However a backend read goes, it stays in its window. -/
theorem Within.run (transfer : Transfer) (window : ResponsePayload σ) : Within window (transfer.run window).2 := by
  induction transfer generalizing window with
  | finish result => exact .refl window
  | write offset data next ih => exact (Within.write window offset data).trans (ih _ _)

end Framed

end ResponsePayload

theorem Traced.writeAt_reliable [ReliableSink σ] (traced : Traced σ) (offset : UInt64) (data : List UInt8)
    (within : offset.toNat + data.length ≤ (len traced).toNat) :
    (writeAt traced offset data).1 = .ok () ∧
      (writeAt traced offset data).2.writes = traced.writes ++ [(offset.toNat, data.length)] := by
  have written := (ReliableSink.writes traced.sink offset data within).1
  simp only [writeAt] at written ⊢
  rw [written]
  exact ⟨rfl, rfl⟩

/-- In a reliable sink a backend read goes as foretold, behind the header. -/
theorem Transfer.run_traced [ReliableSink σ] (transfer : Transfer) (window : ResponsePayload (Traced σ))
    (fits : 16 + window.payloadBytes.toNat ≤ (len window.sink).toNat) :
    (transfer.run window).1 = (transfer.writes window.payloadBytes.toUInt64).1 ∧
      (transfer.run window).2.sink.writes = window.sink.writes ++
        (transfer.writes window.payloadBytes.toUInt64).2.map (fun write => (16 + write.1, write.2)) := by
  induction transfer generalizing window with
  | finish result => exact ⟨rfl, by simp [Transfer.run, Transfer.writes]⟩
  | write offset data next ih =>
    have kept := ResponsePayload.Within.write window offset data
    have after := fun answer => ih answer (writeAt window offset data).2
      (by rw [kept.payloadBytes, kept.len]; exact fits)
    rw [kept.payloadBytes] at after
    simp only [Transfer.run, Transfer.writes, UInt32.toNat_toUInt64]
    by_cases within : offset.toNat + data.length ≤ window.payloadBytes.toNat
    · have small := window.payloadBytes.toNat_lt
      have spot := ResponsePayload.place offset (by omega)
      obtain ⟨done, recorded⟩ := window.sink.writeAt_reliable (responseHeaderBytes + offset) data (by omega)
      have answered : (writeAt window offset data).1 = .ok () := by
        rw [window.writeAt_within within]
        exact done
      have noted : (writeAt window offset data).2.sink.writes =
          window.sink.writes ++ [(16 + offset.toNat, data.length)] := by
        rw [window.writeAt_within within, ← spot]
        exact recorded
      obtain ⟨result, ranges⟩ := after (.ok ())
      rw [answered, if_pos within]
      refine ⟨result, ?_⟩
      rw [ranges, noted, append_assoc]
      rfl
    · rw [if_neg within, window.writeAt_past within]
      have next := after (.error .outOfBounds)
      rw [window.writeAt_past within] at next
      exact next

/-- The bytes below the used length are one header and its payload. -/
structure Answered [FramedSink σ] (before after : σ) (requestId : UInt64) (status : StatusCode) (used : UInt32)
    (payload : List UInt8) : Prop where
  length : used.toNat = 16 + payload.length
  fits : used.toNat ≤ (len before).toNat
  len : len after = len before
  bytes : (FramedSink.bytes after).take used.toNat =
    ResponseHeader.codec.encode (ResponseHeader.new status (UInt32.ofNat payload.length) requestId) ++ payload

theorem Answered.forget [ReliableSink σ] {before after : Traced σ} {requestId : UInt64} {status : StatusCode}
    {payload : List UInt8} (answered : Answered before after requestId status used payload) :
    Answered before.sink after.sink requestId status used payload :=
  ⟨answered.length, answered.fits, answered.len, answered.bytes⟩

namespace ResponseWriter
variable {maxResponseBytes : UInt32}

theorem preflight_eq_ok {capacity payloadBytes : UInt64}
    (passed : preflight maxResponseBytes capacity payloadBytes = .ok used) :
    used.toNat = 16 + payloadBytes.toNat ∧ used.toNat ≤ maxResponseBytes.toNat ∧ used.toNat ≤ capacity.toNat := by
  have size := ResponseHeader.codec_size
  unfold preflight at passed
  dsimp only at passed
  iterate 3
    split at passed
    · cases passed
  cases passed
  rw [UInt32.toNat_ofNat', Nat.mod_eq_of_lt (by omega)]
  omega

theorem preflight_ok {capacity payloadBytes : UInt64} (limit : 16 + payloadBytes.toNat ≤ maxResponseBytes.toNat)
    (room : 16 + payloadBytes.toNat ≤ capacity.toNat) :
    preflight maxResponseBytes capacity payloadBytes = .ok (UInt32.ofNat (16 + payloadBytes.toNat)) := by
  have bound := maxResponseBytes.toNat_lt
  have size := ResponseHeader.codec_size
  unfold preflight
  rw [if_neg (by omega), if_neg (by omega), if_neg (by omega), size]

theorem payload_ok [ByteSink σ] (sink : σ) (payloadBytes : UInt64)
    (limit : 16 + payloadBytes.toNat ≤ maxResponseBytes.toNat)
    (room : 16 + payloadBytes.toNat ≤ (len sink).toNat) :
    payload maxResponseBytes sink payloadBytes =
      .ok ⟨sink, payloadBytes.toUInt32, UInt32.ofNat (16 + payloadBytes.toNat)⟩ := by
  have bound := maxResponseBytes.toNat_lt
  simp only [payload, preflight_ok limit room]
  rw [if_neg (by omega)]

theorem payload_eq_ok [ByteSink σ] {sink : σ} {bytes : UInt64} {window : ResponsePayload σ}
    (opened : payload maxResponseBytes sink bytes = .ok window) :
    window.sink = sink ∧ window.payloadBytes.toNat = bytes.toNat ∧ window.used.toNat = 16 + bytes.toNat ∧
      16 + bytes.toNat ≤ (len sink).toNat := by
  unfold payload at opened
  split at opened
  · cases opened
  rename_i used passed
  obtain ⟨length, _, room⟩ := preflight_eq_ok passed
  split at opened
  · cases opened
  rename_i small
  cases opened
  refine ⟨rfl, ?_, length, by omega⟩
  rw [UInt64.toNat_toUInt32, Nat.mod_eq_of_lt (by omega)]

theorem commit_used [ByteSink σ] (window : ResponsePayload σ) {status : StatusCode} {requestId : UInt64}
    (done : (window.commit status requestId).1 = .ok used) : used = window.used := by
  simp only [ResponsePayload.commit] at done
  cases written : (writeHeader window.sink status requestId window.payloadBytes).1 with
  | error error =>
    rw [written] at done
    cases done
  | ok =>
    rw [written] at done
    cases done
    rfl

theorem writeBytes_used [ByteSink σ] {sink : σ} {status : StatusCode} {requestId : UInt64} {payload : List UInt8}
    (done : (writeBytes maxResponseBytes sink status requestId payload).1 = .ok used) :
    used.toNat = 16 + payload.length := by
  unfold writeBytes at done
  split at done
  · cases done
  rename_i narrow
  split at done
  · cases done
  rename_i window opened
  obtain ⟨_, _, total, _⟩ := payload_eq_ok opened
  rw [UInt64.toNat_ofNat_of_lt' (Nat.not_le.mp narrow)] at total
  split at done
  · cases done
  rename_i next written
  have kept : next.used = window.used := by
    have after := congrArg (fun answer => answer.2.used) written
    dsimp only [writeAt] at after
    split at after <;> exact after.symm
  rw [commit_used next done, kept, total]

section Honest
variable [HonestSink σ] {before sink after : σ} {status : StatusCode} {requestId : UInt64}

theorem writeHeader_written {payloadBytes : UInt32} (room : 16 ≤ (len sink).toNat)
    (done : writeHeader sink status requestId payloadBytes = (.ok (), after)) :
    len after = len sink ∧
      FramedSink.bytes after = (FramedSink.bytes sink).overwrite 0
        (ResponseHeader.codec.encode (ResponseHeader.new status payloadBytes requestId)) := by
  have size := ResponseHeader.codec.encode_length (ResponseHeader.new status payloadBytes requestId)
  obtain ⟨answer, rfl⟩ := Prod.mk.inj done
  refine ⟨FramedSink.len_writeAt sink 0 _, HonestSink.written sink 0 _ ?_ (Checked.mapError_eq_ok.mp answer)⟩
  rw [size]
  simpa using room

/-- A commit that succeeds has put a header before whatever stands in the window. -/
theorem commit_written (before : σ) (window : ResponsePayload σ) (same : len window.sink = len before)
    (total : window.used.toNat = 16 + window.payloadBytes.toNat)
    (room : window.used.toNat ≤ (len before).toNat) (done : window.commit status requestId = (.ok used, after)) :
    used = window.used ∧ Answered before after requestId status window.used
      (((FramedSink.bytes window.sink).drop 16).take window.payloadBytes.toNat) := by
  have wrote : writeHeader window.sink status requestId window.payloadBytes = (.ok (), after) ∧
      used = window.used := by
    unfold ResponsePayload.commit at done
    generalize writeHeader window.sink status requestId window.payloadBytes = written at done
    rcases written with ⟨_ | _, _⟩
    · cases done
    cases done
    exact ⟨rfl, rfl⟩
  obtain ⟨len, bytes⟩ := writeHeader_written (by rw [same]; omega) wrote.1
  have size := ResponseHeader.codec.encode_length (ResponseHeader.new status window.payloadBytes requestId)
  have whole := FramedSink.bytes_length window.sink
  have length : (((FramedSink.bytes window.sink).drop 16).take window.payloadBytes.toNat).length =
      window.payloadBytes.toNat := by
    rw [length_take, length_drop, whole, same]
    omega
  refine ⟨wrote.2, ?_, room, len.trans same, ?_⟩
  · rw [length, total]
  rw [bytes, overwrite_zero, length, UInt32.ofNat_toNat, total,
    take_append, size, ResponseHeader.codec_size, Nat.add_sub_cancel_left,
    take_of_length_le (by rw [size, ResponseHeader.codec_size]; omega)]

theorem writeEmpty_written (same : len sink = len before)
    (done : writeEmpty maxResponseBytes sink status requestId = (.ok used, after)) :
    used = 16 ∧ Answered before after requestId status 16 [] := by
  unfold writeEmpty at done
  split at done
  · cases done
  rename_i total passed
  obtain ⟨length, _, room⟩ := preflight_eq_ok passed
  have sixteen : total = 16 := UInt32.toNat_inj.mp length
  subst sixteen
  obtain ⟨rfl, answered⟩ := commit_written before ⟨sink, 0, 16⟩ same rfl (by rw [← same]; exact room) done
  exact ⟨rfl, by simpa using answered⟩

theorem writeBytes_written {payload : List UInt8}
    (done : writeBytes maxResponseBytes sink status requestId payload = (.ok used, after)) :
    Answered sink after requestId status used payload := by
  unfold writeBytes at done
  split at done
  · cases done
  rename_i narrow
  split at done
  · cases done
  rename_i window opened
  obtain ⟨start, size, total, room⟩ := payload_eq_ok opened
  rw [UInt64.toNat_ofNat_of_lt' (Nat.not_le.mp narrow)] at size total room
  have within : (0 : UInt64).toNat + payload.length ≤ window.payloadBytes.toNat := by simp [size]
  have inside : (responseHeaderBytes + 0).toNat + payload.length ≤ (len window.sink).toNat := by
    rw [start]
    exact room
  have kept := ResponsePayload.Within.write window 0 payload
  split at done
  · cases done
  rename_i next written
  rw [window.writeAt_within within] at written
  obtain ⟨answer, rfl⟩ := Prod.mk.inj written
  have filled := HonestSink.written window.sink _ payload inside answer
  rw [window.writeAt_within within] at kept
  obtain ⟨rfl, answered⟩ := commit_written sink _ (by rw [kept.len, start])
    (by rw [kept.used, kept.payloadBytes, total, size]) (by rw [kept.used, total]; exact room) done
  rw [kept.payloadBytes, size] at answered
  rw [filled, start, show (responseHeaderBytes + 0).toNat = 16 from rfl,
    take_drop_overwrite (by rw [FramedSink.bytes_length]; exact room)] at answered
  exact answered

end Honest

variable [ReliableSink σ]

theorem writeHeader_ok (sink : Traced σ) (room : 16 ≤ (len sink).toNat) (status : StatusCode) (requestId : UInt64)
    (payloadBytes : UInt32) :
    ∃ after, writeHeader sink status requestId payloadBytes = (.ok (), after) ∧
      len after = len sink ∧
      FramedSink.bytes after = (FramedSink.bytes sink).overwrite 0
        (ResponseHeader.codec.encode (ResponseHeader.new status payloadBytes requestId)) ∧
      after.writes = sink.writes ++ [(0, 16)] := by
  have size := ResponseHeader.codec.encode_length (ResponseHeader.new status payloadBytes requestId)
  have within : (0 : UInt64).toNat +
      (ResponseHeader.codec.encode (ResponseHeader.new status payloadBytes requestId)).length ≤
        (len sink).toNat := by
    rw [size]
    simpa using room
  obtain ⟨done, bytes⟩ := ReliableSink.writes sink 0 _ within
  have recorded := (sink.writeAt_reliable 0 _ within).2
  rw [size] at recorded
  refine ⟨_, ?_, FramedSink.len_writeAt sink 0 _, bytes, recorded⟩
  simp only [writeHeader, done]
  rfl

theorem commit_answered (before : Traced σ) (window : ResponsePayload (Traced σ))
    (same : len window.sink = len before)
    (total : window.used.toNat = 16 + window.payloadBytes.toNat)
    (room : window.used.toNat ≤ (len before).toNat) (status : StatusCode) (requestId : UInt64) :
    ∃ after, window.commit status requestId = (.ok window.used, after) ∧
      Answered before after requestId status window.used
        (((FramedSink.bytes window.sink).drop 16).take window.payloadBytes.toNat) ∧
      after.writes = window.sink.writes ++ [(0, 16)] := by
  obtain ⟨after, done, _, _, recorded⟩ := writeHeader_ok window.sink (by rw [same]; omega) status requestId
    window.payloadBytes
  have committed : window.commit status requestId = (.ok window.used, after) := by
    simp only [ResponsePayload.commit, done]
    rfl
  exact ⟨after, committed, (commit_written before window same total room committed).2, recorded⟩

theorem writeEmpty_answered {before sink : Traced σ} (same : len sink = len before)
    (limit : 16 ≤ maxResponseBytes.toNat) (room : 16 ≤ (len before).toNat) (status : StatusCode)
    (requestId : UInt64) :
    ∃ after, writeEmpty maxResponseBytes sink status requestId = (.ok 16, after) ∧
      Answered before after requestId status 16 [] ∧ after.writes = sink.writes ++ [(0, 16)] := by
  have passed : preflight maxResponseBytes (len sink) 0 = .ok 16 := preflight_ok limit (by rw [same]; exact room)
  obtain ⟨after, done, answered, recorded⟩ := commit_answered before ⟨sink, 0, 16⟩ same rfl room status requestId
  refine ⟨after, ?_, by simpa using answered, recorded⟩
  simp only [writeEmpty, passed]
  exact done

/-- A payload from bytes is written behind its header. -/
theorem writeBytes_answered {sink : Traced σ} {payload : List UInt8}
    (limit : 16 + payload.length ≤ maxResponseBytes.toNat) (room : 16 + payload.length ≤ (len sink).toNat)
    (status : StatusCode) (requestId : UInt64) :
    ∃ used after, writeBytes maxResponseBytes sink status requestId payload = (.ok used, after) ∧
      Answered sink after requestId status used payload ∧
      after.writes = sink.writes ++ [(16, payload.length), (0, 16)] := by
  have bound := maxResponseBytes.toNat_lt
  have small : (UInt64.ofNat payload.length).toNat = payload.length := by
    rw [UInt64.toNat_ofNat', Nat.mod_eq_of_lt (by omega)]
  have opened := payload_ok sink (UInt64.ofNat payload.length)
    (by rw [small]; exact limit) (by rw [small]; exact room)
  obtain ⟨start, size, total, _⟩ := payload_eq_ok opened
  generalize (⟨sink, (UInt64.ofNat payload.length).toUInt32,
    UInt32.ofNat (16 + (UInt64.ofNat payload.length).toNat)⟩ :
    ResponsePayload (Traced σ)) = window at opened start size total
  rw [small] at size total
  have within : (0 : UInt64).toNat + payload.length ≤ window.payloadBytes.toNat := by simp [size]
  have inside : (responseHeaderBytes + 0).toNat + payload.length ≤ (len window.sink).toNat := by
    rw [start]
    exact room
  obtain ⟨done, recorded⟩ := window.sink.writeAt_reliable (responseHeaderBytes + 0) payload inside
  have kept := ResponsePayload.Within.write window 0 payload
  have written : writeAt window 0 payload = (.ok (), (writeAt window 0 payload).2) := by
    rw [window.writeAt_within within, done]
  have noted : (writeAt window 0 payload).2.sink.writes = window.sink.writes ++ [(16, payload.length)] := by
    rw [window.writeAt_within within]
    exact recorded
  generalize (writeAt window 0 payload).2 = next at kept written noted
  obtain ⟨after, committed, _, header⟩ := commit_answered sink next
    (by rw [kept.len, start]) (by rw [kept.used, kept.payloadBytes, total, size])
    (by rw [kept.used, total]; exact room) status requestId
  have whole : writeBytes maxResponseBytes sink status requestId payload = (.ok next.used, after) := by
    simp only [writeBytes, if_neg (show ¬ 2 ^ 64 ≤ payload.length by omega), opened, written]
    exact committed
  refine ⟨next.used, after, whole, writeBytes_written whole, ?_⟩
  rw [header, noted, start, append_assoc]
  rfl

end ResponseWriter

end VirtioAccel
