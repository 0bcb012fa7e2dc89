import VirtioAccel.Proto.Wire

/-! The wire structures as reads at offsets. -/

namespace VirtioAccel
open Codec

section Fields
variable (bytes : List UInt8)

theorem RequestHeader.field_eq : RequestHeader.codec.field bytes 0 =
    ⟨u16.field bytes 0, u16.field bytes 2, u32.field bytes 4, u64.field bytes 8⟩ := by
  simp [RequestHeader.codec]

theorem CreateContextRequest.field_eq : CreateContextRequest.codec.field bytes 0 =
    ⟨u32.field bytes 0, u32.field bytes 4⟩ := by
  simp [CreateContextRequest.codec]

theorem ObjectPayload.field_eq : ObjectPayload.codec.field bytes 0 = ⟨u64.field bytes 0⟩ := rfl

theorem AllocateBufferRequest.field_eq : AllocateBufferRequest.codec.field bytes 0 =
    ⟨u64.field bytes 0, u64.field bytes 8, u64.field bytes 16, u8.field bytes 24, (u8.array 7).field bytes 25,
      u32.field bytes 32, u32.field bytes 36⟩ := by
  simp [AllocateBufferRequest.codec]

theorem TransferBufferRequest.field_eq : TransferBufferRequest.codec.field bytes 0 =
    ⟨u64.field bytes 0, u64.field bytes 8, u64.field bytes 16⟩ := by
  simp [TransferBufferRequest.codec]

theorem LoadProgramRequest.field_eq : LoadProgramRequest.codec.field bytes 0 =
    ⟨u64.field bytes 0, u32.field bytes 8, u32.field bytes 12, (u32.array 12).field bytes 16, u64.field bytes 64,
      u64.field bytes 72⟩ := by
  simp [LoadProgramRequest.codec]

theorem CreateQueueRequest.field_eq : CreateQueueRequest.codec.field bytes 0 =
    ⟨u64.field bytes 0, u32.field bytes 8, u32.field bytes 12⟩ := by
  simp [CreateQueueRequest.codec]

theorem SubmitRequest.field_eq : SubmitRequest.codec.field bytes 0 =
    ⟨u64.field bytes 0, u64.field bytes 8, u32.field bytes 16, u32.field bytes 20, u64.field bytes 24⟩ := by
  simp [SubmitRequest.codec]

theorem WireBinding.field_eq : WireBinding.codec.field bytes 0 =
    ⟨u64.field bytes 0, u64.field bytes 8, u64.field bytes 16, u32.field bytes 24, u8.field bytes 28,
      (u8.array 3).field bytes 29⟩ := by
  simp [WireBinding.codec]

theorem ResponseHeader.field_eq : ResponseHeader.codec.field bytes 0 =
    ⟨u16.field bytes 0, u16.field bytes 2, u32.field bytes 4, u64.field bytes 8⟩ := by
  simp [ResponseHeader.codec]

theorem WireDeviceInfo.field_eq : WireDeviceInfo.codec.field bytes 0 =
    ⟨(u8.array 16).field bytes 0, u16.field bytes 16, u16.field bytes 18, u32.field bytes 20, u32.field bytes 24,
      u64.field bytes 28, u32.field bytes 36, u32.field bytes 40, u32.field bytes 44, u32.field bytes 48,
      u32.field bytes 52, u32.field bytes 56, u64.field bytes 60, u64.field bytes 68⟩ := by
  simp [WireDeviceInfo.codec]

theorem WireEventState.field_eq : WireEventState.codec.field bytes 0 =
    ⟨u16.field bytes 0, u16.field bytes 2, u32.field bytes 4⟩ := by
  simp [WireEventState.codec]

end Fields

/-! No structure has bytes that its fields do not determine. -/

section Canonical

theorem RequestHeader.canonical : RequestHeader.codec.Canonical :=
  (u16_canonical.seq (u16_canonical.seq (u32_canonical.seq u64_canonical))).iso (fun _ => rfl)

theorem ResponseHeader.canonical : ResponseHeader.codec.Canonical :=
  (u16_canonical.seq (u16_canonical.seq (u32_canonical.seq u64_canonical))).iso (fun _ => rfl)

theorem CreateContextRequest.canonical : CreateContextRequest.codec.Canonical :=
  (u32_canonical.seq u32_canonical).iso (fun _ => rfl)

theorem ObjectPayload.canonical : ObjectPayload.codec.Canonical := u64_canonical.iso (fun _ => rfl)

theorem SubmitResponse.canonical : SubmitResponse.codec.Canonical := u64_canonical.iso (fun _ => rfl)

theorem AllocateBufferRequest.canonical : AllocateBufferRequest.codec.Canonical :=
  (u64_canonical.seq (u64_canonical.seq (u64_canonical.seq (u8_canonical.seq ((u8_canonical.array 7).seq
    (u32_canonical.seq u32_canonical)))))).iso (fun _ => rfl)

theorem TransferBufferRequest.canonical : TransferBufferRequest.codec.Canonical :=
  (u64_canonical.seq (u64_canonical.seq u64_canonical)).iso (fun _ => rfl)

theorem LoadProgramRequest.canonical : LoadProgramRequest.codec.Canonical :=
  (u64_canonical.seq (u32_canonical.seq (u32_canonical.seq ((u32_canonical.array 12).seq
    (u64_canonical.seq u64_canonical))))).iso (fun _ => rfl)

theorem CreateQueueRequest.canonical : CreateQueueRequest.codec.Canonical :=
  (u64_canonical.seq (u32_canonical.seq u32_canonical)).iso (fun _ => rfl)

theorem SubmitRequest.canonical : SubmitRequest.codec.Canonical :=
  (u64_canonical.seq (u64_canonical.seq (u32_canonical.seq (u32_canonical.seq u64_canonical)))).iso (fun _ => rfl)

theorem WireBinding.canonical : WireBinding.codec.Canonical :=
  (u64_canonical.seq (u64_canonical.seq (u64_canonical.seq (u32_canonical.seq (u8_canonical.seq
    (u8_canonical.array 3)))))).iso (fun _ => rfl)

theorem WireDeviceInfo.canonical : WireDeviceInfo.codec.Canonical :=
  ((u8_canonical.array 16).seq (u16_canonical.seq (u16_canonical.seq (u32_canonical.seq (u32_canonical.seq
    (u64_canonical.seq
      (u32_canonical.seq (u32_canonical.seq (u32_canonical.seq (u32_canonical.seq (u32_canonical.seq
      (u32_canonical.seq (u64_canonical.seq u64_canonical))))))))))))).iso (fun _ => rfl)

theorem WireEventState.canonical : WireEventState.codec.Canonical :=
  (u16_canonical.seq (u16_canonical.seq u32_canonical)).iso (fun _ => rfl)

end Canonical

end VirtioAccel
