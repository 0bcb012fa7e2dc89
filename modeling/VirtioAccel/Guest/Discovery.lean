import VirtioAccel.Guest.Types
import VirtioAccel.Device.EngineGuarantees
import Mathlib.Data.Nat.Bitwise

/-! The device information the device serves and the guest admits. -/

namespace VirtioAccel
open Checked

theorem Flags64.intersects_bit {word : UInt64} {bit : Nat} (inside : bit < 64)
    (some : Flags64.intersects word (UInt64.ofNat (2 ^ bit)) = true) :
    Flags64.contains word (UInt64.ofNat (2 ^ bit)) = true := by
  have small : 2 ^ bit < 2 ^ 64 := Nat.pow_lt_pow_right (by decide) inside
  have value : (UInt64.ofNat (2 ^ bit)).toNat = 2 ^ bit := by rw [UInt64.toNat_ofNat_of_lt' small]
  have masked : (word &&& UInt64.ofNat (2 ^ bit)).toNat = (word.toNat.testBit bit).toNat * 2 ^ bit := by
    rw [UInt64.toNat_and, value, Nat.and_two_pow]
  rw [intersects, bne_iff_ne, ne_eq, ← UInt64.toNat_inj, masked] at some
  rw [contains, beq_iff_eq, ← UInt64.toNat_inj, masked, value]
  cases set : word.toNat.testBit bit with
  | false => simp [set] at some
  | true => simp

namespace Guest.DeviceInfo
variable {info : VirtioAccel.DeviceInfo} {maxRequestBytes : UInt32}

/-- The information of a device as the guest keeps it, field by field. -/
def ofCore (info : VirtioAccel.DeviceInfo) : DeviceInfo where
  uuid := info.identity.uuid
  acceleratorClass := info.identity.acceleratorClass
  vendorId := info.identity.vendorId
  deviceId := info.identity.deviceId
  capabilities := info.capabilities
  maxContexts := info.limits.maxContexts
  maxBuffersPerContext := info.limits.maxBuffersPerContext
  maxProgramsPerContext := info.limits.maxProgramsPerContext
  maxQueuesPerContext := info.limits.maxQueuesPerContext
  maxEventsPerContext := info.limits.maxEventsPerContext
  maxBindingsPerSubmission := info.limits.maxBindingsPerSubmission
  maxBufferBytes := info.limits.maxBufferBytes
  maxArtifactBytes := info.limits.maxArtifactBytes

theorem fromWire_eq_ok {known : DeviceInfo}
    (accepted : fromWire (wireDeviceInfo info) maxRequestBytes = .ok known) :
    known = ofCore info ∧ 96 + info.limits.maxArtifactBytes.toNat ≤ maxRequestBytes.toNat := by
  simp only [fromWire, bind_eq_ok, refuseIf_eq_ok, pure_eq_ok] at accepted
  obtain ⟨_, _, _, _, _, _, _, _, _, _, _, _, _, _, _, fits, rfl⟩ := accepted
  exact ⟨rfl, Nat.not_lt.mp fits⟩

theorem supportsDomain_core {info : DeviceInfo} {domain : MemoryDomain}
    (supported : info.supportsDomain domain = true) :
    Capabilities.supportsMemoryDomain info.capabilities domain = true := by
  cases domain with
  | host => exact @Flags64.intersects_bit _ 0 (by decide) supported
  | device => exact @Flags64.intersects_bit _ 1 (by decide) supported
  | shared => exact @Flags64.intersects_bit _ 5 (by decide) supported

/-- Every check of the guest but the last is one the device makes too. -/
theorem fromWire_of_valid {config : WireConfig} {limits : DecoderLimits} (valid : info.validate = .ok ())
    (made : DecoderLimits.new config info = .ok limits)
    (fits : 96 + info.limits.maxArtifactBytes.toNat ≤ maxRequestBytes.toNat) :
    fromWire (wireDeviceInfo info) maxRequestBytes = .ok (ofCore info) := by
  simp only [DecoderLimits.new, bind_eq_ok, refuseIf_eq_ok, not_not] at made
  obtain ⟨_, _, _, bindings, _⟩ := made
  have bound := maxRequestBytes.toNat_lt
  unfold DeviceInfo.validate at valid
  split at valid
  · cases valid
  rename_i reserved
  split at valid
  · cases valid
  rename_i domains
  split at valid
  · cases valid
  rename_i limits
  simp only [not_or] at limits
  obtain ⟨contexts, buffers, programs, queues, events, _, bytes, artifact⟩ := limits
  simp only [fromWire, bind_eq_ok, refuseIf_eq_ok, not_or]
  exact ⟨(), fun reserved => reserved rfl, (), reserved, (), domains, (),
    ⟨contexts, buffers, programs, queues, events⟩,
    (), not_not.mpr bindings, (), ⟨bytes, artifact⟩, (), Nat.not_le.mpr (by dsimp [wireDeviceInfo]; omega), (),
    Nat.not_lt.mpr fits, rfl⟩

end Guest.DeviceInfo

namespace CommandProcessor
open Guest (DeviceInfo)

/-- The guest admits what a device serves, unchanged, exactly when the largest
artifact the device advertises fits a request frame. -/
theorem served_info_admitted_iff {V : Handles} {accelerator : Accelerator V} {config : WireConfig}
    {ns : ObjectNamespace}
    {policy : ResourcePolicy} {p : CommandProcessor V} {info : DeviceInfo} (alloc : Allocator)
    (described : accelerator.deviceInfo = .ok info)
    (created : new accelerator config ns policy = .ok p) :
    (∃ payload, p.dispatch alloc .getDeviceInfo = (p, .bytes .ok payload false) ∧
      DeviceInfo.fromWire (WireDeviceInfo.codec.decode payload) config.maxRequestBytes =
      .ok (DeviceInfo.ofCore info)) ↔
    96 + info.limits.maxArtifactBytes.toNat ≤ config.maxRequestBytes.toNat := by
  simp only [new, bind_eq_ok, mapError_eq_ok, pure_eq_ok] at created
  obtain ⟨_, _, found, same, _, valid, limits, made, _, _, rfl⟩ := created
  cases same.symm.trans described
  simp only [dispatch, Prod.mk.injEq, Response.bytes.injEq, true_and, and_true]
  constructor
  · rintro ⟨_, rfl, accepted⟩
    rw [WireDeviceInfo.codec.decode_encode] at accepted
    exact (DeviceInfo.fromWire_eq_ok accepted).2
  · intro fits
    refine ⟨_, rfl, ?_⟩
    rw [WireDeviceInfo.codec.decode_encode]
    exact DeviceInfo.fromWire_of_valid valid made fits

/-- The guest admits what the sample device says of itself. -/
theorem served_info_admitted_iff_sample : ∃ p, fresh (agreeable sampleInfo) = .ok p ∧
    ∃ payload, p.dispatch roomy .getDeviceInfo = (p, .bytes .ok payload false) ∧
      DeviceInfo.fromWire (WireDeviceInfo.codec.decode payload) sampleConfig.maxRequestBytes =
        .ok (DeviceInfo.ofCore sampleInfo) := by
  refine ⟨_, rfl, ?_⟩
  have described : (agreeable sampleInfo).deviceInfo = .ok sampleInfo := rfl
  exact (served_info_admitted_iff roomy described rfl).mpr (by decide)

/-- A device that advertises artifacts as large as a whole request frame. -/
def boastfulInfo : DeviceInfo :=
  { sampleInfo with limits := { sampleInfo.limits with maxArtifactBytes := 4096 } }

/-- The device serves it and the guest refuses it. -/
theorem boastfulInfo_refused : ∃ p, fresh (agreeable boastfulInfo) = .ok p ∧
    ¬ ∃ payload known, p.dispatch roomy .getDeviceInfo = (p, .bytes .ok payload false) ∧
      DeviceInfo.fromWire (WireDeviceInfo.codec.decode payload) sampleConfig.maxRequestBytes = .ok known := by
  refine ⟨_, rfl, ?_⟩
  rintro ⟨payload, known, served, accepted⟩
  simp only [dispatch, Prod.mk.injEq, Response.bytes.injEq, true_and, and_true] at served
  subst served
  rw [WireDeviceInfo.codec.decode_encode] at accepted
  exact absurd (DeviceInfo.fromWire_eq_ok accepted).2 (by decide)

end CommandProcessor

end VirtioAccel
