import VirtioAccel.Device.ObjectTableRuns
import VirtioAccel.Device.UsedLength
import VirtioAccel.Device.EpochGuarantees
import VirtioAccel.Device.LossGuarantees
import VirtioAccel.Guest.Ownership
import VirtioAccel.Transport.SplitNotifications
import VirtioAccel.Transport.SplitReset
import VirtioAccel.Transport.ChainAccess
import VirtioAccel.Guest.Tracking
import VirtioAccel.Conformance.RequestAgreement
import VirtioAccel.Conformance.CleanRoomBijection
import VirtioAccel.Conformance.ResponseAgreement
import VirtioAccel.Device.StateQuotas
import VirtioAccel.Device.StateHandles
import VirtioAccel.Tosa.Integer
import VirtioAccel.Guest.BindingSlots
import VirtioAccel.Tosa.SpecializationCache
import VirtioAccel.Tosa.ShapeAgreement
import VirtioAccel.Tosa.ScalarAgreement
import VirtioAccel.Device.SegmentationGuarantees
import VirtioAccel.Vulkan.Lifetimes
import VirtioAccel.Vulkan.Hazards
