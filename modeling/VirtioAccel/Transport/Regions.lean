import VirtioAccel.Library.Checked
import VirtioAccel.Core.Types

namespace VirtioAccel
open Checked (refuseIf)

inductive RegionDirection where
  | deviceReadable | deviceWritable
  deriving DecidableEq

/-- What the device sees of a descriptor. -/
structure ChainRegion where
  direction : RegionDirection
  bytes : UInt64
  deriving DecidableEq

inductive ChainLayoutError where
  | descriptorCount | zeroLength | direction | lengthOverflow | portLengthMismatch
  deriving DecidableEq

/-- How many descriptors and bytes a chain has in each direction. -/
structure ChainLayout where
  descriptorCount : UInt16
  readableDescriptors : UInt16
  writableDescriptors : UInt16
  readableBytes : UInt64
  writableBytes : UInt64
  deriving DecidableEq

namespace ChainLayout

def validatePortLengths (self : ChainLayout) (requestBytes responseBytes : UInt64) : Except ChainLayoutError Unit :=
  if requestBytes ≠ self.readableBytes ∨ responseBytes ≠ self.writableBytes then .error .portLengthMismatch
  else .ok ()

end ChainLayout

/-- The accumulators of the scan over the regions. -/
structure ChainScan where
  readableDescriptors : UInt16
  writableDescriptors : UInt16
  readableBytes : UInt64
  writableBytes : UInt64
  sawWritable : Bool

namespace ChainScan

def start : ChainScan := ⟨0, 0, 0, 0, false⟩

def checkedAdd (left right : UInt64) : Except ChainLayoutError UInt64 :=
  if left.toNat + right.toNat < 2 ^ 64 then .ok (left + right) else .error .lengthOverflow

def visit (scan : ChainScan) (region : ChainRegion) : Except ChainLayoutError ChainScan :=
  if region.bytes = 0 then .error .zeroLength
  else match region.direction with
    | .deviceReadable => do
      refuseIf (scan.sawWritable = true) .direction
      let readableBytes ← checkedAdd scan.readableBytes region.bytes
      return { scan with readableDescriptors := scan.readableDescriptors + 1, readableBytes }
    | .deviceWritable => do
      let writableBytes ← checkedAdd scan.writableBytes region.bytes
      return { scan with sawWritable := true, writableDescriptors := scan.writableDescriptors + 1, writableBytes }

end ChainScan

def validateChainLayout (regions : List ChainRegion) (maxDescriptors : UInt16) :
    Except ChainLayoutError ChainLayout := do
  refuseIf (regions.length < 2 ∨ maxDescriptors.toNat < regions.length) .descriptorCount
  let scan ← regions.foldlM ChainScan.visit ChainScan.start
  refuseIf (scan.readableDescriptors = 0 ∨ scan.writableDescriptors = 0) .direction
  return {
    descriptorCount := UInt16.ofNat regions.length
    readableDescriptors := scan.readableDescriptors
    writableDescriptors := scan.writableDescriptors
    readableBytes := scan.readableBytes
    writableBytes := scan.writableBytes }

end VirtioAccel
