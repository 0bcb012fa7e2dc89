import VirtioAccel.Transport.SplitQueue

/-! Descriptor chains of the split queue: their analysis, and access to their
bytes by span. -/

namespace VirtioAccel
open List

/-- The memory behind a descriptor, if it is mapped. -/
inductive BufferStorage where
  | mapped (bytes : List UInt8) (small : bytes.length < 2 ^ 64)
  | unmapped (bytes : UInt64)
  deriving DecidableEq

def checkedLogicalRange (offset : UInt64) (bytes : Nat) (len : UInt64) : Except ByteAccessError Unit :=
  if 2 ^ 64 ≤ offset.toNat + bytes then .error .outOfBounds
  else if len.toNat < offset.toNat + bytes then .error .outOfBounds
  else .ok ()

namespace BufferStorage

def len : BufferStorage → UInt64
  | .mapped bytes _ => UInt64.ofNat bytes.length
  | .unmapped bytes => bytes

def isMapped : BufferStorage → Bool
  | .mapped .. => true
  | .unmapped _ => false

def readAt (self : BufferStorage) (offset : UInt64) (bytes : Nat) : Except ByteAccessError (List UInt8) :=
  match self with
  | .unmapped _ => .error .access
  | .mapped stored _ =>
    if offset.toNat + bytes ≤ stored.length then .ok ((stored.drop offset.toNat).take bytes)
      else .error .outOfBounds

def writeAt (self : BufferStorage) (offset : UInt64) (source : List UInt8) : Except ByteAccessError BufferStorage :=
  match self with
  | .unmapped _ => .error .access
  | .mapped stored small =>
    if fits : offset.toNat + source.length ≤ stored.length then
      .ok (.mapped (stored.overwrite offset.toNat source) (by rw [length_overwrite fits]; exact small))
    else .error .outOfBounds

end BufferStorage

def descriptorNext : UInt16 := 1
def descriptorWrite : UInt16 := 2
def descriptorIndirect : UInt16 := 4
def knownDescriptorFlags : UInt16 := descriptorNext ||| descriptorWrite ||| descriptorIndirect

/-- An entry of the descriptor table. -/
structure Descriptor where
  buffer : BufferStorage
  flags : UInt16
  next : UInt16
  deriving DecidableEq

namespace Descriptor

def raw (bytes : List UInt8) (small : bytes.length < 2 ^ 64) (flags next : UInt16) : Descriptor :=
  ⟨.mapped bytes small, flags, next⟩

def readable (bytes : List UInt8) (small : bytes.length < 2 ^ 64) : Descriptor := raw bytes small 0 0
def writable (bytes : List UInt8) (small : bytes.length < 2 ^ 64) : Descriptor := raw bytes small descriptorWrite 0

def len (self : Descriptor) : UInt64 := self.buffer.len
def isWritable (self : Descriptor) : Bool := self.flags &&& descriptorWrite ≠ 0

def region (self : Descriptor) : ChainRegion :=
  if self.isWritable then ⟨.deviceWritable, self.len⟩ else ⟨.deviceReadable, self.len⟩

end Descriptor

inductive ChainBuildError where
  | empty | descriptorCount | allocationFailed
  | malformed (error : MalformedChain)
  deriving DecidableEq

/-- A descriptor, and where its bytes end. -/
structure DescriptorSpan where
  descriptor : UInt16
  end_ : UInt64
  deriving DecidableEq

/-- What is known of a chain once it has been walked. -/
inductive ChainAnalysis where
  | valid (layout : ChainLayout) (spans : List DescriptorSpan) (regions : List ChainRegion)
  | invalid (error : MalformedChain)
  deriving DecidableEq

namespace ChainAnalysis

def validation : ChainAnalysis → Except MalformedChain ChainLayout
  | .valid layout _ _ => .ok layout
  | .invalid error => .error error

def spans : ChainAnalysis → (writable : Bool) → List DescriptorSpan
  | .valid layout spans _, true => spans.drop layout.readableDescriptors.toNat
  | .valid layout spans _, false => spans.take layout.readableDescriptors.toNat
  | .invalid _, _ => []

def regions : ChainAnalysis → List ChainRegion
  | .valid _ _ regions => regions
  | .invalid _ => []

end ChainAnalysis

def MalformedChain.ofLayoutError : ChainLayoutError → MalformedChain
  | .descriptorCount => .descriptorCount
  | .zeroLength => .zeroLength
  | .direction => .direction
  | .lengthOverflow => .lengthOverflow
  | .portLengthMismatch => .portLengthMismatch

/-- What the walk along the chain has gathered. -/
structure ChainWalk where
  visited : List Bool
  spans : List DescriptorSpan
  regions : List ChainRegion
  readableEnd : UInt64
  writableEnd : UInt64

namespace ChainWalk

def start (count : Nat) : ChainWalk := ⟨replicate count false, [], [], 0, 0⟩

/-- What stops the walk at a descriptor. -/
def check (self : ChainWalk) (current : UInt16) (descriptor : Descriptor) : Except MalformedChain Unit :=
  if (self.visited[current.toNat]?).getD false then .error .descriptorLoop
  else if descriptor.flags &&& ~~~knownDescriptorFlags ≠ 0 then .error .descriptorFlags
  else if descriptor.flags &&& descriptorIndirect ≠ 0 then .error .indirectUnsupported
  else if ¬ descriptor.buffer.isMapped then .error .address
  else .ok ()

def visit (self : ChainWalk) (current : UInt16) (descriptor : Descriptor) : Except MalformedChain ChainWalk := do
  self.check current descriptor
  let logicalEnd := if descriptor.isWritable then self.writableEnd else self.readableEnd
  if 2 ^ 64 ≤ logicalEnd.toNat + descriptor.len.toNat then .error .lengthOverflow
  let end_ := logicalEnd + descriptor.len
  return {
    visited := self.visited.set current.toNat true
    spans := self.spans ++ [⟨current, end_⟩]
    regions := self.regions ++ [descriptor.region]
    readableEnd := if descriptor.isWritable then self.readableEnd else end_
    writableEnd := if descriptor.isWritable then end_ else self.writableEnd }

/-- The walk ends: each descriptor is visited at most once, so one step more
than there are descriptors is enough. -/
def walk (descriptors : List Descriptor) : Nat → UInt16 → ChainWalk → Except MalformedChain ChainWalk
  | 0, _, _ => .error .descriptorLoop
  | fuel + 1, current, self =>
    match descriptors[current.toNat]? with
    | none => .error .descriptorIndex
    | some descriptor => do
      let next ← self.visit current descriptor
      if descriptor.flags &&& descriptorNext = 0 then return next
      else walk descriptors fuel descriptor.next next

end ChainWalk

def analyzeChain (descriptors : List Descriptor) (head : UInt16) : ChainAnalysis :=
  match ChainWalk.walk descriptors (descriptors.length + 1) head (.start descriptors.length) with
  | .error error => .invalid error
  | .ok walk =>
    if walk.spans.length ≠ descriptors.length then .invalid .descriptorCount
    else match validateChainLayout walk.regions 65535 with
      | .error error => .invalid (.ofLayoutError error)
      | .ok layout => .valid layout walk.spans walk.regions

/-- The shared part of a chain: between one descriptor and the most a split queue has. -/
structure ChainData where
  descriptors : List Descriptor
  analysis : ChainAnalysis
  nonempty : descriptors ≠ []
  bounded : descriptors.length ≤ 32768
  deriving DecidableEq

instance : ChainShape ChainData where
  descriptorCount data := UInt16.ofNat data.descriptors.length
  validation data := data.analysis.validation
  nonempty data := by
    have positive := length_pos_iff.mpr data.nonempty
    have bounded := data.bounded
    intro zero
    have count : (UInt16.ofNat data.descriptors.length).toNat = 0 := congrArg UInt16.toNat zero
    rw [UInt16.toNat_ofNat', Nat.mod_eq_of_lt (by omega)] at count
    omega

def firstTouchedSpan (spans : List DescriptorSpan) (offset : UInt64) : Nat :=
  (spans.takeWhile (fun span => span.end_ ≤ offset)).length

/-- The part of one span that a copy from here on touches: its descriptor, the
offset in it and the number of bytes. -/
def touch (start : UInt64) (span : DescriptorSpan) (logicalOffset : UInt64) (left : Nat) :
    Except ByteAccessError (UInt64 × Nat) :=
  if logicalOffset < start then .error .outOfBounds
  else if span.end_ < logicalOffset then .error .outOfBounds
  else .ok (logicalOffset - start, min (span.end_ - logicalOffset).toNat left)

namespace ChainData

/-- The descriptors with one buffer exchanged. -/
def setBuffer (self : ChainData) (index : Nat) (buffer : BufferStorage) : ChainData where
  descriptors := self.descriptors.modify index (fun descriptor => { descriptor with buffer })
  analysis := self.analysis
  nonempty := by simpa using self.nonempty
  bounded := by rw [length_modify]; exact self.bounded

def buffer (self : ChainData) (index : Nat) : BufferStorage :=
  match self.descriptors[index]? with
  | some descriptor => descriptor.buffer
  | none => .unmapped 0

/-- The loop over the spans from the first touched one; `start` is where the span before it ends. -/
def copyFromSpans (self : ChainData) (offset : UInt64) (bytes : Nat) :
    (start : UInt64) → List DescriptorSpan → (copied : List UInt8) → Except ByteAccessError (List UInt8)
  | _, [], _ => .error .outOfBounds
  | start, span :: rest, copied => do
    let (within, count) ← touch start span (offset + UInt64.ofNat copied.length) (bytes - copied.length)
    let read ← (self.buffer span.descriptor.toNat).readAt within count
    let copied := copied ++ read
    if copied.length = bytes then return copied else copyFromSpans self offset bytes span.end_ rest copied

def spanStart (spans : List DescriptorSpan) (first : Nat) : UInt64 :=
  match first with
  | 0 => 0
  | prior + 1 => (spans[prior]?).elim 0 DescriptorSpan.end_

def copyFromDescriptors (self : ChainData) (writable : Bool) (offset : UInt64) (bytes : Nat) :
    Except ByteAccessError (List UInt8) :=
  if bytes = 0 then .ok []
  else
    let spans := self.analysis.spans writable
    let first := firstTouchedSpan spans offset
    self.copyFromSpans offset bytes (spanStart spans first) (spans.drop first) []

/-- A copy that fails has written the spans before the failure. -/
def copyToSpans (self : ChainData) (offset : UInt64) (source : List UInt8) :
    (start : UInt64) → List DescriptorSpan → (copied : Nat) → Except ByteAccessError Unit × ChainData
  | _, [], _ => (.error .outOfBounds, self)
  | start, span :: rest, copied =>
    match touch start span (offset + UInt64.ofNat copied) (source.length - copied) with
    | .error error => (.error error, self)
    | .ok (within, count) =>
      match (self.buffer span.descriptor.toNat).writeAt within ((source.drop copied).take count) with
      | .error error => (.error error, self)
      | .ok buffer =>
        let self := self.setBuffer span.descriptor.toNat buffer
        if copied + count = source.length then (.ok (), self)
        else copyToSpans self offset source span.end_ rest (copied + count)

def copyToDescriptors (self : ChainData) (writable : Bool) (offset : UInt64) (source : List UInt8) :
    Except ByteAccessError Unit × ChainData :=
  if source.length = 0 then (.ok (), self)
  else
    let spans := self.analysis.spans writable
    let first := firstTouchedSpan spans offset
    self.copyToSpans offset source (spanStart spans first) (spans.drop first) 0

/-- A copy changes bytes, and neither the descriptors' number nor their analysis. -/
structure Reshapes (before after : ChainData) : Prop where
  length : after.descriptors.length = before.descriptors.length
  analysis : after.analysis = before.analysis

theorem Reshapes.count {before after : ChainData} (same : Reshapes before after) :
    ChainShape.descriptorCount after = ChainShape.descriptorCount before :=
  congrArg UInt16.ofNat same.length

theorem copyToSpans_reshapes (self : ChainData) (offset : UInt64) (source : List UInt8) (start : UInt64)
    (spans : List DescriptorSpan) (copied : Nat) :
    Reshapes self (self.copyToSpans offset source start spans copied).2 := by
  induction spans generalizing self start copied with
  | nil => exact ⟨rfl, rfl⟩
  | cons span rest ih =>
    unfold copyToSpans
    split
    · exact ⟨rfl, rfl⟩
    rename_i within count _
    split
    · exact ⟨rfl, rfl⟩
    rename_i buffer _
    have exchanged : Reshapes self (self.setBuffer span.descriptor.toNat buffer) := ⟨length_modify .., rfl⟩
    split
    · exact exchanged
    have later := ih (self.setBuffer span.descriptor.toNat buffer) span.end_ (copied + count)
    exact ⟨later.length.trans exchanged.length, later.analysis.trans exchanged.analysis⟩

theorem copyToDescriptors_reshapes (self : ChainData) (writable : Bool) (offset : UInt64) (source : List UInt8) :
    Reshapes self (self.copyToDescriptors writable offset source).2 := by
  unfold copyToDescriptors
  split
  · exact ⟨rfl, rfl⟩
  · exact copyToSpans_reshapes ..

end ChainData

namespace DriverChain

/-- `reserve` is the allocator's answer. The marks that the analysis leaves in
the slots are overwritten before anything reads them. -/
def raw (reserve : Bool) (descriptors : List Descriptor) (head : UInt16) :
    Except ChainBuildError (DriverChain ChainData) :=
  if nonempty : descriptors = [] then .error .empty
  else if bounded : descriptors.length ≤ 32768 then
    if reserve then .ok {
      data := ⟨descriptors, analyzeChain descriptors head, nonempty, bounded⟩
      slots := replicate descriptors.length 0
      head
      sized := by
        rw [length_replicate]
        change _ = (UInt16.ofNat descriptors.length).toNat
        rw [UInt16.toNat_ofNat', Nat.mod_eq_of_lt (by omega)] }
    else .error .allocationFailed
  else .error .descriptorCount

/-- The descriptor of a chain linked in the order of its list. -/
def link (count index : Nat) (descriptor : Descriptor) : Descriptor :=
  if index + 1 < count then
    { descriptor with
      flags := descriptor.flags &&& descriptorWrite ||| descriptorNext, next := UInt16.ofNat (index + 1) }
  else { descriptor with flags := descriptor.flags &&& descriptorWrite, next := 0 }

def direct (reserve : Bool) (descriptors : List Descriptor) : Except ChainBuildError (DriverChain ChainData) := do
  let chain ← raw reserve (descriptors.mapIdx (link descriptors.length)) 0
  match chain.validation with
  | .error error => .error (.malformed error)
  | .ok _ => .ok chain

def deviceReadableLen (self : DriverChain ChainData) : UInt64 :=
  match self.validation with
  | .ok layout => layout.readableBytes
  | .error _ => 0

def deviceWritableLen (self : DriverChain ChainData) : UInt64 :=
  match self.validation with
  | .ok layout => layout.writableBytes
  | .error _ => 0

/-- The chain over other buffers of the same descriptors. -/
def withData {D : Type} [ChainShape D] (self : DriverChain D) (data : D)
    (same : ChainShape.descriptorCount data = ChainShape.descriptorCount self.data) : DriverChain D where
  data
  slots := self.slots
  head := self.head
  sized := by rw [same, self.sized]

def writeDeviceReadable (self : DriverChain ChainData) (offset : UInt64) (source : List UInt8) :
    Except ByteAccessError Unit × DriverChain ChainData :=
  match checkedLogicalRange offset source.length self.deviceReadableLen with
  | .error error => (.error error, self)
  | .ok () =>
    ((self.data.copyToDescriptors false offset source).1,
      self.withData (self.data.copyToDescriptors false offset source).2
        (self.data.copyToDescriptors_reshapes false offset source).count)

def readDeviceWritable (self : DriverChain ChainData) (offset : UInt64) (bytes : Nat) :
    Except ByteAccessError (List UInt8) := do
  checkedLogicalRange offset bytes self.deviceWritableLen
  self.data.copyFromDescriptors true offset bytes

instance : DriverChainBuffer (DriverChain ChainData) ByteAccessError where
  deviceReadableLen := deviceReadableLen
  deviceWritableLen := deviceWritableLen
  writeDeviceReadable := writeDeviceReadable
  readDeviceWritable := readDeviceWritable

end DriverChain

def SplitDeviceChain.readableLen (self : SplitDeviceChain ChainData) : UInt64 :=
  match self.data.analysis.validation with
  | .ok layout => layout.readableBytes
  | .error _ => 0

/-- `SplitSource`: a device may read through its token while the epoch of the queue is the token's. -/
def SplitDeviceChain.readAt (self : SplitDeviceChain ChainData) (currentEpoch offset : UInt64) (bytes : Nat) :
    Except ByteAccessError (List UInt8) :=
  if currentEpoch ≠ self.id.epoch.value then .error .reset
  else match checkedLogicalRange offset bytes self.readableLen with
    | .error error => .error error
    | .ok () => self.data.copyFromDescriptors false offset bytes

/-- `SplitSink`: and it may write. -/
def SplitDeviceChain.writeAt (self : SplitDeviceChain ChainData) (currentEpoch offset : UInt64)
    (source : List UInt8) :
    Except ByteAccessError Unit × ChainData :=
  if currentEpoch ≠ self.id.epoch.value then (.error .reset, self.data)
  else match checkedLogicalRange offset source.length self.writableCapacity with
    | .error error => (.error error, self.data)
    | .ok () => self.data.copyToDescriptors true offset source

end VirtioAccel
