import VirtioAccel.Library.Codec
import VirtioAccel.Tosa.Types

/-! The tables of a serialized graph as the FlatBuffers verifier hands them out, and the views that the rest of the
crate reads them through. -/

namespace VirtioAccel.Tosa
open Checked
variable {ε : Type}

/-- The attribute table of an operator. The rules that are modelled read only that of a rescale. -/
inductive OpAttributes where
  | rescale (scale32 : Bool) (roundingMode : UInt32) (perChannel inputUnsigned outputUnsigned : Bool)
  | other
  deriving DecidableEq

/-- A tensor of the graph; its shape may be left open. -/
structure Tensor where
  name : Name
  dtype : DType
  shape : Option (List Int32)
  isUnranked : Bool
  data : Bytes
  isVariable : Bool
  variableName : Option Name
  offset : UInt64
  size : UInt64
  deriving DecidableEq

namespace Tensor

def rank (self : Tensor) : Option Nat := if self.isUnranked then none else some (self.shape.elim 0 List.length)

def dimensions (self : Tensor) : List Int32 := self.shape.getD []

/-- One ranked dimension. -/
def dimension (self : Tensor) (index : Nat) : Option Int32 :=
  if self.isUnranked then none else self.shape.bind fun shape => shape[index]?

def externalDataRange (self : Tensor) : Option (Nat × Nat) :=
  if self.size = 0 then none else some (self.offset.toNat, self.size.toNat)

theorem dimensions_length {self : Tensor} {rank : Nat} (ranked : self.rank = some rank) :
    self.dimensions.length = rank := by
  unfold Tensor.rank at ranked
  split at ranked
  · cases ranked
  · cases shape : self.shape <;> simp_all [dimensions]

end Tensor

/-- A shape of the graph, with the words of its value if it is a constant. -/
structure Shape where
  name : Name
  rank : UInt32
  data : Bytes
  deriving DecidableEq

/-- `iN::from_le_bytes`, for as many bytes as there are. -/
def signedLe (bytes : Bytes) : Int := Int.bmod (Codec.leValue bytes) (2 ^ (8 * bytes.length))

/-- `&bytes[start..start + len]`. -/
def slice (bytes : Bytes) (start len : Nat) : Except (Stop ε) Bytes :=
  if start + len ≤ bytes.length then .ok ((bytes.drop start).take len) else .error .panicked

/-- `bytes.get(start..start + len)`. -/
def slice? (bytes : Bytes) (start len : Nat) : Option Bytes :=
  if start + len ≤ bytes.length then some ((bytes.drop start).take len) else none

namespace Shape

/-- A nonempty intermediate shape without constant data has no values. -/
def hasValues (self : Shape) : Bool := !self.data.isEmpty || self.rank == 0

/-- All values, decoded from eight bytes each. -/
def values (self : Shape) : Except (Stop ε) (Option (List Int)) :=
  if self.hasValues then do
    let values ← (List.range self.rank.toNat).mapM fun index => do
      let bytes ← slice self.data (index * 8) 8
      return signedLe bytes
    return some values
  else .ok none

end Shape

/-- An operator, and the names that it reads and writes. -/
structure Operator where
  op : Op
  attributes : OpAttributes
  inputs : List Name
  outputs : List Name
  deriving DecidableEq

end VirtioAccel.Tosa
