import VirtioAccel.Library.Panics
import Mathlib.Algebra.Group.Int.Defs
import Mathlib.Algebra.Group.Nat.Defs

/-! The discriminants of the stable TOSA 1.0 serialization, and the targets a graph is checked against. -/

namespace VirtioAccel.Tosa

/-- A `&str`, by its UTF-8 bytes: `is_empty`, `len`, equality and order of strings are those of the bytes. -/
abbrev Name := List UInt8

/-- A `&[u8]`. -/
abbrev Bytes := List UInt8

/-- `binary_search` in a sorted list: the position of a name that is in it. -/
def binarySearch (names : List Name) (name : Name) : Option Nat := names.findIdx? fun candidate => candidate == name

/-- Sizes are 64 bits wide. -/
def usizeMax : Nat := 2 ^ 64 - 1

def checkedMul (a b : Nat) : Option Nat := if a * b ≤ usizeMax then some (a * b) else none

/-- `as usize` of a signed number. -/
def intAsUsize (value : Int) : Nat := (value % 2 ^ 64).toNat

def asUsize (value : Int32) : Nat := intAsUsize value.toInt

/-- `i64` arithmetic wraps around. -/
def wrap64 (value : Int) : Int := Int.bmod value (2 ^ 64)

def fitsI64 (value : Int) : Prop := -2 ^ 63 ≤ value ∧ value < 2 ^ 63

instance (value : Int) : Decidable (fitsI64 value) := inferInstanceAs (Decidable (_ ∧ _))

theorem wrap64_of_fits {value : Int} (fits : fitsI64 value) : wrap64 value = value :=
  Int.bmod_eq_of_le (by have := fits.1; omega) (by have := fits.2; omega)

structure Version where
  major : UInt16
  minor : UInt16
  patch : UInt16
  deriving DecidableEq

def Version.tosa10 : Version := { major := 1, minor := 0, patch := 0 }

/-- A data-type discriminant. Raw values that the stable set does not name stay representable. -/
inductive DType where
  | bool | int4 | int8 | int16 | int32 | int48 | fp32 | fp16 | bf16 | shape | fp8e4m3 | fp8e5m2
  | other (raw : UInt32)
  deriving DecidableEq

/-- An operator discriminant. -/
inductive Op where
  | argmax | avgPool2d | conv2d | conv3d | depthwiseConv2d | fft2d | matmul | maxPool2d | rfft2d | transposeConv2d
  | clamp | erf | sigmoid | tanh | add | arithmeticRightShift | bitwiseAnd | bitwiseOr | bitwiseXor | intdiv
  | logicalAnd | logicalLeftShift | logicalRightShift | logicalOr | logicalXor | maximum | minimum | mul | pow | sub
  | table | abs | bitwiseNot | ceil | clz | cos | exp | floor | log | logicalNot
  | negate | reciprocal | rsqrt | sin | select | equal | greater | greaterEqual | reduceAll | reduceAny
  | reduceMax | reduceMin | reduceProduct | reduceSum | concat | pad | reshape | reverse | slice | tile
  | transpose | gather | scatter | resize | cast | rescale | const | identity | custom | condIf
  | whileLoop | variable | variableWrite | variableRead | constShape
  | other (raw : UInt32)
  deriving DecidableEq

/-- Base profiles, by their bits. -/
structure ProfileSet where
  bits : UInt32
  deriving DecidableEq

namespace ProfileSet

def all : ProfileSet := ⟨0b11⟩
end ProfileSet

/-- Profile extensions, by their bits. -/
structure ExtensionSet where
  bits : UInt64
  deriving DecidableEq

namespace ExtensionSet

def dynamic : ExtensionSet := ⟨0x100⟩
def contains (self other : ExtensionSet) : Bool := self.bits &&& other.bits == other.bits
end ExtensionSet

inductive Level where
  | unbounded | level8K
  deriving DecidableEq

/-- The ceilings an implementation level puts on the arguments of the operators
that are modelled. -/
structure LevelLimits where
  maxScale : Int
  maxLog2Size : Nat
  deriving DecidableEq

def Level.limits : Level → LevelLimits
  | unbounded => { maxScale := 2048, maxLog2Size := 63 }
  | level8K => { maxScale := 256, maxLog2Size := 31 }

structure Target where
  version : Version
  profiles : ProfileSet
  level : Level
  extensions : ExtensionSet
  deriving DecidableEq

end VirtioAccel.Tosa
