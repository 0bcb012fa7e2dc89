import VirtioAccel.Tosa.Graph

/-! The operands of an operator, and how a rule about them fails. -/

namespace VirtioAccel.Tosa
open Checked

/-- How a rule about the compile-time constants of an operator fails, after the
serialization envelope has been validated. -/
inductive SemanticErrorKind where
  | constantRequired (op : Op) (input : Nat)
  | invalidConstantData (op : Op) (operand : Nat)
  deriving DecidableEq

/-- What a name of a block stands for. -/
inductive Symbol where
  | tensor (value : Tensor)
  | shape (value : Shape)
  deriving DecidableEq

/-- A rule of the semantic pass. -/
abbrev Rule (α : Type) := Except (Stop SemanticErrorKind) α

def tensor : Symbol → Rule Tensor
  | .tensor value => .ok value
  | .shape _ => .error .panicked

/-- The tensor among the operands at a position. -/
def tensorAt (operands : List Symbol) (position : Nat) : Rule Tensor := do
  let operand ← index operands position
  tensor operand

end VirtioAccel.Tosa
