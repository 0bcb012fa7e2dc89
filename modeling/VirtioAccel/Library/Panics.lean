import VirtioAccel.Library.Checked

/-! Computations that may panic besides failing. -/

namespace Checked
variable {ε α : Type}

/-- How a computation can stop early: at a panic, or with an error of its own. -/
inductive Stop (ε : Type) where
  | panicked
  | failed (error : ε)
  deriving DecidableEq

/-- `expect`, `unwrap` and the wrong arm of an irrefutable match. -/
def orPanic : Option α → Except (Stop ε) α
  | some a => .ok a
  | none => .error .panicked

/-- An index that panics when it is out of range. -/
def index (l : List α) (i : Nat) : Except (Stop ε) α := orPanic l[i]?

end Checked
