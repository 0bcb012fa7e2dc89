import Mathlib.Data.List.Basic

/-! Streams of records that are written one after the other, with nothing between them. -/

namespace Streams
variable {α β : Type}

/-- From any stream that starts with a record's code the record can be told. -/
structure SelfDelimiting (encode : α → List β) : Prop where
  nonempty : ∀ record, encode record ≠ []
  front : ∀ {first second rest rest'}, encode first ++ rest = encode second ++ rest' → first = second

/-- Such a stream determines all of its records. -/
theorem SelfDelimiting.flatMap_injective {encode : α → List β} (delimits : SelfDelimiting encode)
    {first second : List α} (same : first.flatMap encode = second.flatMap encode) : first = second := by
  induction first generalizing second with
  | nil =>
    cases second with
    | nil => rfl
    | cons record rest =>
      exact absurd (List.append_eq_nil_iff.mp same.symm).1 (delimits.nonempty record)
  | cons record rest ih =>
    cases second with
    | nil =>
      exact absurd (List.append_eq_nil_iff.mp same).1 (delimits.nonempty record)
    | cons record' rest' =>
      obtain rfl := delimits.front same
      rw [ih (List.append_cancel_left same)]

end Streams
