import ScriptSandbox.Proofs.Heap.Conversion
import ScriptSandbox.Proofs.World.ArrayLength
import ScriptSandbox.Proofs.World.Errors

/-! # Values without a text

Of all values in a world only arguments objects come to be without a text, by being stored as their
own length. The length of an array is a number at every moment.
-/

namespace ScriptSandbox.World

variable {history : List Event} {r : Ref} {v : Value}

theorem measuresItself_iff : (after history).heap.MeasuresItself r ↔
    (after history).heap.kind r = .arguments ∧
      ((after history).heap.own? r .length).map Property.value = some (.object r) := by
  refine and_congr_left fun hown => or_iff_right fun ha => ?_
  obtain ⟨n, w, hlength, -⟩ := length_after ha
  rw [hlength] at hown
  cases hown

/-- The values without a text are the arguments objects that are their own length. -/
theorem text?_eq_none_iff_after : (after history).heap.text? v = none ↔
    ∃ r, v = .object r ∧ (after history).heap.kind r = .arguments ∧
      ((after history).heap.own? r .length).map Property.value = some (.object r) := by
  rw [Heap.text?_eq_none_iff]
  exact exists_congr fun r => and_congr_right fun _ => measuresItself_iff

/-- The first object that is made is an arguments object, which is then stored as its length. -/
def measuring : List Event := founding ++ [
  .perform 0 (.createArguments [.null]),
  .perform 0 (.assign ⟨61⟩ .length (.object ⟨61⟩) .strict)]

example : (after measuring).heap.text? (.object ⟨61⟩) = none := by decide +kernel

end ScriptSandbox.World
