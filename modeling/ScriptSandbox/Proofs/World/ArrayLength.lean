import ScriptSandbox.Proofs.World.Run

/-! # The lengths of arrays

At every moment each array has a length that lies above its indices, however the operations before
went out.
-/

namespace ScriptSandbox.World

variable {history : List Event} {r : Ref}

/-- The length of an array is a natural, hidden and locked but for its value, and no index reaches
it. It has 32 bits, unless the array is oversized. -/
theorem length_after (ha : (after history).heap.kind r = .array) :
    ∃ n writable,
      (after history).heap.own? r .length = some ⟨.ofNat n, writable, false, false⟩ ∧
      (n ≤ maxLength ∨ Oversized history r) ∧
      (after history).heap.storedLength ((after history).heap.cell r) = min n maxLength ∧
      ∀ i : ArrayIndex, .index i ∈ ((after history).heap.cell r).properties.keys →
        i.val < n ∧ i.val + 1 ≤ maxLength := by
  obtain ⟨n, w, hn, hle⟩ := (sound_after history r).length ha
  refine ⟨n, w, hn.own, ?_, hn.storedLength _, fun i hi => ⟨hn.lt hi, i.isLt⟩⟩
  by_cases hover : Oversized history r
  · exact Or.inr hover
  · exact Or.inl (hle hover)

/-- The first object that is made is an array with a locked element in the middle, and then cut
back. -/
def cutting : List Event := [
  .addPolicy {}, .addRealm {} [] 0,
  .perform 0 (.createArray [.null, .null, .null]),
  .perform 0 (.define ⟨61⟩ (.ofNat 1) { configurable := some false }),
  .perform 0 (.assign ⟨61⟩ .length (.ofNat 0) .strict)]

theorem length_after_cutting : (after cutting).heap.kind ⟨61⟩ = .array ∧
    ∃ n writable,
      (after cutting).heap.own? ⟨61⟩ .length = some ⟨.ofNat n, writable, false, false⟩ ∧
      n ≤ maxLength ∧
      ∀ i : ArrayIndex, .index i ∈ ((after cutting).heap.cell ⟨61⟩).properties.keys →
        i.val < n ∧ i.val + 1 ≤ maxLength := by
  have ha : (after cutting).heap.kind ⟨61⟩ = .array := by decide +kernel
  have hover : ¬Oversized cutting ⟨61⟩ := by decide +kernel
  obtain ⟨n, w, hown, hle, -, hlt⟩ := length_after ha
  exact ⟨ha, n, w, hown, hle.resolve_right hover, hlt⟩

-- The element that is locked stays, and the length above it.
example : (after cutting).heap.own? ⟨61⟩ .length = some ⟨.ofNat 2, true, false, false⟩ := by
  decide +kernel

end ScriptSandbox.World
