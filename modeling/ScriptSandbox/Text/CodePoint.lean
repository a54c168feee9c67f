/-! # Sets of code points

A set of characters is given by closed ranges of code points, ascending and apart, so that a look-up
may stop at the first range past the character.
-/

namespace ScriptSandbox.Text

/-- Whether a code point lies in one of the ranges. -/
def inRanges : List (Nat × Nat) → Nat → Bool
  | [], _ => false
  | (first, last) :: rest, n =>
    if n < first then false
    else if n ≤ last then true
    else inRanges rest n

/-- Ranges in ascending order with a gap before each. -/
def Ascending : List (Nat × Nat) → Prop
  | [] => True
  | [r] => r.1 ≤ r.2
  | r :: s :: rest => r.1 ≤ r.2 ∧ r.2 + 1 < s.1 ∧ Ascending (s :: rest)

instance decidableAscending : DecidablePred Ascending
  | [] => isTrue trivial
  | [r] => inferInstanceAs (Decidable (r.1 ≤ r.2))
  | r :: s :: rest =>
    have := decidableAscending (s :: rest)
    inferInstanceAs (Decidable (r.1 ≤ r.2 ∧ r.2 + 1 < s.1 ∧ Ascending (s :: rest)))

variable {r s : Nat × Nat} {rest ranges : List (Nat × Nat)} {n : Nat}

theorem ascending_cons_iff : Ascending (r :: rest) ↔
    r.1 ≤ r.2 ∧ (∀ s ∈ rest.head?, r.2 + 1 < s.1) ∧ Ascending rest := by
  cases rest <;> simp [Ascending]

theorem Ascending.lt (h : Ascending (r :: rest)) (hs : s ∈ rest) : r.2 + 1 < s.1 := by
  induction rest generalizing r with
  | nil => exact absurd hs List.not_mem_nil
  | cons t rest ih =>
    obtain ⟨-, hlt, hrest⟩ := ascending_cons_iff.1 h
    have hnext : r.2 + 1 < t.1 := hlt t rfl
    rcases List.mem_cons.1 hs with rfl | hs
    · exact hnext
    · obtain ⟨hle, -, -⟩ := ascending_cons_iff.1 hrest
      have := ih hrest hs
      omega

/-- The look-up in ascending ranges misses none of them. -/
theorem inRanges_iff (h : Ascending ranges) :
    inRanges ranges n ↔ ∃ r ∈ ranges, r.1 ≤ n ∧ n ≤ r.2 := by
  induction ranges with
  | nil => simp [inRanges]
  | cons r rest ih =>
    obtain ⟨hle, -, hrest⟩ := ascending_cons_iff.1 h
    rw [inRanges]
    simp only [List.mem_cons, exists_eq_or_imp, ← ih hrest]
    split
    · rename_i hlt
      -- All later ranges are past the character as well.
      have hnone : ¬inRanges rest n := by
        rw [ih hrest]
        rintro ⟨s, hs, hmem, -⟩
        have := h.lt hs
        omega
      simp only [hnone, Bool.false_eq_true, or_false, false_iff]
      omega
    · split
      · simp only [true_iff]
        omega
      · simp only [iff_or_self]
        omega

end ScriptSandbox.Text
