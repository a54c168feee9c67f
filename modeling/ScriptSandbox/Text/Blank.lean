import ScriptSandbox.Text.CodePoint

/-! # Blank characters

The characters with the Unicode property White_Space, and the removal of such characters from both
ends of a text.
-/

namespace ScriptSandbox.Text

/-- The ranges of the property White_Space. -/
def blankRanges : List (Nat × Nat) :=
  [(0x9, 0xD), (0x20, 0x20), (0x85, 0x85), (0xA0, 0xA0), (0x1680, 0x1680), (0x2000, 0x200A),
   (0x2028, 0x2029), (0x202F, 0x202F), (0x205F, 0x205F), (0x3000, 0x3000)]

theorem ascending_blankRanges : Ascending blankRanges := by decide +kernel

def isBlank (c : Char) : Bool := inRanges blankRanges c.toNat

theorem isBlank_iff {c : Char} :
    isBlank c ↔ ∃ r ∈ blankRanges, r.1 ≤ c.toNat ∧ c.toNat ≤ r.2 :=
  inRanges_iff ascending_blankRanges

/-- Removes blank characters from both ends. -/
def trim (cs : List Char) : List Char :=
  (((cs.dropWhile isBlank).reverse).dropWhile isBlank).reverse

end ScriptSandbox.Text
