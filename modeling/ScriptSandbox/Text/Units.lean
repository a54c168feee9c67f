/-! # Units of texts

Scripts index texts by 16-bit units. A character beyond the first 65,536 takes two of them, and half
of such a character is shown as the replacement character.
-/

namespace ScriptSandbox.Text

def replacement : Char := '\uFFFD'

/-- The characters shown for the units of one character. -/
def charUnits (c : Char) : List Char :=
  if c.toNat < 0x10000 then [c] else [replacement, replacement]

/-- The characters shown for the units of a text. -/
def units (s : String) : List Char := s.toList.flatMap charUnits

end ScriptSandbox.Text
