/-! # Decimal numerals

Unsigned runs of decimal digits and their values.
-/

namespace ScriptSandbox.Numeral

/-- The value of a run of digits. -/
def value (digits : List Char) : Nat :=
  digits.foldl (fun n c => 10 * n + (c.toNat - '0'.toNat)) 0

/-- Reads a nonempty run of digits with nothing else around it. -/
def parse? (cs : List Char) : Option Nat :=
  if cs ≠ [] ∧ cs.all Char.isDigit then some (value cs) else none

end ScriptSandbox.Numeral
