import ScriptSandbox.Number.Nearest
import ScriptSandbox.Number.Numeral
import ScriptSandbox.Text.Blank

/-! # Reading numbers

The text of a number, with blanks around it, is empty for zero, a spelling of infinity or of
not-a-number, or a decimal literal. Anything else is not a number.
-/

namespace ScriptSandbox

/-- An unsigned decimal literal: digits, digits behind the point, and a power of ten. -/
structure Literal where
  whole : List Char
  fraction : List Char
  exponent : Int

namespace Literal

/-- The part behind an exponent mark. -/
def exponent? : List Char → Option Int
  | '+' :: cs => (Numeral.parse? cs).map Int.ofNat
  | '-' :: cs => (Numeral.parse? cs).map fun n => -Int.ofNat n
  | cs => (Numeral.parse? cs).map Int.ofNat

/-- The fraction behind a point, if there is one, and what follows. -/
def splitFraction : List Char → List Char × List Char
  | '.' :: cs => cs.span Char.isDigit
  | cs => ([], cs)

/-- Reads a literal: digits on at least one side of an optional point, then an optional exponent. -/
def parse? (cs : List Char) : Option Literal :=
  let (whole, rest) := cs.span Char.isDigit
  let (fraction, rest) := splitFraction rest
  if whole = [] ∧ fraction = [] then none
  else
    match rest with
    | [] => some ⟨whole, fraction, 0⟩
    | mark :: rest =>
      if mark = 'e' ∨ mark = 'E' then (exponent? rest).map (⟨whole, fraction, ·⟩) else none

/-- The signed number nearest to the literal. -/
def toNumber (l : Literal) (negative : Bool) : Number :=
  .ofDecimal negative (Numeral.value (l.whole ++ l.fraction)) (l.exponent - l.fraction.length)

end Literal

namespace Number

/-- A number without its sign. Letters of a word count in either case. -/
def ofUnsigned (negative : Bool) (cs : List Char) : Number :=
  let word := cs.map Char.toLower
  if word = "inf".toList ∨ word = "infinity".toList then .infinite negative
  else
    match Literal.parse? cs with
    | some l => l.toNumber negative
    | none => .nan

/-- The number that a text stands for. -/
def ofText (s : String) : Number :=
  match Text.trim s.toList with
  | [] => .zero
  | '+' :: cs => ofUnsigned false cs
  | '-' :: cs => ofUnsigned true cs
  | cs => ofUnsigned false cs

end Number

end ScriptSandbox
