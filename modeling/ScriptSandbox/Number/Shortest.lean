import ScriptSandbox.Number.Nearest

/-! # Shortest decimals

A magnitude is written with the fewest decimal digits that read back to it. For one digit, two
digits, and so on the value has two neighbours on the grid of decimals with that many digits; the
first grid with a neighbour that reads back decides, the nearer neighbour is preferred, and of two
equally near ones the greater.
-/

namespace ScriptSandbox

/-- The decimal `d₁.d₂…dₖ * 10 ^ exponent`. -/
structure Decimal where
  digits : List Char
  exponent : Int
deriving DecidableEq

namespace Decimal

/-- The decimal `coefficient * 10 ^ power` without trailing zeros. -/
def ofScaled (coefficient : Nat) (power : Int) : Decimal :=
  let digits := Nat.toDigits 10 coefficient
  { digits := (digits.reverse.dropWhile (· = '0')).reverse
    exponent := power + digits.length - 1 }

end Decimal

namespace Magnitude

/-- Whether `coefficient * 10 ^ power` rounds to the magnitude. -/
def readsBack (x : Magnitude) (coefficient : Nat) (power : Int) : Bool :=
  nearest? (coefficient * Nat.pow 10 power.toNat) (Nat.pow 10 (-power).toNat) = some x

/-- The number of digits before the point; not positive for a value below one tenth. -/
def decimalPoint (x : Magnitude) : Int :=
  let (num, den) := x.ratio
  if den ≤ num then (Nat.toDigits 10 (num / den)).length
  else 1 - (Nat.toDigits 10 (den / num)).length

/-- The neighbour of the magnitude on the grid `10 ^ power` that reads back, the nearer first. -/
def neighbour? (x : Magnitude) (power : Int) : Option Nat :=
  let (num, den) := x.ratio
  let num := num * Nat.pow 10 (-power).toNat
  let den := den * Nat.pow 10 power.toNat
  let below := num / den
  let above := below + 1
  let (first, second) := if den ≤ 2 * (num % den) then (above, below) else (below, above)
  if x.readsBack first power then some first
  else if x.readsBack second power then some second
  else none

/-- The exact decimal expansion. -/
def expansion (x : Magnitude) : Decimal :=
  if 1074 ≤ x.scale then .ofScaled (x.mantissa * Nat.pow 2 (x.scale - 1074)) 0
  else .ofScaled (x.mantissa * Nat.pow 5 (1074 - x.scale)) (-((1074 - x.scale : Nat) : Int))

/-- The fewest digits that read back to the magnitude; seventeen always suffice. -/
def shortest (x : Magnitude) : Decimal :=
  let found := (List.range 17).findSome? fun (n : Nat) =>
    let power := x.decimalPoint - (n + 1 : Nat)
    (x.neighbour? power).map (Decimal.ofScaled · power)
  found.getD x.expansion

end Magnitude

end ScriptSandbox
