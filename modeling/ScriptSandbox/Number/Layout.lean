import ScriptSandbox.Number.Shortest

/-! # Text of numbers

A decimal is written plainly while its point stands within twenty-one digits to the right and six
zeros to the left, and with an exponent otherwise.
-/

namespace ScriptSandbox

namespace Decimal

/-- The leading digit, the others behind a point, and a signed exponent. -/
def exponential (d : Decimal) : List Char :=
  let fraction := if d.digits.tail = [] then [] else '.' :: d.digits.tail
  let sign := if d.exponent < 0 then '-' else '+'
  d.digits.take 1 ++ fraction ++ 'e' :: sign :: Nat.toDigits 10 d.exponent.natAbs

/-- The written form: digits then zeros, a point among the digits, zeros behind the point, or an
exponent, by where the point falls. -/
def layout (d : Decimal) : List Char :=
  let point := d.exponent + 1
  if d.digits.length ≤ point ∧ point ≤ 21 then
    d.digits ++ List.replicate (point.toNat - d.digits.length) '0'
  else if 0 < point ∧ point ≤ 21 then
    d.digits.take point.toNat ++ '.' :: d.digits.drop point.toNat
  else if -6 < point ∧ point ≤ 0 then
    '0' :: '.' :: (List.replicate (-point).toNat '0' ++ d.digits)
  else d.exponential

end Decimal

/-- The text of a number as scripts see it; both zeros are written alike. -/
def Number.text : Number → String
  | .nan => "NaN"
  | .infinite negative => if negative then "-Infinity" else "Infinity"
  | .finite negative x =>
    if x.mantissa = 0 then "0"
    else
      let written := String.ofList x.shortest.layout
      if negative then "-" ++ written else written

end ScriptSandbox
