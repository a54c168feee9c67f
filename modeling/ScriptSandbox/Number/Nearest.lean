import ScriptSandbox.Number.Binary

/-! # Rounding to a binary number

A quotient of naturals is rounded to the nearest magnitude, a tie going to the even mantissa. The
quotient is first counted in units of `2 ^ -1074`; its size fixes the scale, and one integer
division fixes the mantissa.
-/

namespace ScriptSandbox

/-- The natural nearest to a quotient, of two equally near the even one. -/
def nearestQuotient (num den : Nat) : Nat :=
  let q := num / den
  let r := num % den
  if 2 * r < den then q
  else if den < 2 * r then q + 1
  else q + q % 2

namespace Magnitude

/-- A mantissa of at most `2 ^ 53` at a scale; rounding up may have reached the next scale. -/
def ofRounded? (mantissa scale : Nat) : Option Magnitude :=
  if h : mantissa < Nat.pow 2 53 ∧ (scale = 0 ∨ Nat.pow 2 52 ≤ mantissa) ∧ scale ≤ 2045 then
    some ⟨mantissa, scale, h.1, h.2.1, h.2.2⟩
  else if h : mantissa = Nat.pow 2 53 ∧ scale + 1 ≤ 2045 then
    some ⟨Nat.pow 2 52, scale + 1, by decide, .inr (Nat.le_refl _), h.2⟩
  else none

/-- The magnitude nearest to `num / den`, or nothing when that is past the greatest. -/
def nearest? (num den : Nat) : Option Magnitude :=
  let units := Nat.pow 2 1074 * num
  let scale := (units / den).log2 - 52
  ofRounded? (nearestQuotient units (den * Nat.pow 2 scale)) scale

end Magnitude

namespace Number

/-- The number nearest to a signed quotient. -/
def ofRatio (negative : Bool) (num den : Nat) : Number :=
  match Magnitude.nearest? num den with
  | some x => .finite negative x
  | none => .infinite negative

def ofNat (n : Nat) : Number :=
  if h : n < Nat.pow 2 53 then .finite false (.ofNat n h) else .ofRatio false n 1

/-- The number nearest to `coefficient * 10 ^ power`. Exponents beyond the range of magnitudes are
answered from the number of digits, before any power is computed. -/
def ofDecimal (negative : Bool) (coefficient : Nat) (power : Int) : Number :=
  let point := (Nat.toDigits 10 coefficient).length + power
  if coefficient = 0 ∨ point < -330 then .finite negative .zero
  else if 310 < point then .infinite negative
  else .ofRatio negative (coefficient * Nat.pow 10 power.toNat) (Nat.pow 10 (-power).toNat)

end Number

end ScriptSandbox
