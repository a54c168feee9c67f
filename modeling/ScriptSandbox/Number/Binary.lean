/-! # Binary numbers

Script numbers are the values of 64-bit binary floating point: a sign with a magnitude, the two
infinities, and one value that is not a number. They are kept as exact naturals, so every conversion
is a computation on integers.
-/

namespace ScriptSandbox

/-- A finite size `mantissa * 2 ^ scale`, in units of `2 ^ -1074`. -/
structure Magnitude where
  mantissa : Nat
  scale : Nat
  mantissa_lt : mantissa < Nat.pow 2 53
  le_mantissa : scale = 0 ∨ Nat.pow 2 52 ≤ mantissa
  scale_le : scale ≤ 2045
deriving DecidableEq

namespace Magnitude

def zero : Magnitude := ⟨0, 0, by decide, by decide, by decide⟩

/-- The magnitude as a quotient of naturals. -/
def ratio (x : Magnitude) : Nat × Nat :=
  if 1074 ≤ x.scale then (x.mantissa * Nat.pow 2 (x.scale - 1074), 1)
  else (x.mantissa, Nat.pow 2 (1074 - x.scale))

/-- The whole part. -/
def floor (x : Magnitude) : Nat := x.ratio.1 / x.ratio.2

def isWhole (x : Magnitude) : Bool := x.ratio.1 % x.ratio.2 = 0

/-- The exponent and fraction fields; consecutive magnitudes have consecutive codes. -/
def code (x : Magnitude) : Nat := x.scale * Nat.pow 2 52 + x.mantissa

theorem shift_lt {n : Nat} (h : n < Nat.pow 2 53) :
    n * Nat.pow 2 (52 - n.log2) < Nat.pow 2 53 := by
  simp only [Nat.pow_eq] at h ⊢
  rcases Nat.eq_zero_or_pos n with rfl | hn
  · decide
  · have hlog : n.log2 ≤ 52 := by
      have := (Nat.log2_lt (by omega)).2 h
      omega
    calc n * 2 ^ (52 - n.log2)
        < 2 ^ (n.log2 + 1) * 2 ^ (52 - n.log2) :=
          Nat.mul_lt_mul_of_pos_right Nat.lt_log2_self (Nat.two_pow_pos _)
      _ = 2 ^ 53 := by rw [← Nat.pow_add]; congr 1; omega

theorem le_shift {n : Nat} (h₀ : n ≠ 0) (h : n < Nat.pow 2 53) :
    Nat.pow 2 52 ≤ n * Nat.pow 2 (52 - n.log2) := by
  simp only [Nat.pow_eq] at h ⊢
  have hlog : n.log2 ≤ 52 := by
    have := (Nat.log2_lt h₀).2 h
    omega
  calc 2 ^ 52 = 2 ^ n.log2 * 2 ^ (52 - n.log2) := by rw [← Nat.pow_add]; congr 1; omega
    _ ≤ n * 2 ^ (52 - n.log2) := Nat.mul_le_mul_right _ (Nat.log2_self_le h₀)

/-- A natural below `2 ^ 53`, which is a magnitude exactly. -/
def ofNat (n : Nat) (h : n < Nat.pow 2 53) : Magnitude :=
  if h₀ : n = 0 then zero
  else
    { mantissa := n * Nat.pow 2 (52 - n.log2)
      scale := n.log2 + 1022
      mantissa_lt := shift_lt h
      le_mantissa := .inr (le_shift h₀ h)
      scale_le := by
        have := (Nat.log2_lt h₀).2 h
        omega }

end Magnitude

inductive Number where
  | nan
  | infinite (negative : Bool)
  | finite (negative : Bool) (magnitude : Magnitude)
deriving DecidableEq

namespace Number

def zero : Number := .finite false .zero

/-- Neither zero nor not-a-number. -/
def isTruthy : Number → Bool
  | nan => false
  | infinite _ => true
  | finite _ x => x.mantissa ≠ 0

/-- Numeric equality: not-a-number equals nothing and the two zeros are equal. The equality `=` of
the type is the other one, under which a value equals itself and the zeros differ. -/
def equals : Number → Number → Bool
  | infinite s, infinite t => s = t
  | finite s x, finite t y => x = y ∧ (s = t ∨ x.mantissa = 0)
  | _, _ => false

/-- The natural a number is, negative zero included. -/
def toNat? : Number → Option Nat
  | finite negative x =>
    if x.isWhole ∧ (negative = false ∨ x.mantissa = 0) then some x.floor else none
  | _ => none

/-- The whole part brought into the range of 32 unsigned bits, and `0` for not-a-number. -/
def clamp32 : Number → Nat
  | nan => 0
  | infinite negative => if negative then 0 else Nat.pow 2 32 - 1
  | finite negative x => if negative then 0 else min x.floor (Nat.pow 2 32 - 1)

/-- The 64 bits of the value; not-a-number has several, of which this is the quiet one. -/
def bits : Number → Nat
  | nan => 0x7FF8000000000000
  | infinite negative => (if negative then Nat.pow 2 63 else 0) + 0x7FF0000000000000
  | finite negative x => (if negative then Nat.pow 2 63 else 0) + x.code

end Number

end ScriptSandbox
