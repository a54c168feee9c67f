import Mathlib.Tactic.Ring
import ScriptSandbox.Proofs.Number.Numeral

/-! # Rounding of quotients

What a quotient is rounded to depends on its value alone. A magnitude is rounded to itself, and
nothing is what is rounded past the greatest magnitude: the quotients from half a unit above it on.
-/

namespace ScriptSandbox

variable {num den num' den' n k : Nat}

/-! ### Rounding to a natural -/

theorem nearestQuotient_mul_mul (hk : 0 < k) (num den : Nat) :
    nearestQuotient (num * k) (den * k) = nearestQuotient num den := by
  simp only [nearestQuotient, Nat.mul_div_mul_right num den hk, Nat.mul_mod_mul_right,
    ← Nat.mul_assoc, Nat.mul_lt_mul_right hk]

theorem div_le_nearestQuotient (num den : Nat) : num / den ≤ nearestQuotient num den := by
  unfold nearestQuotient
  dsimp only
  split_ifs <;> omega

theorem nearestQuotient_le (num den : Nat) : nearestQuotient num den ≤ num / den + 1 := by
  unfold nearestQuotient
  dsimp only
  split_ifs <;> omega

/-- A quotient is rounded above an odd natural from the half behind it on. -/
theorem lt_nearestQuotient_iff (hd : 0 < den) (hn : n % 2 = 1) :
    n < nearestQuotient num den ↔ (2 * n + 1) * den ≤ 2 * num := by
  have hmod := Nat.mod_lt num hd
  have hnum : 2 * num = 2 * (num / den) * den + 2 * (num % den) := by
    calc 2 * num = 2 * (den * (num / den) + num % den) := by rw [Nat.div_add_mod]
      _ = _ := by ring
  have hlow := div_le_nearestQuotient num den
  have hhigh := nearestQuotient_le num den
  rcases Nat.lt_trichotomy n (num / den) with hlt | rfl | hlt
  · have hle : (2 * n + 1) * den ≤ 2 * (num / den) * den := Nat.mul_le_mul_right _ (by omega)
    constructor <;> intro <;> omega
  · have hsplit : (2 * (num / den) + 1) * den = 2 * (num / den) * den + den := by ring
    unfold nearestQuotient
    dsimp only
    split_ifs <;> omega
  · have hle : (2 * (num / den) + 2 + 1) * den ≤ (2 * n + 1) * den :=
      Nat.mul_le_mul_right _ (by omega)
    have hsplit : (2 * (num / den) + 2 + 1) * den = 2 * (num / den) * den + 3 * den := by ring
    constructor <;> intro <;> omega

namespace Magnitude

variable {x : Magnitude} {mantissa scale : Nat}

/-! ### Quotients of one value -/

theorem nearest?_mul_mul (hk : 0 < k) (num den : Nat) :
    nearest? (num * k) (den * k) = nearest? num den := by
  simp only [nearest?]
  generalize Nat.pow 2 1074 = unit
  rw [← Nat.mul_assoc, Nat.mul_div_mul_right _ _ hk, Nat.mul_right_comm den k,
    nearestQuotient_mul_mul hk]

theorem nearest?_congr (hd : 0 < den) (hd' : 0 < den') (h : num * den' = num' * den) :
    nearest? num den = nearest? num' den' := by
  rw [← nearest?_mul_mul hd' num den, ← nearest?_mul_mul hd num' den', h, Nat.mul_comm den]

theorem log2_mul_two_pow (x : Magnitude) :
    (x.mantissa * Nat.pow 2 x.scale).log2 - 52 = x.scale := by
  by_cases h₀ : x.mantissa = 0
  · have hs : x.scale = 0 := x.le_mantissa.resolve_right (by simp [h₀])
    rw [h₀, hs]
    rfl
  · have hlt := (Nat.log2_lt h₀).2 x.mantissa_lt
    rw [Nat.mul_comm, log2_two_pow_mul _ h₀]
    rcases x.le_mantissa with hs | hm
    · omega
    · have hle := (Nat.le_log2 h₀).2 hm
      omega

theorem ofRounded?_self (x : Magnitude) : ofRounded? x.mantissa x.scale = some x :=
  dif_pos ⟨x.mantissa_lt, x.le_mantissa, x.scale_le⟩

/-- A magnitude is rounded to itself. -/
theorem nearest?_ratio (x : Magnitude) : nearest? x.ratio.1 x.ratio.2 = some x := by
  simp only [nearest?]
  generalize hs : 1074 = s
  have hunits : Nat.pow 2 s * x.ratio.1 = x.mantissa * Nat.pow 2 x.scale * x.ratio.2 := by
    rw [Nat.mul_comm, ratio_mul x hs]
  have hpos : 0 < x.ratio.2 * Nat.pow 2 x.scale := Nat.mul_pos x.ratio_pos (Nat.two_pow_pos _)
  rw [hunits, Nat.mul_div_cancel _ x.ratio_pos, log2_mul_two_pow, Nat.mul_assoc,
    Nat.mul_comm (Nat.pow 2 x.scale), nearestQuotient_mul hpos, ofRounded?_self]

/-! ### The range of magnitudes -/

/-- Half a unit above the greatest mantissa, in halves of a unit of `2 ^ (exponent + 1)`. -/
def halfAbove (exponent : Nat) : Nat := (Nat.pow 2 54 - 1) * Nat.pow 2 exponent

/-- Half a unit above the greatest magnitude. -/
def limit : Nat := halfAbove 970

theorem ofRounded?_eq_none_iff {last : Nat} (hlast : last = 2045) (hm : mantissa ≤ Nat.pow 2 53)
    (hs : scale = 0 ∨ Nat.pow 2 52 ≤ mantissa) :
    ofRounded? mantissa scale = none ↔
      last < scale ∨ last = scale ∧ Nat.pow 2 53 - 1 < mantissa := by
  unfold ofRounded?
  simp only [Nat.pow_eq] at hm hs ⊢
  split_ifs with h h'
  · simp only [false_iff]
    omega
  · simp only [false_iff]
    omega
  · simp only [true_iff]
    omega

/-- The quotient at the scale that its size fixes, before it is rounded. -/
theorem div_two_pow_bounds (u : Nat) : u / Nat.pow 2 (u.log2 - 52) < Nat.pow 2 53 ∧
    (u.log2 - 52 = 0 ∨ Nat.pow 2 52 ≤ u / Nat.pow 2 (u.log2 - 52)) := by
  simp only [Nat.pow_eq]
  have hpos := Nat.two_pow_pos (u.log2 - 52)
  constructor
  · rw [Nat.div_lt_iff_lt_mul hpos, ← Nat.pow_add]
    exact Nat.lt_log2_self.trans_le (Nat.pow_le_pow_right (by decide) (by omega))
  · by_cases hlog : u.log2 ≤ 52
    · exact Or.inl (by omega)
    · right
      have h₀ : u ≠ 0 := by
        rintro rfl
        exact hlog (by simp)
      rw [Nat.le_div_iff_mul_le hpos, ← Nat.pow_add, Nat.add_sub_cancel' (by omega)]
      exact Nat.log2_self_le h₀

/-- The scale that the size of a quotient fixes. -/
theorem le_scale_iff (hd : 0 < den) (hk : 0 < k) :
    k ≤ (num / den).log2 - 52 ↔ Nat.pow 2 52 * (den * Nat.pow 2 k) ≤ num := by
  have hpow : Nat.pow 2 52 * (den * Nat.pow 2 k) = Nat.pow 2 (k + 52) * den := by
    rw [two_pow_add (Nat.add_comm 52 k), Nat.mul_left_comm, Nat.mul_comm den]
  rw [hpow, ← Nat.le_div_iff_mul_le hd]
  by_cases h₀ : num / den = 0
  · have hpos : 0 < Nat.pow 2 (k + 52) := Nat.two_pow_pos _
    simp only [h₀, Nat.log2_zero]
    omega
  · exact (show k ≤ (num / den).log2 - 52 ↔ k + 52 ≤ (num / den).log2 by omega).trans
      (Nat.le_log2 h₀)

/-- The scale is past the last one, or it is the last one and the mantissa is rounded past it. -/
theorem nearest?_eq_none_iff_scale (hd : 0 < den) {s : Nat} (hs : s = 1074) {units : Nat}
    (hu : units = Nat.pow 2 s * num) : nearest? num den = none ↔
      s + 971 < (units / den).log2 - 52 ∨ s + 971 = (units / den).log2 - 52 ∧
        (Nat.pow 2 54 - 1) * (den * Nat.pow 2 (s + 971)) ≤ 2 * units := by
  have hlast : s + 971 = 2045 := by omega
  simp only [nearest?]
  rw [← hs, ← hu]
  generalize hscale : (units / den).log2 - 52 = scale
  obtain ⟨hlt, hle⟩ := div_two_pow_bounds (units / den)
  rw [hscale, Nat.div_div_eq_div_mul] at hlt hle
  have hlow := div_le_nearestQuotient units (den * Nat.pow 2 scale)
  have hhigh := nearestQuotient_le units (den * Nat.pow 2 scale)
  rw [ofRounded?_eq_none_iff hlast (hhigh.trans hlt) (hle.imp_right fun h => h.trans hlow)]
  refine or_congr_right (and_congr_right fun h => ?_)
  rw [h]
  exact lt_nearestQuotient_iff (Nat.mul_pos hd (Nat.two_pow_pos _)) (by decide)

/-- A quotient is rounded to no magnitude exactly if it is at least the limit. -/
theorem nearest?_eq_none_iff (hd : 0 < den) : nearest? num den = none ↔ limit * den ≤ num := by
  obtain ⟨s, hs⟩ : ∃ s, s = 1074 := ⟨_, rfl⟩
  obtain ⟨units, hu⟩ : ∃ units, units = Nat.pow 2 s * num := ⟨_, rfl⟩
  obtain ⟨last, hlast⟩ : ∃ last, last = den * Nat.pow 2 (s + 971) := ⟨_, rfl⟩
  have hlimit : limit * den ≤ num ↔ (Nat.pow 2 54 - 1) * last ≤ 2 * units := by
    have hpos : 0 < Nat.pow 2 (s + 1) := Nat.two_pow_pos _
    have htwice : 2 * units = num * Nat.pow 2 (s + 1) := by
      rw [hu, two_pow_add rfl]
      ac_rfl
    have hscaled : (Nat.pow 2 54 - 1) * last = limit * den * Nat.pow 2 (s + 1) := by
      obtain ⟨k, hk⟩ : ∃ k, k = 970 := ⟨_, rfl⟩
      rw [hlast, two_pow_add (show k + (s + 1) = s + 971 by omega), limit, ← hk, halfAbove]
      ac_rfl
    rw [hscaled, htwice]
    exact (Nat.mul_le_mul_right_iff hpos).symm
  have hat : s + 971 ≤ (units / den).log2 - 52 ↔ Nat.pow 2 52 * last ≤ units := by
    rw [le_scale_iff hd (by omega), hlast]
  have hpast : s + 971 < (units / den).log2 - 52 ↔ Nat.pow 2 53 * last ≤ units := by
    have hnext : Nat.pow 2 52 * (den * Nat.pow 2 (s + 971 + 1)) = Nat.pow 2 53 * last := by
      rw [hlast, two_pow_add rfl, two_pow_add (show 52 + 1 = 53 from rfl)]
      generalize Nat.pow 2 (s + 971) = step
      ac_rfl
    rw [Nat.lt_iff_add_one_le, le_scale_iff hd (by omega), hnext]
  rw [nearest?_eq_none_iff_scale hd hs hu, ← hlast, hlimit]
  generalize (units / den).log2 - 52 = scale at *
  clear hlimit hlast hu hs
  simp only [Nat.pow_eq] at *
  omega

/-- What is at most half a unit is rounded to zero. -/
theorem nearest?_of_le (hd : 0 < den) {s : Nat} (hs : s = 1074)
    (h : Nat.pow 2 (s + 1) * num ≤ den) : nearest? num den = some zero := by
  simp only [nearest?]
  rw [← hs]
  have htwice : 2 * (Nat.pow 2 s * num) ≤ den := by
    rw [two_pow_add rfl] at h
    exact Nat.le_trans (Nat.le_of_eq (by ac_rfl)) h
  generalize Nat.pow 2 s * num = units at htwice
  have hdiv : units / den = 0 := Nat.div_eq_of_lt (by omega)
  have hquotient : nearestQuotient units den = 0 := by
    unfold nearestQuotient
    dsimp only
    rw [hdiv, Nat.mod_eq_of_lt (by omega)]
    split_ifs <;> omega
  rw [hdiv, Nat.log2_zero, Nat.zero_sub, show den * Nat.pow 2 0 = den from Nat.mul_one den,
    hquotient]
  rfl

theorem nearest?_zero (hd : 0 < den) : nearest? 0 den = some zero := by
  obtain ⟨s, hs⟩ : ∃ s, s = 1074 := ⟨_, rfl⟩
  exact nearest?_of_le hd hs (Nat.zero_le _)

end Magnitude

end ScriptSandbox
