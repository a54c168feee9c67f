import Mathlib.Data.List.Basic
import Mathlib.Data.List.Induction
import ScriptSandbox.Proofs.Number.Exact

/-! # Texts of naturals

A run of digits without a leading zero is the numeral of its value. A number that is a natural below
`2 ^ 52` is written as the numeral of that natural: a shorter decimal that reads back to it is read
exactly as well, so it has the same value.
-/

namespace ScriptSandbox

namespace Numeral

variable {cs : List Char} {n : Nat}

/-- Digits, of which the first is no zero unless it stands alone. -/
def IsCanonical (cs : List Char) : Prop :=
  cs ≠ [] ∧ cs.all Char.isDigit ∧ (cs.head? = some '0' → cs = ['0'])

theorem digitChar_of_isDigit {c : Char} (h : c.isDigit) :
    c.toNat - '0'.toNat < 10 ∧ (c.toNat - '0'.toNat).digitChar = c := by
  have hc : 48 ≤ c.toNat ∧ c.toNat ≤ 57 := Char.isDigit_iff_toNat.1 h
  have hzero : '0'.toNat = 48 := rfl
  have hlt : c.toNat - '0'.toNat < 10 := by omega
  refine ⟨hlt, Char.toNat_inj.1 ?_⟩
  rw [Nat.toNat_digitChar_of_lt_ten hlt, hzero, Nat.add_sub_cancel' hc.1]

theorem head?_toDigits (n : Nat) : (Nat.toDigits 10 n).head? = some '0' → n = 0 := by
  induction n using Nat.strongRecOn with
  | ind n ih =>
    rw [Nat.toDigits_eq_if (by decide)]
    split
    · simp
    · intro h
      rw [List.head?_append_of_ne_nil _ Nat.toDigits_ne_nil] at h
      have := ih (n / 10) (by omega) h
      omega

theorem isCanonical_toDigits (n : Nat) : IsCanonical (Nat.toDigits 10 n) := by
  refine ⟨Nat.toDigits_ne_nil, (parse?_eq_some (parse?_toDigits n)).2.1, fun h => ?_⟩
  rw [head?_toDigits n h, Nat.toDigits_zero]

/-- A canonical run of digits is the numeral of its value. -/
theorem toDigits_value (h : IsCanonical cs) : Nat.toDigits 10 (value cs) = cs := by
  induction cs using List.reverseRecOn with
  | nil => exact absurd rfl h.1
  | append_singleton cs c ih =>
    obtain ⟨-, hall, hzero⟩ := h
    rw [List.all_append, Bool.and_eq_true, List.all_cons, List.all_nil, Bool.and_true] at hall
    obtain ⟨hlt, hchar⟩ := digitChar_of_isDigit hall.2
    have hvalue : value (cs ++ [c]) = 10 * value cs + (c.toNat - '0'.toNat) := by simp [value]
    rw [hvalue]
    by_cases hcs : cs = []
    · subst hcs
      rw [value, List.foldl_nil, Nat.mul_zero, Nat.zero_add, Nat.toDigits_of_lt_base hlt, hchar]
      rfl
    have hhead : cs.head? ≠ some '0' := by
      intro h₀
      have hone := congrArg List.length
        (hzero ((List.head?_append_of_ne_nil _ hcs).trans h₀))
      rw [List.length_append] at hone
      exact hcs (List.length_eq_zero_iff.1 (by simpa using hone))
    have hrest := ih ⟨hcs, hall.1, fun h₀ => absurd h₀ hhead⟩
    have hpos : 0 < value cs := by
      refine Nat.pos_of_ne_zero fun h₀ => hhead ?_
      rw [← hrest, h₀]
      rfl
    rw [← Nat.toDigits_append_toDigits (by decide) hpos hlt, hrest, Nat.toDigits_of_lt_base hlt,
      hchar]

theorem toDigits_mul_pow (h : n ≠ 0) (k : Nat) :
    Nat.toDigits 10 (n * Nat.pow 10 k) = Nat.toDigits 10 n ++ List.replicate k '0' := by
  induction k with
  | zero => simp
  | succ k ih =>
    have hpos : 0 < n * Nat.pow 10 k :=
      Nat.mul_pos (Nat.pos_of_ne_zero h) (Nat.pow_pos (by decide))
    have hsucc : n * Nat.pow 10 (k + 1) = 10 * (n * Nat.pow 10 k) + 0 := by
      simp only [Nat.pow_eq, Nat.pow_succ]
      ac_rfl
    rw [hsucc, ← Nat.toDigits_append_toDigits (by decide) hpos (by decide), ih, Nat.toDigits_zero,
      List.append_assoc, ← List.replicate_succ']

end Numeral

namespace Decimal

variable {coefficient n : Nat} {power : Int}

theorem getLast?_digits (coefficient : Nat) (power : Int) :
    (ofScaled coefficient power).digits.getLast? ≠ some '0' := by
  rw [ofScaled, List.getLast?_reverse]
  intro h
  have hnot := List.head?_dropWhile_not (· = '0') (Nat.toDigits 10 coefficient).reverse
  rw [h] at hnot
  simp at hnot

/-- A decimal with the value of a natural is written as its numeral. -/
theorem layout_of_mul_pow (h₀ : n ≠ 0) (hn : n < Nat.pow 10 21)
    (h : coefficient * Nat.pow 10 power.toNat = n * Nat.pow 10 (-power).toNat) :
    (ofScaled coefficient power).layout = Nat.toDigits 10 n := by
  have hc : coefficient ≠ 0 := by
    rintro rfl
    rw [Nat.zero_mul] at h
    exact Nat.mul_ne_zero h₀ (Nat.ne_of_gt (Nat.pow_pos (by decide))) h.symm
  obtain ⟨k, hdigits, hexp⟩ := exists_toDigits_eq coefficient power
  have hlast := getLast?_digits coefficient power
  have hall := congrArg (Nat.toDigits 10) h
  rw [Numeral.toDigits_mul_pow hc, Numeral.toDigits_mul_pow h₀, hdigits, List.append_assoc,
    List.replicate_append_replicate] at hall
  have hsize : (Nat.toDigits 10 n).length ≤ 21 :=
    (Nat.length_toDigits_le_iff (by decide) (by decide)).2 hn
  unfold layout
  generalize (ofScaled coefficient power).digits = ds at *
  generalize (ofScaled coefficient power).exponent = e at *
  generalize Nat.toDigits 10 n = ns at *
  have hlen := congrArg List.length hall
  simp only [List.length_append, List.length_replicate] at hlen
  have hle : ds.length ≤ ns.length := by
    by_contra hlt
    -- the digits that are kept would end in a zero
    have htake := congrArg (List.take ds.length) hall
    rw [List.take_left, List.take_append, List.take_of_length_le (by omega),
      List.take_replicate] at htake
    refine hlast ?_
    rw [htake, List.getLast?_append, List.getLast?_replicate, if_neg (by omega)]
    rfl
  have hpoint : (e + 1).toNat = ns.length := by omega
  dsimp only
  rw [if_pos ⟨by omega, by omega⟩, hpoint]
  have hzeros : k + power.toNat = ns.length - ds.length + (-power).toNat := by omega
  rw [hzeros, ← List.replicate_append_replicate, ← List.append_assoc] at hall
  exact List.append_cancel_right hall

end Decimal

namespace Magnitude

variable {x y : Magnitude} {n : Nat}

/-- The value in units of `2 ^ -1074`. -/
theorem ratio_mul (x : Magnitude) {s : Nat} (hs : 1074 = s) :
    x.ratio.1 * Nat.pow 2 s = x.mantissa * Nat.pow 2 x.scale * x.ratio.2 := by
  unfold ratio
  rw [hs]
  split
  · rename_i h
    rw [two_pow_add (Nat.sub_add_cancel h)]
    dsimp only
    ac_rfl
  · rename_i h
    rw [two_pow_add (Nat.add_sub_cancel' (Nat.le_of_not_le h))]
    dsimp only
    ac_rfl

theorem mantissa_mul (h : x.ratio.1 = n * x.ratio.2) {s : Nat} (hs : 1074 = s) :
    x.mantissa * Nat.pow 2 x.scale = n * Nat.pow 2 s := by
  refine Nat.eq_of_mul_eq_mul_right x.ratio_pos ?_
  rw [← ratio_mul x hs, h]
  ac_rfl

theorem scale_le_of_eq (h : x.mantissa * Nat.pow 2 x.scale = y.mantissa * Nat.pow 2 y.scale) :
    y.scale ≤ x.scale := by
  by_contra hlt
  have hm : Nat.pow 2 52 ≤ y.mantissa := y.le_mantissa.resolve_left (by omega)
  have hx := x.mantissa_lt
  have hsplit : y.scale = x.scale + (y.scale - x.scale - 1 + 1) := by omega
  rw [two_pow_add hsplit.symm, two_pow_add rfl, Nat.mul_comm (Nat.pow 2 x.scale), ← Nat.mul_assoc] at h
  have hmantissa := Nat.eq_of_mul_eq_mul_right (Nat.two_pow_pos _) h
  have hle : y.mantissa * Nat.pow 2 1 ≤ x.mantissa := by
    rw [hmantissa, Nat.mul_comm (Nat.pow 2 _), ← Nat.mul_assoc]
    exact Nat.le_mul_of_pos_right _ (Nat.two_pow_pos _)
  simp only [Nat.pow_eq] at hm hx hle
  omega

/-- Different magnitudes have different values. -/
theorem eq_of_ratio (hx : x.ratio.1 = n * x.ratio.2) (hy : y.ratio.1 = n * y.ratio.2) : x = y := by
  generalize hs : 1074 = s
  have h := (mantissa_mul hx hs).trans (mantissa_mul hy hs).symm
  have hscale := Nat.le_antisymm (scale_le_of_eq h.symm) (scale_le_of_eq h)
  rw [hscale] at h
  have hmantissa := Nat.eq_of_mul_eq_mul_right (Nat.two_pow_pos _) h
  cases x
  cases y
  simp_all

theorem neighbour?_le {power : Int} {coefficient : Nat}
    (h : x.neighbour? power = some coefficient) :
    coefficient ≤
      x.ratio.1 * Nat.pow 10 (-power).toNat / (x.ratio.2 * Nat.pow 10 power.toNat) + 1 := by
  unfold neighbour? at h
  dsimp only at h
  split_ifs at h <;> cases h <;> first | exact Nat.le_refl _ | exact Nat.le_succ _

/-- On a grid that has the value, the value is the neighbour. -/
theorem neighbour?_of_nonpos {power : Int} (hx : x.ratio.1 = n * x.ratio.2)
    (hn : n < Nat.pow 2 53) (hpower : power ≤ 0) :
    x.neighbour? power = some (n * Nat.pow 10 (-power).toNat) := by
  have hone : Nat.pow 10 power.toNat = 1 := by rw [Int.toNat_of_nonpos hpower]
  have hpos : 0 < Nat.pow 10 (-power).toNat := Nat.pow_pos (by decide)
  have hnum : x.ratio.1 * Nat.pow 10 (-power).toNat =
      n * Nat.pow 10 (-power).toNat * x.ratio.2 := by
    rw [hx]
    ac_rfl
  have hback : x.readsBack (n * Nat.pow 10 (-power).toNat) power := by
    rw [readsBack, hone, Nat.mul_one, nearest?_mul hn hpos, eq_of_ratio hx (ratio_ofNat hn)]
    exact decide_eq_true rfl
  have hfirst : ¬ x.ratio.2 ≤ 2 * 0 := Nat.not_le.2 x.ratio_pos
  simp only [neighbour?, hone, hnum, Nat.mul_one, Nat.mul_mod_left, if_neg hfirst,
    Nat.mul_div_cancel _ x.ratio_pos, if_pos hback]

/-- A neighbour of a natural that reads back to it has its value, on every grid that is no coarser
than the natural. -/
theorem mul_pow_of_neighbour? {power : Int} {coefficient : Nat} (hx : x.ratio.1 = n * x.ratio.2)
    (hn : n < Nat.pow 2 52) (hpower : Nat.pow 10 power.toNat ≤ n)
    (h : x.neighbour? power = some coefficient) :
    coefficient * Nat.pow 10 power.toNat = n * Nat.pow 10 (-power).toNat := by
  rcases Int.le_total power 0 with hp | hp
  · rw [neighbour?_of_nonpos hx (hn.trans (by decide)) hp, Option.some.injEq] at h
    rw [← h, Int.toNat_of_nonpos hp]
    exact Nat.mul_one _
  · have hback := readsBack_of_neighbour? h
    have hle := neighbour?_le h
    have hone : Nat.pow 10 (-power).toNat = 1 := by rw [Int.toNat_of_nonpos (by omega)]
    rw [hx, hone, Nat.mul_one, Nat.mul_comm n, Nat.mul_div_mul_left _ _ x.ratio_pos] at hle
    rw [readsBack, hone, decide_eq_true_eq] at hback
    rw [hone, Nat.mul_one]
    generalize Nat.pow 10 power.toNat = step at *
    have hm : coefficient * step < Nat.pow 2 53 := by
      have hbound : coefficient * step ≤ (n / step + 1) * step := Nat.mul_le_mul_right _ hle
      have hdiv := Nat.div_mul_le_self n step
      rw [Nat.add_mul, Nat.one_mul] at hbound
      have htwo : Nat.pow 2 53 = Nat.pow 2 52 + Nat.pow 2 52 := rfl
      omega
    have hnearest := nearest?_mul hm Nat.one_pos
    rw [Nat.mul_one, hback, Option.some.injEq] at hnearest
    have hvalue : coefficient * step * x.ratio.2 = n * x.ratio.2 := by
      rw [← hx, hnearest]
      exact (ratio_ofNat hm).symm
    exact Nat.eq_of_mul_eq_mul_right x.ratio_pos hvalue

theorem decimalPoint_of_ratio (hx : x.ratio.1 = n * x.ratio.2) (h₀ : n ≠ 0) :
    x.decimalPoint = (Nat.toDigits 10 n).length := by
  have hle : x.ratio.2 ≤ x.ratio.1 := by
    rw [hx]
    exact Nat.le_mul_of_pos_left _ (Nat.pos_of_ne_zero h₀)
  have hdiv : x.ratio.1 / x.ratio.2 = n := by rw [hx, Nat.mul_div_cancel _ x.ratio_pos]
  simp only [decimalPoint, if_pos hle, hdiv]

/-- The exact expansion has the value of the magnitude. -/
theorem exists_expansion_eq (hx : x.ratio.1 = n * x.ratio.2) :
    ∃ coefficient power, x.expansion = .ofScaled coefficient power ∧
      coefficient * Nat.pow 10 power.toNat = n * Nat.pow 10 (-power).toNat := by
  unfold ratio at hx
  unfold expansion
  split at hx
  · rename_i hs
    rw [if_pos hs]
    exact ⟨_, _, rfl, by simpa using hx⟩
  · rename_i hs
    rw [if_neg hs]
    refine ⟨_, _, rfl, ?_⟩
    dsimp only at hx
    generalize 1074 - x.scale = j at *
    have hten : Nat.pow 10 j = Nat.pow 5 j * Nat.pow 2 j := by
      simp only [Nat.pow_eq]
      rw [← Nat.mul_pow]
    have hone : Nat.pow 10 (-(j : Int)).toNat = 1 := by rw [Int.toNat_of_nonpos (by omega)]
    rw [hx, Int.neg_neg, Int.toNat_natCast, hten, hone, Nat.mul_one]
    ac_rfl

theorem exists_shortest_eq (hx : x.ratio.1 = n * x.ratio.2) (h₀ : n ≠ 0) (hn : n < Nat.pow 2 52) :
    ∃ coefficient power, x.shortest = .ofScaled coefficient power ∧
      coefficient * Nat.pow 10 power.toNat = n * Nat.pow 10 (-power).toNat := by
  rcases x.shortest_cases with ⟨coefficient, power, hpower, hc, hs⟩ | hs
  · refine ⟨coefficient, power, hs, mul_pow_of_neighbour? hx hn ?_ hc⟩
    rw [decimalPoint_of_ratio hx h₀] at hpower
    by_contra hlt
    have hk : 0 < power.toNat := by
      refine Nat.pos_of_ne_zero fun h => hlt ?_
      rw [h]
      exact Nat.pos_of_ne_zero h₀
    have hlen := (Nat.length_toDigits_le_iff (by decide) hk).2 (Nat.not_le.1 hlt)
    omega
  · rw [hs]
    exact exists_expansion_eq hx

theorem layout_shortest (hx : x.ratio.1 = n * x.ratio.2) (h₀ : n ≠ 0) (hn : n < Nat.pow 2 52) :
    x.shortest.layout = Nat.toDigits 10 n := by
  obtain ⟨coefficient, power, hs, hvalue⟩ := exists_shortest_eq hx h₀ hn
  rw [hs]
  exact Decimal.layout_of_mul_pow h₀ (hn.trans (by decide)) hvalue

end Magnitude

/-- A number that is a natural below `2 ^ 52` is written as its numeral. -/
theorem Number.text_of_toNat? {x : Number} {n : Nat} (h : x.toNat? = some n)
    (hn : n < Nat.pow 2 52) : x.text = n.repr := by
  cases x with
  | nan => cases h
  | infinite negative => cases h
  | finite negative x =>
    rw [toNat?] at h
    split at h
    · rename_i hx
      cases h
      rw [text]
      split
      · rename_i hm
        rw [Magnitude.floor_eq_zero hm]
        rfl
      · rename_i hm
        have hsign := hx.2.resolve_right hm
        have hratio : x.ratio.1 = x.floor * x.ratio.2 :=
          (Nat.div_mul_cancel (Nat.dvd_of_mod_eq_zero (of_decide_eq_true hx.1))).symm
        have h₀ : x.floor ≠ 0 := by
          intro h₀
          generalize hs : 1074 = s
          have hzero := Magnitude.mantissa_mul hratio hs
          rw [h₀, Nat.zero_mul] at hzero
          exact hm ((Nat.mul_eq_zero.1 hzero).resolve_right (Nat.two_pow_pos _).ne')
        subst hsign
        rw [Magnitude.layout_shortest hratio h₀ hn, Nat.repr_eq_ofList_toDigits]
        rfl
    · cases h

end ScriptSandbox
