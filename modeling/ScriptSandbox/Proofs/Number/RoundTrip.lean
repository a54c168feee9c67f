import ScriptSandbox.Proofs.Number.Layout
import ScriptSandbox.Proofs.Number.Reading

/-! # Texts of numbers read back

The shortest decimal of a magnitude is one that is rounded to it, and its written form is a literal
of exactly its value. So the text of a number reads back to the number, but for the sign of zero.
-/

namespace ScriptSandbox

namespace Decimal

variable {coefficient : Nat} {power : Int}

theorem value_ofScaled (hc : coefficient ≠ 0) (power : Int) :
    (ofScaled coefficient power).value = coefficient * 10 ^ power := by
  obtain ⟨k, hdigits, hexp⟩ := exists_toDigits_eq coefficient power
  have hten : (10 : ℚ) ≠ 0 := by norm_num
  have hc' : coefficient = Numeral.value (ofScaled coefficient power).digits * Nat.pow 10 k := by
    rw [← Numeral.value_append_zeros, ← hdigits, Numeral.value_toDigits]
  have hpow : (ofScaled coefficient power).exponent + 1 -
      (ofScaled coefficient power).digits.length = power + k := by
    omega
  rw [value_eq (isNormal_ofScaled hc power).ne_nil, hpow, zpow_add₀ hten, zpow_natCast]
  conv_rhs => rw [hc', Nat.pow_eq]
  push_cast
  ring

end Decimal

namespace Magnitude

variable {x : Magnitude} {coefficient : Nat} {power : Int}

/-- Decimals of one value are rounded alike. -/
theorem nearest?_of_zpow {n m : Nat} {a b : Int} (h : (n : ℚ) * 10 ^ a = m * 10 ^ b) :
    nearest? (n * Nat.pow 10 a.toNat) (Nat.pow 10 (-a).toNat) =
      nearest? (m * Nat.pow 10 b.toNat) (Nat.pow 10 (-b).toNat) := by
  have ha := cast_mul_pow n a
  have hb := cast_mul_pow m b
  have hpos := ten_pow_pos (-a).toNat
  have hpos' := ten_pow_pos (-b).toNat
  generalize n * Nat.pow 10 a.toNat = num at *
  generalize m * Nat.pow 10 b.toNat = num' at *
  generalize Nat.pow 10 (-a).toNat = den at *
  generalize Nat.pow 10 (-b).toNat = den' at *
  have hcast : ((num * den' : Nat) : ℚ) = (num' * den : Nat) := by
    rw [Nat.cast_mul, Nat.cast_mul, ha, hb, h, mul_right_comm]
  exact nearest?_congr hpos hpos' (Nat.cast_injective hcast)

theorem eq_zero_of_mantissa (hm : x.mantissa = 0) : x = zero := by
  have hs : x.scale = 0 := x.le_mantissa.resolve_right (by simp [hm])
  cases x
  simp_all [zero]

theorem ne_zero_of_readsBack (hm : x.mantissa ≠ 0) (h : x.readsBack coefficient power) :
    coefficient ≠ 0 := by
  rintro rfl
  rw [readsBack, Nat.zero_mul, nearest?_zero (ten_pow_pos _), decide_eq_true_eq,
    Option.some.injEq] at h
  exact hm (h ▸ rfl)

/-- The exact expansion has the value of the magnitude. -/
theorem exists_expansion_mul_eq (x : Magnitude) :
    ∃ coefficient power, x.expansion = .ofScaled coefficient power ∧
      coefficient * Nat.pow 10 power.toNat * x.ratio.2 =
        x.ratio.1 * Nat.pow 10 (-power).toNat := by
  unfold expansion ratio
  by_cases hs : 1074 ≤ x.scale
  · rw [if_pos hs, if_pos hs]
    refine ⟨_, 0, rfl, ?_⟩
    rw [Int.toNat_zero, Int.neg_zero, Int.toNat_zero]
    dsimp only
    rw [Nat.mul_one]
  · rw [if_neg hs, if_neg hs]
    generalize 1074 - x.scale = j
    have hten : Nat.pow 10 j = Nat.pow 5 j * Nat.pow 2 j := by
      simp only [Nat.pow_eq]
      rw [← Nat.mul_pow]
    refine ⟨_, _, rfl, ?_⟩
    rw [Int.toNat_of_nonpos (by omega), Int.neg_neg, Int.toNat_natCast, hten]
    dsimp only
    rw [show Nat.pow 10 0 = 1 from rfl, Nat.mul_one, Nat.mul_assoc]

theorem exists_expansion_readsBack (x : Magnitude) :
    ∃ coefficient power, x.expansion = .ofScaled coefficient power ∧
      x.readsBack coefficient power := by
  obtain ⟨coefficient, power, hexpansion, hvalue⟩ := x.exists_expansion_mul_eq
  refine ⟨coefficient, power, hexpansion, ?_⟩
  rw [readsBack, nearest?_congr (ten_pow_pos _) x.ratio_pos hvalue, nearest?_ratio]
  exact decide_eq_true rfl

theorem exists_readsBack (x : Magnitude) :
    ∃ coefficient power, x.shortest = .ofScaled coefficient power ∧
      x.readsBack coefficient power := by
  rcases x.shortest_cases with ⟨coefficient, power, -, hc, hs⟩ | hs
  · exact ⟨coefficient, power, hs, readsBack_of_neighbour? hc⟩
  · rw [hs]
    exact x.exists_expansion_readsBack

theorem isNormal_shortest (hm : x.mantissa ≠ 0) : x.shortest.IsNormal := by
  obtain ⟨coefficient, power, hs, hback⟩ := x.exists_readsBack
  rw [hs]
  exact Decimal.isNormal_ofScaled (ne_zero_of_readsBack hm hback) power

end Magnitude

namespace Literal

variable {l : Literal} {coefficient : Nat} {power : Int}

/-- Reading depends on the value of the literal alone. -/
theorem toNumber_of_value (h : l.value = coefficient * 10 ^ power) (negative : Bool) :
    l.toNumber negative = .ofRatio negative (coefficient * Nat.pow 10 power.toNat)
      (Nat.pow 10 (-power).toNat) := by
  rw [value_eq] at h
  have hnearest := Magnitude.nearest?_of_zpow h
  unfold toNumber
  rw [Number.ofDecimal_eq]
  unfold Number.ofRatio
  rw [hnearest]

theorem isBlank_of_isDigit {c : Char} (h : c.isDigit) : Text.isBlank c = false := by
  obtain ⟨hlt, hchar⟩ := Numeral.digitChar_of_isDigit h
  rw [← hchar]
  exact (by decide : ∀ n < 10, Text.isBlank n.digitChar = false) _ hlt

theorem isBlank_of_all {ds : List Char} (h : ds.all Char.isDigit) :
    ∀ c ∈ ds, Text.isBlank c = false :=
  fun c hc => isBlank_of_isDigit (List.all_eq_true.1 h c hc)

theorem SpellsExponent.isBlank_eq_false {e : Int} {cs : List Char} (h : SpellsExponent e cs) :
    ∀ c ∈ cs, Text.isBlank c = false := by
  have hmark : ∀ mark, mark = 'e' ∨ mark = 'E' → Text.isBlank mark = false := by
    rintro mark (rfl | rfl) <;> rfl
  cases h with
  | absent => simp
  | unsigned hm hne hd => exact List.forall_mem_cons.2 ⟨hmark _ hm, isBlank_of_all hd⟩
  | plus hm hne hd =>
    exact List.forall_mem_cons.2 ⟨hmark _ hm, List.forall_mem_cons.2 ⟨rfl, isBlank_of_all hd⟩⟩
  | minus hm hne hd =>
    exact List.forall_mem_cons.2 ⟨hmark _ hm, List.forall_mem_cons.2 ⟨rfl, isBlank_of_all hd⟩⟩

/-- No character of a literal is blank. -/
theorem Spells.isBlank_eq_false {cs : List Char} (h : l.Spells cs) :
    ∀ c ∈ cs, Text.isBlank c = false := by
  cases h with
  | whole hw hne he =>
    exact List.forall_mem_append.2 ⟨isBlank_of_all hw, he.isBlank_eq_false⟩
  | pointed hw hf hne he =>
    exact List.forall_mem_append.2 ⟨isBlank_of_all hw, List.forall_mem_cons.2 ⟨rfl,
      List.forall_mem_append.2 ⟨isBlank_of_all hf, he.isBlank_eq_false⟩⟩⟩

end Literal

namespace Magnitude

variable {x : Magnitude}

/-- The written form of the shortest decimal is a literal that is read as the magnitude. -/
theorem exists_spells_shortest (hm : x.mantissa ≠ 0) :
    ∃ l : Literal, l.Spells x.shortest.layout ∧
      ∀ negative, l.toNumber negative = .finite negative x := by
  obtain ⟨coefficient, power, hs, hback⟩ := x.exists_readsBack
  obtain ⟨l, hl, hliteral⟩ := (Decimal.writes_layout (isNormal_shortest hm)).exists_literal
  have hvalue : l.value = coefficient * 10 ^ power := by
    rw [hliteral.value_eq, hs, Decimal.value_ofScaled (ne_zero_of_readsBack hm hback)]
  rw [readsBack, decide_eq_true_eq] at hback
  refine ⟨l, hl, fun negative => ?_⟩
  rw [Literal.toNumber_of_value hvalue]
  unfold Number.ofRatio
  rw [hback]

end Magnitude

namespace Number

variable {x y : Number}

theorem finite_equals_zero_iff {negative : Bool} {x : Magnitude} :
    (finite negative x).equals .zero ↔ x.mantissa = 0 := by
  rw [zero, equals, decide_eq_true_eq]
  constructor
  · rintro ⟨rfl, -⟩
    rfl
  · intro hm
    exact ⟨Magnitude.eq_zero_of_mantissa hm, Or.inr hm⟩

theorem ofText_of_spells {l : Literal} {cs : List Char} {s : String} (h : l.Spells cs)
    (hs : s.toList = cs) : ofText s = l.toNumber false := by
  obtain ⟨c, rest, hcs, hc⟩ := h.exists_cons
  have hsigned : Signed false cs cs := by
    subst hcs
    constructor <;> rintro ⟨⟩ <;> rcases hc with h | h <;> cases h
  have htrim : Text.trim s.toList = cs := by rw [hs, Text.trim_eq_self h.isBlank_eq_false]
  rw [ofText_of_signed htrim (by simp [hcs]) hsigned, ofUnsigned_of_spells h]

theorem ofText_neg_of_spells {l : Literal} {cs : List Char} {s : String} (h : l.Spells cs)
    (hs : s.toList = '-' :: cs) : ofText s = l.toNumber true := by
  have hblank : ∀ c ∈ '-' :: cs, Text.isBlank c = false :=
    List.forall_mem_cons.2 ⟨rfl, h.isBlank_eq_false⟩
  have htrim : Text.trim s.toList = '-' :: cs := by rw [hs, Text.trim_eq_self hblank]
  rw [ofText_of_signed htrim (List.cons_ne_nil _ _) (.minus cs), ofUnsigned_of_spells h]

/-- A number is read from its text, but for the sign of zero. -/
theorem ofText_text (x : Number) : ofText x.text = if x.equals .zero then .zero else x := by
  cases x with
  | nan => decide
  | infinite negative => cases negative <;> decide
  | finite negative x =>
    by_cases hm : x.mantissa = 0
    · rw [if_pos (finite_equals_zero_iff.2 hm), text, if_pos hm]
      decide
    · rw [if_neg (mt finite_equals_zero_iff.1 hm), text, if_neg hm]
      obtain ⟨l, hl, hread⟩ := Magnitude.exists_spells_shortest hm
      cases negative with
      | false => exact (ofText_of_spells hl (by simp)).trans (hread false)
      | true => exact (ofText_neg_of_spells hl (by simp)).trans (hread true)

theorem text_of_equals_zero (h : x.equals .zero) : x.text = "0" := by
  cases x with
  | nan => cases h
  | infinite negative => cases h
  | finite negative x => exact if_pos (finite_equals_zero_iff.1 h)

theorem equals_zero_of_text (h : x.text = "0") : x.equals .zero := by
  by_contra hx
  have hread := ofText_text x
  have hzero : ofText "0" = .zero := by decide
  rw [if_neg hx, h, hzero] at hread
  rw [← hread] at hx
  exact hx (by decide)

/-- Only the zeros share their text. -/
theorem text_eq_iff : x.text = y.text ↔ x = y ∨ x.equals .zero ∧ y.equals .zero := by
  constructor
  · intro h
    by_cases hx : x.equals .zero
    · exact Or.inr ⟨hx, equals_zero_of_text (h ▸ text_of_equals_zero hx)⟩
    · by_cases hy : y.equals .zero
      · exact Or.inr ⟨equals_zero_of_text (h.symm ▸ text_of_equals_zero hy), hy⟩
      · have hread := ofText_text x
        rw [if_neg hx, h, ofText_text y, if_neg hy] at hread
        exact Or.inl hread.symm
  · rintro (rfl | ⟨hx, hy⟩)
    · rfl
    · rw [text_of_equals_zero hx, text_of_equals_zero hy]

end Number

end ScriptSandbox
