import Mathlib.Data.List.TakeWhile
import ScriptSandbox.Number.Layout
import ScriptSandbox.Number.Numeral
import ScriptSandbox.Proofs.Number.Whole

/-! # Numerals among the texts of numbers

A number whose text is the numeral of a natural of at most 53 bits is that natural. The shortest
digits read back to the number, and a natural of this size is read exactly.
-/

namespace ScriptSandbox

namespace Numeral

theorem value_toDigits (n : Nat) : value (Nat.toDigits 10 n) = n :=
  Nat.ofDigitChars_ten_toDigits

theorem value_append_zeros (ds : List Char) (k : Nat) :
    value (ds ++ List.replicate k '0') = value ds * Nat.pow 10 k := by
  change Nat.ofDigitChars 10 _ 0 = Nat.ofDigitChars 10 ds 0 * Nat.pow 10 k
  rw [Nat.ofDigitChars_append, Nat.ofDigitChars_replicate_zero, Nat.mul_comm, Nat.pow_eq]

theorem parse?_toDigits (n : Nat) : parse? (Nat.toDigits 10 n) = some n := by
  have hall : (Nat.toDigits 10 n).all Char.isDigit := by
    rw [List.all_eq_true]
    exact fun c hc => Nat.isDigit_of_mem_toDigits (by decide) (by decide) hc
  rw [parse?, if_pos ⟨Nat.toDigits_ne_nil, hall⟩, value_toDigits]

theorem parse?_eq_some {cs : List Char} {n : Nat} (h : parse? cs = some n) :
    cs ≠ [] ∧ cs.all Char.isDigit ∧ value cs = n := by
  unfold parse? at h
  split at h
  · rename_i hc
    exact ⟨hc.1, hc.2, Option.some.inj h⟩
  · cases h

end Numeral

namespace Decimal

/-- The digits of a coefficient are those that are kept and zeros. -/
theorem exists_toDigits_eq (coefficient : Nat) (power : Int) : ∃ k : Nat,
    Nat.toDigits 10 coefficient =
      (ofScaled coefficient power).digits ++ List.replicate k '0' ∧
    (ofScaled coefficient power).exponent =
      power + (ofScaled coefficient power).digits.length + k - 1 := by
  generalize hds : Nat.toDigits 10 coefficient = ds
  let zeros := ds.reverse.takeWhile (· = '0')
  have hzeros : zeros = List.replicate zeros.length '0' :=
    List.eq_replicate_of_mem fun c hc => by simpa using List.mem_takeWhile_imp hc
  have hsplit : ds = (ofScaled coefficient power).digits ++ List.replicate zeros.length '0' := by
    calc ds = (zeros ++ ds.reverse.dropWhile (· = '0')).reverse := by
          rw [List.takeWhile_append_dropWhile, List.reverse_reverse]
      _ = (ofScaled coefficient power).digits ++ zeros.reverse := by
          rw [List.reverse_append, ofScaled, hds]
      _ = _ := by rw [hzeros, List.reverse_replicate, List.length_replicate]
  refine ⟨zeros.length, hsplit, ?_⟩
  have hlen : ds.length = (ofScaled coefficient power).digits.length + zeros.length := by
    simpa using congrArg List.length hsplit
  have hexp : (ofScaled coefficient power).exponent = power + ds.length - 1 := by
    rw [ofScaled, hds]
  rw [hexp, hlen]
  omega

/-- Only digits that are followed by zeros are written without any other sign. -/
theorem layout_of_isDigit {d : Decimal} (h : d.layout.all Char.isDigit) :
    d.digits.length ≤ d.exponent + 1 ∧
      d.layout = d.digits ++ List.replicate ((d.exponent + 1).toNat - d.digits.length) '0' := by
  unfold layout at h ⊢
  dsimp only at h ⊢
  split at h
  · rename_i hpoint
    rw [if_pos hpoint]
    exact ⟨hpoint.1, rfl⟩
  · split at h
    · simp at h
    · split at h
      · simp at h
      · simp [exponential] at h

/-- A decimal that is written as a numeral has the value of the numeral. -/
theorem mul_pow_eq {coefficient n : Nat} {power : Int}
    (h : Numeral.parse? (ofScaled coefficient power).layout = some n) :
    coefficient * Nat.pow 10 power.toNat = n * Nat.pow 10 (-power).toNat := by
  obtain ⟨-, hall, rfl⟩ := Numeral.parse?_eq_some h
  obtain ⟨hpoint, hlayout⟩ := layout_of_isDigit hall
  obtain ⟨k, hdigits, hexp⟩ := exists_toDigits_eq coefficient power
  generalize (ofScaled coefficient power).digits = ds at *
  generalize (ofScaled coefficient power).exponent = e at *
  have hc : coefficient = Numeral.value ds * Nat.pow 10 k := by
    rw [← Numeral.value_append_zeros, ← hdigits, Numeral.value_toDigits]
  have hpow : k + power.toNat = (e + 1).toNat - ds.length + (-power).toNat := by omega
  rw [hlayout, Numeral.value_append_zeros, hc, Nat.mul_assoc, Nat.mul_assoc]
  simp only [Nat.pow_eq, ← Nat.pow_add, hpow]

end Decimal

namespace Magnitude

theorem ofNat_of_ne_zero {n : Nat} (h₀ : n ≠ 0) (hn : n < Nat.pow 2 53)
    (hs : n.log2 + 1022 ≤ 2045) :
    ofNat n hn = ⟨n * Nat.pow 2 (52 - n.log2), n.log2 + 1022, shift_lt hn,
      .inr (le_shift h₀ hn), hs⟩ :=
  dif_neg h₀

theorem log2_two_pow_mul (a : Nat) {n : Nat} (h₀ : n ≠ 0) :
    (Nat.pow 2 a * n).log2 = a + n.log2 := by
  simp only [Nat.pow_eq]
  have hpos := Nat.two_pow_pos a
  rw [Nat.log2_eq_iff (Nat.mul_ne_zero hpos.ne' h₀), Nat.add_assoc, Nat.pow_add, Nat.pow_add]
  exact ⟨Nat.mul_le_mul_left _ (Nat.log2_self_le h₀),
    Nat.mul_lt_mul_of_pos_left Nat.lt_log2_self hpos⟩

theorem two_pow_add {a b c : Nat} (h : a + b = c) :
    Nat.pow 2 c = Nat.pow 2 a * Nat.pow 2 b := by
  subst h
  exact Nat.pow_add 2 a b

theorem nearestQuotient_mul {den : Nat} (hd : 0 < den) (q : Nat) :
    nearestQuotient (q * den) den = q := by
  rw [nearestQuotient, Nat.mul_mod_left, Nat.mul_div_cancel _ hd, Nat.mul_zero, if_pos hd]

/-- A natural of at most 53 bits needs no rounding. The exponent of the units is a variable, so that
nothing computes the power. -/
theorem ofRounded?_mul {n den s : Nat} (hn : n < Nat.pow 2 53) (hd : 0 < den) (hs : s = 1074) :
    ofRounded? (nearestQuotient (Nat.pow 2 s * (n * den))
        (den * Nat.pow 2 ((Nat.pow 2 s * (n * den) / den).log2 - 52)))
      ((Nat.pow 2 s * (n * den) / den).log2 - 52) = some (ofNat n hn) := by
  by_cases h₀ : n = 0
  · subst h₀
    have hquotient : nearestQuotient 0 (den * Nat.pow 2 0) = 0 := by
      simpa using nearestQuotient_mul (Nat.mul_pos hd Nat.one_pos) 0
    rw [Nat.zero_mul, Nat.mul_zero, Nat.zero_div, Nat.log2_zero, Nat.zero_sub, hquotient]
    rfl
  have hlog : n.log2 ≤ 52 := by
    have := (Nat.log2_lt h₀).2 hn
    omega
  have hdiv : Nat.pow 2 s * (n * den) / den = Nat.pow 2 s * n := by
    rw [← Nat.mul_assoc, Nat.mul_div_cancel _ hd]
  have hscale : (Nat.pow 2 s * n).log2 - 52 = n.log2 + 1022 := by
    rw [log2_two_pow_mul _ h₀]
    omega
  have hsum : 52 - n.log2 + (n.log2 + 1022) = s := by omega
  have hsplit : Nat.pow 2 s * (n * den) =
      n * Nat.pow 2 (52 - n.log2) * (den * Nat.pow 2 (n.log2 + 1022)) := by
    rw [two_pow_add hsum, Nat.mul_mul_mul_comm, Nat.mul_comm _ n, Nat.mul_comm _ den]
  have hpos : 0 < den * Nat.pow 2 (n.log2 + 1022) := Nat.mul_pos hd (Nat.two_pow_pos _)
  rw [hdiv, hscale, hsplit, nearestQuotient_mul hpos, ofRounded?,
    dif_pos ⟨shift_lt hn, .inr (le_shift h₀ hn), by omega⟩, ofNat_of_ne_zero h₀ hn (by omega)]

/-- A natural of at most 53 bits is read exactly. -/
theorem nearest?_mul {n den : Nat} (hn : n < Nat.pow 2 53) (hd : 0 < den) :
    nearest? (n * den) den = some (ofNat n hn) := by
  simp only [nearest?]
  generalize hs : 1074 = s
  exact ofRounded?_mul hn hd hs.symm

theorem ratio_pos (x : Magnitude) : 0 < x.ratio.2 := by
  unfold ratio
  split
  · exact Nat.one_pos
  · exact Nat.two_pow_pos _

theorem toNat?_of_ratio {x : Magnitude} {n : Nat} (h : x.ratio.1 = n * x.ratio.2) :
    (Number.finite false x).toNat? = some n := by
  have hwhole : x.isWhole := by simp [isWhole, h]
  have hfloor : x.floor = n := by rw [floor, h, Nat.mul_div_cancel _ x.ratio_pos]
  simp [Number.toNat?, hwhole, hfloor]

theorem ratio_ofNat {n : Nat} (hn : n < Nat.pow 2 53) :
    (ofNat n hn).ratio.1 = n * (ofNat n hn).ratio.2 := by
  by_cases h₀ : n = 0
  · subst h₀
    rw [Nat.zero_mul]
    rfl
  have hlog : n.log2 ≤ 52 := by
    have := (Nat.log2_lt h₀).2 hn
    omega
  rw [ofNat_of_ne_zero h₀ hn (by omega), ratio]
  dsimp only
  split
  · have hl : n.log2 = 52 := by omega
    simp [hl]
  · have he : 1074 - (n.log2 + 1022) = 52 - n.log2 := by omega
    rw [he]

/-- The exact expansion is written as a numeral only where the magnitude is its value. -/
theorem ratio_of_expansion {x : Magnitude} {n : Nat}
    (h : Numeral.parse? x.expansion.layout = some n) : x.ratio.1 = n * x.ratio.2 := by
  unfold expansion at h
  unfold ratio
  split at h
  · rename_i hs
    have hvalue := Decimal.mul_pow_eq h
    rw [if_pos hs]
    simpa using hvalue
  · rename_i hs
    have hvalue := Decimal.mul_pow_eq h
    rw [if_neg hs]
    generalize 1074 - x.scale = j at hvalue
    have hten : Nat.pow 10 j = Nat.pow 5 j * Nat.pow 2 j := by
      simp only [Nat.pow_eq]
      rw [← Nat.mul_pow]
    have hfive : x.mantissa * Nat.pow 5 j = n * Nat.pow 2 j * Nat.pow 5 j := by
      have hpower : Nat.pow 10 (-(j : Int)).toNat = 1 := by
        rw [Int.toNat_of_nonpos (by omega)]
      rw [hpower, Nat.mul_one, Int.neg_neg, Int.toNat_natCast, hten] at hvalue
      rw [hvalue]
      ac_rfl
    exact Nat.eq_of_mul_eq_mul_right (Nat.pow_pos (by decide)) hfive

theorem readsBack_of_neighbour? {x : Magnitude} {power : Int} {coefficient : Nat}
    (h : x.neighbour? power = some coefficient) : x.readsBack coefficient power := by
  unfold neighbour? at h
  dsimp only at h
  split_ifs at h <;> cases h <;> assumption

theorem shortest_cases (x : Magnitude) :
    (∃ coefficient power, power < x.decimalPoint ∧ x.neighbour? power = some coefficient ∧
      x.shortest = .ofScaled coefficient power) ∨ x.shortest = x.expansion := by
  unfold shortest
  dsimp only
  generalize hf : List.findSome? _ (List.range 17) = found
  cases found with
  | none => exact Or.inr rfl
  | some d =>
    obtain ⟨i, -, hi⟩ := List.exists_of_findSome?_eq_some hf
    obtain ⟨coefficient, hc, rfl⟩ := Option.map_eq_some_iff.1 hi
    exact Or.inl ⟨coefficient, _, by omega, hc, rfl⟩

theorem toNat?_of_layout {x : Magnitude} {n : Nat} (hn : n < Nat.pow 2 53)
    (h : Numeral.parse? x.shortest.layout = some n) : (Number.finite false x).toNat? = some n := by
  refine toNat?_of_ratio ?_
  rcases x.shortest_cases with ⟨coefficient, power, -, hc, hs⟩ | hs
  · rw [hs] at h
    have hvalue := Decimal.mul_pow_eq h
    have hback := readsBack_of_neighbour? hc
    have hnearest : nearest? (n * Nat.pow 10 (-power).toNat) (Nat.pow 10 (-power).toNat) =
        some x := by
      rw [← hvalue]
      simpa [readsBack] using hback
    have hpos : 0 < Nat.pow 10 (-power).toNat := Nat.pow_pos (by decide)
    rw [nearest?_mul hn hpos, Option.some.injEq] at hnearest
    rw [← hnearest]
    exact ratio_ofNat hn
  · rw [hs] at h
    exact ratio_of_expansion h

end Magnitude

theorem Number.toNat?_ofNat {n : Nat} (hn : n < Nat.pow 2 53) : (ofNat n).toNat? = some n := by
  rw [ofNat, dif_pos hn]
  exact Magnitude.toNat?_of_ratio (Magnitude.ratio_ofNat hn)

theorem Heap.arrayLength?_ofNat (h : Heap) {n : Nat} (hn : n ≤ maxLength) :
    h.arrayLength? (.ofNat n) = some n :=
  Number.arrayLength?_eq_some_iff.2 ⟨Number.toNat?_ofNat (hn.trans_lt (by decide)), hn⟩

/-- A number that is written as the numeral of a small natural is that natural. -/
theorem Number.toNat?_of_text {x : Number} {n : Nat} (hn : n < Nat.pow 2 53)
    (h : Numeral.parse? x.text.toList = some n) : x.toNat? = some n := by
  cases x with
  | nan => cases h
  | infinite negative => cases negative <;> cases h
  | finite negative x =>
    rw [text] at h
    split at h
    · rename_i hm
      cases h
      have hr : x.ratio.1 = 0 := by
        unfold Magnitude.ratio
        split <;> simp [hm]
      simp [toNat?, Magnitude.isWhole, Magnitude.floor, hr, hm, Numeral.value]
    · cases negative with
      | true =>
        obtain ⟨-, hall, -⟩ := Numeral.parse?_eq_some h
        simp at hall
      | false =>
        refine Magnitude.toNat?_of_layout hn ?_
        simpa using h

end ScriptSandbox
