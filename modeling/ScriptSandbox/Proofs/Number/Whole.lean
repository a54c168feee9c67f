import Mathlib.Tactic.SplitIfs
import ScriptSandbox.Heap.Length
import ScriptSandbox.Number.Nearest

/-! # Naturals among the numbers

A natural of at most 53 bits is a number exactly, and a greater one is rounded to a number that is
still great. So a recorded length reads back as it was written, up to the greatest length.
-/

namespace ScriptSandbox

namespace Magnitude

theorem floor_eq_zero {x : Magnitude} (h : x.mantissa = 0) : x.floor = 0 := by
  have h₁ : x.ratio.1 = 0 := by
    unfold ratio
    split <;> simp [h]
  rw [floor, h₁, Nat.zero_div]

theorem floor_ofNat {n : Nat} (h : n < Nat.pow 2 53) : (ofNat n h).floor = n := by
  unfold ofNat
  split
  · rename_i h₀
    exact (floor_eq_zero rfl).trans h₀.symm
  · rename_i h₀
    have hlog : n.log2 ≤ 52 := by
      have := (Nat.log2_lt h₀).2 h
      omega
    unfold floor ratio
    dsimp only
    split
    · rename_i hs
      have hl : n.log2 = 52 := by omega
      simp [hl]
    · have he : 1074 - (n.log2 + 1022) = 52 - n.log2 := by omega
      rw [he]
      exact Nat.mul_div_cancel n (Nat.two_pow_pos _)

theorem scale_le_of_ofRounded? {mantissa scale : Nat} {x : Magnitude}
    (h : ofRounded? mantissa scale = some x) : scale ≤ x.scale := by
  unfold ofRounded? at h
  split_ifs at h
  · cases h
    exact Nat.le_refl _
  · cases h
    exact Nat.le_succ _

/-- From a scale of whole numbers on, a magnitude is at least its mantissa. -/
theorem le_floor {x : Magnitude} (h : 1074 ≤ x.scale) : Nat.pow 2 52 ≤ x.floor := by
  have hm : Nat.pow 2 52 ≤ x.mantissa := x.le_mantissa.resolve_left (by omega)
  rw [floor, ratio, if_pos h, Nat.div_one]
  exact Nat.le_trans hm (Nat.le_mul_of_pos_right _ (Nat.two_pow_pos _))

theorem le_log2_div {num den : Nat} (hd : 0 < den) (h : Nat.pow 2 53 * den ≤ num) (s : Nat) :
    s ≤ (Nat.pow 2 s * num / den).log2 - 52 := by
  simp only [Nat.pow_eq] at h ⊢
  have hq : 2 ^ (s + 53) ≤ 2 ^ s * num / den := by
    rw [Nat.le_div_iff_mul_le hd, Nat.pow_add, Nat.mul_assoc]
    exact Nat.mul_le_mul_left _ h
  have hpos := Nat.two_pow_pos (s + 53)
  have hlog := (Nat.le_log2 (by omega)).2 hq
  omega

/-- A quotient of at least `2 ^ 53` is rounded to no less than `2 ^ 52`. -/
theorem le_floor_of_nearest? {num den : Nat} {x : Magnitude} (hd : 0 < den)
    (h : Nat.pow 2 53 * den ≤ num) (hx : nearest? num den = some x) :
    Nat.pow 2 52 ≤ x.floor :=
  le_floor (Nat.le_trans (le_log2_div hd h 1074) (scale_le_of_ofRounded? hx))

end Magnitude

namespace Number

theorem clamp32_finite (x : Magnitude) : (finite false x).clamp32 = min x.floor maxLength := by
  have h : Nat.pow 2 32 - 1 = maxLength := by decide
  simp only [clamp32, Bool.false_eq_true, ↓reduceIte, h]

theorem clamp32_ofRatio {n : Nat} (h : Nat.pow 2 53 ≤ n) :
    (ofRatio false n 1).clamp32 = maxLength := by
  unfold ofRatio
  cases hx : Magnitude.nearest? n 1 with
  | none => simp [clamp32, maxLength]
  | some x =>
    have hle : maxLength ≤ x.floor :=
      Nat.le_trans (by decide) (Magnitude.le_floor_of_nearest? Nat.one_pos h hx)
    exact (clamp32_finite x).trans (Nat.min_eq_right hle)

theorem clamp32_ofNat (n : Nat) : (ofNat n).clamp32 = min n maxLength := by
  unfold ofNat
  split
  · rw [clamp32_finite, Magnitude.floor_ofNat]
  · rename_i h
    rw [Nat.not_lt] at h
    have hn : maxLength ≤ n := Nat.le_trans (by decide) h
    rw [clamp32_ofRatio h, Nat.min_eq_right hn]

/-- What is a natural is read as such, up to the greatest length. -/
theorem clamp32_of_toNat? {x : Number} {n : Nat} (h : x.toNat? = some n) :
    x.clamp32 = min n maxLength := by
  cases x with
  | finite negative y =>
    simp only [toNat?, Option.ite_none_right_eq_some, Option.some.injEq] at h
    obtain ⟨⟨-, hsign⟩, rfl⟩ := h
    rcases hsign with rfl | hzero
    · exact clamp32_finite y
    · cases negative with
      | false => exact clamp32_finite y
      | true => simp [clamp32, Magnitude.floor_eq_zero hzero]
  | _ => cases h

theorem arrayLength?_eq_some_iff {x : Number} {n : Nat} :
    x.arrayLength? = some n ↔ x.toNat? = some n ∧ n ≤ maxLength := by
  simp [arrayLength?, Option.filter_eq_some_iff]

theorem arrayLength?_le {x : Number} {n : Nat} (h : x.arrayLength? = some n) : n ≤ maxLength :=
  (arrayLength?_eq_some_iff.1 h).2

end Number

namespace Heap

@[simp] theorem toNumber_ofNat (h : Heap) (n : Nat) : h.toNumber (.ofNat n) = .ofNat n := rfl

theorem arrayLength?_le {h : Heap} {v : Value} {n : Nat} (hn : h.arrayLength? v = some n) :
    n ≤ maxLength :=
  Number.arrayLength?_le hn

end Heap

end ScriptSandbox
