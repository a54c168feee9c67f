import Mathlib.Algebra.Order.Ring.Rat
import ScriptSandbox.Heap.Conversion
import ScriptSandbox.Proofs.Number.Literal
import ScriptSandbox.Proofs.Number.Rounding

/-! # Reading of numbers

A text stands for a number if it is blank, or if what stands between its blanks is a signed word for
infinity or a signed decimal literal. A literal is read as the number nearest to its value, so it is
infinite exactly from half a unit above the greatest number on.
-/

namespace ScriptSandbox

namespace Text

variable {cs ds body : List Char}

/-- A text and what is left of it without the blanks around it. -/
inductive Trims : List Char → List Char → Prop
  | intro {before body behind : List Char} (hbefore : before.all isBlank)
      (hbehind : behind.all isBlank) (hhead : ∀ c, body.head? = some c → isBlank c = false)
      (hlast : ∀ c, body.getLast? = some c → isBlank c = false) :
      Trims (before ++ (body ++ behind)) body

theorem head?_dropWhile_isBlank (cs : List Char) :
    ∀ c, (cs.dropWhile isBlank).head? = some c → isBlank c = false := by
  intro c hc
  have hnot := List.head?_dropWhile_not isBlank cs
  rw [hc] at hnot
  simpa using hnot

theorem dropWhile_isBlank_append (hc : cs.all isBlank)
    (hd : ∀ c, ds.head? = some c → isBlank c = false) : (cs ++ ds).dropWhile isBlank = ds := by
  have hspan := span_append hc hd
  rw [List.span_eq_takeWhile_dropWhile] at hspan
  exact congrArg Prod.snd hspan

theorem trims_trim (cs : List Char) : Trims cs (trim cs) := by
  have hhead := head?_dropWhile_isBlank cs
  have hlast := head?_dropWhile_isBlank (cs.dropWhile isBlank).reverse
  have hbehind : (cs.dropWhile isBlank).reverse.takeWhile isBlank |>.all isBlank :=
    List.all_takeWhile
  have hrest : cs.dropWhile isBlank =
      trim cs ++ ((cs.dropWhile isBlank).reverse.takeWhile isBlank).reverse := by
    rw [trim, ← List.reverse_append, List.takeWhile_append_dropWhile, List.reverse_reverse]
  have hcs := (List.takeWhile_append_dropWhile (p := isBlank) (l := cs)).symm
  rw [← List.getLast?_reverse, ← trim] at hlast
  rw [← List.all_reverse] at hbehind
  rw [hrest] at hcs hhead
  have htrims := Trims.intro (List.all_takeWhile (p := isBlank) (l := cs)) hbehind
    (fun c hc => hhead c (by rw [List.head?_append, hc]; rfl)) hlast
  rwa [← hcs] at htrims

/-- There is one way to trim a text. -/
theorem trims_iff : Trims cs body ↔ trim cs = body := by
  constructor
  · rintro ⟨hbefore, hbehind, hhead, hlast⟩
    rename_i before behind
    by_cases hbody : body = []
    · have hall : ((before ++ (body ++ behind)).dropWhile isBlank) = [] := by
        rw [List.dropWhile_eq_nil_iff, ← List.all_eq_true]
        simp [hbody, hbefore, hbehind]
      rw [trim, hall, hbody]
      rfl
    · rw [trim, dropWhile_isBlank_append hbefore, List.reverse_append,
        dropWhile_isBlank_append, List.reverse_reverse]
      · rwa [List.all_reverse]
      · intro c hc
        exact hlast c (by rwa [List.head?_reverse] at hc)
      · intro c hc
        exact hhead c (by rwa [List.head?_append_of_ne_nil _ hbody] at hc)
  · rintro rfl
    exact trims_trim cs

/-- A text without blanks is left as it is. -/
theorem trim_eq_self (h : ∀ c ∈ cs, isBlank c = false) : trim cs = cs := by
  have htrims : Trims ([] ++ (cs ++ [])) cs :=
    .intro rfl rfl (fun c hc => h c (List.mem_of_mem_head? hc))
      fun c hc => h c (List.mem_of_getLast? hc)
  rw [List.nil_append, List.append_nil] at htrims
  exact trims_iff.1 htrims

end Text

/-! ### The range of decimals -/

namespace Numeral

variable {n k : Nat}

theorem length_toDigits_pos (n : Nat) : 0 < (Nat.toDigits 10 n).length :=
  List.length_pos_iff.2 Nat.toDigits_ne_nil

theorem lt_pow_length (n : Nat) : n < 10 ^ (Nat.toDigits 10 n).length :=
  (Nat.length_toDigits_le_iff (by decide) (length_toDigits_pos n)).1 (Nat.le_refl _)

theorem pow_le_of_lt_length (h₀ : n ≠ 0) (hk : k < (Nat.toDigits 10 n).length) : 10 ^ k ≤ n := by
  rcases Nat.eq_zero_or_pos k with rfl | hpos
  · exact Nat.pos_of_ne_zero h₀
  · by_contra hlt
    have := (Nat.length_toDigits_le_iff (by decide) hpos).2 (Nat.not_le.1 hlt)
    omega

end Numeral

namespace Magnitude

variable {coefficient : Nat} {power : Int}

theorem ten_pow_pos (k : Nat) : 0 < Nat.pow 10 k := Nat.pow_pos (by decide)

theorem two_pow_le {s k : Nat} (hs : s = 1074) (hk : k = 331) :
    Nat.pow 2 (s + 1) ≤ Nat.pow 10 k := by
  subst hs hk
  decide +kernel

theorem limit_le {k : Nat} (hk : k = 310) : limit ≤ Nat.pow 10 k := by
  subst hk
  decide +kernel

/-- A decimal with more than 330 zeros behind its point is rounded to zero. -/
theorem nearest?_of_lt_neg (h : (Nat.toDigits 10 coefficient).length + power < -330) :
    nearest? (coefficient * Nat.pow 10 power.toNat) (Nat.pow 10 (-power).toNat) =
      some zero := by
  obtain ⟨s, hs⟩ : ∃ s, s = 1074 := ⟨_, rfl⟩
  obtain ⟨k, hk⟩ : ∃ k, k = 331 := ⟨_, rfl⟩
  apply nearest?_of_le (ten_pow_pos _) hs
  have hlt := (Numeral.lt_pow_length coefficient).le
  have hunit := two_pow_le hs hk
  generalize (Nat.toDigits 10 coefficient).length = length at h hlt
  rw [Int.toNat_of_nonpos (show power ≤ 0 by omega)]
  calc Nat.pow 2 (s + 1) * (coefficient * Nat.pow 10 0)
      = Nat.pow 2 (s + 1) * coefficient := congrArg _ (Nat.mul_one coefficient)
    _ ≤ 10 ^ k * 10 ^ length := Nat.mul_le_mul hunit hlt
    _ = 10 ^ (k + length) := (Nat.pow_add 10 k length).symm
    _ ≤ Nat.pow 10 (-power).toNat := Nat.pow_le_pow_right (by decide) (by omega)

/-- A decimal with more than 310 digits before its point is past the magnitudes. -/
theorem nearest?_of_lt (h₀ : coefficient ≠ 0)
    (h : 310 < (Nat.toDigits 10 coefficient).length + power) :
    nearest? (coefficient * Nat.pow 10 power.toNat) (Nat.pow 10 (-power).toNat) = none := by
  obtain ⟨k, hk⟩ : ∃ k, k = 310 := ⟨_, rfl⟩
  rw [nearest?_eq_none_iff (ten_pow_pos _)]
  have hpos := Numeral.length_toDigits_pos coefficient
  have hle := Numeral.pow_le_of_lt_length h₀ (Nat.sub_one_lt_of_lt hpos)
  generalize (Nat.toDigits 10 coefficient).length = length at h hle hpos
  calc limit * Nat.pow 10 (-power).toNat
      ≤ 10 ^ k * 10 ^ (-power).toNat := Nat.mul_le_mul_right _ (limit_le hk)
    _ = 10 ^ (k + (-power).toNat) := (Nat.pow_add 10 k _).symm
    _ ≤ 10 ^ (length - 1 + power.toNat) := Nat.pow_le_pow_right (by decide) (by omega)
    _ = 10 ^ (length - 1) * 10 ^ power.toNat := Nat.pow_add 10 _ _
    _ ≤ coefficient * Nat.pow 10 power.toNat := Nat.mul_le_mul_right _ hle

/-- A decimal as the quotient that is rounded. -/
theorem cast_mul_pow (coefficient : Nat) (power : Int) :
    ((coefficient * Nat.pow 10 power.toNat : Nat) : ℚ) =
      coefficient * 10 ^ power * (Nat.pow 10 (-power).toNat : Nat) := by
  have hten : (10 : ℚ) ≠ 0 := by norm_num
  have hsum : (power.toNat : Int) = power + (-power).toNat := by omega
  have hpow : (10 : ℚ) ^ power.toNat = 10 ^ power * 10 ^ (-power).toNat := by
    rw [← zpow_natCast, hsum, zpow_add₀ hten, zpow_natCast]
  simp only [Nat.pow_eq]
  push_cast
  rw [hpow, mul_assoc]

end Magnitude

namespace Number

variable {negative negative' : Bool} {body rest rest' : List Char} {l : Literal} {s : String}

/-- The answers from the number of digits are those of the rounding. -/
theorem ofDecimal_eq (negative : Bool) (coefficient : Nat) (power : Int) :
    ofDecimal negative coefficient power =
      ofRatio negative (coefficient * Nat.pow 10 power.toNat) (Nat.pow 10 (-power).toNat) := by
  unfold ofDecimal ofRatio
  dsimp only
  split
  · rename_i h
    rcases h with rfl | h
    · rw [Nat.zero_mul, Magnitude.nearest?_zero (Magnitude.ten_pow_pos _)]
    · rw [Magnitude.nearest?_of_lt_neg h]
  · rename_i h
    split
    · rename_i h'
      rw [Magnitude.nearest?_of_lt (fun h₀ => h (Or.inl h₀)) h']
    · rfl

/-! ### Literals -/

theorem ofRatio_eq_infinite_iff {num den : Nat} :
    ofRatio negative num den = .infinite negative' ↔
      negative' = negative ∧ Magnitude.nearest? num den = none := by
  unfold ofRatio
  split
  · rename_i h
    simp [h]
  · rename_i h
    simp [h, eq_comm]

theorem ofRatio_ne_nan (negative : Bool) (num den : Nat) : ofRatio negative num den ≠ .nan := by
  unfold ofRatio
  split <;> rintro ⟨⟩

/-- A literal is read as infinite from half a unit above the greatest number on. -/
theorem toNumber_eq_infinite_iff :
    l.toNumber negative = .infinite negative' ↔
      negative' = negative ∧ (Magnitude.limit : ℚ) ≤ l.value := by
  rw [Literal.toNumber, ofDecimal_eq, ofRatio_eq_infinite_iff,
    Magnitude.nearest?_eq_none_iff (Magnitude.ten_pow_pos _), Literal.value_eq]
  apply and_congr_right
  intro _
  have hpos : (0 : ℚ) < (Nat.pow 10 (-(l.exponent - l.fraction.length)).toNat : Nat) :=
    Nat.cast_pos.2 (Magnitude.ten_pow_pos _)
  rw [← Nat.cast_le (α := ℚ), Nat.cast_mul,
    Magnitude.cast_mul_pow _ (l.exponent - l.fraction.length)]
  exact mul_le_mul_iff_left₀ hpos

theorem toNumber_ne_nan (l : Literal) (negative : Bool) : l.toNumber negative ≠ .nan := by
  rw [Literal.toNumber, ofDecimal_eq]
  exact ofRatio_ne_nan _ _ _

/-! ### Texts -/

/-- The words for infinity, in letters of either case. -/
def IsInfinity (rest : List Char) : Prop :=
  rest.map Char.toLower = "inf".toList ∨ rest.map Char.toLower = "infinity".toList

/-- What a text says about its sign, and the rest of it. -/
inductive Signed : Bool → List Char → List Char → Prop
  | bare {cs : List Char} (hplus : cs.head? ≠ some '+') (hminus : cs.head? ≠ some '-') :
      Signed false cs cs
  | plus (cs : List Char) : Signed false cs ('+' :: cs)
  | minus (cs : List Char) : Signed true cs ('-' :: cs)

theorem ofUnsigned_of_isInfinity (h : IsInfinity rest) :
    ofUnsigned negative rest = .infinite negative := by
  unfold ofUnsigned
  exact if_pos h

theorem ofUnsigned_of_not_isInfinity (h : ¬ IsInfinity rest) : ofUnsigned negative rest =
    match Literal.parse? rest with
    | some l => l.toNumber negative
    | none => .nan := by
  unfold ofUnsigned
  exact if_neg h

theorem not_isInfinity_of_spells (h : l.Spells rest) : ¬ IsInfinity rest := by
  obtain ⟨c, cs, rfl, hc⟩ := h.exists_cons
  have hlower : c.toLower ≠ 'i' := by
    rcases hc with hdigit | rfl
    · obtain ⟨hlt, hchar⟩ := Numeral.digitChar_of_isDigit hdigit
      rw [← hchar]
      exact (by decide : ∀ n < 10, n.digitChar.toLower ≠ 'i') _ hlt
    · decide
  rintro (hword | hword)
  · exact hlower (List.cons.inj hword).1
  · exact hlower (List.cons.inj hword).1

theorem ofUnsigned_of_spells (h : l.Spells rest) :
    ofUnsigned negative rest = l.toNumber negative := by
  rw [ofUnsigned_of_not_isInfinity (not_isInfinity_of_spells h), h.parse?]

theorem ofUnsigned_ne_nan_iff : ofUnsigned negative rest ≠ .nan ↔
    IsInfinity rest ∨ ∃ l : Literal, l.Spells rest := by
  constructor
  · intro h
    by_contra hnone
    rw [not_or] at hnone
    refine h ?_
    rw [ofUnsigned_of_not_isInfinity hnone.1]
    cases hl : Literal.parse? rest with
    | none => rfl
    | some l => exact absurd ⟨l, Literal.spells_of_parse? hl⟩ hnone.2
  · rintro (h | ⟨l, h⟩)
    · rw [ofUnsigned_of_isInfinity h]
      rintro ⟨⟩
    · rw [ofUnsigned_of_spells h]
      exact toNumber_ne_nan l negative

theorem ofUnsigned_eq_infinite_iff :
    ofUnsigned negative rest = .infinite negative' ↔ negative' = negative ∧
      (IsInfinity rest ∨ ∃ l : Literal, l.Spells rest ∧ (Magnitude.limit : ℚ) ≤ l.value) := by
  by_cases hword : IsInfinity rest
  · rw [ofUnsigned_of_isInfinity hword]
    constructor
    · rintro ⟨⟩
      exact ⟨rfl, .inl hword⟩
    · rintro ⟨rfl, -⟩
      rfl
  · by_cases hspells : ∃ l : Literal, l.Spells rest
    · obtain ⟨l, hl⟩ := hspells
      rw [ofUnsigned_of_spells hl, toNumber_eq_infinite_iff]
      apply and_congr_right
      intro _
      constructor
      · intro h
        exact Or.inr ⟨l, hl, h⟩
      · rintro (h | ⟨l', hl', h⟩)
        · exact absurd h hword
        · rwa [hl.unique hl']
    · have hnan : ofUnsigned negative rest = .nan :=
        not_not.1 (mt ofUnsigned_ne_nan_iff.1 (not_or.2 ⟨hword, hspells⟩))
      rw [hnan]
      constructor
      · rintro ⟨⟩
      · rintro ⟨-, h | ⟨l, hl, -⟩⟩
        · exact absurd h hword
        · exact absurd ⟨l, hl⟩ hspells

theorem exists_signed (body : List Char) : ∃ negative rest, Signed negative rest body := by
  by_cases hplus : body.head? = some '+'
  · obtain ⟨cs, rfl⟩ := List.head?_eq_some_iff.1 hplus
    exact ⟨false, cs, .plus cs⟩
  · by_cases hminus : body.head? = some '-'
    · obtain ⟨cs, rfl⟩ := List.head?_eq_some_iff.1 hminus
      exact ⟨true, cs, .minus cs⟩
    · exact ⟨false, body, .bare hplus hminus⟩

theorem ofText_of_signed (hbody : Text.trim s.toList = body) (hne : body ≠ [])
    (h : Signed negative rest body) : ofText s = ofUnsigned negative rest := by
  unfold ofText
  rw [hbody]
  cases h with
  | bare hplus hminus =>
    split
    · exact absurd rfl hne
    · exact absurd rfl hplus
    · exact absurd rfl hminus
    · rfl
  | plus => rfl
  | minus => rfl

theorem Signed.unique (h : Signed negative rest body) (h' : Signed negative' rest' body) :
    negative = negative' ∧ rest = rest' := by
  cases h <;> cases h' <;> simp_all

theorem Signed.rest_eq_nil (h : Signed negative rest []) : rest = [] := by
  cases h
  rfl

theorem ofText_of_blank (h : Text.trim s.toList = []) : ofText s = .zero := by
  unfold ofText
  rw [h]

theorem ofText_ne_nan_iff (hbody : Text.trim s.toList = body) : ofText s ≠ .nan ↔
    body = [] ∨ ∃ negative rest, Signed negative rest body ∧
      (IsInfinity rest ∨ ∃ l : Literal, l.Spells rest) := by
  by_cases hne : body = []
  · rw [ofText_of_blank (hbody.trans hne)]
    exact iff_of_true (by rintro ⟨⟩) (Or.inl hne)
  · obtain ⟨negative, rest, hsigned⟩ := exists_signed body
    rw [ofText_of_signed hbody hne hsigned, ofUnsigned_ne_nan_iff]
    constructor
    · intro h
      exact Or.inr ⟨negative, rest, hsigned, h⟩
    · rintro (h | ⟨negative', rest', hsigned', h⟩)
      · exact absurd h hne
      · rwa [(hsigned.unique hsigned').2]

theorem ofText_eq_infinite_iff (hbody : Text.trim s.toList = body) :
    ofText s = .infinite negative ↔ ∃ rest, Signed negative rest body ∧
      (IsInfinity rest ∨ ∃ l : Literal, l.Spells rest ∧ (Magnitude.limit : ℚ) ≤ l.value) := by
  by_cases hne : body = []
  · rw [ofText_of_blank (hbody.trans hne)]
    refine iff_of_false (by rintro ⟨⟩) ?_
    rintro ⟨rest, hsigned, h⟩
    rw [hne] at hsigned
    rw [hsigned.rest_eq_nil] at h
    rcases h with (h | h) | ⟨l, hl, -⟩
    · cases h
    · cases h
    · obtain ⟨c, cs, hnil, -⟩ := hl.exists_cons
      cases hnil
  · obtain ⟨sign, rest, hsigned⟩ := exists_signed body
    rw [ofText_of_signed hbody hne hsigned, ofUnsigned_eq_infinite_iff]
    constructor
    · rintro ⟨rfl, h⟩
      exact ⟨rest, hsigned, h⟩
    · rintro ⟨rest', hsigned', h⟩
      obtain ⟨rfl, rfl⟩ := hsigned.unique hsigned'
      exact ⟨rfl, h⟩

end Number

namespace Heap

open Number

/-- A text is converted to a number if it is blank, a signed word for infinity or a signed literal,
and to an infinity if it is such a word or a literal that is past the numbers. -/
theorem toNumber_string_iff (h : Heap) (s : String) : ∃ body, Text.Trims s.toList body ∧
    (h.toNumber (.string s) ≠ .nan ↔ body = [] ∨ ∃ negative rest, Signed negative rest body ∧
      (IsInfinity rest ∨ ∃ l : Literal, l.Spells rest)) ∧
    ∀ negative, h.toNumber (.string s) = .infinite negative ↔
      ∃ rest, Signed negative rest body ∧
        (IsInfinity rest ∨ ∃ l : Literal, l.Spells rest ∧ (Magnitude.limit : ℚ) ≤ l.value) := by
  have hvalue : h.toNumber (.string s) = ofText s := rfl
  rw [hvalue]
  exact ⟨_, Text.trims_trim _, ofText_ne_nan_iff rfl, fun _ => ofText_eq_infinite_iff rfl⟩

/-- The short word is neither of the spelled-out ones nor a literal. -/
theorem toNumber_string_inf : (∀ h : Heap, h.toNumber (.string "inf") = .infinite false) ∧
    Text.Trims "inf".toList "inf".toList ∧ "inf" ∉ ["", "Infinity", "+Infinity", "-Infinity"] ∧
    ¬ ∃ negative rest, Signed negative rest "inf".toList ∧ ∃ l : Literal, l.Spells rest := by
  refine ⟨fun h => ?_, Text.trims_iff.2 (by decide), by decide, ?_⟩
  · change ofText "inf" = .infinite false
    decide
  · rintro ⟨negative, rest, hsigned, l, hl⟩
    cases hsigned
    obtain ⟨c, cs, heq, hc⟩ := hl.exists_cons
    cases heq
    revert hc
    decide

end Heap

end ScriptSandbox
