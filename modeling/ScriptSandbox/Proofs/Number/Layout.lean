import ScriptSandbox.Proofs.Number.Literal

/-! # Layout of decimals

Whichever form a decimal is written in, the text is a literal of exactly its value without
superfluous zeros. So the value says which decimal was written, and with digits that have no zero at
either end it says the digits and the exponent.
-/

namespace ScriptSandbox

theorem Numeral.value_zeros_append (k : Nat) (cs : List Char) :
    value (List.replicate k '0' ++ cs) = value cs := by
  have hzeros := value_append_zeros [] k
  rw [List.nil_append] at hzeros
  rw [value_append, hzeros]
  simp [value]

namespace Decimal

variable {d d' : Decimal} {cs : List Char}

/-- Digits without a zero at either end. -/
structure IsNormal (d : Decimal) : Prop where
  ne_nil : d.digits ≠ []
  all : d.digits.all Char.isDigit
  head?_ne : d.digits.head? ≠ some '0'
  getLast?_ne : d.digits.getLast? ≠ some '0'

/-- The rational number `d₁.d₂…dₖ * 10 ^ exponent`. -/
def value (d : Decimal) : ℚ :=
  Literal.value ⟨d.digits.take 1, d.digits.drop 1, d.exponent⟩

theorem value_eq (hne : d.digits ≠ []) :
    d.value = Numeral.value d.digits * 10 ^ (d.exponent + 1 - d.digits.length) := by
  have hpos := List.length_pos_iff.2 hne
  have hexp : d.exponent - ((d.digits.length - 1 : Nat) : Int) =
      d.exponent + 1 - d.digits.length := by
    omega
  rw [value, Literal.value_eq, List.take_append_drop, List.length_drop, hexp]

/-! ### The written forms -/

/-- A literal for a decimal: it has the value, no zero before its other digits unless alone, and no
zero behind its fraction. -/
structure IsLiteral (d : Decimal) (l : Literal) : Prop where
  value_eq : l.value = d.value
  isCanonical : Numeral.IsCanonical l.whole
  getLast?_ne : l.fraction.getLast? ≠ some '0'

/-- Which text is the written form of a decimal. -/
structure Writes (d : Decimal) (cs : List Char) : Prop where
  exists_literal : ∃ l : Literal, l.Spells cs ∧ d.IsLiteral l
  plain_iff : cs.all (fun c => c.isDigit || c = '.') ↔ -7 < d.exponent ∧ d.exponent < 21
  exponential : ¬(-7 < d.exponent ∧ d.exponent < 21) →
    ∃ lead rest, d.digits = lead :: rest ∧
      cs = lead :: ((if rest = [] then [] else '.' :: rest) ++
        'e' :: (if d.exponent < 0 then '-' else '+') :: Nat.toDigits 10 d.exponent.natAbs)

/-- The digits among zeros, with the point at its place. -/
theorem isLiteral_of_eq (h : d.IsNormal) {whole fraction : List Char} (before behind : Nat)
    (hdigits : whole ++ fraction =
      List.replicate before '0' ++ (d.digits ++ List.replicate behind '0'))
    (hpoint : behind - (fraction.length : Int) = d.exponent + 1 - d.digits.length)
    (hwhole : Numeral.IsCanonical whole) (hlast : fraction.getLast? ≠ some '0') :
    d.IsLiteral ⟨whole, fraction, 0⟩ := by
  refine ⟨?_, hwhole, hlast⟩
  have hten : (10 : ℚ) ≠ 0 := by norm_num
  have hpow : (10 : ℚ) ^ (d.exponent + 1 - d.digits.length) =
      10 ^ behind * 10 ^ (0 - (fraction.length : Int)) := by
    rw [← hpoint, ← zpow_natCast, ← zpow_add₀ hten]
    congr 1
    omega
  rw [Literal.value_eq, value_eq h.ne_nil, hdigits, Numeral.value_zeros_append,
    Numeral.value_append_zeros, hpow, Nat.pow_eq]
  push_cast
  ring

theorem isCanonical_of_head?_ne (hne : cs ≠ []) (hall : cs.all Char.isDigit)
    (hhead : cs.head? ≠ some '0') : Numeral.IsCanonical cs :=
  ⟨hne, hall, fun h => absurd h hhead⟩

theorem IsNormal.isCanonical (h : d.IsNormal) : Numeral.IsCanonical d.digits :=
  isCanonical_of_head?_ne h.ne_nil h.all h.head?_ne

theorem all_replicate_zero (k : Nat) : (List.replicate k '0').all Char.isDigit := by
  rw [List.all_eq_true]
  intro c hc
  rw [List.eq_of_mem_replicate hc]
  rfl

theorem all_plain (h : cs.all Char.isDigit) : cs.all fun c => c.isDigit || c = '.' := by
  rw [List.all_eq_true] at h ⊢
  intro c hc
  simp [h c hc]

/-- Digits, then zeros up to the point. -/
theorem writes_zeros (h : d.IsNormal) (hle : d.digits.length ≤ d.exponent + 1)
    (hlt : d.exponent < 21) :
    d.Writes (d.digits ++ List.replicate ((d.exponent + 1).toNat - d.digits.length) '0') := by
  have hpos := List.length_pos_iff.2 h.ne_nil
  generalize hk : (d.exponent + 1).toNat - d.digits.length = k
  have hall : (d.digits ++ List.replicate k '0').all Char.isDigit := by
    rw [List.all_append, h.all, all_replicate_zero]
    rfl
  have hne : d.digits ++ List.replicate k '0' ≠ [] := List.append_ne_nil_of_left_ne_nil h.ne_nil _
  have hhead : (d.digits ++ List.replicate k '0').head? ≠ some '0' := by
    rw [List.head?_append_of_ne_nil _ h.ne_nil]
    exact h.head?_ne
  have hspells := Literal.Spells.whole hall hne .absent
  rw [List.append_nil] at hspells
  refine ⟨⟨_, hspells, isLiteral_of_eq h 0 k ?_ ?_ ?_ ?_⟩, ?_, ?_⟩
  · simp
  · simp only [List.length_nil]
    omega
  · exact isCanonical_of_head?_ne hne hall hhead
  · simp
  · exact iff_of_true (all_plain hall) (by omega)
  · omega

/-- The point among the digits. -/
theorem writes_pointed (h : d.IsNormal) (hpos : 0 < d.exponent + 1)
    (hlt : d.exponent + 1 < d.digits.length) (hle : d.exponent < 21) :
    d.Writes (d.digits.take (d.exponent + 1).toNat ++
      '.' :: d.digits.drop (d.exponent + 1).toNat) := by
  generalize hn : (d.exponent + 1).toNat = n
  obtain ⟨hwhole, hfraction⟩ : (d.digits.take n).all Char.isDigit ∧
      (d.digits.drop n).all Char.isDigit := by
    have hall := h.all
    rwa [← List.take_append_drop n d.digits, List.all_append, Bool.and_eq_true] at hall
  have hne : d.digits.take n ≠ [] := by
    rw [← List.length_pos_iff, List.length_take]
    omega
  have hhead : (d.digits.take n).head? ≠ some '0' := by
    rw [List.head?_take, if_neg (by omega)]
    exact h.head?_ne
  have hlast : (d.digits.drop n).getLast? ≠ some '0' := by
    rw [List.getLast?_drop, if_neg (by omega)]
    exact h.getLast?_ne
  have hspells := Literal.Spells.pointed hwhole hfraction (fun h => hne h.1) .absent
  rw [List.append_nil] at hspells
  refine ⟨⟨_, hspells, isLiteral_of_eq h 0 0 ?_ ?_ ?_ hlast⟩, ?_, ?_⟩
  · simp
  · rw [List.length_drop]
    omega
  · exact isCanonical_of_head?_ne hne hwhole hhead
  · refine iff_of_true ?_ (by omega)
    rw [List.all_append, List.all_cons, all_plain hwhole, all_plain hfraction]
    rfl
  · omega

/-- Zeros behind the point, then the digits. -/
theorem writes_leading (h : d.IsNormal) (hlt : -7 < d.exponent) (hle : d.exponent + 1 ≤ 0) :
    d.Writes ('0' :: '.' :: (List.replicate (-(d.exponent + 1)).toNat '0' ++ d.digits)) := by
  generalize hk : (-(d.exponent + 1)).toNat = k
  have hall : (List.replicate k '0' ++ d.digits).all Char.isDigit := by
    rw [List.all_append, h.all, all_replicate_zero]
    rfl
  have hlast : (List.replicate k '0' ++ d.digits).getLast? ≠ some '0' := by
    rw [List.getLast?_append_of_ne_nil _ h.ne_nil]
    exact h.getLast?_ne
  have hspells : Literal.Spells ⟨['0'], List.replicate k '0' ++ d.digits, 0⟩
      ('0' :: '.' :: (List.replicate k '0' ++ d.digits ++ [])) :=
    .pointed rfl hall (by simp) .absent
  rw [List.append_nil] at hspells
  refine ⟨⟨_, hspells, isLiteral_of_eq h (k + 1) 0 ?_ ?_ ?_ hlast⟩, ?_, ?_⟩
  · simp [List.replicate_succ]
  · rw [List.length_append, List.length_replicate]
    omega
  · exact Numeral.isCanonical_toDigits 0
  · refine iff_of_true ?_ (by omega)
    rw [List.all_cons, List.all_cons, all_plain hall]
    rfl
  · omega

/-- The digits with the exponent behind them. -/
theorem writes_exponential (h : d.IsNormal) (hexp : ¬(-7 < d.exponent ∧ d.exponent < 21)) :
    d.Writes d.exponential := by
  obtain ⟨lead, rest, hdigits⟩ := List.exists_cons_of_ne_nil h.ne_nil
  obtain ⟨hlead, hrest⟩ : lead.isDigit ∧ rest.all Char.isDigit := by
    have hall := h.all
    rwa [hdigits, List.all_cons, Bool.and_eq_true] at hall
  have hdigit : [lead].all Char.isDigit := by simpa using hlead
  have hzero : lead ≠ '0' := by
    have hhead := h.head?_ne
    rw [hdigits] at hhead
    simpa using hhead
  have hlast : rest.getLast? ≠ some '0' := by
    have hlast := h.getLast?_ne
    rw [hdigits, List.getLast?_cons] at hlast
    intro hrest
    rw [hrest] at hlast
    exact hlast rfl
  have hmark : Literal.SpellsExponent d.exponent
      ('e' :: (if d.exponent < 0 then '-' else '+') :: Nat.toDigits 10 d.exponent.natAbs) := by
    obtain ⟨hne, hall, -⟩ := Numeral.parse?_eq_some (Numeral.parse?_toDigits d.exponent.natAbs)
    have hvalue := Numeral.value_toDigits d.exponent.natAbs
    split
    · have hminus := Literal.SpellsExponent.minus (Or.inl rfl) hne hall
      rwa [hvalue, show -(d.exponent.natAbs : Int) = d.exponent by omega] at hminus
    · have hplus := Literal.SpellsExponent.plus (Or.inl rfl) hne hall
      rwa [hvalue, show (d.exponent.natAbs : Int) = d.exponent by omega] at hplus
  have hspells : Literal.Spells ⟨[lead], rest, d.exponent⟩ d.exponential := by
    unfold exponential
    rw [hdigits]
    by_cases hnil : rest = []
    · subst hnil
      exact .whole hdigit (List.cons_ne_nil lead []) hmark
    · have hpointed := Literal.Spells.pointed hdigit hrest
        (fun h => List.cons_ne_nil lead [] h.1) hmark
      simpa [hnil] using hpointed
  refine ⟨⟨_, hspells, ?_, ?_, hlast⟩, ?_, fun _ => ⟨lead, rest, hdigits, ?_⟩⟩
  · rw [value, hdigits]
    rfl
  · exact isCanonical_of_head?_ne (List.cons_ne_nil lead []) hdigit (by simpa using hzero)
  · refine iff_of_false ?_ hexp
    simp [exponential]
  · rw [exponential, hdigits]
    rfl

theorem writes_layout (h : d.IsNormal) : d.Writes d.layout := by
  unfold layout
  dsimp only
  split_ifs with hzeros hpointed hleading
  · exact writes_zeros h hzeros.1 (by omega)
  · exact writes_pointed h hpointed.1 (by omega) (by omega)
  · exact writes_leading h (by omega) hleading.2
  · exact writes_exponential h (by omega)

/-! ### Splits and repeats -/

/-- A run of zeros, unless its length is negative. -/
def zeros? (n : Int) : Option (List Char) :=
  if 0 ≤ n then some (List.replicate n.toNat '0') else none

/-- A list split at a place, unless that is outside. -/
def splitAt? (cs : List Char) (n : Int) : Option (List Char × List Char) :=
  if 0 ≤ n ∧ n ≤ cs.length then some (cs.take n.toNat, cs.drop n.toNat) else none

/-- The layout by splits and repeats that fail outside of their range. -/
def layout? (d : Decimal) : Option (List Char) :=
  let point := d.exponent + 1
  if d.digits.length ≤ point ∧ point ≤ 21 then
    (zeros? (point - d.digits.length)).map (d.digits ++ ·)
  else if 0 < point ∧ point ≤ 21 then
    (splitAt? d.digits point).map fun (whole, fraction) => whole ++ '.' :: fraction
  else if -6 < point ∧ point ≤ 0 then
    (zeros? (-point)).map fun zeros => '0' :: '.' :: (zeros ++ d.digits)
  else
    (splitAt? d.digits 1).map fun (lead, rest) =>
      lead ++ (if rest = [] then [] else '.' :: rest) ++
        'e' :: (if d.exponent < 0 then '-' else '+') :: Nat.toDigits 10 d.exponent.natAbs

theorem zeros?_eq {n : Int} (h : 0 ≤ n) : zeros? n = some (List.replicate n.toNat '0') :=
  if_pos h

theorem splitAt?_eq {n : Int} (h : 0 ≤ n ∧ n ≤ cs.length) :
    splitAt? cs n = some (cs.take n.toNat, cs.drop n.toNat) :=
  if_pos h

theorem layout?_eq (hne : d.digits ≠ []) : d.layout? = some d.layout := by
  have hpos := List.length_pos_iff.2 hne
  unfold layout? layout
  dsimp only
  split
  · rw [zeros?_eq (by omega), Option.map_some, Int.toNat_sub']
  · split
    · rw [splitAt?_eq (by omega)]
      rfl
    · split
      · rw [zeros?_eq (by omega)]
        rfl
      · rw [splitAt?_eq (by omega), exponential]
        simp

/-! ### Injectivity -/

theorem IsNormal.value_ne_zero (h : d.IsNormal) : Numeral.value d.digits ≠ 0 := by
  intro hzero
  have hdigits := Numeral.toDigits_value h.isCanonical
  rw [hzero, Nat.toDigits_zero] at hdigits
  exact h.head?_ne (by rw [← hdigits]; rfl)

theorem le_of_value_eq (h : d.IsNormal) (h' : d'.IsNormal) (hv : d.value = d'.value) :
    d'.exponent - d'.digits.length ≤ d.exponent - d.digits.length := by
  by_contra hlt
  obtain ⟨m, hm⟩ : ∃ m : Nat, d'.exponent + 1 - d'.digits.length =
      d.exponent + 1 - d.digits.length + (m + 1 : Nat) :=
    ⟨(d'.exponent - d'.digits.length - (d.exponent - d.digits.length) - 1).toNat, by omega⟩
  have hten : (10 : ℚ) ≠ 0 := by norm_num
  rw [value_eq h.ne_nil, value_eq h'.ne_nil, hm, zpow_add₀ hten, zpow_natCast] at hv
  have hcast : (Numeral.value d.digits : ℚ) = (Numeral.value d'.digits * 10 ^ (m + 1) : Nat) := by
    refine mul_right_cancel₀ (zpow_ne_zero (d.exponent + 1 - d.digits.length) hten) ?_
    rw [hv]
    push_cast
    ring
  have hdigits := Numeral.toDigits_value h.isCanonical
  rw [Nat.cast_injective hcast, ← Nat.pow_eq, Numeral.toDigits_mul_pow h'.value_ne_zero] at hdigits
  refine h.getLast?_ne ?_
  rw [← hdigits, List.replicate_succ', ← List.append_assoc, List.getLast?_append]
  rfl

/-- The value says what the digits and the exponent are. -/
theorem eq_of_value_eq (h : d.IsNormal) (h' : d'.IsNormal) (hv : d.value = d'.value) : d = d' := by
  have hpoint := le_antisymm (le_of_value_eq h' h hv.symm) (le_of_value_eq h h' hv)
  have hten : (10 : ℚ) ≠ 0 := by norm_num
  rw [value_eq h.ne_nil, value_eq h'.ne_nil, show d.exponent + 1 - d.digits.length =
    d'.exponent + 1 - d'.digits.length by omega] at hv
  have hcast := mul_right_cancel₀ (zpow_ne_zero _ hten) hv
  have hdigits : d.digits = d'.digits := by
    rw [← Numeral.toDigits_value h.isCanonical, Nat.cast_injective hcast,
      Numeral.toDigits_value h'.isCanonical]
  rw [hdigits] at hpoint
  cases d
  cases d'
  simp_all

/-- The written form of a decimal is a literal of its value, which needs no more than splits and
repeats in their range, and no other decimal is written alike. -/
theorem layout_spec (h : d.IsNormal) : d.layout? = some d.layout ∧ d.Writes d.layout ∧
    ∀ d' : Decimal, d'.IsNormal → d'.layout = d.layout → d' = d := by
  refine ⟨layout?_eq h.ne_nil, writes_layout h, ?_⟩
  intro d' h' heq
  obtain ⟨l, hl, hvalue⟩ := (writes_layout h).exists_literal
  obtain ⟨l', hl', hvalue'⟩ := (writes_layout h').exists_literal
  rw [heq] at hl'
  have hsame := hl'.unique hl
  subst hsame
  exact eq_of_value_eq h' h (hvalue'.value_eq.symm.trans hvalue.value_eq)

theorem layout_spec_of_small : IsNormal ⟨['1', '2', '5'], -10⟩ ∧
    layout? ⟨['1', '2', '5'], -10⟩ = some "1.25e-10".toList ∧
    Writes ⟨['1', '2', '5'], -10⟩ "1.25e-10".toList := by
  have hnormal : IsNormal ⟨['1', '2', '5'], -10⟩ :=
    ⟨by decide, by decide, by decide, by decide⟩
  obtain ⟨hchecked, hwrites, -⟩ := layout_spec hnormal
  exact ⟨hnormal, hchecked, hwrites⟩

/-- Scaling leaves no zero at either end. -/
theorem isNormal_ofScaled {coefficient : Nat} (hc : coefficient ≠ 0) (power : Int) :
    (ofScaled coefficient power).IsNormal := by
  obtain ⟨k, hdigits, -⟩ := exists_toDigits_eq coefficient power
  obtain ⟨hne, hall, -⟩ := Numeral.parse?_eq_some (Numeral.parse?_toDigits coefficient)
  have hhead : (Nat.toDigits 10 coefficient).head? ≠ some '0' :=
    mt (Numeral.head?_toDigits coefficient) hc
  rw [hdigits] at hne hall hhead
  have hnil : (ofScaled coefficient power).digits ≠ [] := by
    intro hnil
    rw [hnil, List.nil_append] at hne hhead
    cases k with
    | zero => exact hne rfl
    | succ k => exact hhead rfl
  rw [List.all_append, Bool.and_eq_true] at hall
  rw [List.head?_append_of_ne_nil _ hnil] at hhead
  exact ⟨hnil, hall.1, hhead, getLast?_digits coefficient power⟩

end Decimal

end ScriptSandbox
