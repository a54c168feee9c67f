import Mathlib.Algebra.Field.Rat
import Mathlib.Data.List.TakeDrop
import Mathlib.Tactic.FieldSimp
import Mathlib.Tactic.Ring
import ScriptSandbox.Number.Literal
import ScriptSandbox.Proofs.Number.Numeral

/-! # Decimal literals

A decimal literal is digits around an optional point, at least one of them, and an optional exponent
that may have a sign. It stands for a rational number. Reading accepts the decimal literals and
nothing else.
-/

namespace ScriptSandbox

namespace Numeral

theorem value_append (cs ds : List Char) :
    value (cs ++ ds) = value cs * 10 ^ ds.length + value ds := by
  change Nat.ofDigitChars 10 (cs ++ ds) 0 =
    Nat.ofDigitChars 10 cs 0 * 10 ^ ds.length + Nat.ofDigitChars 10 ds 0
  rw [Nat.ofDigitChars_append, Nat.ofDigitChars_eq_ofDigitChars_zero, Nat.mul_comm]

theorem parse?_eq_some_iff {cs : List Char} {n : Nat} :
    parse? cs = some n ↔ cs ≠ [] ∧ cs.all Char.isDigit ∧ value cs = n := by
  constructor
  · exact parse?_eq_some
  · rintro ⟨hne, hall, rfl⟩
    exact if_pos ⟨hne, hall⟩

end Numeral

theorem span_append {α : Type} {p : α → Bool} {as bs : List α} (ha : as.all p)
    (hb : ∀ b, bs.head? = some b → p b = false) : (as ++ bs).span p = (as, bs) := by
  rw [List.all_eq_true] at ha
  rw [List.span_eq_takeWhile_dropWhile, List.takeWhile_append_of_pos ha,
    List.dropWhile_append_of_pos ha]
  cases bs with
  | nil => simp
  | cons b bs => simp [hb b rfl]

namespace Literal

/-! ### What a literal is -/

/-- The exponent of a literal, with its mark. -/
inductive SpellsExponent : Int → List Char → Prop
  | absent : SpellsExponent 0 []
  | unsigned {mark : Char} {ds : List Char} (hm : mark = 'e' ∨ mark = 'E') (hne : ds ≠ [])
      (hd : ds.all Char.isDigit) : SpellsExponent (Numeral.value ds) (mark :: ds)
  | plus {mark : Char} {ds : List Char} (hm : mark = 'e' ∨ mark = 'E') (hne : ds ≠ [])
      (hd : ds.all Char.isDigit) : SpellsExponent (Numeral.value ds) (mark :: '+' :: ds)
  | minus {mark : Char} {ds : List Char} (hm : mark = 'e' ∨ mark = 'E') (hne : ds ≠ [])
      (hd : ds.all Char.isDigit) : SpellsExponent (-Numeral.value ds) (mark :: '-' :: ds)

/-- The spellings of a decimal literal. -/
inductive Spells : Literal → List Char → Prop
  | whole {whole cs : List Char} {e : Int} (hw : whole.all Char.isDigit) (hne : whole ≠ [])
      (he : SpellsExponent e cs) : Spells ⟨whole, [], e⟩ (whole ++ cs)
  | pointed {whole fraction cs : List Char} {e : Int} (hw : whole.all Char.isDigit)
      (hf : fraction.all Char.isDigit) (hne : ¬(whole = [] ∧ fraction = []))
      (he : SpellsExponent e cs) : Spells ⟨whole, fraction, e⟩ (whole ++ '.' :: (fraction ++ cs))

variable {l : Literal} {cs ds : List Char} {e : Int}

/-- The rational number that a literal stands for. -/
def value (l : Literal) : ℚ :=
  (Numeral.value l.whole + Numeral.value l.fraction / 10 ^ l.fraction.length) * 10 ^ l.exponent

theorem value_eq (l : Literal) : l.value =
    Numeral.value (l.whole ++ l.fraction) * 10 ^ (l.exponent - l.fraction.length) := by
  have hten : (10 : ℚ) ≠ 0 := by norm_num
  rw [value, Numeral.value_append, zpow_sub₀ hten, zpow_natCast]
  push_cast
  field_simp

/-! ### Reading -/

theorem ne_sign_of_isDigit {c : Char} (h : c.isDigit) : c ≠ '+' ∧ c ≠ '-' := by
  constructor <;> rintro rfl <;> cases h

theorem exponent?_of_digits (hne : ds ≠ []) (hd : ds.all Char.isDigit) :
    exponent? ds = some (Numeral.value ds : Int) := by
  cases ds with
  | nil => exact absurd rfl hne
  | cons c ds =>
    rw [List.all_cons, Bool.and_eq_true] at hd
    obtain ⟨hplus, hminus⟩ := ne_sign_of_isDigit hd.1
    have hparse : Numeral.parse? (c :: ds) = some (Numeral.value (c :: ds)) :=
      Numeral.parse?_eq_some_iff.2 ⟨hne, by simpa using hd, rfl⟩
    unfold exponent?
    split
    · rename_i h
      exact absurd (List.cons.inj h).1 hplus
    · rename_i h
      exact absurd (List.cons.inj h).1 hminus
    · rw [hparse]
      rfl

theorem spellsExponent_iff : SpellsExponent e cs ↔ cs = [] ∧ e = 0 ∨
    ∃ mark rest, cs = mark :: rest ∧ (mark = 'e' ∨ mark = 'E') ∧ exponent? rest = some e := by
  constructor
  · intro h
    cases h with
    | absent => exact Or.inl ⟨rfl, rfl⟩
    | unsigned hm hne hd => exact Or.inr ⟨_, _, rfl, hm, exponent?_of_digits hne hd⟩
    | plus hm hne hd =>
      refine Or.inr ⟨_, _, rfl, hm, ?_⟩
      simp [exponent?, Numeral.parse?_eq_some_iff.2 ⟨hne, hd, rfl⟩]
    | minus hm hne hd =>
      refine Or.inr ⟨_, _, rfl, hm, ?_⟩
      simp [exponent?, Numeral.parse?_eq_some_iff.2 ⟨hne, hd, rfl⟩]
  · rintro (⟨rfl, rfl⟩ | ⟨mark, rest, rfl, hm, he⟩)
    · exact .absent
    · unfold exponent? at he
      split at he <;> obtain ⟨n, hn, rfl⟩ := Option.map_eq_some_iff.1 he <;>
        obtain ⟨hne, hd, rfl⟩ := Numeral.parse?_eq_some hn
      · exact .plus hm hne hd
      · exact .minus hm hne hd
      · exact .unsigned hm hne hd

theorem SpellsExponent.head?_ne (h : SpellsExponent e cs) :
    ∀ c, cs.head? = some c → c.isDigit = false ∧ c ≠ '.' := by
  intro c hc
  rcases spellsExponent_iff.1 h with ⟨rfl, -⟩ | ⟨mark, rest, rfl, hm, -⟩
  · cases hc
  · obtain rfl : mark = c := by simpa using hc
    rcases hm with rfl | rfl <;> exact ⟨rfl, by decide⟩

theorem Spells.parse? (h : l.Spells cs) : parse? cs = some l := by
  cases h with
  | @whole whole cs e hw hne he =>
    have hspan : (whole ++ cs).span Char.isDigit = (whole, cs) :=
      span_append hw fun c hc => (he.head?_ne c hc).1
    have hsplit : splitFraction cs = ([], cs) := by
      unfold splitFraction
      split
      · exact absurd rfl (he.head?_ne '.' rfl).2
      · rfl
    rcases spellsExponent_iff.1 he with ⟨rfl, rfl⟩ | ⟨mark, rest, rfl, hm, hexp⟩
    · simp only [Literal.parse?, hspan, hsplit, hne, false_and, if_false]
    · simp only [Literal.parse?, hspan, hsplit, hne, false_and, if_false, if_pos hm, hexp,
        Option.map_some]
  | @pointed whole fraction cs e hw hf hne he =>
    have hspan : (whole ++ '.' :: (fraction ++ cs)).span Char.isDigit =
        (whole, '.' :: (fraction ++ cs)) :=
      span_append hw fun c hc => by cases hc; rfl
    have hsplit : splitFraction ('.' :: (fraction ++ cs)) = (fraction, cs) :=
      span_append hf fun c hc => (he.head?_ne c hc).1
    rcases spellsExponent_iff.1 he with ⟨rfl, rfl⟩ | ⟨mark, rest, rfl, hm, hexp⟩
    · simp only [Literal.parse?, hspan, hsplit, if_neg hne]
    · simp only [Literal.parse?, hspan, hsplit, if_neg hne, if_pos hm, hexp, Option.map_some]

theorem Spells.unique {l' : Literal} (h : l.Spells cs) (h' : l'.Spells cs) : l = l' :=
  Option.some.inj (h.parse?.symm.trans h'.parse?)

/-- A literal begins with a digit or with its point. -/
theorem Spells.exists_cons (h : l.Spells cs) :
    ∃ c rest, cs = c :: rest ∧ (c.isDigit ∨ c = '.') := by
  cases h with
  | @whole whole cs e hw hne he =>
    obtain ⟨c, rest, rfl⟩ := List.exists_cons_of_ne_nil hne
    exact ⟨c, _, rfl, Or.inl (List.all_eq_true.1 hw c List.mem_cons_self)⟩
  | @pointed whole fraction cs e hw hf hne he =>
    cases whole with
    | nil => exact ⟨'.', _, rfl, Or.inr rfl⟩
    | cons c rest => exact ⟨c, _, rfl, Or.inl (List.all_eq_true.1 hw c List.mem_cons_self)⟩

theorem spellsExponent_of_match {whole fraction rest : List Char}
    (h : (match rest with
      | [] => some ⟨whole, fraction, 0⟩
      | mark :: rest =>
        if mark = 'e' ∨ mark = 'E' then (exponent? rest).map (⟨whole, fraction, ·⟩) else none) =
          some l) :
    ∃ e, l = ⟨whole, fraction, e⟩ ∧ SpellsExponent e rest := by
  cases rest with
  | nil =>
    cases h
    exact ⟨0, rfl, .absent⟩
  | cons mark rest =>
    dsimp only at h
    split at h
    · rename_i hm
      obtain ⟨e, he, rfl⟩ := Option.map_eq_some_iff.1 h
      exact ⟨e, rfl, spellsExponent_iff.2 (Or.inr ⟨mark, rest, rfl, hm, he⟩)⟩
    · cases h

theorem spells_of_parse? (h : parse? cs = some l) : l.Spells cs := by
  unfold Literal.parse? at h
  rw [List.span_eq_takeWhile_dropWhile] at h
  dsimp only at h
  generalize hw : cs.takeWhile Char.isDigit = whole at h
  generalize hr : cs.dropWhile Char.isDigit = rest at h
  have hcs : cs = whole ++ rest := by rw [← hw, ← hr, List.takeWhile_append_dropWhile]
  have hwhole : whole.all Char.isDigit := hw ▸ List.all_takeWhile
  subst hcs
  unfold splitFraction at h
  split at h
  · rename_i rest
    rw [List.span_eq_takeWhile_dropWhile] at h
    dsimp only at h
    split at h
    · cases h
    · rename_i hne
      obtain ⟨e, rfl, he⟩ := spellsExponent_of_match h
      have hpointed := Spells.pointed hwhole List.all_takeWhile hne he
      rwa [List.takeWhile_append_dropWhile] at hpointed
  · dsimp only at h
    split at h
    · cases h
    · rename_i hne
      obtain ⟨e, rfl, he⟩ := spellsExponent_of_match h
      exact .whole hwhole (fun h => hne ⟨h, rfl⟩) he

/-- Reading accepts the spellings of literals and nothing else. -/
theorem parse?_eq_some_iff : parse? cs = some l ↔ l.Spells cs :=
  ⟨spells_of_parse?, Spells.parse?⟩

end Literal

end ScriptSandbox
