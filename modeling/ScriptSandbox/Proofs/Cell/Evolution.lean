import Mathlib.Data.List.Perm.Subperm
import Mathlib.Tactic.SplitIfs
import ScriptSandbox.Heap.Closing

/-! # The evolution of cells

What may become of a cell once scripts have got hold of it: its kind stays, its level does not fall,
and what is locked stays locked. Past the extensible level no key is added and the prototype stays.
The observed level is then monotone, and each level keeps what it promises. The only locked value
that may change is the length of an array that was made longer than any array can be.
-/

namespace ScriptSandbox

namespace Level

variable {a b c : Level}

protected theorem le_refl (a : Level) : a ≤ a := Nat.le_refl a.rank

protected theorem le_trans (h : a ≤ b) (h' : b ≤ c) : a ≤ c := Nat.le_trans h h'

theorem ne_extensible_of_le (h : a ≤ b) (ha : a ≠ .extensible) : b ≠ .extensible := by
  rintro rfl
  revert h ha
  cases a <;> decide

end Level

namespace Property

variable {p q r : Property}

/-- What may become of a property: it stays locked in the attributes that were locked, and its value
with them if it is `fixed`. -/
def Yields (p : Property) (fixed : Prop) (q : Property) : Prop :=
  p.configurable = false → q.configurable = false ∧ q.enumerable = p.enumerable ∧
    (p.writable = false → q.writable = false ∧ (fixed → q.value = p.value))

variable {fixed fixed' : Prop}

protected theorem Yields.refl (p : Property) (fixed : Prop) : p.Yields fixed p :=
  fun h => ⟨h, rfl, fun hw => ⟨hw, fun _ => rfl⟩⟩

protected theorem Yields.trans (h : p.Yields fixed q) (h' : q.Yields fixed' r)
    (he : fixed → q.value = p.value → fixed') : p.Yields fixed r := by
  intro hp
  obtain ⟨hq, hpq, hw⟩ := h hp
  obtain ⟨hr, hqr, hw'⟩ := h' hq
  refine ⟨hr, hqr.trans hpq, fun hpw => ?_⟩
  obtain ⟨hqw, hv⟩ := hw hpw
  obtain ⟨hrw, hv'⟩ := hw' hqw
  exact ⟨hrw, fun hx => (hv' (he hx (hv hx))).trans (hv hx)⟩

theorem Yields.eq (h : p.Yields fixed q) (hc : p.configurable = false) (hw : p.writable = false)
    (hx : fixed) : q = p := by
  obtain ⟨hqc, he, hv⟩ := h hc
  obtain ⟨hqw, hv⟩ := hv hw
  have hv := hv hx
  cases p
  cases q
  simp_all

theorem yields_close (p : Property) (fixed : Prop) (l : Level) : p.Yields fixed (p.close l) := by
  intro hc
  refine ⟨?_, rfl, fun hw => ⟨?_, fun _ => rfl⟩⟩
  · simp [close, hc]
  · simp [close, hw]

end Property

/-- A redefinition that suits a property locks what was locked. -/
theorem Descriptor.yields_applyTo {d : Descriptor} {p : Property} (h : d.suits p) (fixed : Prop) :
    p.Yields fixed (d.applyTo p) := by
  intro hc
  obtain ⟨value, writable, enumerable, configurable⟩ := d
  simp only [Descriptor.suits, hc, Bool.false_eq_true, false_or, decide_eq_true_eq] at h
  obtain ⟨h₁, h₂, h₃⟩ := h
  refine ⟨?_, h₂, fun hw => ?_⟩
  · cases configurable with
    | none => exact hc
    | some b => cases b <;> simp_all [applyTo]
  · simp only [hw, Bool.false_eq_true, false_or] at h₃
    refine ⟨?_, fun _ => h₃.2⟩
    cases writable with
    | none => exact hw
    | some b => cases b <;> simp_all [applyTo]

namespace Cell

variable {c d e : Cell} {k : Key} {p : Property}

/-- If the cell is an array, its length is that of an array. -/
def Fits (c : Cell) : Prop :=
  c.kind = .array → ∃ n ≤ maxLength, ∃ p, c.properties.get? .length = some p ∧ p.value = .ofNat n

/-- What may become of a cell. -/
structure Evolves (c d : Cell) : Prop where
  kind : d.kind = c.kind
  level : c.level ≤ d.level
  prototype : c.level ≠ .extensible → d.prototype = c.prototype
  keys : c.level ≠ .extensible → d.properties.keys.Sublist c.properties.keys
  locked : ∀ {k p}, c.properties.get? k = some p → p.configurable = false →
    ∃ q, d.properties.get? k = some q ∧ p.Yields (k = .length → c.Fits) q

protected theorem Evolves.refl (c : Cell) : c.Evolves c where
  kind := rfl
  level := Level.le_refl _
  prototype _ := rfl
  keys _ := List.Sublist.refl _
  locked h _ := ⟨_, h, .refl _ _⟩

theorem Fits.of_value_eq (hc : c.Fits) (hk : d.kind = c.kind) {p q : Property}
    (hp : c.properties.get? .length = some p) (hq : d.properties.get? .length = some q)
    (hv : q.value = p.value) : d.Fits := by
  intro hd
  obtain ⟨n, hn, p', hp', hv'⟩ := hc (hk ▸ hd)
  rw [hp, Option.some.injEq] at hp'
  subst hp'
  exact ⟨n, hn, q, hq, hv.trans hv'⟩

protected theorem Evolves.trans (h : c.Evolves d) (h' : d.Evolves e) : c.Evolves e where
  kind := h'.kind.trans h.kind
  level := Level.le_trans h.level h'.level
  prototype hc := (h'.prototype (Level.ne_extensible_of_le h.level hc)).trans (h.prototype hc)
  keys hc := (h'.keys (Level.ne_extensible_of_le h.level hc)).trans (h.keys hc)
  locked {k p} hp hc := by
    obtain ⟨q, hq, hy⟩ := h.locked hp hc
    obtain ⟨r, hr, hy'⟩ := h'.locked hq (hy hc).1
    refine ⟨r, hr, hy.trans hy' fun hf hv => ?_⟩
    rintro rfl
    exact (hf rfl).of_value_eq h.kind hp hq hv

/-! ### Closed cells -/

/-- The level of a cell has been carried out on its properties. -/
structure Closed (c : Cell) : Prop where
  sealed : .sealed ≤ c.level → ∀ {k p}, c.properties.get? k = some p → p.configurable = false
  frozen : .frozen ≤ c.level → ∀ {k p}, c.properties.get? k = some p → p.writable = false

theorem any_values_eq_false_iff {f : Property → Bool} :
    c.properties.values.any f = false ↔
      ∀ {k p}, c.properties.get? k = some p → f p = false := by
  simp only [List.any_eq_false, OrderedMap.mem_values_iff, Bool.not_eq_true, forall_exists_index]
  exact ⟨fun h k p hk => h p k hk, fun h p k hk => h hk⟩

/-- The scan of all properties gives what the shortcut for frozen cells gives. -/
theorem Closed.observedLevel_eq (hc : c.Closed) :
    c.observedLevel = if c.level = .extensible then .extensible
      else if c.properties.values.any Property.configurable then .nonExtensible
      else if c.properties.values.any Property.writable then .sealed
      else .frozen := by
  simp only [observedLevel, isExtensible, decide_eq_true_eq]
  by_cases hf : c.level = .frozen
  · have h₁ := any_values_eq_false_iff.2 (hc.sealed (by rw [hf]; decide))
    have h₂ := any_values_eq_false_iff.2 (hc.frozen (by rw [hf]; decide))
    simp [hf, h₁, h₂]
  · simp [hf]

section Observed

variable (hc : c.Closed)

include hc

theorem Closed.nonExtensible_le_observedLevel_iff :
    .nonExtensible ≤ c.observedLevel ↔ c.level ≠ .extensible := by
  rw [hc.observedLevel_eq]
  by_cases h : c.level = .extensible
  · simp only [h, ↓reduceIte, ne_eq, not_true_eq_false, iff_false]
    decide
  · simp only [h, ↓reduceIte, ne_eq, not_false_eq_true, iff_true]
    split_ifs <;> decide

/-- A cell counts as sealed when it is closed to new keys and none of its properties is
configurable. -/
theorem Closed.sealed_le_observedLevel_iff :
    .sealed ≤ c.observedLevel ↔ c.level ≠ .extensible ∧
      ∀ {k p}, c.properties.get? k = some p → p.configurable = false := by
  rw [hc.observedLevel_eq, ← any_values_eq_false_iff]
  by_cases h : c.level = .extensible
  · simp only [h, ↓reduceIte, ne_eq, not_true_eq_false, false_and, iff_false]
    decide
  · cases c.properties.values.any Property.configurable
    · simp only [h, Bool.false_eq_true, ↓reduceIte, ne_eq, not_false_eq_true, and_self, iff_true]
      split_ifs <;> decide
    · simp only [h, ↓reduceIte, Bool.true_eq_false, and_false, iff_false]
      decide

/-- A cell counts as frozen when it is closed to new keys and none of its properties is configurable
or writable. -/
theorem Closed.frozen_le_observedLevel_iff :
    .frozen ≤ c.observedLevel ↔ c.level ≠ .extensible ∧
      (∀ {k p}, c.properties.get? k = some p → p.configurable = false) ∧
      ∀ {k p}, c.properties.get? k = some p → p.writable = false := by
  rw [hc.observedLevel_eq, ← any_values_eq_false_iff, ← any_values_eq_false_iff]
  by_cases h : c.level = .extensible
  · simp only [h, ↓reduceIte, ne_eq, not_true_eq_false, false_and, iff_false]
    decide
  · cases c.properties.values.any Property.configurable <;>
      cases c.properties.values.any Property.writable <;>
      simp only [h, Bool.false_eq_true, Bool.true_eq_false, ↓reduceIte, ne_eq, not_false_eq_true,
        and_self, and_true, and_false, iff_true, iff_false] <;> decide

end Observed

/-! ### What the levels promise -/

namespace Evolves

variable (h : c.Evolves d)

include h

theorem mem_keys_of_locked (hk : c.properties.get? k = some p) (hp : p.configurable = false) :
    k ∈ d.properties.keys := by
  obtain ⟨q, hq, -⟩ := h.locked hk hp
  exact OrderedMap.mem_keys_iff.2 ⟨q, hq⟩

/-- Past the extensible level, a cell without configurable properties keeps its keys. -/
theorem keys_eq (hl : c.level ≠ .extensible)
    (hs : ∀ {k p}, c.properties.get? k = some p → p.configurable = false) :
    d.properties.keys = c.properties.keys := by
  refine (h.keys hl).eq_of_length_le (List.Subperm.length_le ?_)
  refine List.subperm_of_subset c.properties.nodup_keys fun k hk => ?_
  obtain ⟨p, hp⟩ := OrderedMap.mem_keys_iff.1 hk
  exact h.mem_keys_of_locked hp (hs hp)

/-- What a property of such a cell has become. -/
theorem exists_of_get? (hl : c.level ≠ .extensible)
    (hs : ∀ {k p}, c.properties.get? k = some p → p.configurable = false) {q : Property}
    (hq : d.properties.get? k = some q) :
    ∃ p, c.properties.get? k = some p ∧ p.Yields (k = .length → c.Fits) q := by
  have hk : k ∈ c.properties.keys := by
    rw [← h.keys_eq hl hs]
    exact OrderedMap.mem_keys_iff.2 ⟨q, hq⟩
  obtain ⟨p, hp⟩ := OrderedMap.mem_keys_iff.1 hk
  obtain ⟨q', hq', hy⟩ := h.locked hp (hs hp)
  rw [hq, Option.some.injEq] at hq'
  exact ⟨p, hp, hq' ▸ hy⟩

/-- If its properties are read-only as well, it keeps them altogether, but for a length that does not
fit. -/
theorem get?_eq (hl : c.level ≠ .extensible)
    (hs : ∀ {k p}, c.properties.get? k = some p → p.configurable = false)
    (hf : ∀ {k p}, c.properties.get? k = some p → p.writable = false) (k : Key)
    (hk : k = .length → c.Fits) : d.properties.get? k = c.properties.get? k := by
  cases hq : d.properties.get? k with
  | none =>
    rw [OrderedMap.get?_eq_none_iff, h.keys_eq hl hs] at hq
    exact (OrderedMap.get?_eq_none_iff.2 hq).symm
  | some q =>
    obtain ⟨p, hp, hy⟩ := h.exists_of_get? hl hs hq
    rw [hp, hy.eq (hs hp) (hf hp) hk]

/-- The observed level does not fall. -/
theorem observedLevel_le (hc : c.Closed) (hd : d.Closed) : c.observedLevel ≤ d.observedLevel := by
  suffices hall : ∀ l, l ≤ c.observedLevel → l ≤ d.observedLevel from hall _ (Level.le_refl _)
  intro l hl
  cases l with
  | extensible => exact Nat.zero_le _
  | nonExtensible =>
    rw [hc.nonExtensible_le_observedLevel_iff] at hl
    exact hd.nonExtensible_le_observedLevel_iff.2 (Level.ne_extensible_of_le h.level hl)
  | sealed =>
    obtain ⟨hl, hs⟩ := hc.sealed_le_observedLevel_iff.1 hl
    refine hd.sealed_le_observedLevel_iff.2 ⟨Level.ne_extensible_of_le h.level hl, fun hq => ?_⟩
    obtain ⟨p, hp, hy⟩ := h.exists_of_get? hl hs hq
    exact (hy (hs hp)).1
  | frozen =>
    obtain ⟨hl, hs, hf⟩ := hc.frozen_le_observedLevel_iff.1 hl
    refine hd.frozen_le_observedLevel_iff.2
      ⟨Level.ne_extensible_of_le h.level hl, fun hq => ?_, fun hq => ?_⟩
    · obtain ⟨p, hp, hy⟩ := h.exists_of_get? hl hs hq
      exact (hy (hs hp)).1
    · obtain ⟨p, hp, hy⟩ := h.exists_of_get? hl hs hq
      exact ((hy (hs hp)).2.2 (hf hp)).1

end Evolves

end Cell

end ScriptSandbox
