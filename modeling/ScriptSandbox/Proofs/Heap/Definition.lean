import ScriptSandbox.Proofs.Heap.Storing

/-! # What a definition does

A definition adds a property to an object that is open to new keys, and overlays one that is there
with the parts that the descriptor names. What the object inherits has no say in it. A property that
is not configurable admits what leaves its attributes alone, and a read-only one its own value.
-/

namespace ScriptSandbox

/-- The sign of a number; not-a-number has none. -/
def Number.isNegative : Number → Bool
  | .nan => false
  | .infinite negative => negative
  | .finite negative _ => negative

theorem Number.eq_iff_equals {x y : Number} :
    x = y ↔ x = .nan ∧ y = .nan ∨ x.equals y ∧ x.isNegative = y.isNegative := by
  cases x with
  | nan => cases y <;> simp [equals]
  | infinite s => cases y <;> simp [equals, isNegative]
  | finite s x =>
    cases y with
    | finite t y =>
      simp only [Number.finite.injEq, equals, isNegative, decide_eq_true_eq, reduceCtorEq,
        false_and, false_or]
      constructor
      · rintro ⟨rfl, rfl⟩
        exact ⟨⟨rfl, Or.inl rfl⟩, rfl⟩
      · rintro ⟨⟨rfl, -⟩, rfl⟩
        exact ⟨rfl, rfl⟩
    | _ => simp [equals]

/-- Values are the same if scripts find them equal, but not-a-number is the same as itself and a
zero only as the zero of its sign. -/
def Value.Same : Value → Value → Prop
  | .number x, .number y => x = .nan ∧ y = .nan ∨ x.equals y ∧ x.isNegative = y.isNegative
  | v, w => v.equals w

theorem Value.same_iff {v w : Value} : v.Same w ↔ v = w := by
  cases v with
  | number x =>
    cases w with
    | number y => rw [Same, ← Number.eq_iff_equals, Value.number.injEq]
    | _ => simp [Same, equals]
  | _ => cases w <;> simp [Same, equals]

namespace Descriptor

variable {d : Descriptor} {p : Property}

/-- The descriptor asks nothing that a property which is not configurable does not allow. -/
structure Respects (d : Descriptor) (p : Property) : Prop where
  configurable : d.configurable ≠ some true
  enumerable : ∀ b, d.enumerable = some b → b = p.enumerable
  writable : p.writable = false → d.writable ≠ some true
  value : p.writable = false → ∀ v, d.value = some v → v.Same p.value

theorem getD_eq_default_iff {α : Type} {o : Option α} {a : α} :
    o.getD a = a ↔ ∀ b, o = some b → b = a := by
  cases o <;> simp

theorem suits_iff : d.suits p ↔ p.configurable ∨ d.Respects p := by
  simp only [suits, getD_eq_default_iff, decide_eq_true_eq]
  constructor
  · rintro (hc | ⟨hc, he, hw⟩)
    · exact Or.inl hc
    · refine Or.inr ⟨hc, he, fun hp => ?_, fun hp v hv => ?_⟩
      · exact (hw.resolve_left (by simp [hp])).1
      · exact Value.same_iff.2 ((hw.resolve_left (by simp [hp])).2 v hv)
  · rintro (hc | hd)
    · exact Or.inl hc
    · refine Or.inr ⟨hd.configurable, hd.enumerable, ?_⟩
      cases hp : p.writable with
      | true => exact Or.inl rfl
      | false => exact Or.inr ⟨hd.writable hp, fun v hv => Value.same_iff.1 (hd.value hp v hv)⟩

end Descriptor

/-- What a property is before anything is said about it. -/
def Property.blank : Property := ⟨.undefined, false, false, false⟩

namespace Heap

variable {h : Heap} {r : Ref} {k : Key} {p : Property} {d : Descriptor}

/-- What speaks for a definition. -/
inductive Admits (h : Heap) (r : Ref) (k : Key) (d : Descriptor) : Prop
  | added (hk : h.own? r k = none) (hx : (h.cell r).isExtensible) (hl : ¬h.Overflows r k)
  | configurable {p : Property} (hp : h.own? r k = some p) (hc : p.configurable)
  | locked {p : Property} (hp : h.own? r k = some p) (hc : p.configurable = false)
      (hd : d.Respects p)

section Define

variable (hk : ¬(h.kind r = .array ∧ k = .length))

include hk

theorem define_of_own? (hp : h.own? r k = some p) (d : Descriptor) :
    h.define r k d = h.changeCell r (·.redefine k p d) := by
  have hk' : ¬((h.cell r).isArray ∧ k = .length) := by simpa [Cell.isArray, kind] using hk
  rw [define, changeCell, changeCell, defineIn, if_neg hk',
    show (h.cell r).properties.get? k = some p from hp]

theorem define_of_new (hp : h.own? r k = none) (d : Descriptor) :
    h.define r k d = h.changeCell r (h.add · k d.toProperty) := by
  have hk' : ¬((h.cell r).isArray ∧ k = .length) := by simpa [Cell.isArray, kind] using hk
  rw [define, changeCell, changeCell, defineIn, if_neg hk',
    show (h.cell r).properties.get? k = none from hp]

end Define

end Heap

end ScriptSandbox
