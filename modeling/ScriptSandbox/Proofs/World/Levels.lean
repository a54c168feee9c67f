import ScriptSandbox.Proofs.World.Run

/-! # Levels and attributes

The level that is observed of an object is the one that all its properties permit. A scan of them
may stop at the first that is configurable, and an object that was frozen need not be scanned at all:
no operation leaves it with a property that is configurable or writable.
-/

namespace ScriptSandbox

/-- The greatest level of an object with the property, once it is closed to new keys. -/
def Property.permits (p : Property) : Level :=
  if p.configurable then .nonExtensible
  else if p.writable then .sealed
  else .frozen

namespace Level

/-- The lower of two levels. -/
def meet (l l' : Level) : Level := if l ≤ l' then l else l'

/-- The level that properties permit, by a scan that ends at the first one that is configurable. The
level to start with is what the properties before permit. -/
def scan : Level → List Property → Level
  | l, [] => l
  | l, p :: ps =>
    if p.configurable then .nonExtensible
    else scan (if p.writable then .sealed else l) ps

theorem scan_eq (l : Level) (ps : List Property) :
    scan l ps = if ps.any Property.configurable then .nonExtensible
      else if ps.any Property.writable then .sealed
      else l := by
  induction ps generalizing l with
  | nil => rfl
  | cons p ps ih =>
    cases hc : p.configurable
    · cases hw : p.writable <;> simp [scan, ih, hc, hw]
    · simp [scan, hc]

/-- Nothing that follows a configurable property matters. -/
theorem foldl_meet_nonExtensible (ps : List Property) :
    ps.foldl (fun l p => meet l p.permits) nonExtensible = nonExtensible := by
  induction ps with
  | nil => rfl
  | cons p ps ih =>
    have hp : meet .nonExtensible p.permits = .nonExtensible := by
      unfold Property.permits
      split_ifs <;> rfl
    rw [List.foldl_cons, hp, ih]

theorem scan_eq_foldl {l : Level} (hl : .sealed ≤ l) (ps : List Property) :
    scan l ps = ps.foldl (fun l p => l.meet p.permits) l := by
  induction ps generalizing l with
  | nil => rfl
  | cons p ps ih =>
    have hsealed : l.meet .sealed = .sealed := by
      revert hl
      cases l <;> decide
    have hfrozen : l.meet .frozen = l := by
      cases l <;> rfl
    have hclosed : l.meet .nonExtensible = .nonExtensible := by
      revert hl
      cases l <;> decide
    rw [scan, List.foldl_cons, Property.permits]
    split_ifs with hc hw
    · rw [hclosed, foldl_meet_nonExtensible]
    · rw [hsealed, ih (Level.le_refl _)]
    · rw [hfrozen, ih hl]

end Level

namespace Cell

variable {c : Cell}

/-- What is asked about the level of a cell agrees with the attributes of its properties. -/
structure Truthful (c : Cell) : Prop where
  isSealed : c.isSealed ↔ ¬c.isExtensible ∧
    ∀ k p, c.properties.get? k = some p → ¬p.configurable
  isFrozen : c.isFrozen ↔ ¬c.isExtensible ∧
    ∀ k p, c.properties.get? k = some p → ¬p.configurable ∧ ¬p.writable
  -- without the shortcut for what was frozen
  scan : c.observedLevel =
    if c.isExtensible then .extensible else Level.scan .frozen c.properties.values
  -- without the early end of the scan either
  full : c.observedLevel =
    if c.isExtensible then .extensible
    else c.properties.values.foldl (fun l p => l.meet p.permits) .frozen

theorem Closed.observedLevel_eq_scan (hc : c.Closed) : c.observedLevel =
    if c.isExtensible then .extensible else Level.scan .frozen c.properties.values := by
  rw [hc.observedLevel_eq, Level.scan_eq, isExtensible]
  simp only [decide_eq_true_eq]

theorem Closed.truthful (hc : c.Closed) : c.Truthful where
  isSealed := by
    rw [Cell.isSealed, hasLevel, decide_eq_true_eq, hc.sealed_le_observedLevel_iff, isExtensible]
    simp
  isFrozen := by
    rw [Cell.isFrozen, hasLevel, decide_eq_true_eq, hc.frozen_le_observedLevel_iff, isExtensible]
    simp only [decide_eq_true_eq, Bool.not_eq_true]
    constructor
    · rintro ⟨hl, hs, hf⟩
      exact ⟨hl, fun k p hp => ⟨hs hp, hf hp⟩⟩
    · rintro ⟨hl, h⟩
      exact ⟨hl, fun hp => (h _ _ hp).1, fun hp => (h _ _ hp).2⟩
  scan := hc.observedLevel_eq_scan
  full := by rw [hc.observedLevel_eq_scan, Level.scan_eq_foldl (by decide)]

end Cell

namespace World

/-- Whatever has happened, an object counts as sealed or frozen exactly if its attributes say so, and
neither the shortcut nor the early end of the scan makes a difference. -/
theorem truthful_after (history : List Event) (r : Ref) :
    ((after history).heap.cell r).Truthful :=
  (sound_after history r).closed.truthful

end World

end ScriptSandbox
