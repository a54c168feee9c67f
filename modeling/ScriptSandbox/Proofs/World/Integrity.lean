import ScriptSandbox.Proofs.World.Run

/-! # The integrity of objects

The level that is observed of an object never falls, and what a level promises holds from then on,
whatever operations follow in whatever realm. A locked property stays locked on any object. One value
is not safe: the length of an array that was made longer than any array can be is rounded down when
it is defined anew, even where it is locked.
-/

namespace ScriptSandbox

namespace Cell

/-- A cell honours what the observed level of an earlier one promises. -/
structure Honours (c d : Cell) : Prop where
  level : c.observedLevel ≤ d.observedLevel
  -- closed to new keys
  keys : .nonExtensible ≤ c.observedLevel → d.properties.keys ⊆ c.properties.keys
  prototype : .nonExtensible ≤ c.observedLevel → d.prototype = c.prototype
  -- sealed
  ownKeys : .sealed ≤ c.observedLevel → d.properties.ownKeys = c.properties.ownKeys
  enumerable : .sealed ≤ c.observedLevel → ∀ k,
    (d.properties.get? k).map Property.enumerable = (c.properties.get? k).map Property.enumerable
  configurable : .sealed ≤ c.observedLevel → ∀ k p, d.properties.get? k = some p →
    p.configurable = false
  -- frozen
  writable : .frozen ≤ c.observedLevel → ∀ k p, d.properties.get? k = some p → p.writable = false
  property : .frozen ≤ c.observedLevel → ∀ k, (k = .length → c.Fits) →
    d.properties.get? k = c.properties.get? k

variable {c d : Cell}

theorem honours_of_isExtensible (hc : c.level = .extensible) (d : Cell) : c.Honours d := by
  have hle : ∀ {l : Level}, l ≤ c.observedLevel → l = .extensible := by
    intro l hl
    rw [observedLevel, isExtensible, if_pos (by simpa using hc)] at hl
    revert hl
    cases l <;> decide
  constructor
  case level =>
    rw [hle (Level.le_refl _)]
    exact Nat.zero_le _
  all_goals
    intro hl
    cases hle hl

/-- A sealed cell keeps the enumerability of its properties. -/
theorem Evolves.enumerable_eq (h : c.Evolves d) (hl : c.level ≠ .extensible)
    (hs : ∀ {k p}, c.properties.get? k = some p → p.configurable = false) (k : Key) :
    (d.properties.get? k).map Property.enumerable =
      (c.properties.get? k).map Property.enumerable := by
  cases hp : c.properties.get? k with
  | none =>
    rw [OrderedMap.get?_eq_none_iff, ← h.keys_eq hl hs] at hp
    rw [OrderedMap.get?_eq_none_iff.2 hp]
  | some p =>
    obtain ⟨q, hq, hy⟩ := h.locked hp (hs hp)
    rw [hq, Option.map_some, Option.map_some, (hy (hs hp)).2.1]

theorem Evolves.honours (h : c.Evolves d) (hc : c.Closed) (hd : d.Closed) : c.Honours d where
  level := h.observedLevel_le hc hd
  keys hl := (h.keys (hc.nonExtensible_le_observedLevel_iff.1 hl)).subset
  prototype hl := h.prototype (hc.nonExtensible_le_observedLevel_iff.1 hl)
  ownKeys hl := by
    obtain ⟨hl, hs⟩ := hc.sealed_le_observedLevel_iff.1 hl
    simp only [PropertyTable.ownKeys, PropertyTable.indices, PropertyTable.names, h.keys_eq hl hs]
  enumerable hl := by
    obtain ⟨hl, hs⟩ := hc.sealed_le_observedLevel_iff.1 hl
    exact h.enumerable_eq hl hs
  configurable hl k p hp := by
    have hl := Level.le_trans hl (h.observedLevel_le hc hd)
    exact (hd.sealed_le_observedLevel_iff.1 hl).2 hp
  writable hl k p hp := by
    have hl := Level.le_trans hl (h.observedLevel_le hc hd)
    exact (hd.frozen_le_observedLevel_iff.1 hl).2.2 hp
  property hl k hk := by
    obtain ⟨hl, hs, hf⟩ := hc.frozen_le_observedLevel_iff.1 hl
    exact h.get?_eq hl hs hf k hk

end Cell

namespace World

/-- Whatever happens, every object honours the level it had at any earlier moment, and unless it is
an oversized array its length is none that may be rounded. -/
theorem honours_after (before rest : List Event) (r : Ref) :
    ((after before).heap.cell r).Honours ((after (before ++ rest)).heap.cell r) ∧
      (((after before).heap.cell r).Fits ∨ Oversized before r) := by
  constructor
  · by_cases hr : r.id < (after before).heap.size
    · exact (evolves_after hr rest).honours (sound_after before r).closed (sound_after _ r).closed
    · refine Cell.honours_of_isExtensible ?_ _
      rw [Heap.cell_of_size_le (Nat.not_lt.1 hr)]
  · by_cases hover : Oversized before r
    · exact Or.inr hover
    · exact Or.inl ((sound_after before r).toFits hover)

/-- The first object that is made in a world with one realm over no classes. -/
def firstMade : Ref := ⟨61⟩

/-- An array of one element that is closed to new keys, and whose properties are locked one by one. -/
def closing : List Event := [
  .addPolicy {}, .addRealm {} [] 0,
  .perform 0 (.createArray [.ofNat 1]),
  .perform 0 (.raise firstMade .nonExtensible),
  .perform 0 (.define firstMade (.ofNat 0) { writable := some false, configurable := some false }),
  .perform 0 (.define firstMade .length { writable := some false })]

/-- Attempts to change that array. -/
def attempts : List Event := [
  .perform 0 (.assign firstMade .length (.ofNat 0) .silent),
  .perform 0 (.delete (.object firstMade) (.ofNat 0)),
  .perform 0 (.relink firstMade none)]

theorem honours_after_attempts :
    ((after closing).heap.cell firstMade).observedLevel = .frozen ∧
    .frozen ≤ ((after (closing ++ attempts)).heap.cell firstMade).observedLevel ∧
    ((after (closing ++ attempts)).heap.cell firstMade).properties.get? .length =
      some ⟨.ofNat 1, false, false, false⟩ := by
  have hlevel : ((after closing).heap.cell firstMade).observedLevel = .frozen := by decide +kernel
  have hlength : ((after closing).heap.cell firstMade).properties.get? .length =
      some ⟨.ofNat 1, false, false, false⟩ := by decide +kernel
  have hover : ¬Oversized closing firstMade := by decide +kernel
  obtain ⟨h, hfits⟩ := honours_after closing attempts firstMade
  have hle := h.level
  rw [hlevel] at hle
  refine ⟨hlevel, hle, ?_⟩
  rw [h.property (hlevel ▸ Level.le_refl _) .length fun _ => hfits.resolve_right hover, hlength]

/-- A property that is not configurable stays, with its enumerability; one that is read-only as well
keeps its value, but for the length of an oversized array. -/
theorem locked_after {before : List Event} {r : Ref} {k : Key} {p : Property}
    (hp : (after before).heap.own? r k = some p) (hc : p.configurable = false)
    (rest : List Event) :
    ∃ q, (after (before ++ rest)).heap.own? r k = some q ∧ q.configurable = false ∧
      q.enumerable = p.enumerable ∧
      (p.writable = false → q.writable = false ∧
        (q.value = p.value ∨ k = .length ∧ Oversized before r)) := by
  have hr : r.id < (after before).heap.size := by
    by_contra hr
    rw [Heap.own?, Heap.cell_of_size_le (Nat.not_lt.1 hr)] at hp
    cases hp
  obtain ⟨q, hq, hy⟩ := (evolves_after hr rest).locked hp hc
  obtain ⟨hqc, he, hw⟩ := hy hc
  refine ⟨q, hq, hqc, he, fun hpw => ?_⟩
  obtain ⟨hqw, hv⟩ := hw hpw
  refine ⟨hqw, ?_⟩
  by_cases hover : Oversized before r
  · by_cases hk : k = .length
    · exact Or.inr ⟨hk, hover⟩
    · exact Or.inl (hv fun h => absurd h hk)
  · exact Or.inl (hv fun _ => (sound_after before r).toFits hover)

theorem locked_after_attempts :
    (after closing).heap.own? firstMade (.ofNat 0) = some ⟨.ofNat 1, false, true, false⟩ ∧
    ∃ q, (after (closing ++ attempts)).heap.own? firstMade (.ofNat 0) = some q ∧
      q.configurable = false ∧ q.enumerable = true ∧ q.writable = false ∧ q.value = .ofNat 1 := by
  have hp : (after closing).heap.own? firstMade (.ofNat 0) =
      some ⟨.ofNat 1, false, true, false⟩ := by decide +kernel
  have hk : Key.ofNat 0 ≠ .length := by decide
  obtain ⟨q, hq, hc, he, hw⟩ := locked_after hp rfl attempts
  obtain ⟨hqw, hv⟩ := hw rfl
  exact ⟨hp, q, hq, hc, he, hqw, hv.resolve_right fun h => hk h.1⟩

end World

end ScriptSandbox
