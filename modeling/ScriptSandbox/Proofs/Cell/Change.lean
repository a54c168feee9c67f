import ScriptSandbox.Heap.Define
import ScriptSandbox.Heap.Inherit
import ScriptSandbox.Proofs.Cell.Evolution

/-! # Changes of one cell

Each way to change a table leads to what may become of the cell, and a closed cell stays closed.
-/

namespace ScriptSandbox.Cell

variable {c d : Cell} {k : Key} {p : Property}

theorem evolves_modify {f : Property → Property}
    (hf : ∀ p, c.properties.get? k = some p → p.Yields (k = .length → c.Fits) (f p)) :
    c.Evolves { c with properties := c.properties.modify k f } where
  kind := rfl
  level := Level.le_refl _
  prototype _ := rfl
  keys _ := by rw [OrderedMap.keys_modify]
  locked {j p} hj _ := by
    rw [OrderedMap.get?_modify]
    split
    · rename_i hjk
      subst hjk
      exact ⟨f p, by rw [hj, Option.map_some], hf p hj⟩
    · exact ⟨p, hj, .refl _ _⟩

theorem evolves_erase (h : ∀ p, c.properties.get? k = some p → p.configurable = true) :
    c.Evolves { c with properties := c.properties.erase k } where
  kind := rfl
  level := Level.le_refl _
  prototype _ := rfl
  keys _ := by
    rw [OrderedMap.keys_erase]
    exact List.filter_sublist
  locked {j p} hj hp := by
    have hne : j ≠ k := by
      rintro rfl
      rw [h p hj] at hp
      cases hp
    exact ⟨p, by rwa [OrderedMap.get?_erase, if_neg hne], .refl _ _⟩

theorem evolves_withProperty (hl : c.level = .extensible) (hk : c.properties.get? k = none) :
    c.Evolves (c.withProperty k p) where
  kind := rfl
  level := Level.le_refl _
  prototype _ := rfl
  keys h := absurd hl h
  locked {j q} hj _ := by
    have hne : j ≠ k := by
      rintro rfl
      rw [hk] at hj
      cases hj
    exact ⟨q, by rwa [withProperty, OrderedMap.get?_insert, if_neg hne], .refl _ _⟩

theorem evolves_relink (hl : c.level = .extensible) (target : Option Ref) :
    c.Evolves { c with prototype := target } where
  kind := rfl
  level := Level.le_refl _
  prototype h := absurd hl h
  keys _ := List.Sublist.refl _
  locked hk _ := ⟨_, hk, .refl _ _⟩

theorem evolves_raise (c : Cell) (l : Level) : c.Evolves (c.raise l) := by
  unfold raise
  split
  · exact .refl c
  · rename_i h
    refine ⟨rfl, ?_, fun _ => rfl, fun _ => ?_, fun {k p} hk _ => ?_⟩
    · exact Nat.le_of_lt (Nat.lt_of_not_le h)
    · rw [OrderedMap.keys_mapValues]
    · exact ⟨p.close l, by rw [OrderedMap.get?_mapValues, hk, Option.map_some],
        p.yields_close _ l⟩

/-! ### Closed cells -/

theorem Evolves.closed (h : c.Evolves d) (hl : d.level = c.level) (hc : c.Closed) : d.Closed := by
  have hs : .sealed ≤ d.level → c.level ≠ .extensible := by
    intro hd he
    rw [hl, he] at hd
    exact absurd hd (by decide)
  constructor
  · intro hd k q hq
    obtain ⟨p, hp, hy⟩ := h.exists_of_get? (hs hd) (hc.sealed (hl ▸ hd)) hq
    exact (hy (hc.sealed (hl ▸ hd) hp)).1
  · intro hd k q hq
    have hd' : .sealed ≤ d.level := Level.le_trans (by decide) hd
    obtain ⟨p, hp, hy⟩ := h.exists_of_get? (hs hd') (hc.sealed (hl ▸ hd')) hq
    exact ((hy (hc.sealed (hl ▸ hd') hp)).2.2 (hc.frozen (hl ▸ hd) hp)).1

theorem closed_of_extensible (h : c.level = .extensible) : c.Closed := by
  constructor <;>
  · intro hl
    rw [h] at hl
    exact absurd hl (by decide)

theorem Closed.raise (hc : c.Closed) (l : Level) : (c.raise l).Closed := by
  unfold Cell.raise
  split
  · exact hc
  · constructor
    · intro hl k q hq
      rw [OrderedMap.get?_mapValues, Option.map_eq_some_iff] at hq
      obtain ⟨p, -, rfl⟩ := hq
      have hl' : Level.sealed ≤ l := hl
      simp [Property.close, hl']
    · intro hl k q hq
      rw [OrderedMap.get?_mapValues, Option.map_eq_some_iff] at hq
      obtain ⟨p, -, rfl⟩ := hq
      have hl' : Level.frozen ≤ l := hl
      simp [Property.close, hl']

end ScriptSandbox.Cell
