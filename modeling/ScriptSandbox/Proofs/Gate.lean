import Mathlib.Tactic.SplitIfs
import ScriptSandbox.Gate
import ScriptSandbox.Proofs.TypeName

/-! # What the gate lets through

The gate hands out a class exactly if the name is valid, the policy allows it at that moment, and a
class is there. What it remembers never takes the place of the policy.
-/

namespace ScriptSandbox

namespace Catalog

/-- Every class stands under its own name. -/
def Named (catalog : Catalog) : Prop := ∀ name c, catalog.get? name = some c → c.name = name

theorem Named.register {catalog : Catalog} (h : catalog.Named) (c : HostClass) :
    (catalog.register c).Named := by
  intro name d hd
  rw [Catalog.register, OrderedMap.get?_insert] at hd
  split_ifs at hd with hn
  · cases hd
    exact hn.symm
  · exact h name d hd

theorem named_ofList (classes : List HostClass) : (ofList classes).Named := by
  suffices h : ∀ catalog : Catalog, catalog.Named → (classes.foldl register catalog).Named from
    h .empty fun _ _ h => by cases h
  induction classes with
  | nil => exact fun _ h => h
  | cons c rest ih => exact fun _ h => ih _ (h.register c)

end Catalog

theorem TypeName.check_eq_ok_iff {name : String} : check name = .ok () ↔ isValid name := by
  unfold check
  constructor
  · intro h
    split_ifs at h with _ hv
    exact hv
  · intro h
    rw [if_neg (ne_empty_of_isValid h), if_pos h]

namespace Gate

variable {g : Gate} {p : Policy} {name : String} {c : HostClass}

theorem resolve_of_denied (hn : TypeName.check name = .ok ()) (hp : ¬p.allows name) :
    g.resolve p name = .error (.accessDenied name) := by
  simp [resolve, hn, hp, bind, Except.bind]

theorem resolve_of_allowed (hn : TypeName.check name = .ok ()) (hp : p.allows name) :
    g.resolve p name =
      match g.find? name with
      | some c => .ok c
      | none => .error (.notFound name) := by
  cases hf : g.find? name <;> simp [resolve, hn, hp, hf, bind, Except.bind]

theorem resolve_eq_ok_iff : g.resolve p name = .ok c ↔
    TypeName.check name = .ok () ∧ p.check name = .allowed ∧ g.find? name = some c := by
  unfold resolve
  cases hn : TypeName.check name with
  | error f => simp [bind, Except.bind]
  | ok u =>
    by_cases hp : p.check name = .allowed
    · cases hf : g.find? name <;> simp [bind, Except.bind, Policy.allows, hp]
    · simp [bind, Except.bind, Policy.allows, hp]

theorem catalog_remember (g : Gate) (c : HostClass) : (g.remember c).catalog = g.catalog := by
  unfold remember
  split <;> rfl

theorem get?_remember (g : Gate) (c : HostClass) (name : String) :
    (g.remember c).resolved.get? name =
      (g.resolved.get? name).or (if name = c.name then some c else none) := by
  unfold remember
  split
  · rename_i h
    split
    · rename_i hn
      rw [OrderedMap.contains, Option.isSome_iff_exists] at h
      obtain ⟨d, hd⟩ := h
      rw [hn, hd, Option.some_or]
    · rw [Option.or_none]
  · rename_i h
    rw [OrderedMap.get?_insert]
    split
    · rename_i hn
      have hnone : g.resolved.get? c.name = none := by
        simpa [OrderedMap.contains] using h
      rw [hn, hnone, Option.none_or]
    · rw [Option.or_none]

theorem find?_eq (g : Gate) (name : String) :
    g.find? name = (g.resolved.get? name).or (g.catalog.get? name) := by
  unfold find?
  cases g.resolved.get? name <;> rfl

theorem contains_remember (g : Gate) (c : HostClass) :
    (g.remember c).resolved.contains c.name := by
  rw [OrderedMap.contains, get?_remember, if_pos rfl]
  cases g.resolved.get? c.name <;> rfl

/-- A class is still found once it is remembered. -/
theorem find?_remember (h : g.find? name = some c) : (g.remember c).find? name = some c := by
  rw [find?_eq] at h ⊢
  rw [get?_remember, catalog_remember]
  cases hr : g.resolved.get? name with
  | some d =>
    rw [hr, Option.some_or] at h
    exact h
  | none =>
    rw [hr, Option.none_or] at h
    rw [Option.none_or]
    split
    · rfl
    · exact h

theorem resolve_remember (h : g.resolve p name = .ok c) :
    (g.remember c).resolve p name = .ok c := by
  obtain ⟨hn, hp, hf⟩ := resolve_eq_ok_iff.1 h
  exact resolve_eq_ok_iff.2 ⟨hn, hp, find?_remember hf⟩

/-- What becomes of a gate: it keeps its catalog and what it remembers. -/
structure Extends (g g' : Gate) : Prop where
  catalog : g'.catalog = g.catalog
  resolved : ∀ {name c}, g.resolved.get? name = some c → g'.resolved.get? name = some c

protected theorem Extends.refl (g : Gate) : g.Extends g := ⟨rfl, id⟩

protected theorem Extends.trans {g g' g'' : Gate} (h : g.Extends g') (h' : g'.Extends g'') :
    g.Extends g'' :=
  ⟨h'.catalog.trans h.catalog, fun hr => h'.resolved (h.resolved hr)⟩

theorem extends_remember (g : Gate) (c : HostClass) : g.Extends (g.remember c) where
  catalog := g.catalog_remember c
  resolved h := by rw [get?_remember, h, Option.some_or]

/-- Classes stand under their own names, and what was handed out is in the catalog. -/
structure Sound (g : Gate) : Prop where
  named : g.catalog.Named
  kept : ∀ {name c}, g.resolved.get? name = some c → g.catalog.get? name = some c

namespace Sound

variable (hg : g.Sound)

include hg

theorem find?_eq_catalog (name : String) : g.find? name = g.catalog.get? name := by
  rw [find?_eq]
  cases h : g.resolved.get? name with
  | some c => rw [hg.kept h, Option.some_or]
  | none => rw [Option.none_or]

theorem name_eq (h : g.resolve p name = .ok c) : c.name = name := by
  obtain ⟨-, -, hf⟩ := resolve_eq_ok_iff.1 h
  rw [hg.find?_eq_catalog] at hf
  exact hg.named _ _ hf

/-- What is remembered makes no difference to what a sound gate lets through. -/
theorem resolve_eq_ok_iff_of_extends {g' : Gate} (hg' : g'.Sound) (h : g.Extends g') :
    g'.resolve p name = .ok c ↔ g.resolve p name = .ok c := by
  rw [resolve_eq_ok_iff, resolve_eq_ok_iff, hg.find?_eq_catalog, hg'.find?_eq_catalog, h.catalog]

protected theorem remember (h : g.resolve p name = .ok c) : (g.remember c).Sound where
  named := by
    rw [catalog_remember]
    exact hg.named
  kept {n d} hd := by
    rw [get?_remember, Option.or_eq_some_iff] at hd
    rw [catalog_remember]
    rcases hd with hd | ⟨-, hd⟩
    · exact hg.kept hd
    · obtain ⟨-, -, hf⟩ := resolve_eq_ok_iff.1 h
      split_ifs at hd with hn
      cases hd
      rwa [hn, hg.name_eq h, ← hg.find?_eq_catalog]

end Sound

end Gate

/-- The gate of a new realm. -/
theorem Gate.sound_ofList (classes : List HostClass) : Sound { catalog := .ofList classes } where
  named := Catalog.named_ofList classes
  kept h := by cases h

end ScriptSandbox
