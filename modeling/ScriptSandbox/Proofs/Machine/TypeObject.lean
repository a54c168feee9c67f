import ScriptSandbox.Proofs.Machine.Host
import ScriptSandbox.Proofs.Machine.HostType

/-! # The type object of a name

A realm keeps one object for the name of each host type that it has resolved. Resolving a name gives
that object, and besides it adds objects only.
-/

namespace ScriptSandbox

namespace Machine

variable {long : Set Ref} {base : Nat} {m m' m'' : Machine} {name : String}

/-- What is kept for a name is the type object of a class of that name. -/
def Typed (m : Machine) : Prop :=
  ∀ name r, m.realm.typeObjects.get? name = some r →
    ∃ c, m.heap.kind r = .hostType c ∧ c.name = name

/-- Type objects stay type objects, and only type objects are kept. -/
theorem Step.typed (h : Step long base m m') (ht : m.Typed) : m'.Typed := by
  have hkind : ∀ {r : Ref} {c : HostClass}, m.heap.kind r = .hostType c →
      m'.heap.kind r = .hostType c := fun {r c} hr => by
    rw [h.kind_eq (Heap.lt_size_of_hostType hr), hr]
  intro name r hr
  cases h with
  | @keep d s hs =>
    simp only [OrderedMap.get?_insert] at hr
    split_ifs at hr with hn
    · cases hr
      exact ⟨d, hs, hn.symm⟩
    · exact ht name r hr
  | _ =>
    obtain ⟨c, hc, hn⟩ := ht name r hr
    exact ⟨c, hkind hc, hn⟩

theorem Path.typed (h : Path long base m m') (ht : m.Typed) : m'.Typed := by
  induction h with
  | refl => exact ht
  | tail _ h ih => exact h.typed ih

/-- Objects come in, and type objects are kept; everything else stays as it is. -/
structure Extends (m m' : Machine) : Prop where
  heap : m.heap.Extends m'.heap
  policy : m'.policy = m.policy
  intrinsics : m'.realm.intrinsics = m.realm.intrinsics
  imports : m'.realm.imports = m.realm.imports
  gate : m.realm.gate.Extends m'.realm.gate
  typeObjects : ∀ {name r}, m.realm.typeObjects.get? name = some r →
    m'.realm.typeObjects.get? name = some r

namespace Extends

protected theorem refl (m : Machine) : m.Extends m := ⟨.refl _, rfl, rfl, rfl, .refl _, id⟩

protected theorem trans (h : m.Extends m') (h' : m'.Extends m'') : m.Extends m'' where
  heap := h.heap.trans h'.heap
  policy := h'.policy.trans h.policy
  intrinsics := h'.intrinsics.trans h.intrinsics
  imports := h'.imports.trans h.imports
  gate := h.gate.trans h'.gate
  typeObjects hr := h'.typeObjects (h.typeObjects hr)

theorem of_realm_eq (hh : m.heap.Extends m'.heap) (hp : m'.policy = m.policy)
    (hr : m'.realm = m.realm) : m.Extends m' where
  heap := hh
  policy := hp
  intrinsics := by rw [hr]
  imports := by rw [hr]
  gate := by
    rw [hr]
    exact .refl _
  typeObjects h := by rwa [hr]

/-- Keeping an object for a name that has none. -/
protected theorem keep (hn : m.realm.typeObjects.get? name = none) (r : Ref) :
    m.Extends { m with
      realm := { m.realm with typeObjects := m.realm.typeObjects.insert name r } } where
  heap := .refl _
  policy := rfl
  intrinsics := rfl
  imports := rfl
  gate := .refl _
  typeObjects {n s} hs := by
    rw [OrderedMap.get?_insert, if_neg]
    · exact hs
    · rintro rfl
      rw [hn] at hs
      cases hs

end Extends

end Machine

namespace Exec

open Machine

variable {m : Machine} {name : String} {c : HostClass}

theorem resolveType_of_error {f : Failure} (h : m.realm.gate.resolve m.policy name = .error f) :
    resolveType name m = .error f m :=
  bind_of_error (resolveClass_of_error h)

/-- The type object of a class, the one that is kept if there is one. -/
theorem typeObject_spec (hc : m.LetsThrough c) :
    ∃ r m', typeObject c m = .ok r m' ∧ m.Extends m' ∧
      m'.realm.typeObjects.get? c.name = some r := by
  have hrealm : realm m = .ok m.realm m := rfl
  unfold typeObject
  rw [bind_of_ok hrealm]
  cases hr : m.realm.typeObjects.get? c.name with
  | some r => exact ⟨r, m, rfl, .refl m, hr⟩
  | none =>
    obtain ⟨r, m₁, h₁, hp, -, hrealm₁, hheap⟩ := createTypeObject_spec hc
    have he : m.Extends m₁ := .of_realm_eq hheap (Path.policy_eq hp) hrealm₁
    refine ⟨r, _, bind_of_ok h₁, he.trans (.keep ?_ r), ?_⟩
    · rw [hrealm₁, hr]
    · exact (OrderedMap.get?_insert _ _ _ _).trans (if_pos rfl)

/-- A name that the gate lets through has one type object, and resolving the name gives it. -/
theorem resolveType_of_ok (h : m.realm.gate.resolve m.policy name = .ok c)
    (hg : m.realm.gate.Sound) :
    ∃ r m', resolveType name m = .ok r m' ∧ m.Extends m' ∧
      m'.realm.typeObjects.get? name = some r := by
  have hres := resolveClass_of_ok h
  obtain ⟨r, m', hok, he, hr⟩ := typeObject_spec (letsThrough_of_resolveClass hres)
  refine ⟨r, m', (bind_of_ok hres).trans hok, ?_, ?_⟩
  · exact { he with gate := (Gate.extends_remember _ c).trans he.gate }
  · rw [← hg.name_eq h]
    exact hr

end Exec

end ScriptSandbox
