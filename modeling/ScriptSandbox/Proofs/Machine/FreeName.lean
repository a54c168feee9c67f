import ScriptSandbox.Proofs.Machine.Curation
import ScriptSandbox.Proofs.Machine.Route

/-! # Free names

A free name that is bound on the global object or above it has that value, whatever is imported.
Any other name is looked for in the imported packages: the first one that has a type of the name, or
in which the name is closed, decides. Looking a name up changes no object and no import.
-/

namespace ScriptSandbox

/-- Whether an answer for a name ends the search: a class does, and so does a refusal. -/
def settles : Except Failure HostClass → Bool
  | .ok _ => true
  | .error f => ¬(f.isNotFound ∨ f.isTypeFault)

/-- The first of some packages where the answer for a name ends the search. -/
def holder? (answer : String → Except Failure HostClass) (name : String) (packages : List String) :
    Option String :=
  packages.find? fun package => settles (answer (package ++ "." ++ name))

/-- A gate fails for a name that is refused, or else the failure does not end a search. -/
theorem Gate.resolve_error_cases {g : Gate} {p : Policy} {name : String} {f : Failure}
    (h : g.resolve p name = .error f) :
    settles (.error f) = false ∨ f = .accessDenied name := by
  cases hn : TypeName.check name with
  | error e =>
    have he : g.resolve p name = .error e := by simp [resolve, hn, bind, Except.bind]
    rw [he, Except.error.injEq] at h
    subst h
    unfold TypeName.check at hn
    split_ifs at hn <;> cases hn <;> exact Or.inl rfl
  | ok u =>
    by_cases hp : p.allows name
    · rw [resolve_of_allowed hn hp] at h
      cases hf : g.find? name <;> rw [hf] at h <;> cases h
      exact Or.inl rfl
    · rw [resolve_of_denied hn hp] at h
      cases h
      exact Or.inr rfl

namespace Exec

open Machine

variable {m m' : Machine} {name package q : String} {packages : List String} {p : Property}

/-- The search comes down to resolving the name in the package that decides. -/
theorem findImported_eq (name : String) (packages : List String) (m : Machine) :
    findImported name packages m =
      match holder? (m.realm.gate.resolve m.policy) name packages with
      | some package => resolveValue (package ++ "." ++ name) m
      | none => .error (.reference name) m := by
  induction packages with
  | nil => rfl
  | cons package rest ih =>
    rw [findImported, bind_of_ok (get_apply m), holder?, List.find?_cons]
    cases hr : m.realm.gate.resolve m.policy (package ++ "." ++ name) with
    | ok c => rfl
    | error f =>
      by_cases hf : f.isNotFound ∨ f.isTypeFault
      · simp only [settles, hf, not_true_eq_false, decide_false, if_true]
        exact ih
      · simp only [settles, hf, not_false_eq_true, decide_true, if_false]
        exact (bind_of_error (resolveType_of_error hr)).symm

theorem getGlobal_of_bound
    (h : m.heap.find? m.realm.intrinsics.global (.ofString name) = some p) :
    getGlobal name m = .ok p.value m := by
  unfold getGlobal
  rw [bind_of_ok (intrinsics_apply m), bind_of_ok (look_apply _ m), h]
  rfl

theorem getGlobal_of_free
    (h : m.heap.find? m.realm.intrinsics.global (.ofString name) = none) :
    getGlobal name m = findImported name m.realm.imports m := by
  have hrealm : realm m = .ok m.realm m := rfl
  unfold getGlobal
  rw [bind_of_ok (intrinsics_apply m), bind_of_ok (look_apply _ m), h]
  exact bind_of_ok hrealm

/-! ### What a lookup leaves -/

section Sound

variable (hg : m.realm.gate.Sound)

include hg

theorem extends_resolveValue (name : String) : m.Extends ((resolveValue name).final m) := by
  cases hr : m.realm.gate.resolve m.policy name with
  | error f =>
    have herror : resolveValue name m = .error f m := bind_of_error (resolveType_of_error hr)
    rw [final, herror]
    exact .refl m
  | ok c =>
    obtain ⟨r, m', hok, he, -⟩ := resolveType_of_ok hr hg
    have hvalue : resolveValue name m = .ok (.object r) m' := bind_of_ok hok
    rw [final_of_ok hvalue]
    exact he

theorem extends_getGlobal (name : String) : m.Extends ((getGlobal name).final m) := by
  cases hp : m.heap.find? m.realm.intrinsics.global (.ofString name) with
  | some p =>
    rw [final_of_ok (getGlobal_of_bound hp)]
    exact .refl m
  | none =>
    rw [final, getGlobal_of_free hp, findImported_eq]
    cases holder? (m.realm.gate.resolve m.policy) name m.realm.imports with
    | some package => exact extends_resolveValue hg _
    | none => exact .refl m

/-- Lookups one after the other. -/
theorem extends_lookups (names : List String) :
    m.Extends (runAll (names.map getGlobal) m).2 ∧
      (runAll (names.map getGlobal) m).2.realm.gate.Sound := by
  induction names generalizing m with
  | nil => exact ⟨.refl m, hg⟩
  | cons name names ih =>
    obtain ⟨he, hg'⟩ := ih (Path.gate (traced_getGlobal name m) hg).1
    exact ⟨(extends_getGlobal hg name).trans he, hg'⟩

end Sound

end Exec

/-! ### Imports -/

/-- No package is imported twice, and all of them have valid names. -/
structure Realm.Orderly (realm : Realm) : Prop where
  nodup : realm.imports.Nodup
  check : ∀ package ∈ realm.imports, TypeName.check package = .ok ()

namespace Machine

variable {long : Set Ref} {base : Nat} {m m' : Machine}

theorem Step.orderly (h : Step long base m m') (hm : m.realm.Orderly) : m'.realm.Orderly := by
  cases h with
  | @importPackage name hn hi =>
    constructor
    · exact List.nodup_append.2 ⟨hm.nodup, List.nodup_singleton _, fun a ha b hb => by
        rw [List.mem_singleton.1 hb]
        rintro rfl
        exact hi ha⟩
    · intro package hp
      rcases List.mem_append.1 hp with hp | hp
      · exact hm.check package hp
      · rw [List.mem_singleton.1 hp, hn]
  | _ => exact ⟨hm.nodup, hm.check⟩

/-- Imports come in at the end, and none goes. -/
theorem Step.imports_isPrefix (h : Step long base m m') :
    m.realm.imports <+: m'.realm.imports := by
  cases h with
  | importPackage => exact List.prefix_append _ _
  | _ => exact List.prefix_refl _

theorem Path.orderly (h : Path long base m m') (hm : m.realm.Orderly) : m'.realm.Orderly := by
  induction h with
  | refl => exact hm
  | tail _ h ih => exact h.orderly ih

theorem Path.imports_isPrefix (h : Path long base m m') :
    m.realm.imports <+: m'.realm.imports := by
  induction h with
  | refl => exact List.prefix_refl _
  | tail _ h ih => exact ih.trans h.imports_isPrefix

/-! ### The classes of type objects -/

/-- The type objects that a realm keeps are of the classes in its catalog. -/
structure Stocked (m : Machine) : Prop where
  gate : m.realm.gate.Sound
  class_eq : ∀ {name r}, m.realm.typeObjects.get? name = some r →
    ∃ c, m.realm.gate.catalog.get? name = some c ∧ m.heap.kind r = .hostType c

/-- It stays so while objects keep their kinds and no other type objects are kept. -/
theorem Stocked.of_eq (hm : m.Stocked) (hg : m'.realm.gate.Sound)
    (hcatalog : m'.realm.gate.catalog = m.realm.gate.catalog)
    (hkind : ∀ r : Ref, r.id < m.heap.size → m'.heap.kind r = m.heap.kind r)
    (ht : m'.realm.typeObjects = m.realm.typeObjects) : m'.Stocked where
  gate := hg
  class_eq {name r} hr := by
    rw [ht] at hr
    obtain ⟨c, hc, hk⟩ := hm.class_eq hr
    rw [hcatalog, hkind r (Heap.lt_size_of_hostType hk)]
    exact ⟨c, hc, hk⟩

theorem Stocked.enroll {c : HostClass} (hm : m.Stocked) (hc : m.LetsThrough c)
    (hnone : m.realm.typeObjects.get? c.name = none) : (m.enroll c).Stocked where
  gate := hm.gate
  class_eq {name r} hr := by
    have hcurates : m.Curates (m.enroll c) := .enroll hnone
    change (m.realm.typeObjects.insert c.name ⟨m.heap.size⟩).get? name = some r at hr
    rw [OrderedMap.get?_insert] at hr
    split_ifs at hr with hn
    · cases hr
      obtain ⟨-, -, hf⟩ := Gate.resolve_eq_ok_iff.1 (hc.of_sound hm.gate).1
      rw [hm.gate.find?_eq_catalog] at hf
      exact ⟨c, hn ▸ hf, (Curates.represents_enroll m c).kind⟩
    · obtain ⟨d, hd, hk⟩ := hm.class_eq hr
      exact ⟨d, hd, (hcurates.kind r (Heap.lt_size_of_hostType hk)).trans hk⟩

theorem isHabit_stocked : IsHabit fun m m' => m.Stocked → m'.Stocked where
  refl _ := id
  trans h h' := h' ∘ h
  quiet h _ ht hm := by
    obtain ⟨hg, he⟩ := h.gate hm.gate
    exact hm.of_eq hg he.catalog (fun _ hr => h.kind_eq hr) ht
  make _ _ _ hm :=
    hm.of_eq hm.gate rfl (fun _ hr => congrArg Cell.kind (Heap.cell_alloc_of_lt hr _)) rfl
  enroll hc hnone hm := hm.enroll hc hnone

/-- Lookups one after the other make type objects of the catalog only. -/
theorem Stocked.lookups (hm : m.Stocked) (names : List String) :
    (Exec.runAll (names.map Exec.getGlobal) m).2.Stocked := by
  induction names generalizing m with
  | nil => exact hm
  | cons name names ih => exact ih (Exec.follows_getGlobal isHabit_stocked name m hm)

end Machine

namespace Exec

open Machine

variable {m : Machine} {name : String} {c : HostClass}

/-- A name that the gate lets through resolves to the type object of its class. -/
theorem resolveValue_of_ok (hm : m.Stocked) (h : m.realm.gate.resolve m.policy name = .ok c) :
    ∃ r m', resolveValue name m = .ok (.object r) m' ∧
      m'.realm.typeObjects.get? name = some r ∧ m'.heap.kind r = .hostType c := by
  obtain ⟨r, m', hok, he, hr⟩ := resolveType_of_ok h hm.gate
  have hm' : m'.Stocked := by
    have hstocked := follows_resolveType isHabit_stocked name m hm
    rwa [final_of_ok hok] at hstocked
  refine ⟨r, m', bind_of_ok hok, hr, ?_⟩
  obtain ⟨d, hd, hk⟩ := hm'.class_eq hr
  obtain ⟨-, -, hf⟩ := Gate.resolve_eq_ok_iff.1 h
  rw [hm.gate.find?_eq_catalog, ← he.gate.catalog, hd] at hf
  cases hf
  exact hk

end Exec

end ScriptSandbox
