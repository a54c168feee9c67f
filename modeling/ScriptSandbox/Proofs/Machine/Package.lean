import ScriptSandbox.Proofs.Machine.FreeName
import ScriptSandbox.Proofs.Machine.Sparing

/-! # Members of packages

What a package has under a key follows from its path, the classes of the realm and the policy, and
from nothing that was read or written before. Under the name of a segment it has a type, or the
package with the path of that name, unless the name is refused. It has nothing under other keys.
-/

namespace ScriptSandbox

namespace Machine

/-- What reading a member of the package of a path comes to. -/
inductive Yields (m : Machine) (path : String) :
    Key → EStateM.Result Failure Machine Value → Prop
  | index (i : ArrayIndex) : Yields m path (.index i) (.ok .undefined m)
  | unnamed {s : String} (hs : ¬Exec.isMemberName s) : Yields m path (.name s) (.ok .undefined m)
  | refused {s : String} (hs : Exec.isMemberName s)
      (hp : ¬m.policy.allows (TypeName.member path s))
      (hc : m.policy.bars (TypeName.member path s) ∨
        m.realm.gate.catalog.contains (TypeName.member path s)) :
      Yields m path (.name s) (.error (.accessDenied (TypeName.member path s)) m)
  | type {s : String} {r : Ref} {c : HostClass} {m' : Machine} (hs : Exec.isMemberName s)
      (hp : m.policy.allows (TypeName.member path s))
      (hc : m.realm.gate.catalog.contains (TypeName.member path s)) (he : m.Extends m')
      (hk : m'.heap.kind r = .hostType c) (hn : c.name = TypeName.member path s)
      (hr : m'.realm.typeObjects.get? (TypeName.member path s) = some r) :
      Yields m path (.name s) (.ok (.object r) m')
  | package {s : String} {r : Ref} {m' : Machine} (hs : Exec.isMemberName s)
      (hp : ¬m.policy.bars (TypeName.member path s))
      (hc : ¬m.realm.gate.catalog.contains (TypeName.member path s)) (he : m.Extends m')
      (hk : m'.heap.kind r = .hostPackage (TypeName.member path s)) :
      Yields m path (.name s) (.ok (.object r) m')

end Machine

namespace Exec

open Machine

variable {m : Machine} {path s : String} {r : Ref} {k : Key}

/-- A segment in a package that is the one at the root or has a valid path. -/
theorem isValid_member (hpath : path = "" ∨ TypeName.isValid path) (hs : isMemberName s) :
    TypeName.isValid (TypeName.member path s) := by
  simp only [isMemberName, decide_eq_true_eq] at hs
  unfold TypeName.member
  split_ifs with hp
  · exact hs.1
  · rw [TypeName.isValid_append_dot, hpath.resolve_left hp, hs.1, Bool.and_self]

/-- A name that the policy refuses for what it is. -/
theorem packageMember_of_bars (hs : isMemberName s)
    (hcheck : TypeName.check (TypeName.member path s) = .ok ())
    (hp : m.policy.bars (TypeName.member path s)) :
    packageMember path (.name s) m = .error (.accessDenied (TypeName.member path s)) m := by
  have hallows : ¬m.policy.allows (TypeName.member path s) := by
    rw [Policy.allows_eq_false_of_bars hp]
    simp
  have hdenied := Gate.resolve_of_denied (g := m.realm.gate) hcheck hallows
  simp only [packageMember, hs, if_true]
  rw [bind_of_ok (get_apply m), if_neg (Policy.check_ne_byDefault_of_bars hp), hdenied]
  exact bind_of_error (resolveType_of_error hdenied)

theorem packageMember_yields (hm : m.Stocked) (hpath : path = "" ∨ TypeName.isValid path) (k : Key) :
    m.Yields path k (packageMember path k m) := by
  cases k with
  | index i => exact .index i
  | name s =>
    by_cases hs : isMemberName s
    · have hcheck := TypeName.check_eq_ok_iff.2 (isValid_member hpath hs)
      have hregistered : m.realm.gate.isRegistered (TypeName.member path s) =
          m.realm.gate.catalog.contains (TypeName.member path s) := by
        rw [Gate.isRegistered, hm.gate.find?_eq_catalog]
        rfl
      by_cases hr : m.realm.gate.isRegistered (TypeName.member path s)
      · rw [packageMember_of_isRegistered hs rfl hcheck hr]
        by_cases hp : m.policy.allows (TypeName.member path s)
        · obtain ⟨c, hc⟩ := Option.isSome_iff_exists.1 hr
          have hres : m.realm.gate.resolve m.policy (TypeName.member path s) = .ok c :=
            Gate.resolve_eq_ok_iff.2 ⟨hcheck, of_decide_eq_true hp, hc⟩
          obtain ⟨r, m', hok, hkept, hk⟩ := resolveValue_of_ok hm hres
          have he := extends_resolveValue hm.gate (TypeName.member path s)
          rw [final_of_ok hok] at he
          rw [hok]
          exact .type hs hp (hregistered ▸ hr) he hk (hm.gate.name_eq hres) hkept
        · have hdenied := Gate.resolve_of_denied (g := m.realm.gate) hcheck hp
          have herror : resolveValue (TypeName.member path s) m =
              .error (.accessDenied (TypeName.member path s)) m :=
            bind_of_error (resolveType_of_error hdenied)
          rw [herror]
          exact .refused hs hp (Or.inr (hregistered ▸ hr))
      · by_cases hp : m.policy.bars (TypeName.member path s)
        · rw [packageMember_of_bars hs hcheck hp]
          refine .refused hs ?_ (Or.inl hp)
          rw [Policy.allows_eq_false_of_bars hp]
          simp
        · obtain ⟨r, h, hok, he, hk⟩ := packageMember_of_not_isRegistered hs hcheck hr hp
          rw [hok]
          exact .package hs hp (hregistered ▸ hr) (.of_realm_eq he rfl rfl) hk
    · have hnone : packageMember path (.name s) m = .ok .undefined m := by
        simp only [packageMember, hs]
        rfl
      rw [hnone]
      exact .unnamed hs

/-- Reading a member of a package adds objects at most. -/
theorem extends_of_yields {x : Exec Value} (h : m.Yields path k (x m)) :
    m.Extends (x.final m) := by
  rw [final]
  generalize x m = result at h
  cases h with
  | index i => exact .refl m
  | unnamed hs => exact .refl m
  | refused hs hp hc => exact .refl m
  | type hs hp hc he hk hn hr => exact he
  | package hs hp hc he hk => exact he

/-- Writing to a package is rejected, and changes nothing. -/
theorem setMember_of_package (hr : m.heap.kind r = .hostPackage path) (k : Key) (v : Value) :
    (setMember (.object r) k v).final m = m := by
  unfold setMember
  rw [final_bind_of_ok (writeMode_apply m)]
  dsimp only
  rw [final_bind_of_ok (look_apply _ m), hr]
  exact still_ofExcept _ m

/-! ### The packages of a realm -/

section Install

variable {realm : Realm} {base : Nat} {name : String} {own : Intrinsics}

/-- The package of a path is global under a name. -/
structure BindsPackage (own : Intrinsics) (h : Heap) (name path : String) (r : Ref) : Prop where
  kind : h.kind r = .hostPackage path
  global : h.own? own.global (.ofString name) = some (.hidden (.object r))

theorem bindsPackage_furnish {h : Heap} (hg : own.global.id < h.size)
    (hk : h.kind r = .hostPackage path) (name : String) :
    BindsPackage own (h.furnish own.global (.ofString name) (.hidden (.object r))) name path r where
  kind := (Heap.kind_furnish _ _ _ _ _).trans hk
  global := Heap.own?_furnish hg

theorem kind_final_of_package {x : Exec Unit} (hx : Installs realm.intrinsics base x)
    (hm : m.realm = realm) (ho : realm.intrinsics.AreNew base m.heap)
    (hk : m.heap.kind r = .hostPackage path) : (x.final m).heap.kind r = .hostPackage path :=
  (Path.kind_eq (hx.furnishes_final (congrArg _ hm) ho).path
    (Heap.ref_lt_of_kind_ne hk nofun)).trans hk

theorem BindsPackage.final {x : Exec Unit} (hb : BindsPackage realm.intrinsics m.heap name path r)
    (hx : Installs realm.intrinsics base x)
    (hs : x.Spares realm realm.intrinsics.global (.ofString name)) (hm : m.realm = realm)
    (ho : realm.intrinsics.AreNew base m.heap) :
    BindsPackage realm.intrinsics (x.final m).heap name path r := by
  obtain ⟨-, -, -, hown⟩ := hs m hm (Heap.lt_size_of_own? hb.global)
  exact ⟨kind_final_of_package hx hm ho hb.kind, hown.trans hb.global⟩

theorem exists_createPackage (hb : base ≤ m.heap.size) (path : String) :
    ∃ r m', createPackage path m = .ok r m' ∧ m.Furnishes base m' ∧
      m'.heap.kind r = .hostPackage path := by
  obtain ⟨r, h, hok, -, hk⟩ := createPackage_spec path m
  obtain ⟨_, m', hok', hf, -⟩ := furnishes_createPackage hb path
  rw [hok] at hok'
  cases hok'
  exact ⟨r, _, hok, hf, hk⟩

theorem modifyCell_apply (s : Ref) (k : Key) (p : Property) (m : Machine) :
    modifyCell s (·.withProperty k p) m = .ok () (m.withHeap (m.heap.furnish s k p)) := rfl

/-- Each root has its package, the last of several with one name. -/
theorem exists_bindsPackage_installRoots (roots : List String) (hm : m.realm = realm)
    (ho : realm.intrinsics.AreNew base m.heap) : ∀ root ∈ roots, ∃ r,
      BindsPackage realm.intrinsics ((installRoots roots).final m).heap root root r := by
  induction roots generalizing m with
  | nil => nofun
  | cons first rest ih =>
    obtain ⟨r, m₁, hok, hf, hk⟩ := exists_createPackage ho.global.base_le first
    have ho₁ := hf.areNew ho
    have hb := bindsPackage_furnish ho₁.global.lt hk first
    have hf' := hf.trans (.put ho₁.global (.ofString first) (.hidden (.object r)))
    have hfinal : (installRoots (first :: rest)).final m = (installRoots rest).final (m₁.withHeap
        (m₁.heap.furnish realm.intrinsics.global (.ofString first) (.hidden (.object r)))) := by
      rw [installRoots, final_bind_of_ok hok, final_bind_of_ok (intrinsics_apply _), hf.realm, hm,
        final_bind_of_ok (modifyCell_apply _ _ _ _)]
    rw [hfinal]
    intro root hroot
    by_cases hrest : root ∈ rest
    · exact ih (hf'.realm.trans hm) (hf'.areNew ho) root hrest
    · obtain rfl : root = first := (List.mem_cons.1 hroot).resolve_right hrest
      refine ⟨r, hb.final (installs_installRoots rest) (spares_installRoots rest (Or.inr ?_))
        (hf'.realm.trans hm) (hf'.areNew ho)⟩
      intro root' hroot' he
      rw [Key.ofString_injective he] at hroot'
      exact hrest hroot'

/-- The functions that are made global behind the packages. -/
def importers : List (String × Builtin × Nat) :=
  [("importPackage", .importPackage, 1), ("importClass", .importClass, 1)]

/-- The package at the root is global before those of the roots are made. -/
theorem exists_final_installInterop (hm : m.realm = realm)
    (ho : realm.intrinsics.AreNew base m.heap) :
    ∃ r m', installInterop.final m = (registerAll realm.intrinsics.global importers).final
        ((installRoots realm.settings.packageRoots).final m') ∧ m.Furnishes base m' ∧
      BindsPackage realm.intrinsics m'.heap "Packages" "" r := by
  obtain ⟨access, m₁, h₁, hf₁, haccess⟩ := furnishes_createObject (m := m) ho.global.base_le
  obtain ⟨_, m₂, h₂, hf₂, -⟩ := furnishes_registerAll
    [("type", .hostType, 1), ("isType", .isHostType, 1), ("typeName", .hostTypeName, 1)] haccess
  obtain ⟨r, m₃, h₃, hf₃, hk⟩ :=
    exists_createPackage ((hf₁.trans hf₂).areNew ho).global.base_le ""
  have hf := hf₁.trans (hf₂.trans hf₃)
  have hjava := hf.trans (.put (hf.areNew ho).global (.name "Java") (.hidden (.object access)))
  have hboth := hjava.trans
    (.put (hjava.areNew ho).global (.name "Packages") (.hidden (.object r)))
  have hkind := (Heap.kind_furnish m₃.heap realm.intrinsics.global (.name "Java")
    (.hidden (.object access)) r).trans hk
  have hb := bindsPackage_furnish (hjava.areNew ho).global.lt hkind "Packages"
  have hpackages : Key.ofString "Packages" = .name "Packages" := by decide +kernel
  rw [hpackages] at hb
  refine ⟨r, _, ?_, hboth, hb⟩
  have hrealm : ∀ m : Machine, Exec.realm m = .ok m.realm m := fun _ => rfl
  have hsettings : m₃.realm.settings = realm.settings :=
    congrArg Realm.settings (hf.realm.trans hm)
  rw [installInterop, final_bind_of_ok (intrinsics_apply m), hm, final_bind_of_ok h₁,
    final_bind_of_ok h₂, final_bind_of_ok h₃, final_bind_of_ok (modifyCell_apply _ _ _ _),
    final_bind_of_ok (modifyCell_apply _ _ _ _), final_bind_of_ok (hrealm _), ← hsettings]
  exact (installs_installRoots _).final_bind
    (congrArg Realm.intrinsics (hboth.realm.trans hm)) (hboth.areNew ho)

/-- A realm has its packages, which are global unless something came in their place. -/
structure HasPackages (own : Intrinsics) (roots : List String) (h : Heap) (packages : Ref)
    (named : String → Ref) : Prop where
  kind : h.kind packages = .hostPackage ""
  kind_named : ∀ root ∈ roots, h.kind (named root) = .hostPackage root
  global : "Packages" ∉ roots →
    h.own? own.global (.ofString "Packages") = some (.hidden (.object packages))
  global_named : ∀ root ∈ roots, root ∉ importers.map Prod.fst →
    h.own? own.global (.ofString root) = some (.hidden (.object (named root)))

theorem exists_hasPackages_installInterop (hm : m.realm = realm)
    (ho : realm.intrinsics.AreNew base m.heap) :
    ∃ packages named, HasPackages realm.intrinsics realm.settings.packageRoots
      (installInterop.final m).heap packages named := by
  obtain ⟨packages, m₁, hfinal, hf₁, hb⟩ := exists_final_installInterop hm ho
  have hr₁ := hf₁.realm.trans hm
  have ho₁ := hf₁.areNew ho
  have hroots := exists_bindsPackage_installRoots realm.settings.packageRoots hr₁ ho₁
  choose! named hnamed using hroots
  have hpackages := kind_final_of_package
    (installs_installRoots realm.settings.packageRoots) hr₁ ho₁ hb.kind
  have hglobal : "Packages" ∉ realm.settings.packageRoots → BindsPackage realm.intrinsics
      ((installRoots realm.settings.packageRoots).final m₁).heap "Packages" "" packages := by
    intro hn
    refine hb.final (installs_installRoots _) (spares_installRoots _ (Or.inr ?_)) hr₁ ho₁
    intro root hroot he
    rw [Key.ofString_injective he] at hroot
    exact hn hroot
  have hf₂ := (installs_installRoots realm.settings.packageRoots).furnishes_final
    (congrArg _ hr₁) ho₁
  have hr₂ := hf₂.realm.trans hr₁
  have ho₂ := hf₂.areNew ho₁
  generalize (installRoots realm.settings.packageRoots).final m₁ = m₂ at *
  -- the functions that come last take the place of packages of their names
  have himporters : ∀ {name path r}, BindsPackage realm.intrinsics m₂.heap name path r →
      name ∉ importers.map Prod.fst →
        (installInterop.final m).heap.own? realm.intrinsics.global (.ofString name) =
          some (.hidden (.object r)) := by
    intro name path r hb hn
    rw [hfinal]
    refine (hb.final (installs_registerAll (·.global) _) (spares_registerAll _ (Or.inr ?_))
      hr₂ ho₂).global
    intro e he hkey
    rw [← Key.ofString_injective hkey] at hn
    exact hn (List.mem_map_of_mem he)
  refine ⟨packages, named, ?_, fun root hroot => ?_, fun hn => ?_, fun root hroot hn => ?_⟩
  · rw [hfinal]
    exact kind_final_of_package (installs_registerAll (·.global) _) hr₂ ho₂ hpackages
  · rw [hfinal]
    exact kind_final_of_package (installs_registerAll (·.global) _) hr₂ ho₂ (hnamed root hroot).kind
  · exact himporters (hglobal hn) (by decide)
  · exact himporters (hnamed root hroot) hn

theorem exists_hasPackages_install (hm : m.realm = realm)
    (ho : realm.intrinsics.AreNew base m.heap) :
    ∃ packages named, HasPackages realm.intrinsics realm.settings.packageRoots
      (install.final m).heap packages named := by
  obtain ⟨m₁, hf₁, hfinal⟩ := exists_final_install (congrArg Realm.intrinsics hm) ho
  have hr₁ := hf₁.realm.trans hm
  have ho₁ := hf₁.areNew ho
  have hf₂ := installs_installBoxes.furnishes_final (congrArg _ hr₁) ho₁
  have hr₂ := hf₂.realm.trans hr₁
  have hf₃ := installs_installErrors.furnishes_final (congrArg _ hr₂) (hf₂.areNew ho₁)
  rw [hfinal]
  exact exists_hasPackages_installInterop (hf₃.realm.trans hr₂) (hf₃.areNew (hf₂.areNew ho₁))

end Install

end Exec

end ScriptSandbox
