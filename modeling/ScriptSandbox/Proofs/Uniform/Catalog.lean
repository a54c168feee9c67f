import ScriptSandbox.Proofs.Machine.HostType
import ScriptSandbox.Proofs.Permission
import ScriptSandbox.Proofs.Uniform.Builtin

/-! # Hidden host types

A name that a rule denies, or that stays sensitive, is refused before anyone looks it up. So realms
whose catalogs differ at such names alone do not come apart, neither in what they resolve nor in
what they remember. A name that only the default denies is looked up, to tell packages from types.
-/

namespace ScriptSandbox

namespace Gate

variable {g : Gate} {p : Policy} {c : Catalog} {name : String}

/-- The gate over another catalog, with what it remembers. -/
def withCatalog (g : Gate) (c : Catalog) : Gate := { g with catalog := c }

theorem find?_withCatalog (h : c.get? name = g.catalog.get? name) :
    (g.withCatalog c).find? name = g.find? name := by
  rw [find?_eq, find?_eq, ← h]
  rfl

/-- The policy has its say before the catalog is asked. -/
theorem resolve_withCatalog (h : c.get? name ≠ g.catalog.get? name → p.bars name) :
    (g.withCatalog c).resolve p name = g.resolve p name := by
  by_cases hc : c.get? name = g.catalog.get? name
  · rw [resolve, resolve, find?_withCatalog hc]
  · rw [resolve, resolve, Policy.allows_eq_false_of_bars (h hc)]
    rfl

/-- Where only the default denies a name, the catalogs agree. -/
theorem isRegistered_withCatalog (h : c.get? name ≠ g.catalog.get? name → p.bars name)
    (hp : p.check name = .denied .byDefault) :
    (g.withCatalog c).isRegistered name = g.isRegistered name := by
  by_cases hc : c.get? name = g.catalog.get? name
  · rw [isRegistered, isRegistered, find?_withCatalog hc]
  · exact absurd hp (Policy.check_ne_byDefault_of_bars (h hc))

theorem remember_withCatalog (g : Gate) (c : Catalog) (cls : HostClass) :
    (g.withCatalog c).remember cls = (g.remember cls).withCatalog c := by
  unfold remember withCatalog
  split <;> rfl

end Gate

def Realm.withCatalog (r : Realm) (c : Catalog) : Realm := { r with gate := r.gate.withCatalog c }

namespace Machine

def withCatalog (m : Machine) (c : Catalog) : Machine := { m with realm := m.realm.withCatalog c }

/-- A catalog differs from that of the realm only at names that the policy bars. -/
def Hides (m : Machine) (c : Catalog) : Prop :=
  ∀ name, c.get? name ≠ m.realm.gate.catalog.get? name → m.policy.bars name

variable {m : Machine} {c : Catalog}

theorem Hides.resolve (h : m.Hides c) (name : String) :
    (m.withCatalog c).realm.gate.resolve (m.withCatalog c).policy name =
      m.realm.gate.resolve m.policy name :=
  Gate.resolve_withCatalog (h name)

theorem Hides.isRegistered (h : m.Hides c) {name : String}
    (hp : m.policy.check name = .denied .byDefault) :
    (m.withCatalog c).realm.gate.isRegistered name = m.realm.gate.isRegistered name :=
  Gate.isRegistered_withCatalog (h name) hp

/-- The second machine is the first one over another catalog, of which it shows nothing. -/
def Veils (c : Catalog) (m m' : Machine) : Prop := m.Hides c ∧ m' = m.withCatalog c

theorem isFrame_veils : IsFrame (Veils c) where
  heap := by
    rintro m _ ⟨-, rfl⟩
    rfl
  intrinsics := by
    rintro m _ ⟨-, rfl⟩
    rfl
  withHeap := by
    rintro m _ ⟨hm, rfl⟩ h
    exact ⟨hm, rfl⟩

end Machine

namespace Exec

open Machine

variable {c : Catalog}

/-- A change of the realm that has nothing to do with the catalog. -/
theorem uniform_modifyRealm {f : Realm → Realm} (hc : ∀ r, (f r).gate.catalog = r.gate.catalog)
    (hf : ∀ r, f (r.withCatalog c) = (f r).withCatalog c) : (modifyRealm f).Uniform (Veils c) := by
  rintro m _ ⟨hm, rfl⟩
  refine .ok () ⟨fun name h => hm name ?_, ?_⟩
  · rwa [← hc m.realm]
  · exact congrArg (fun r => { m with realm := r }) (hf m.realm)

theorem uniform_writeMode : writeMode.Uniform (Veils c) :=
  uniform_read fun h => by
    obtain ⟨-, rfl⟩ := h
    rfl

theorem uniform_resolveClass (name : String) : (resolveClass name).Uniform (Veils c) := by
  rintro m _ ⟨hm, rfl⟩
  have hresolve := hm.resolve name
  cases h : m.realm.gate.resolve m.policy name with
  | error f =>
    rw [resolveClass_of_error h, resolveClass_of_error (hresolve.trans h)]
    exact .error f ⟨hm, rfl⟩
  | ok cls =>
    rw [resolveClass_of_ok h, resolveClass_of_ok (hresolve.trans h)]
    refine .ok cls ⟨fun name h => hm name ?_, ?_⟩
    · rwa [← Gate.catalog_remember m.realm.gate cls]
    · exact congrArg m.withGate (Gate.remember_withCatalog _ c cls)

/-- Going on by what the realm has besides its catalog. -/
theorem uniform_bind_rest {α : Type} {f : Realm → Exec α} (hc : ∀ r, f (r.withCatalog c) = f r)
    (hf : ∀ r, (f r).Uniform (Veils c)) : (realm >>= f).Uniform (Veils c) := by
  rintro m _ ⟨hm, rfl⟩
  have h : Alike (Veils c) (f m.realm m) (f (m.realm.withCatalog c) (m.withCatalog c)) := by
    rw [hc]
    exact hf m.realm _ _ ⟨hm, rfl⟩
  exact h

theorem uniform_typeObject (cls : HostClass) : (typeObject cls).Uniform (Veils c) := by
  refine uniform_bind_rest (fun _ => rfl) fun realm => ?_
  split
  · exact uniform_pure _
  · refine (uniform_createTypeObject isFrame_veils cls).bind fun r => ?_
    refine (uniform_modifyRealm ?_ ?_).bind_pure _
    · exact fun _ => rfl
    · exact fun _ => rfl

theorem uniform_resolveType (name : String) : (resolveType name).Uniform (Veils c) :=
  (uniform_resolveClass name).bind uniform_typeObject

/-- Going on by the gate and the policy, in a way on which they agree. -/
theorem uniform_bind_get {α : Type} {f : Machine → Exec α}
    (hf : ∀ m, m.Hides c → f (m.withCatalog c) = f m ∧ (f m).Uniform (Veils c)) :
    (get >>= f).Uniform (Veils c) := by
  rintro m _ ⟨hm, rfl⟩
  have h : Alike (Veils c) (f m m) (f (m.withCatalog c) (m.withCatalog c)) := by
    rw [(hf m hm).1]
    exact (hf m hm).2 _ _ ⟨hm, rfl⟩
  exact h

theorem uniform_packageMember (path : String) (k : Key) :
    (packageMember path k).Uniform (Veils c) := by
  have hpackage : ∀ q, (do return .object (← createPackage q) : Exec Value).Uniform (Veils c) :=
    fun q => (uniform_createPackage isFrame_veils q).bind_pure _
  cases k with
  | index i => exact uniform_pure _
  | name member =>
    simp only [packageMember]
    split
    · refine uniform_bind_get fun m hm => ⟨?_, ?_⟩
      · have hresolve := hm.resolve (TypeName.member path member)
        by_cases hd : m.policy.check (TypeName.member path member) = .denied .byDefault
        · simp only [hm.isRegistered hd, hresolve]
          rfl
        · have hd' : (m.withCatalog c).policy.check (TypeName.member path member) ≠
              .denied .byDefault := hd
          rw [if_neg hd, if_neg hd', hresolve]
      · split
        · split
          · exact (uniform_throw _).bind fun _ => hpackage _
          · exact hpackage _
        · split
          · exact hpackage _
          · exact (uniform_resolveType _).bind_pure _
    · exact uniform_pure _

/-! ### Members and free names -/

theorem uniform_getOf (r : Ref) (k : Key) : (getOf r k).Uniform (Veils c) := by
  refine (uniform_look isFrame_veils _).bind fun kind => ?_
  split
  · exact uniform_packageMember _ k
  · exact uniform_look isFrame_veils _

theorem uniform_getMember (target : Value) (k : Key) : (getMember target k).Uniform (Veils c) := by
  unfold getMember
  split
  · exact uniform_failType _
  · exact uniform_failType _
  · exact uniform_getOf _ k
  · exact (uniform_box isFrame_veils _).bind fun r => uniform_look isFrame_veils _

theorem uniform_setMember (target : Value) (k : Key) (v : Value) :
    (setMember target k v).Uniform (Veils c) := by
  refine uniform_writeMode.bind fun mode => ?_
  split
  · exact uniform_failType _
  · exact uniform_failType _
  · refine (uniform_look isFrame_veils _).bind fun kind => ?_
    split
    · exact uniform_ofExcept _
    · exact uniform_change isFrame_veils _
  · exact uniform_ofExcept _

theorem uniform_deleteMember (target : Value) (k : Key) :
    (deleteMember target k).Uniform (Veils c) := by
  unfold deleteMember
  split
  · exact uniform_failType _
  · refine (uniform_box isFrame_veils target).bind fun r => uniform_writeMode.bind fun mode => ?_
    exact uniform_change isFrame_veils _

theorem uniform_setGlobal (name : String) (v : Value) : (setGlobal name v).Uniform (Veils c) :=
  uniform_writeMode.bind fun _ => (uniform_intrinsics isFrame_veils).bind fun _ =>
    uniform_change isFrame_veils _

theorem uniform_findImported (name : String) (packages : List String) :
    (findImported name packages).Uniform (Veils c) := by
  induction packages with
  | nil => exact uniform_throw _
  | cons package rest ih =>
    refine uniform_bind_get fun m hm => ⟨?_, ?_⟩
    · rw [hm.resolve]
    · split
      · split
        · exact ih
        · exact uniform_throw _
      · exact (uniform_resolveType _).bind_pure _

theorem uniform_getGlobal (name : String) : (getGlobal name).Uniform (Veils c) := by
  refine (uniform_intrinsics isFrame_veils).bind fun own => ?_
  refine (uniform_look isFrame_veils _).bind fun p => ?_
  split
  · exact uniform_pure _
  · exact uniform_bind_rest (fun _ => rfl) fun realm => uniform_findImported name realm.imports

theorem uniform_importPackage (name : String) : (importPackage name).Uniform (Veils c) := by
  refine (uniform_ofExcept _).bind fun _ => uniform_modifyRealm (fun r => ?_) fun r => ?_
  · split <;> rfl
  · by_cases h : name ∈ r.imports
    · rw [if_pos h]
      exact if_pos h
    · rw [if_neg h]
      exact if_neg h

theorem uniform_importClass (v : Value) : (importClass v).Uniform (Veils c) := by
  refine (uniform_hostTypeOf? isFrame_veils v).bind fun cls => ?_
  split
  · exact uniform_failText isFrame_veils v _
  · exact (uniform_setGlobal _ v).discard

/-! ### Functions for host types -/

namespace Interop

theorem uniform_hostType (args : List Value) : (hostType args).Uniform (Veils c) := by
  unfold hostType
  split
  · exact (uniform_resolveType _).bind_pure _
  · exact uniform_failText isFrame_veils _ _

theorem uniform_importPackages (args : List Value) : (importPackages args).Uniform (Veils c) := by
  induction args with
  | nil => exact uniform_pure _
  | cons v vs ih =>
    refine (uniform_look isFrame_veils _).bind fun path => ?_
    split
    · exact (uniform_importPackage _).bind fun _ => ih
    · exact (uniform_text isFrame_veils v).bind fun _ => (uniform_failType _).bind fun _ => ih

theorem uniform_importClasses (args : List Value) : (importClasses args).Uniform (Veils c) := by
  induction args with
  | nil => exact uniform_pure _
  | cons v vs ih => exact (uniform_importClass v).bind fun _ => ih

end Interop

end Exec

end ScriptSandbox
