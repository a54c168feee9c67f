import ScriptSandbox.Proofs.Key
import ScriptSandbox.Proofs.Machine.Builtin
import ScriptSandbox.Proofs.Machine.TypeObject
import ScriptSandbox.Proofs.Permission
import ScriptSandbox.Proofs.Respect.Basic
import ScriptSandbox.Proofs.Uniform.Basic

/-! # Ways to a host type

A host type can be had by its name, member by member from the package at the root, and by its short
name where its package is imported first. Unless something above it gets in the way, all of these
come down to resolving its name.
-/

namespace ScriptSandbox

namespace Machine

/-- A registered name with a dot and without an index. Nothing above it is a type, or barred. -/
structure Exposes (m : Machine) (name : String) : Prop where
  check : TypeName.check name = .ok ()
  dotted : '.' ∈ name.toList
  registered : m.realm.gate.catalog.contains name
  noIndex : ∀ s ∈ TypeName.parts name, ∀ i, Key.ofString s ≠ .index i
  above : ∀ path rest, name = path ++ "." ++ rest →
    ¬m.realm.gate.catalog.contains path ∧ ¬m.policy.bars path

end Machine

/-- A way to the host type of a name. -/
inductive Route where
  /-- By its name. -/
  | name
  /-- By the function that scripts call with the name. -/
  | function (this : Value) (rest : List Value)
  /-- Member by member from a package. -/
  | members (root : Ref)
  /-- As a free name. -/
  | free

namespace Exec

/-- Reads members in turn. -/
def getPath (v : Value) : List String → Exec Value
  | [] => return v
  | s :: rest => do getPath (← getMember v (.ofString s)) rest

/-- Computations one after the other, whether they fail or not. -/
def runAll {α : Type} : List (Exec α) → Machine → List (Except Failure α) × Machine
  | [], m => ([], m)
  | x :: xs, m =>
    let (outcomes, m') := runAll xs (x.final m)
    (x.outcome m :: outcomes, m')

end Exec

namespace Route

open Exec Machine

def find (n : String) : Route → Exec Value
  | name => return .object (← resolveType n)
  | function this rest => runBuiltin .hostType this (.string n :: rest)
  | members root => getPath (.object root) (TypeName.parts n)
  | free => getGlobal (TypeName.short n)

/-- Whether a way leads to the host type: the package is the one at the root, or the package of the
type is imported first and no global property has its short name. -/
def IsOpen (m : Machine) (n : String) : Route → Prop
  | name | function _ _ => True
  | members root => m.heap.kind root = .hostPackage ""
  | free => m.realm.imports.head? = some (TypeName.package n) ∧
    m.heap.find? m.realm.intrinsics.global (.ofString (TypeName.short n)) = none

end Route

namespace Exec

open Machine

variable {m : Machine} {name path s : String}

/-- Resolving a name for a value. -/
def resolveValue (name : String) : Exec Value := return .object (← resolveType name)

theorem ne_empty_of_isMemberName (hs : isMemberName s) : s ≠ "" := by
  simp only [isMemberName, decide_eq_true_eq] at hs
  exact TypeName.ne_empty_of_isValid hs.1

theorem createPackage_spec (path : String) (m : Machine) :
    ∃ r h, createPackage path m = .ok r (m.withHeap h) ∧ m.heap.Extends h ∧
      h.kind r = .hostPackage path :=
  ⟨_, _, rfl, .alloc _ _, congrArg Cell.kind (m.heap.cell_alloc_self _)⟩

/-- The last member on the way to a type. -/
theorem packageMember_of_isRegistered (hs : isMemberName s) (hn : TypeName.member path s = name)
    (hcheck : TypeName.check name = .ok ()) (hr : m.realm.gate.isRegistered name) :
    packageMember path (.name s) m = resolveValue name m := by
  subst hn
  simp only [packageMember, hs, if_true]
  rw [bind_of_ok (get_apply m)]
  by_cases hp : m.policy.allows (TypeName.member path s)
  · have hallowed : m.policy.check (TypeName.member path s) = .allowed := by
      simpa [Policy.allows] using hp
    have hne : Decision.allowed ≠ .denied .byDefault := by decide
    obtain ⟨c, hc⟩ := Option.isSome_iff_exists.1 hr
    rw [hallowed, if_neg hne, Gate.resolve_of_allowed hcheck hp, hc]
    rfl
  · have hdenied := Gate.resolve_of_denied (g := m.realm.gate) hcheck hp
    by_cases hd : m.policy.check (TypeName.member path s) = .denied .byDefault
    · rw [if_pos hd, if_pos hr]
      exact (bind_of_error (resolveType_of_error hdenied)).symm
    · rw [if_neg hd, hdenied]
      rfl

/-- A member above all types is a package. -/
theorem packageMember_of_not_isRegistered (hs : isMemberName s)
    (hcheck : TypeName.check (TypeName.member path s) = .ok ())
    (hr : ¬m.realm.gate.isRegistered (TypeName.member path s))
    (hp : ¬m.policy.bars (TypeName.member path s)) :
    ∃ r h, packageMember path (.name s) m = .ok (.object r) (m.withHeap h) ∧ m.heap.Extends h ∧
      h.kind r = .hostPackage (TypeName.member path s) := by
  obtain ⟨r, h, hc, he, hk⟩ := createPackage_spec (TypeName.member path s) m
  refine ⟨r, h, ?_, he, hk⟩
  simp only [packageMember, hs, if_true]
  rw [bind_of_ok (get_apply m)]
  by_cases hd : m.policy.check (TypeName.member path s) = .denied .byDefault
  · rw [if_pos hd, if_neg hr]
    exact bind_of_ok hc
  · have hnone : m.realm.gate.find? (TypeName.member path s) = none := by
      simpa [Gate.isRegistered] using hr
    rw [if_neg hd, Gate.resolve_of_allowed hcheck (Policy.allows_of_not_bars hp hd), hnone]
    exact bind_of_ok hc

theorem getMember_of_package {root : Ref} (hroot : m.heap.kind root = .hostPackage path)
    (k : Key) : getMember (.object root) k m = packageMember path k m := by
  have hof : getMember (.object root) k = getOf root k := rfl
  rw [hof, getOf, bind_of_ok (look_apply _ m), hroot]
  rfl

/-- Going down from a package that is above all types, to a type. -/
theorem getPath_spec {parts : List String} (hne : parts ≠ []) {root : Ref} {m : Machine}
    (hroot : m.heap.kind root = .hostPackage path)
    (hparts : ∀ s ∈ parts, isMemberName s ∧ ∀ i, Key.ofString s ≠ .index i)
    (hn : parts.foldl TypeName.member path = name) (hcheck : TypeName.check name = .ok ())
    (hr : m.realm.gate.isRegistered name)
    (habove : ∀ q rest, name = q ++ "." ++ rest →
      ¬m.realm.gate.isRegistered q ∧ ¬m.policy.bars q) :
    ∃ h, m.heap.Extends h ∧
      getPath (.object root) parts m = resolveValue name (m.withHeap h) := by
  induction parts generalizing path root m with
  | nil => exact absurd rfl hne
  | cons s rest ih =>
    obtain ⟨hs, hindex⟩ := hparts s List.mem_cons_self
    have hget : getMember (.object root) (.ofString s) m = packageMember path (.name s) m := by
      rw [Key.ofString_eq_name hindex, getMember_of_package hroot]
    by_cases hlast : rest = []
    · subst hlast
      have hpure : getPath (.object root) [s] = getMember (.object root) (.ofString s) := by
        simp [getPath]
      rw [hpure, hget]
      exact ⟨m.heap, .refl _, packageMember_of_isRegistered hs hn hcheck hr⟩
    · have hrest : ∀ t ∈ rest, isMemberName t ∧ ∀ i, Key.ofString t ≠ .index i :=
        fun t ht => hparts t (List.mem_cons_of_mem _ ht)
      have hmember := TypeName.member_ne_empty (ne_empty_of_isMemberName hs) path
      have hsplit : name = TypeName.member path s ++ "." ++ ".".intercalate rest := by
        rw [← hn, List.foldl_cons, TypeName.foldl_member hlast
          (fun t ht => ne_empty_of_isMemberName (hrest t ht).1), TypeName.member_of_ne_empty hmember]
      have hvalid : TypeName.isValid (TypeName.member path s) := by
        have h := TypeName.check_eq_ok_iff.1 hcheck
        rw [hsplit, TypeName.isValid_append_dot, Bool.and_eq_true] at h
        exact h.1
      obtain ⟨hr', hp'⟩ := habove _ _ hsplit
      obtain ⟨r, h₁, hok, he₁, hk₁⟩ :=
        packageMember_of_not_isRegistered hs (TypeName.check_eq_ok_iff.2 hvalid) hr' hp'
      obtain ⟨h₂, he₂, heq⟩ := ih hlast (m := m.withHeap h₁) hk₁ hrest hn hr habove
      exact ⟨h₂, he₁.trans he₂, (bind_of_ok (hget.trans hok)).trans heq⟩

/-- A free name whose first candidate is registered. -/
theorem getGlobal_spec (hdot : '.' ∈ name.toList) (hcheck : TypeName.check name = .ok ())
    (hr : m.realm.gate.isRegistered name)
    (himports : m.realm.imports.head? = some (TypeName.package name))
    (hfree : m.heap.find? m.realm.intrinsics.global (.ofString (TypeName.short name)) = none) :
    getGlobal (TypeName.short name) m = resolveValue name m := by
  obtain ⟨rest, hrest⟩ : ∃ rest, m.realm.imports = TypeName.package name :: rest :=
    ⟨_, (List.cons_head?_tail himports).symm⟩
  have hrealm : realm m = .ok m.realm m := rfl
  unfold getGlobal
  rw [bind_of_ok (intrinsics_apply m), bind_of_ok (look_apply _ m), hfree]
  change (realm >>= fun r => findImported (TypeName.short name) r.imports) m = _
  rw [bind_of_ok hrealm, hrest, findImported, bind_of_ok (get_apply m),
    TypeName.package_append_short hdot]
  by_cases hp : m.policy.allows name
  · obtain ⟨c, hc⟩ := Option.isSome_iff_exists.1 hr
    rw [Gate.resolve_of_allowed hcheck hp, hc]
    rfl
  · have hdenied := Gate.resolve_of_denied (g := m.realm.gate) hcheck hp
    rw [hdenied]
    exact (bind_of_error (resolveType_of_error hdenied)).symm

end Exec

/-! ### All ways -/

open Exec

namespace Machine

variable {m m' : Machine} {name : String}

theorem Exposes.isRegistered (h : m.Exposes name) (hg : m.realm.gate.Sound) :
    m.realm.gate.isRegistered name := by
  rw [Gate.isRegistered, hg.find?_eq_catalog]
  exact h.registered

/-- Whether a name is exposed follows from the catalog and the policy. -/
theorem Exposes.extends (h : m.Exposes name) (he : m.Extends m') : m'.Exposes name := by
  have hcatalog := he.gate.catalog
  have hpolicy := he.policy
  refine ⟨h.check, h.dotted, ?_, h.noIndex, ?_⟩
  · rw [hcatalog]
    exact h.registered
  · rw [hcatalog, hpolicy]
    exact h.above

end Machine

namespace Route

open Machine

variable {m m' : Machine} {name : String} {route : Route}

/-- A way to an exposed name makes packages at most, and then resolves the name. -/
theorem find_eq (he : m.Exposes name) (hg : m.realm.gate.Sound) (ho : route.IsOpen m name) :
    ∃ h, m.heap.Extends h ∧ route.find name m = resolveValue name (m.withHeap h) := by
  have hr := he.isRegistered hg
  cases route with
  | name => exact ⟨m.heap, .refl _, rfl⟩
  | function this rest => exact ⟨m.heap, .refl _, rfl⟩
  | members root =>
    have hvalid := TypeName.check_eq_ok_iff.1 he.check
    refine getPath_spec (TypeName.parts_ne_nil name) ho (fun s hs => ⟨?_, he.noIndex s hs⟩)
      (TypeName.foldl_member_parts hvalid) he.check hr fun q rest hq => ?_
    · have hs := TypeName.isValid_of_mem_parts hvalid hs
      simpa [isMemberName] using hs
    · obtain ⟨hq, hp⟩ := he.above q rest hq
      rw [Gate.isRegistered, hg.find?_eq_catalog]
      exact ⟨hq, hp⟩
  | free => exact ⟨m.heap, .refl _, getGlobal_spec he.dotted he.check hr ho.1 ho.2⟩

/-- Where the policy does not allow the name, every way is refused for the name. -/
theorem find_of_denied (he : m.Exposes name) (hg : m.realm.gate.Sound)
    (ho : route.IsOpen m name) (hp : ¬m.policy.allows name) :
    ∃ m', route.find name m = .error (.accessDenied name) m' ∧ m.Extends m' := by
  obtain ⟨h, hh, heq⟩ := find_eq he hg ho
  have hm : m.Extends (m.withHeap h) := .of_realm_eq hh rfl rfl
  have hdenied : (m.withHeap h).realm.gate.resolve (m.withHeap h).policy name =
      .error (.accessDenied name) := Gate.resolve_of_denied he.check hp
  exact ⟨_, heq.trans (bind_of_error (resolveType_of_error hdenied)), hm⟩

/-- Where the policy allows it, every way gives the type object that is kept from then on. -/
theorem find_of_allowed (he : m.Exposes name) (hg : m.realm.gate.Sound)
    (ho : route.IsOpen m name) (hp : m.policy.allows name) :
    ∃ r m', route.find name m = .ok (.object r) m' ∧ m.Extends m' ∧
      m'.realm.typeObjects.get? name = some r := by
  obtain ⟨h, hh, heq⟩ := find_eq he hg ho
  have hm : m.Extends (m.withHeap h) := .of_realm_eq hh rfl rfl
  obtain ⟨c, hc⟩ := Option.isSome_iff_exists.1 (he.isRegistered hg)
  have hok : (m.withHeap h).realm.gate.resolve (m.withHeap h).policy name = .ok c :=
    Gate.resolve_eq_ok_iff.2 ⟨he.check, of_decide_eq_true hp, hc⟩
  obtain ⟨r, m', hres, he', hr⟩ := resolveType_of_ok hok hg
  exact ⟨r, m', heq.trans (bind_of_ok hres), hm.trans he', hr⟩

theorem traced_getPath (v : Value) (parts : List String) : (getPath v parts).Traced := by
  induction parts generalizing v with
  | nil => exact (still_pure _).traced
  | cons s rest ih => exact (traced_getMember _ _).bind ih

theorem fitted_find (route : Route) (name : String) : (route.find name).Fitted := by
  cases route with
  | name => exact ((traced_resolveType _).bind_pure _).fitted
  | function this rest => exact fitted_runBuiltin .hostType this (.string name :: rest)
  | members root => exact (traced_getPath (.object root) (TypeName.parts name)).fitted
  | free => exact (traced_getGlobal (TypeName.short name)).fitted

/-- A way stays open while objects are added. -/
theorem IsOpen.extends (ho : route.IsOpen m name) (hm : m.WellFormed) (he : m.Extends m') :
    route.IsOpen m' name := by
  cases route with
  | name | function _ _ => trivial
  | members root =>
    have hkind : m.heap.kind root ≠ .ordinary := fun h => nomatch ho.symm.trans h
    exact (he.heap.kind_eq hkind).trans ho
  | free =>
    obtain ⟨himports, hfree⟩ := ho
    refine ⟨?_, ?_⟩
    · rw [he.imports, himports]
    · rw [he.intrinsics, he.heap.find?_eq hm.heap.acyclic hm.heap.grounded
        hm.realm.intrinsics.global, hfree]

/-- Once the type object of a name is there, all ways give it. -/
theorem runAll_of_kept {m₀ : Machine} {routes : List Route} {r : Ref} (hm : m₀.WellFormed)
    (he : m₀.Exposes name) (ho : ∀ route ∈ routes, route.IsOpen m₀ name)
    (hp : m₀.policy.allows name) (hext : m₀.Extends m) (hg : m.realm.gate.Sound)
    (hr : m.realm.typeObjects.get? name = some r) :
    (∀ o ∈ (runAll (routes.map (find name)) m).1, o = .ok (.object r)) ∧
      m.Extends (runAll (routes.map (find name)) m).2 := by
  induction routes generalizing m with
  | nil => exact ⟨nofun, .refl m⟩
  | cons route rest ih =>
    have hopen := (ho route List.mem_cons_self).extends hm hext
    obtain ⟨s, m', hfind, hext', hs⟩ :=
      find_of_allowed (he.extends hext) hg hopen (hext.policy ▸ hp)
    have hsr : s = r := Option.some.inj (hs.symm.trans (hext'.typeObjects hr))
    subst hsr
    have hg' := (Path.gate (fitted_find route name m) hg).1
    rw [final_of_ok hfind] at hg'
    obtain ⟨hall, hend⟩ := ih (fun q hq => ho q (List.mem_cons_of_mem _ hq)) (hext.trans hext')
      hg' hs
    rw [List.map_cons, runAll, outcome, final_of_ok hfind, hfind]
    refine ⟨fun o hmem => ?_, hext'.trans hend⟩
    rcases List.mem_cons.1 hmem with rfl | hmem
    · rfl
    · exact hall o hmem

/-- Where the policy does not allow a name, all ways are refused. -/
theorem runAll_of_denied {m₀ : Machine} {routes : List Route} (hm : m₀.WellFormed)
    (he : m₀.Exposes name) (ho : ∀ route ∈ routes, route.IsOpen m₀ name)
    (hp : ¬m₀.policy.allows name) (hext : m₀.Extends m) (hg : m.realm.gate.Sound) :
    ∀ o ∈ (runAll (routes.map (find name)) m).1, o = .error (.accessDenied name) := by
  induction routes generalizing m with
  | nil => exact nofun
  | cons route rest ih =>
    have hopen := (ho route List.mem_cons_self).extends hm hext
    obtain ⟨m', hfind, hext'⟩ := find_of_denied (he.extends hext) hg hopen (hext.policy ▸ hp)
    have hfinal : (route.find name).final m = m' := by rw [final, hfind]
    have hg' := (Path.gate (fitted_find route name m) hg).1
    rw [hfinal] at hg'
    rw [List.map_cons, runAll, outcome, hfinal, hfind]
    intro o hmem
    rcases List.mem_cons.1 hmem with rfl | hmem
    · rfl
    · exact ih (fun q hq => ho q (List.mem_cons_of_mem _ hq)) (hext.trans hext') hg' o hmem

/-- The ways that are open, gone one after the other in any order, all give the same type object
where the policy allows the name, and are all refused for the name where it does not. -/
theorem runAll_agree (hm : m.WellFormed) (hg : m.realm.gate.Sound) (ht : m.Typed)
    (he : m.Exposes name) {routes : List Route} (hne : routes ≠ [])
    (ho : ∀ route ∈ routes, route.IsOpen m name) :
    (m.policy.allows name → ∃ r c,
      (∀ o ∈ (runAll (routes.map (find name)) m).1, o = .ok (.object r)) ∧
      (runAll (routes.map (find name)) m).2.heap.kind r = .hostType c ∧ c.name = name) ∧
    (¬m.policy.allows name →
      ∀ o ∈ (runAll (routes.map (find name)) m).1, o = .error (.accessDenied name)) := by
  refine ⟨fun hp => ?_, fun hp => runAll_of_denied hm he ho hp (.refl m) hg⟩
  cases routes with
  | nil => exact absurd rfl hne
  | cons first rest =>
    obtain ⟨r, m₁, hfind, hext, hr⟩ := find_of_allowed he hg (ho first List.mem_cons_self) hp
    have hpath := first.fitted_find name m
    rw [final_of_ok hfind] at hpath
    obtain ⟨c, hc, hname⟩ := Path.typed hpath ht name r hr
    obtain ⟨hall, hend⟩ := runAll_of_kept hm he (fun q hq => ho q (List.mem_cons_of_mem _ hq)) hp
      hext (Path.gate hpath hg).1 hr
    rw [List.map_cons, runAll, outcome, final_of_ok hfind, hfind]
    refine ⟨r, c, fun o hmem => ?_, ?_, hname⟩
    · rcases List.mem_cons.1 hmem with rfl | hmem
      · rfl
      · exact hall o hmem
    · have hkind : m₁.heap.kind r ≠ .ordinary := by simp [hc]
      rw [hend.heap.kind_eq hkind, hc]

end Route

end ScriptSandbox
