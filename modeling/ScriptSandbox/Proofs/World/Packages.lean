import ScriptSandbox.Proofs.Machine.Package
import ScriptSandbox.Proofs.World.Errors
import ScriptSandbox.Proofs.World.FreeNames
import ScriptSandbox.Proofs.World.Routes

/-! # Packages in a world

Scripts go from package to package, and the policy may change on the way. All packages on the way
have valid paths, and each goes on answering for its path alone, whatever is read from it or written
to it.
-/

namespace ScriptSandbox

namespace World

open Machine

variable {w : World} {place : Nat} {before made later : List Event} {starts : Ref → Prop} {r : Ref}
  {top : Ref} {path : String}

/-- Whatever the policy is, reads of the object come to what the path says, in every realm, and they
add objects at most. Writes to it make no difference to anything. -/
structure Serves (w : World) (r : Ref) (path : String) : Prop where
  kind : w.heap.kind r = .hostPackage path
  read : ∀ {i m place}, w.machine? i = some (m, place) → ∀ k,
    m.Yields path k (Exec.getMember (.object r) k m) ∧
      m.Extends ((Exec.getMember (.object r) k).final m)
  write : ∀ i k v, w.apply (.perform i (.set (.object r) k v)) = w

/-- Writing to a package leaves the world as it was. -/
theorem apply_set_of_package (hr : w.heap.kind r = .hostPackage path) (i : Nat) (k : Key)
    (v : Value) : w.apply (.perform i (.set (.object r) k v)) = w := by
  cases hm : w.machine? i with
  | none => exact perform_of_none hm _
  | some e =>
    obtain ⟨m, place⟩ := e
    obtain ⟨hheap, -, -⟩ := machine?_eq_some_iff.1 hm
    have hset : (Operation.set (.object r) k v).exec.final m = m := by
      rw [← hheap] at hr
      rw [Operation.exec, Exec.final_bind_still (fun _ _ => rfl),
        Exec.setMember_of_package hr]
    rw [apply, perform_of_some hm, hset, store_of_eq hm rfl rfl, hheap]

theorem serves_of_kind (hw : w.Stocked) (hpath : path = "" ∨ TypeName.isValid path)
    (hr : w.heap.kind r = .hostPackage path) : w.Serves r path where
  kind := hr
  read {i m place} hm k := by
    obtain ⟨hheap, -, -⟩ := machine?_eq_some_iff.1 hm
    rw [← hheap] at hr
    have hyields := Exec.packageMember_yields (hw.machine hm) hpath k
    rw [← Exec.getMember_of_package hr] at hyields
    exact ⟨hyields, Exec.extends_of_yields hyields⟩
  write := apply_set_of_package hr

theorem heap_apply_get {i : Nat} {m m' : Machine} {target v : Value} {k : Key}
    (hm : w.machine? i = some (m, place)) (hget : Exec.getMember target k m = .ok v m') :
    (w.apply (.perform i (.get target k))).heap = m'.heap := by
  rw [apply, perform_of_some hm, Operation.exec, Exec.final_bind_of_ok hget]
  rfl

/-- Packages that reads of members lead to, one from the other, in the course of a history. What
else happens in between may be anything. -/
inductive Reaches (made : List Event) (starts : Ref → Prop) : List Event → Ref → Prop
  | start {r : Ref} (h : starts r) : Reaches made starts [] r
  | wait {later : List Event} {r : Ref} (h : Reaches made starts later r) (e : Event) :
      Reaches made starts (later ++ [e]) r
  | read {later : List Event} {r s : Ref} {i place : Nat} {m m' : Machine} {k : Key}
      {path : String} (h : Reaches made starts later r)
      (hm : (after (made ++ later)).machine? i = some (m, place))
      (hget : Exec.getMember (.object r) k m = .ok (.object s) m')
      (hs : m'.heap.kind s = .hostPackage path) :
      Reaches made starts (later ++ [.perform i (.get (.object r) k)]) s

/-- A path is empty for the package at the root, and valid for all others. -/
def IsPathOf (top : Ref) (path : String) (r : Ref) : Prop :=
  path = "" ∧ r = top ∨ TypeName.isValid path

theorem IsPathOf.or (h : IsPathOf top path r) : path = "" ∨ TypeName.isValid path :=
  h.imp_left And.left

/-- One read leads from a package with a valid path to a package with a valid path. -/
theorem isPathOf_of_yields {m m' : Machine} {k : Key} {s : Ref} {path' : String}
    (hpath : IsPathOf top path r) (hyields : m.Yields path k (.ok (.object s) m'))
    (hs : m'.heap.kind s = .hostPackage path') : IsPathOf top path' s := by
  cases hyields with
  | type hname hp hc he hk hn hr =>
    rw [hk] at hs
    cases hs
  | package hname hp hc he hk =>
    rw [hk] at hs
    cases hs
    exact Or.inr (Exec.isValid_member hpath.or hname)

theorem Reaches.exists_isPathOf (h : Reaches made starts later r)
    (hstarts : ∀ r, starts r → ∃ path, (after made).heap.kind r = .hostPackage path ∧
      IsPathOf top path r) :
    ∃ path, (after (made ++ later)).heap.kind r = .hostPackage path ∧ IsPathOf top path r := by
  induction h with
  | start h =>
    rw [List.append_nil]
    exact hstarts _ h
  | wait h e ih =>
    obtain ⟨path, hkind, hpath⟩ := ih
    rw [← List.append_assoc, after_concat, kind_apply (Heap.ref_lt_of_kind_ne hkind nofun)]
    exact ⟨path, hkind, hpath⟩
  | @read _ _ _ _ _ _ _ k _ h hm hget hs ih =>
    obtain ⟨path, hkind, hpath⟩ := ih
    have hyields := ((serves_of_kind (stocked_after _) hpath.or hkind).read hm k).1
    rw [hget] at hyields
    refine ⟨_, ?_, isPathOf_of_yields hpath hyields hs⟩
    rw [← List.append_assoc, after_concat, heap_apply_get hm hget, hs]

/-- A realm whose package roots are valid has its packages from the start. Whatever packages reads
of members lead to from there, their paths are valid, and whatever happens to the world, what they
have under a key follows from their path. -/
theorem packages_after (hp : place < (after before).policies.size) {settings : Settings}
    (hroots : ∀ root ∈ settings.packageRoots, TypeName.check root = .ok ())
    (classes : List HostClass) {made : List Event}
    (hmade : made = before ++ [.addRealm settings classes place]) :
    ∃ own top, ∃ named : String → Ref,
      (after made).HasIntrinsics (after before).realms.size own ∧
      Exec.HasPackages own settings.packageRoots (after made).heap top named ∧
      ∀ later r, Reaches made (· ∈ top :: settings.packageRoots.map named) later r →
        ∃ path, IsPathOf top path r ∧
          ∀ rest, (after (made ++ later ++ rest)).Serves r path := by
  have hafter : after made = (after before).apply (.addRealm settings classes place) := by
    rw [hmade, after_concat]
  obtain ⟨m, base, rfl, hnew, -, hown, hheap⟩ := exists_install_addRealm hp settings classes hafter
  obtain ⟨top, named, hpackages⟩ := Exec.exists_hasPackages_install rfl hnew
  rw [← hheap] at hpackages
  refine ⟨m.realm.intrinsics, top, named, hown, hpackages, fun later r hr => ?_⟩
  have hstarts : ∀ r ∈ top :: m.realm.settings.packageRoots.map named, ∃ path,
      (after made).heap.kind r = .hostPackage path ∧ IsPathOf top path r := by
    intro r hr
    rcases List.mem_cons.1 hr with rfl | hr
    · exact ⟨"", hpackages.kind, Or.inl ⟨rfl, rfl⟩⟩
    · obtain ⟨root, hroot, rfl⟩ := List.mem_map.1 hr
      exact ⟨root, hpackages.kind_named root hroot,
        Or.inr (TypeName.check_eq_ok_iff.1 (hroots root hroot))⟩
  obtain ⟨path, hkind, hpath⟩ := hr.exists_isPathOf hstarts
  refine ⟨path, hpath, fun rest => serves_of_kind (stocked_after _) hpath.or ?_⟩
  exact append_induction (P := fun w => w.heap.kind r = .hostPackage path)
    (fun w e h => (kind_apply (Heap.ref_lt_of_kind_ne h nofun) e).trans h) hkind rest

section Sample

/-- A realm with a class that the policy, as all others, does not allow. -/
def denying : List Event := [.addPolicy .denyAll, .addRealm {} [dog] 0]

/-- A script goes from the package at the root to the one above the class. -/
def descending : Event := .perform 0 (.get (.object packages) (.name "app"))

theorem packages_after_denying : ∃ m place r m₁, (after denying).machine? 0 = some (m, place) ∧
    Exec.getMember (.object packages) (.name "app") m = .ok (.object r) m₁ ∧
    (after (denying ++ [descending] ++ [.updatePolicy 0 fun _ => {}])).Serves r "app" := by
  have hplace : 0 < (after [.addPolicy .denyAll]).policies.size := by decide
  have hroots : ∀ root ∈ ({} : Settings).packageRoots, TypeName.check root = .ok () := by
    decide +kernel
  obtain ⟨own, top, named, hown, hpackages, hreached⟩ :=
    packages_after hplace hroots [dog] (rfl : denying = _)
  have htop : top = packages := by
    have hglobal := (hown.map_eq fun own =>
      (after denying).heap.own? own.global (.ofString "Packages")).symm.trans
        (by decide +kernel : _ = some (some (.hidden (.object packages))))
    rw [hpackages.global (by decide +kernel)] at hglobal
    simpa [Property.hidden] using hglobal
  subst htop
  obtain ⟨⟨m, place⟩, hm⟩ : ∃ e, (after denying).machine? 0 = some e :=
    Option.isSome_iff_exists.1 (by decide +kernel)
  have hfacts : ((after denying).machine? 0).all fun e => ¬e.1.policy.bars "app" ∧
      ¬e.1.realm.gate.catalog.contains "app" := by decide +kernel
  rw [hm, Option.all_some, decide_eq_true_eq] at hfacts
  obtain ⟨hb, hc⟩ := hfacts
  have hstart : Reaches denying (· ∈ packages :: ({} : Settings).packageRoots.map named) []
      packages := .start List.mem_cons_self
  obtain ⟨path, -, hserves⟩ := hreached [] packages hstart
  obtain rfl : "" = path := by simpa [hpackages.kind] using (hserves []).kind
  -- the package is found although the policy does not allow what has its name
  obtain ⟨r, m₁, hget, hkind⟩ : ∃ r m₁, Exec.getMember (.object packages) (.name "app") m =
      .ok (.object r) m₁ ∧ m₁.heap.kind r = .hostPackage "app" := by
    have hread := ((hserves []).read hm (.name "app")).1
    generalize Exec.getMember (.object packages) (.name "app") m = result at hread ⊢
    cases hread with
    | unnamed hs => exact absurd (by decide +kernel) hs
    | refused hs hp hc' => exact absurd hc' (not_or.2 ⟨hb, hc⟩)
    | type hs hp hc' => exact absurd hc' hc
    | package hs hp hc' he hk => exact ⟨_, _, rfl, hk⟩
  obtain ⟨path, -, hserves'⟩ := hreached _ r (hstart.read hm hget hkind)
  obtain rfl : "app" = path := by
    have h := (hserves' []).kind
    rw [List.append_nil, List.nil_append, after_concat, heap_apply_get hm hget, hkind] at h
    exact Kind.hostPackage.inj h
  exact ⟨m, place, r, m₁, hm, hget, hserves' _⟩

end Sample

end World

end ScriptSandbox
