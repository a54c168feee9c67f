import ScriptSandbox.Proofs.Machine.Constructor
import ScriptSandbox.Proofs.Machine.Failure
import ScriptSandbox.Proofs.World.Run

/-! # Errors of a world

Whatever becomes of the globals, the constructors and the prototypes of errors, a failure that is
caught is an instance of the constructor that its kind had when the realm was made, and tells of
itself what the failure is.
-/

namespace ScriptSandbox

namespace Exec

open Machine

variable {m : Machine} {f : Failure} {g : Callable} {ctor target : Ref} {p : Property}

/-- While a constructor has the prototype of a kind of errors, a failure of that kind is caught as
an instance of it. -/
theorem exists_caught_instance (hf : f.IsOwn) (hc : m.heap.kind ctor = .function g)
    (hp : m.heap.own? ctor (.name "prototype") = some p)
    (ht : m.realm.intrinsics.errorPrototype f.kind = target) (hv : p.value = .object target) :
    ∃ r m', caught f m = .ok (.object r) m' ∧
      instanceOf (.object r) (.object ctor) m' = .ok true m' ∧
      m'.heap.Reports f (m.heap.message f) r := by
  have hcaught := caught_apply m hf
  generalize hcell : f.cell (m.realm.intrinsics.errorPrototype f.kind) (m.heap.message f) = c
    at hcaught
  generalize hm : m.withHeap (m.heap.alloc c).2 = m' at hcaught
  have hnew : m'.heap.cell ⟨m.heap.size⟩ = c := hm ▸ m.heap.cell_alloc_self c
  have hold : m'.heap.cell ctor = m.heap.cell ctor :=
    hm ▸ Heap.cell_alloc_of_lt (Heap.lt_size_of_own? hp) c
  have hreports : m'.heap.Reports f (m.heap.message f) ⟨m.heap.size⟩ :=
    Heap.reports_of_cell (hnew.trans hcell.symm)
  have hprototype : m'.heap.prototype ⟨m.heap.size⟩ = some target := by
    rw [Heap.prototype, hnew, ← hcell, Failure.prototype_cell, ht]
  refine ⟨_, m', hcaught, ?_, hreports⟩
  exact instanceOf_of_prototype ((congrArg Cell.kind hold).trans hc)
    ((congrArg (·.properties.get? (.name "prototype")) hold).trans hp) hv
    (Heap.lt_size_of_own? hreports.name) hprototype

end Exec

namespace World

open Machine

variable {w : World} {i place : Nat} {own : Intrinsics} {before : List Event} {long : Set Ref}
  {m m₁ : Machine}

/-- The realm has these intrinsics. -/
def HasIntrinsics (w : World) (i : Nat) (own : Intrinsics) : Prop :=
  ∃ realm place, w.realms[i]? = some (realm, place) ∧ realm.intrinsics = own

theorem HasIntrinsics.apply (h : w.HasIntrinsics i own) (e : Event) :
    (w.apply e).HasIntrinsics i own := by
  obtain ⟨realm, place, hr, hown⟩ := h
  obtain ⟨long, base, m, m', hp, rfl, hr'⟩ := exists_realm_apply hr e
  exact ⟨m'.realm, place, hr', (Path.intrinsics_eq hp).trans hown⟩

theorem HasIntrinsics.append (h : (after before).HasIntrinsics i own) (rest : List Event) :
    (after (before ++ rest)).HasIntrinsics i own :=
  append_induction (P := (·.HasIntrinsics i own)) (fun _ e hw => hw.apply e) h rest

/-- What the intrinsics of a realm come to is read off the realms. -/
theorem HasIntrinsics.map_eq {α : Type} (h : w.HasIntrinsics i own) (f : Intrinsics → α) :
    (w.realms[i]?).map (fun e => f e.1.intrinsics) = some (f own) := by
  obtain ⟨realm, place, hr, rfl⟩ := h
  rw [hr, Option.map_some]

/-- The realm keeps its intrinsics until any moment of its later operations. -/
theorem HasIntrinsics.eq_of_path (h : (after before).HasIntrinsics i own) {rest : List Event}
    (hm : (after (before ++ rest)).machine? i = some (m, place))
    (hp : Path long m.heap.size m m₁) : m₁.realm.intrinsics = own := by
  obtain ⟨realm, _, hr, hown⟩ := h.append rest
  obtain ⟨-, hr', -⟩ := machine?_eq_some_iff.1 hm
  rw [hr', Option.some.injEq, Prod.mk.injEq] at hr
  rw [Path.intrinsics_eq hp, hr.1, hown]

/-- What an object is evolves until any moment of a later operation. -/
theorem evolves_of_path {r : Ref} (hlt : r.id < (after before).heap.size) {rest : List Event}
    (hm : (after (before ++ rest)).machine? i = some (m, place))
    (hp : Path long m.heap.size m m₁) :
    ((after before).heap.cell r).Evolves (m₁.heap.cell r) := by
  obtain ⟨hheap, -, -⟩ := machine?_eq_some_iff.1 hm
  have hlt' := hlt.trans_le (size_le_after before rest)
  have hs := sound_after (before ++ rest) r
  have he := evolves_after hlt rest
  rw [← hheap] at he hlt' hs
  exact he.trans (Path.evolves hp hs hlt' (Nat.le_refl _))

/-- A new realm is furnished through intrinsics that are new and apart from each other. -/
theorem exists_install_addRealm (hp : place < w.policies.size) (settings : Settings)
    (classes : List HostClass) {w' : World} (hw : w' = w.apply (.addRealm settings classes place)) :
    ∃ (m : Machine) (base : Nat), m.realm.settings = settings ∧
      m.realm.intrinsics.AreNew base m.heap ∧ m.realm.intrinsics.AreApart ∧
      w'.HasIntrinsics w.realms.size m.realm.intrinsics ∧
      w'.heap = (Exec.install.final m).heap := by
  generalize hm : w.newMachine settings (.ofList classes) place = m
  have hown : m.realm.intrinsics = (Intrinsics.allocate m.heap).1 := by rw [← hm, newMachine]
  have hsettings : m.realm.settings = settings := by rw [← hm, newMachine]
  rw [World.apply, addRealm_of_some (Array.getElem?_eq_getElem hp) hm] at hw
  generalize hm' : m.withHeap (Intrinsics.allocate m.heap).2 = m' at hw
  generalize hinstalled : (Exec.install.final m').heap = h at hw
  have hrealm : m'.realm = m.realm := by rw [← hm', withHeap]
  have hheap : m'.heap = (Intrinsics.allocate m.heap).2 := by rw [← hm', withHeap]
  refine ⟨m', m.heap.size, ?_, ?_, ?_, ?_, ?_⟩
  · rw [hrealm, hsettings]
  · rw [hrealm, hown, hheap]
    exact Intrinsics.areNew_allocate m.heap
  · rw [hrealm, hown]
    exact Intrinsics.areApart_allocate m.heap
  · rw [hw, hrealm]
    exact ⟨m.realm, place, Array.getElem?_push_size, rfl⟩
  · rw [hw, hinstalled]

/-- A new realm has a constructor for each kind of errors. -/
theorem exists_hasConstructor_addRealm (hp : place < w.policies.size) (settings : Settings)
    (classes : List HostClass) {w' : World} (hw : w' = w.apply (.addRealm settings classes place)) :
    ∃ own, ∃ ctor : ErrorKind → Ref, w'.HasIntrinsics w.realms.size own ∧
      ∀ kind, w'.heap.HasConstructor own kind (ctor kind) ∧
        (kind.name ∉ settings.packageRoots → w'.heap.HasGlobal own kind (ctor kind)) := by
  obtain ⟨m, base, rfl, hnew, hapart, hown, hheap⟩ := exists_install_addRealm hp settings classes hw
  have hall := Exec.exists_hasConstructor_install rfl hnew hapart
  rw [← hheap] at hall
  choose ctor hctor using hall
  exact ⟨m.realm.intrinsics, ctor, hown, hctor⟩

/-- A realm that is made has a constructor for each kind of errors, global unless a package root has
its name. From then on, at any moment of any operation of the realm and whatever scripts have done,
a failure that is caught becomes an object that is an instance of the constructor of its kind, and
that has the name, the message and the host type of the failure for its own. -/
theorem errors_after {place : Nat} (hp : place < (after before).policies.size)
    (settings : Settings) (classes : List HostClass) {made : List Event}
    (hmade : made = before ++ [.addRealm settings classes place]) :
    ∃ own, ∃ ctor : ErrorKind → Ref, (after made).HasIntrinsics (after before).realms.size own ∧
      (∀ kind, (after made).heap.HasConstructor own kind (ctor kind) ∧
        (kind.name ∉ settings.packageRoots → (after made).heap.HasGlobal own kind (ctor kind))) ∧
      (∀ later m place' long m₁ f, (after (made ++ later)).machine? (after before).realms.size =
          some (m, place') → Path long m.heap.size m m₁ → f.IsOwn →
        ∃ r m₂, Exec.caught f m₁ = .ok (.object r) m₂ ∧
          Exec.instanceOf (.object r) (.object (ctor f.kind)) m₂ = .ok true m₂ ∧
          m₂.heap.Reports f (m₁.heap.message f) r) ∧
      ∀ f : Failure, (f.isWriteRejection → f.kind = .typeError) ∧
        (f.isAccessDenied → f.kind = .securityError) ∧
        (f.isNotFound → f.kind = .classNotFoundError) := by
  have hafter : after made = (after before).apply (.addRealm settings classes place) := by
    rw [hmade, after_concat]
  obtain ⟨own, ctor, hown, hctor⟩ := exists_hasConstructor_addRealm hp settings classes hafter
  refine ⟨own, ctor, hown, hctor, fun later m place' long m₁ f hm hpath hf => ?_, fun f => ?_⟩
  · have hc := (hctor f.kind).1
    -- What the constructor has been from the start it is until the failure is caught.
    obtain ⟨hfunction, hprototype⟩ :=
      hc.constructs.of_evolves (evolves_of_path (Heap.lt_size_of_own? hc.prototype) hm hpath)
    refine Exec.exists_caught_instance hf hfunction hprototype ?_ rfl
    rw [hown.eq_of_path hm hpath]
  · refine ⟨fun h => ?_, fun h => ?_, fun h => ?_⟩ <;> cases f <;> first | rfl | cases h

section Sample

/-- The prototype and the constructor of security errors in the first realm of a world. -/
def securityPrototype : Ref := ⟨11⟩

def securityConstructor : Ref := ⟨44⟩

def founding : List Event := [.addPolicy {}, .addRealm {} [] 0]

/-- Attempts to keep failures from being told by their constructors. -/
def tampering : List Event := [
  .perform 0 (.setGlobal "TypeError" .null),
  .perform 0 (.delete (.object ⟨1⟩) (.name "SecurityError")),
  .perform 0 (.remove securityPrototype (.name "constructor") .silent),
  .perform 0 (.assign securityConstructor (.name "prototype") .null .silent),
  .perform 0 (.define securityConstructor (.name "prototype") { value := some .undefined }),
  .perform 0 (.remove securityConstructor (.name "prototype") .silent),
  .perform 0 (.relink securityPrototype none),
  .perform 0 (.relink securityConstructor none),
  .perform 0 (.raise securityPrototype .frozen)]

theorem errors_after_tampering :
    (∃ own, (after founding).heap.HasConstructor own .securityError securityConstructor ∧
      (after founding).heap.HasGlobal own .securityError securityConstructor) ∧
    (after (founding ++ tampering)).heap.find? ⟨1⟩ (.name "SecurityError") = none ∧
    (after (founding ++ tampering)).heap.own? securityPrototype (.name "constructor") = none ∧
    ∃ m place r m', (after (founding ++ tampering)).machine? 0 = some (m, place) ∧
      Exec.caught (.accessDenied "java.lang.System") m = .ok (.object r) m' ∧
      Exec.instanceOf (.object r) (.object securityConstructor) m' = .ok true m' ∧
      m'.heap.own? r (.name "typeName") = some (.hidden (.string "java.lang.System")) := by
  have hplace : 0 < (after [.addPolicy {}]).policies.size := by decide
  obtain ⟨own, ctor, hown, hctor, hcaught, -⟩ := errors_after hplace {} [] (rfl : founding = _)
  have hsecurity : ctor .securityError = securityConstructor := by
    obtain ⟨realm, place, hr, rfl⟩ := hown
    have hproperty : ((after founding).realms[0]?).map (fun e => (after founding).heap.own?
        (e.1.intrinsics.errorPrototype .securityError) (.name "constructor")) =
          some (some (.hidden (.object securityConstructor))) := by decide +kernel
    have hfirst : (after [.addPolicy {}]).realms.size = 0 := rfl
    rw [hfirst] at hr
    rw [hr, Option.map_some, (hctor .securityError).1.constructor] at hproperty
    simpa [Property.hidden] using hproperty
  obtain ⟨⟨m, place⟩, hm⟩ : ∃ e, (after (founding ++ tampering)).machine? 0 = some e :=
    Option.isSome_iff_exists.1 (by decide +kernel)
  obtain ⟨r, m', hok, hinstance, hreports⟩ :=
    hcaught tampering m place ∅ m (.accessDenied "java.lang.System") hm .refl trivial
  rw [Failure.kind, hsecurity] at hinstance
  have hboth := hctor .securityError
  rw [hsecurity] at hboth
  exact ⟨⟨own, hboth.1, hboth.2 (by decide +kernel)⟩, by decide +kernel, by decide +kernel,
    m, place, r, m', hm, hok, hinstance, hreports.typeName⟩

end Sample

end World

end ScriptSandbox
