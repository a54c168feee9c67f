import ScriptSandbox.Proofs.World.FreeNames
import ScriptSandbox.Proofs.World.Keys
import ScriptSandbox.Proofs.World.Routes

/-! # Methods on objects that are there

A method comes onto an object without a check, so it may be found on an object that is closed to all
operations. What names and keys rest on stays all the same: the heap is well-formed, objects keep
their kinds, and realms, policies and the type objects that are kept are as they were. Among
registrations too, the ways to a host type agree, no two own keys are written alike, and free names
are answered by what is bound, imported, allowed and registered.
-/

namespace ScriptSandbox

/-- What happens to a world whose embedding also puts methods on objects. -/
inductive Incident where
  | event (e : Event)
  /-- A method comes onto an object, in the realm at a place. -/
  | register (i : Nat) (r : Ref) (method : Callable)

theorem Exec.exists_final_registerMethod (m : Machine) (r : Ref) (f : Callable) :
    ∃ h, (registerMethod r f.name f.routine f.arity).final m = m.withHeap h ∧
      m.heap.size ≤ h.size ∧ ∀ s : Ref, s.id < m.heap.size → h.kind s = m.heap.kind s := by
  generalize hh : (m.heap.alloc (f.cell m.realm.intrinsics.functionPrototype)).2 = h
  refine ⟨_, final_of_ok (registerMethod_apply m r f hh), ?_, fun s hs => ?_⟩
  · rw [Heap.size_put, ← hh, Heap.size_alloc]
    exact Nat.le_succ _
  · generalize hd : (h.cell r).withProperty (.ofString f.name) (.hidden (.object ⟨m.heap.size⟩)) = d
    have hkind : d.kind = (h.cell r).kind := hd ▸ rfl
    have hput := Heap.cell_put_rel (R := fun c d => d.kind = c.kind) (fun _ => rfl) hkind s
    rw [Heap.kind, hput, ← hh, Heap.cell_alloc_of_lt hs]
    rfl

namespace World

open Machine

variable {w : World} {i place : Nat} {m m₁ : Machine} {r : Ref} {f : Callable} {e : Event}
  {incidents : List Incident}

def register (w : World) (i : Nat) (r : Ref) (f : Callable) : World :=
  match w.run i (Exec.registerMethod r f.name f.routine f.arity) with
  | some (_, w) => w
  | none => w

def undergo (w : World) : Incident → World
  | .event e => w.apply e
  | .register i r f => w.register i r f

/-- The world after a course of incidents that starts with nothing. -/
def course (incidents : List Incident) : World := incidents.foldl undergo {}

theorem register_of_some (h : w.machine? i = some (m, place)) (r : Ref) (f : Callable) :
    w.register i r f =
      w.store i place ((Exec.registerMethod r f.name f.routine f.arity).final m) := by
  obtain ⟨result, hr⟩ := run_of_some h (Exec.registerMethod r f.name f.routine f.arity)
  rw [register, hr]

theorem register_of_none (h : w.machine? i = none) (r : Ref) (f : Callable) :
    w.register i r f = w := by
  rw [register, run_of_none h]

/-- A registration changes the heap alone, in which objects keep their kinds. -/
theorem exists_register_eq (w : World) (i : Nat) (r : Ref) (f : Callable) :
    ∃ h, w.register i r f = { w with heap := h } ∧ w.heap.size ≤ h.size ∧
      ∀ s : Ref, s.id < w.heap.size → h.kind s = w.heap.kind s := by
  cases hm : w.machine? i with
  | none => exact ⟨w.heap, register_of_none hm r f, Nat.le_refl _, fun _ _ => rfl⟩
  | some found =>
    obtain ⟨m, place⟩ := found
    obtain ⟨hheap, -, -⟩ := machine?_eq_some_iff.1 hm
    obtain ⟨h, hfinal, hle, hkind⟩ := Exec.exists_final_registerMethod m r f
    rw [hheap] at hle hkind
    refine ⟨h, ?_, hle, hkind⟩
    rw [register_of_some hm, hfinal]
    exact store_of_eq hm rfl rfl

/-! ### What incidents keep -/

/-- What names and keys rest on. -/
structure Steady (w : World) : Prop where
  wellFormed : w.WellFormed
  gated : w.Gated
  typed : w.Typed
  stocked : w.Stocked
  orderly : w.Orderly

theorem Steady.apply (hw : w.Steady) (he : e.Below w.heap.size) : (w.apply e).Steady :=
  ⟨hw.wellFormed.apply he, Gated.apply hw.gated e, Typed.apply hw.typed e,
    Stocked.apply hw.stocked e, Orderly.apply hw.orderly e⟩

theorem Steady.register (hw : w.Steady) (i : Nat) (r : Ref) (f : Callable) :
    (w.register i r f).Steady where
  wellFormed := by
    cases hm : w.machine? i with
    | none =>
      rw [register_of_none hm]
      exact hw.wellFormed
    | some found =>
      rw [register_of_some hm]
      exact hw.wellFormed.store hm (Exec.respects_registerMethod r _ _ _)
  gated := by
    obtain ⟨h, heq, -, -⟩ := w.exists_register_eq i r f
    rw [heq]
    exact hw.gated
  typed := by
    obtain ⟨h, heq, -, hkind⟩ := w.exists_register_eq i r f
    rw [heq]
    intro i realm place hr name s hs
    obtain ⟨c, hc, hname⟩ := hw.typed hr name s hs
    exact ⟨c, (hkind s (Heap.lt_size_of_hostType hc)).trans hc, hname⟩
  stocked := by
    obtain ⟨h, heq, -, hkind⟩ := w.exists_register_eq i r f
    rw [heq]
    intro i realm place hr policy
    exact (hw.stocked hr policy).of_eq (hw.stocked hr policy).gate rfl hkind rfl
  orderly := by
    obtain ⟨h, heq, -, -⟩ := w.exists_register_eq i r f
    rw [heq]
    exact hw.orderly

/-- Every operation of a course is given objects that are there at its moment, and canonical keys.
Registrations may be given anything. -/
def Bears : World → List Incident → Prop
  | _, [] => True
  | w, .event e :: rest => e.Below w.heap.size ∧ (w.apply e).Bears rest
  | w, .register i r f :: rest => (w.register i r f).Bears rest

instance decidableBears : ∀ (w : World) (incidents : List Incident), Decidable (w.Bears incidents)
  | _, [] => isTrue trivial
  | w, .event e :: rest =>
    have := decidableBears (w.apply e) rest
    inferInstanceAs (Decidable (e.Below w.heap.size ∧ (w.apply e).Bears rest))
  | w, .register i r f :: rest => decidableBears (w.register i r f) rest

theorem Steady.foldl (hw : w.Steady) (hb : w.Bears incidents) :
    (incidents.foldl undergo w).Steady := by
  induction incidents generalizing w with
  | nil => exact hw
  | cons incident rest ih =>
    cases incident with
    | event e => exact ih (hw.apply hb.1) hb.2
    | register i r f => exact ih (hw.register i r f) hb

theorem steady_empty : Steady {} where
  wellFormed := wellFormed_empty
  gated h := nomatch h
  typed h := nomatch h
  stocked h := nomatch h
  orderly h := nomatch h

theorem steady_course (hb : Bears {} incidents) : (course incidents).Steady := steady_empty.foldl hb

/-- A method comes onto a frozen object. -/
def arming : List Incident := [
  .event (.addPolicy {}), .event (.addRealm {} [] 0), .event (.perform 0 .createObject),
  .event (.perform 0 (.raise ⟨61⟩ .frozen)), .register 0 ⟨61⟩ ⟨"m", .callback .noop, 0⟩]

example : Bears {} arming ∧ ((course arming).heap.cell ⟨61⟩).level = .frozen ∧
    ((course arming).heap.own? ⟨61⟩ (.name "m")).isSome := by decide +kernel

/-- What is imported stays imported, in the same order. -/
theorem imports_prefix_foldl {realm realm' : Realm} {place' : Nat}
    (hr : w.realms[i]? = some (realm, place)) (incidents : List Incident)
    (hr' : (incidents.foldl undergo w).realms[i]? = some (realm', place')) :
    realm.imports <+: realm'.imports := by
  induction incidents generalizing w realm with
  | nil =>
    rw [List.foldl_nil, hr, Option.some.injEq, Prod.mk.injEq] at hr'
    exact hr'.1 ▸ List.prefix_refl _
  | cons incident rest ih =>
    cases incident with
    | event e =>
      obtain ⟨long, base, m, m', hpath, rfl, h⟩ := exists_realm_apply hr e
      exact (Path.imports_isPrefix hpath).trans (ih h hr')
    | register j r f =>
      obtain ⟨h, heq, -, -⟩ := w.exists_register_eq j r f
      refine ih ?_ hr'
      rw [undergo, heq]
      exact hr

/-! ### Names and keys -/

section Course

variable (hb : Bears {} incidents)

include hb

/-- The ways to a host type that are open have one outcome, whatever was registered where. -/
theorem routes_agree_course (hm : (course incidents).machine? i = some (m, place)) {name : String}
    (he : m.Exposes name) {routes : List Route} (hne : routes ≠ [])
    (ho : ∀ route ∈ routes, route.IsOpen m name) :
    (m.policy.allows name → ∃ r c,
      (∀ o ∈ (Exec.runAll (routes.map (Route.find name)) m).1, o = .ok (.object r)) ∧
      (Exec.runAll (routes.map (Route.find name)) m).2.heap.kind r = .hostType c ∧
      c.name = name) ∧
    (¬m.policy.allows name →
      ∀ o ∈ (Exec.runAll (routes.map (Route.find name)) m).1, o = .error (.accessDenied name)) :=
  have hs := steady_course hb
  Route.runAll_agree (hs.wellFormed.machine hm) (Gated.gate hs.gated hm)
    (Typed.machine hs.typed hm) he hne ho

/-- No object comes to have two own keys that are written alike. -/
theorem nodup_texts_course (r : Ref) :
    (((course incidents).heap.cell r).properties.ownKeys.map Key.text).Nodup :=
  (steady_course hb).wellFormed.heap.nodup_texts r

/-- A lookup of a free name answers as after operations alone, and changes no object. The imports of
a realm are valid, without repetition, and go on from what was imported before. -/
theorem getGlobal_course (hm : (course incidents).machine? i = some (m, place)) :
    (∀ (earlier : List String) (name : String) (m₁ : Machine),
      (Exec.runAll (earlier.map Exec.getGlobal) m).2 = m₁ →
      Answers m m₁ name ∧ m.Extends m₁ ∧ m₁.Extends ((Exec.getGlobal name).final m₁)) ∧
    m.realm.Orderly ∧
    ∀ before rest realm place', incidents = before ++ rest →
      (course before).realms[i]? = some (realm, place') → realm.imports <+: m.realm.imports := by
  have hs := steady_course hb
  obtain ⟨-, hr, -⟩ := machine?_eq_some_iff.1 hm
  refine ⟨fun earlier name m₁ => answers_of_lookups (hs.wellFormed.machine hm)
    (Stocked.machine hs.stocked hm) earlier name, hs.orderly hr, ?_⟩
  rintro before rest realm place' rfl hr'
  rw [course, List.foldl_append] at hr
  exact imports_prefix_foldl hr' rest hr

end Course

end World

end ScriptSandbox
