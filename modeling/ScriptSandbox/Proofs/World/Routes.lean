import ScriptSandbox.Proofs.Machine.Route
import ScriptSandbox.Proofs.World.HostTypes
import ScriptSandbox.Proofs.World.WellFormed

/-! # Host types by any way

Whatever came before, all ways to the host type of an exposed name end alike: with its one type
object if the policy allows the name, and refused for the name if not.
-/

namespace ScriptSandbox

namespace World

open Machine

variable {w : World} {i place : Nat} {m m' : Machine}

/-- The realms keep type objects of the names that they are kept for. -/
def Typed (w : World) : Prop :=
  ∀ {i : Nat} {realm : Realm} {place : Nat}, w.realms[i]? = some (realm, place) →
    ∀ name r, realm.typeObjects.get? name = some r →
      ∃ c, w.heap.kind r = .hostType c ∧ c.name = name

theorem Typed.machine (hw : w.Typed) (h : w.machine? i = some (m, place)) : m.Typed := by
  obtain ⟨hheap, hr, -⟩ := machine?_eq_some_iff.1 h
  intro name r hn
  rw [hheap]
  exact hw hr name r hn

theorem Typed.apply (hw : w.Typed) (e : Event) : (w.apply e).Typed := by
  intro i realm place hr name r hn
  rcases realm_apply_cases hr with ⟨op, m, -, hm, rfl, hheap⟩ | ⟨_, _, m', hf, rfl, -⟩ | hr
  · rw [hheap]
    exact Path.typed (op.fitted_exec m) (hw.machine hm) name r hn
  · rw [hf.realm] at hn
    cases hn
  · obtain ⟨c, hc, hname⟩ := hw hr name r hn
    exact ⟨c, (kind_apply (Heap.lt_size_of_hostType hc) e).trans hc, hname⟩

theorem typed_after (history : List Event) : (after history).Typed :=
  after_induction (P := Typed) (fun h => nomatch h) (fun _ e hw => hw.apply e) history

/-- The ways to the host type of an exposed name, gone one after the other in any order, have one
outcome: where the policy allows the name all give the same type object of that name, and otherwise
all are refused for the name. -/
theorem routes_agree {history : List Event} (hs : Supports {} history)
    (hm : (after history).machine? i = some (m, place)) {name : String} (he : m.Exposes name)
    {routes : List Route} (hne : routes ≠ []) (ho : ∀ route ∈ routes, route.IsOpen m name) :
    (m.policy.allows name → ∃ r c,
      (∀ o ∈ (Exec.runAll (routes.map (Route.find name)) m).1, o = .ok (.object r)) ∧
      (Exec.runAll (routes.map (Route.find name)) m).2.heap.kind r = .hostType c ∧
      c.name = name) ∧
    (¬m.policy.allows name →
      ∀ o ∈ (Exec.runAll (routes.map (Route.find name)) m).1, o = .error (.accessDenied name)) := by
  exact Route.runAll_agree ((wellFormed_after hs).machine hm) (Gated.gate (gated_after history) hm)
    (Typed.machine (typed_after history) hm) he hne ho

/-- A realm that imports the package of its only class. -/
def importing : List Event := [
  .addPolicy {}, .addRealm {} [dog] 0, .perform 0 (.importPackage "app")]

/-- The object that the realm has under the name `Packages`. -/
def packages : Ref := ⟨51⟩

theorem exposes_importing {m : Machine} {place : Nat}
    (hm : (after importing).machine? 0 = some (m, place)) : m.Exposes "app.Dog" := by
  have hgate : ((after importing).machine? 0).all fun e =>
      e.1.realm.gate.catalog.contains "app.Dog" && !e.1.realm.gate.catalog.contains "app" &&
        !e.1.policy.bars "app" := by decide +kernel
  have hindex : ∀ s ∈ TypeName.parts "app.Dog", (Key.ofString s).index? = none := by
    decide +kernel
  rw [hm] at hgate
  simp only [Option.all_some, Bool.and_eq_true, Bool.not_eq_true'] at hgate
  refine ⟨by decide +kernel, by decide, hgate.1.1, fun s hs i hi => ?_, fun path rest h => ?_⟩
  · have h := hindex s hs
    rw [hi] at h
    cases h
  · have hpath : path = "app" := by
      have hparts := congrArg TypeName.parts h
      have happ : TypeName.parts "app.Dog" = ["app", "Dog"] := by decide +kernel
      rw [happ, TypeName.parts_append_dot] at hparts
      cases hpath : TypeName.parts path with
      | nil => exact absurd hpath (TypeName.parts_ne_nil path)
      | cons s rest' =>
        cases hrest : TypeName.parts rest with
        | nil => exact absurd hrest (TypeName.parts_ne_nil rest)
        | cons t rest'' =>
          have hone : TypeName.parts path = ["app"] := by
            cases rest' <;> simp_all
          rw [← TypeName.intercalate_parts path, hone]
          simp
    subst hpath
    simp [hgate.1.2, hgate.2]

theorem routes_agree_importing :
    ∃ m place, (after importing).machine? 0 = some (m, place) ∧ m.Exposes "app.Dog" ∧
      ∃ r, ∀ o ∈ (Exec.runAll ([.members packages, .free, .name, .function .undefined []].map
        (Route.find "app.Dog")) m).1, o = .ok (.object r) := by
  have hs : Supports {} importing := by decide +kernel
  have hopen : ((after importing).machine? 0).all fun e =>
      e.1.policy.allows "app.Dog" && (e.1.heap.kind packages == .hostPackage "") &&
        (e.1.realm.imports.head? == some "app") &&
        (e.1.heap.find? e.1.realm.intrinsics.global (.name "Dog")).isNone := by decide +kernel
  obtain ⟨⟨m, place⟩, hm⟩ : ∃ e, (after importing).machine? 0 = some e :=
    Option.isSome_iff_exists.1 (by decide +kernel)
  rw [hm] at hopen
  simp only [Option.all_some, Bool.and_eq_true, beq_iff_eq, Option.isNone_iff_eq_none] at hopen
  obtain ⟨⟨⟨hp, hroot⟩, himports⟩, hfree⟩ := hopen
  have he := exposes_importing hm
  have hshort : TypeName.short "app.Dog" = "Dog" := by decide +kernel
  have hpackage : TypeName.package "app.Dog" = "app" := by decide +kernel
  have hkey : Key.ofString "Dog" = .name "Dog" := by decide +kernel
  have ho : ∀ route ∈ [Route.members packages, .free, .name, .function .undefined []],
      route.IsOpen m "app.Dog" := by
    simp only [List.forall_mem_cons]
    refine ⟨?_, ?_, ?_, ?_, nofun⟩
    · exact hroot
    · rw [Route.IsOpen, hshort, hpackage, hkey]
      exact ⟨himports, hfree⟩
    · trivial
    · trivial
  obtain ⟨r, c, hall, -, -⟩ := (routes_agree hs hm he (by simp) ho).1 hp
  exact ⟨m, place, hm, he, r, hall⟩

end World

end ScriptSandbox
