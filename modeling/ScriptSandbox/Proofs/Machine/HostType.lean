import ScriptSandbox.Proofs.Gate
import ScriptSandbox.Proofs.Heap.Extends
import ScriptSandbox.Proofs.Machine.Creation

/-! # Host types as paths

Every way to a type object goes through the gate: the class is resolved and remembered before its
object is made, and the object is kept only after.
-/

namespace ScriptSandbox.Exec

open Machine

variable {m m' : Machine} {name : String} {c : HostClass}

theorem resolveClass_of_ok (h : m.realm.gate.resolve m.policy name = .ok c) :
    resolveClass name m = .ok c (m.withGate (m.realm.gate.remember c)) := by
  unfold resolveClass
  rw [bind_of_ok (get_apply m), h]
  rfl

theorem resolveClass_of_error {f : Failure} (h : m.realm.gate.resolve m.policy name = .error f) :
    resolveClass name m = .error f m := by
  unfold resolveClass
  rw [bind_of_ok (get_apply m), h]
  rfl

theorem resolveClass_eq_ok_iff : resolveClass name m = .ok c m' ↔
    m.realm.gate.resolve m.policy name = .ok c ∧ m' = m.withGate (m.realm.gate.remember c) := by
  cases h : m.realm.gate.resolve m.policy name with
  | ok d =>
    rw [resolveClass_of_ok h]
    constructor
    · rintro ⟨⟩
      exact ⟨rfl, rfl⟩
    · rintro ⟨⟨⟩, rfl⟩
      rfl
  | error f =>
    rw [resolveClass_of_error h]
    exact ⟨nofun, fun h => nomatch h.1⟩

theorem traced_resolveClass (name : String) : (resolveClass name).Traced := fun m => by
  cases h : m.realm.gate.resolve m.policy name with
  | ok c =>
    rw [final_of_ok (resolveClass_of_ok h)]
    exact .single (.remember h)
  | error f =>
    rw [final, resolveClass_of_error h]

/-- The gate still lets through a class that it has just remembered. -/
theorem letsThrough_of_resolveClass (h : resolveClass name m = .ok c m') : m'.LetsThrough c := by
  obtain ⟨hr, rfl⟩ := resolveClass_eq_ok_iff.1 h
  exact ⟨⟨name, Gate.resolve_remember hr⟩, Gate.contains_remember _ _⟩

/-! ### Type objects -/

theorem furnishes_alloc_hostType (hc : m.LetsThrough c) (target : Option Ref) :
    (alloc { prototype := target, kind := .hostType c }).Furnishes m.heap.size m fun r m' =>
      m'.heap.IsNew m.heap.size r ∧ m'.heap.kind r = .hostType c := by
  refine ⟨_, _, rfl, .alloc ⟨rfl, nofun, fun h => ?_, nofun⟩ rfl, ?_, ?_⟩
  · cases h
    exact hc
  · exact Heap.isNew_alloc (Nat.le_refl _) rfl nofun
  · exact congrArg Cell.kind (m.heap.cell_alloc_self _)

/-- A type object is made, given its methods, and frozen. -/
theorem createTypeObject_spec (hc : m.LetsThrough c) :
    ∃ r m', createTypeObject c m = .ok r m' ∧ Path ∅ m.heap.size m m' ∧
      m'.heap.kind r = .hostType c ∧ m'.realm = m.realm ∧ m.heap.Extends m'.heap := by
  obtain ⟨r, m₁, h₁, hf₁, hr, hk⟩ :=
    furnishes_alloc_hostType hc (some m.realm.intrinsics.functionPrototype)
  obtain ⟨_, m₂, h₂, hf₂, -⟩ := furnishes_registerStatics c.statics hr
  have hf := hf₁.trans hf₂
  have hraise : Step ∅ m.heap.size m₂ (m₂.withHeap _) := .raise m₂ r .frozen
  refine ⟨r, _, ?_, hf.path.tail hraise, ?_, hf.realm, hf.path.size_le.trans hraise.size_le, ?_⟩
  · unfold createTypeObject
    rw [bind_of_ok (intrinsics_apply m), bind_of_ok h₁, bind_of_ok h₂]
    rfl
  · rw [hraise.kind_eq (hr.lt.trans_le hf₂.path.size_le), hf₂.path.kind_eq hr.lt, hk]
  · intro s hs
    have hne : s ≠ r := fun h => absurd (h ▸ hr.le) (Nat.not_le_of_lt hs)
    exact (Heap.cell_put_of_ne hne _ _).trans (hf.old hs hs)

theorem path_typeObject (hc : m.LetsThrough c) :
    Path ∅ m.heap.size m ((typeObject c).final m) := by
  refine path_bind (still_realm.traced m) fun realm m₁ h => ?_
  cases h
  split
  · exact (still_pure _).traced m
  · obtain ⟨r, m₂, h₂, hp, hk, -⟩ := createTypeObject_spec hc
    rw [final_bind_of_ok h₂]
    exact hp.tail (.keep hk)

theorem traced_resolveType (name : String) : (resolveType name).Traced := fun m =>
  path_bind (traced_resolveClass name m) fun _ _ h =>
    path_typeObject (letsThrough_of_resolveClass h)

/-- Members of packages, however the policy answers. -/
theorem traced_packageMember (path : String) (k : Key) : (packageMember path k).Traced := by
  cases k with
  | index i => exact (still_pure _).traced
  | name member =>
    have hpackage : ∀ q, (do return .object (← createPackage q) : Exec Value).Traced := fun q =>
      (traced_createPackage q).bind_pure _
    simp only [packageMember]
    split
    · refine still_get.traced.bind fun m => ?_
      split
      · split
        · exact (still_throw _).traced.bind fun _ => hpackage _
        · exact hpackage _
      · split
        · exact hpackage _
        · exact (traced_resolveType _).bind_pure _
    · exact (still_pure _).traced

end ScriptSandbox.Exec
