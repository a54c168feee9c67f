import ScriptSandbox.Proofs.Respect.Genesis
import ScriptSandbox.Proofs.Respect.Operation
import ScriptSandbox.Proofs.World.Run

/-! # Well-formed worlds

While operations are given objects that are there and canonical keys, as scripts can do nothing
else, the heap that the realms of a world share stays well-formed.
-/

namespace ScriptSandbox

def Event.Below (n : Nat) : Event → Prop
  | perform _ op => op.Below n
  | _ => True

instance (n : Nat) : DecidablePred (Event.Below n)
  | .perform _ op => inferInstanceAs (Decidable (op.Below n))
  | .updatePolicy _ _ | .addPolicy _ | .addRealm _ _ _ => isTrue trivial

namespace World

variable {w : World} {history : List Event} {e : Event} {i place : Nat} {m : Machine}

/-- Every operation of a history is given objects that are there at its moment, and canonical
keys. -/
def Supports : World → List Event → Prop
  | _, [] => True
  | w, e :: rest => e.Below w.heap.size ∧ (w.apply e).Supports rest

instance decidableSupports : ∀ (w : World) (history : List Event), Decidable (w.Supports history)
  | _, [] => isTrue trivial
  | w, e :: rest =>
    have := decidableSupports (w.apply e) rest
    inferInstanceAs (Decidable (e.Below w.heap.size ∧ (w.apply e).Supports rest))

theorem supports_append_iff {rest : List Event} : w.Supports (history ++ rest) ↔
    w.Supports history ∧ (history.foldl apply w).Supports rest := by
  induction history generalizing w with
  | nil => simp [Supports]
  | cons e history ih =>
    rw [List.cons_append, Supports, Supports, ih, and_assoc]
    rfl

/-- The heap is well-formed, and the realms know objects of it only. -/
structure WellFormed (w : World) : Prop where
  heap : w.heap.WellFormed
  realms : ∀ (i : Nat) (realm : Realm) (place : Nat),
    w.realms[i]? = some (realm, place) → realm.Below w.heap.size

theorem wellFormed_empty : WellFormed {} where
  heap := Heap.wellFormed_empty
  realms _ _ _ h := by simp at h

theorem WellFormed.machine (hw : w.WellFormed) (h : w.machine? i = some (m, place)) :
    m.WellFormed := by
  obtain ⟨hheap, hr, -⟩ := machine?_eq_some_iff.1 h
  exact ⟨hheap ▸ hw.heap, hheap ▸ hw.realms i _ _ hr⟩

/-- Running a computation in a realm. -/
theorem WellFormed.store (hw : w.WellFormed) (h : w.machine? i = some (m, place)) {α : Type}
    {x : Exec α} (hx : x.Respects w.heap.size Exec.Any) :
    (w.store i place (x.final m)).WellFormed := by
  obtain ⟨hheap, -, -⟩ := machine?_eq_some_iff.1 h
  obtain ⟨hm, hle, -⟩ := hx m (hw.machine h) (hheap ▸ Nat.le_refl _)
  rw [hheap] at hle
  refine ⟨hm.heap, fun j realm place' hj => ?_⟩
  change (w.realms.setIfInBounds i _)[j]? = _ at hj
  rw [Array.getElem?_setIfInBounds] at hj
  split at hj
  · split at hj
    · cases hj
      exact hm.realm
    · cases hj
  · exact (hw.realms j realm place' hj).mono hle

theorem WellFormed.bareRealm (hw : w.WellFormed) (settings : Settings) (catalog : Catalog)
    (place : Nat) :
    (w.bareRealm (w.newMachine settings catalog place).realm place).WellFormed where
  heap := Intrinsics.wellFormed_allocate hw.heap
  realms j realm place' hj := by
    have hle : w.heap.size ≤ (Intrinsics.allocate w.heap).2.size := by
      rw [Intrinsics.allocate_snd, Heap.size_allocAll]
      exact Nat.le_add_right _ _
    change (w.realms.push _)[j]? = _ at hj
    rw [Array.getElem?_push] at hj
    split at hj
    · cases hj
      exact ⟨Intrinsics.below_allocate w.heap, nofun⟩
    · exact (hw.realms j realm place' hj).mono hle

theorem WellFormed.addRealm (hw : w.WellFormed) (settings : Settings) (catalog : Catalog)
    (place : Nat) : (w.addRealm settings catalog place).2.WellFormed := by
  generalize hbare : w.bareRealm (w.newMachine settings catalog place).realm place = bare
  have hb : bare.WellFormed := hbare ▸ hw.bareRealm settings catalog place
  rw [addRealm_snd w settings catalog place hbare.symm]
  cases hm : bare.machine? w.realms.size with
  | none =>
    rw [run_of_none hm, Option.map_none, Option.getD_none]
    exact hb
  | some found =>
    obtain ⟨m, place'⟩ := found
    obtain ⟨result, hrun⟩ := run_of_some hm Exec.install
    rw [hrun, Option.map_some, Option.getD_some]
    exact hb.store hm Exec.respects_install

theorem WellFormed.apply (hw : w.WellFormed) (he : e.Below w.heap.size) :
    (w.apply e).WellFormed := by
  cases e with
  | perform i op =>
    cases hm : w.machine? i with
    | none =>
      rw [World.apply, perform_of_none hm]
      exact hw
    | some found =>
      obtain ⟨m, place⟩ := found
      rw [World.apply, perform_of_some hm]
      exact hw.store hm (Operation.Below.respects he)
  | updatePolicy place f => exact ⟨hw.heap, hw.realms⟩
  | addPolicy p => exact ⟨hw.heap, hw.realms⟩
  | addRealm settings classes place => exact hw.addRealm settings _ place

theorem WellFormed.foldl (hw : w.WellFormed) (hs : w.Supports history) :
    (history.foldl World.apply w).WellFormed := by
  induction history generalizing w with
  | nil => exact hw
  | cons e history ih => exact ih (hw.apply hs.1) hs.2

theorem wellFormed_after (hs : Supports {} history) : (after history).WellFormed :=
  wellFormed_empty.foldl hs

end World

end ScriptSandbox
