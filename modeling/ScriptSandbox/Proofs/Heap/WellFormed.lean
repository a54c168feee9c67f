import ScriptSandbox.Proofs.Cell.Below
import ScriptSandbox.Proofs.Heap.Chain

/-! # Well-formed heaps

In a well-formed heap no object inherits from itself, objects refer to objects that are there, and
all keys are canonical. Operations keep a heap well-formed while they are asked about objects that
are there.
-/

namespace ScriptSandbox.Heap

variable {h : Heap} {r : Ref} {c : Cell} {k : Key} {p : Property} {n : Nat}

structure WellFormed (h : Heap) : Prop where
  acyclic : h.Acyclic
  below : ∀ r, (h.cell r).Below h.size

theorem WellFormed.grounded (hw : h.WellFormed) : h.Grounded := fun r s hrs =>
  (hw.below r).prototype s hrs

theorem wellFormed_empty : WellFormed {} where
  acyclic := acyclic_of_lt fun _ _ h => by cases h
  below _ := Cell.below_default

/-! ### What is read -/

theorem WellFormed.own? (hw : h.WellFormed) (hp : h.own? r k = some p) : p.Below h.size k :=
  (hw.below r).properties k p hp

theorem WellFormed.find? (hw : h.WellFormed) (hp : h.find? r k = some p) : p.Below h.size k := by
  obtain ⟨s, -, hs⟩ := List.exists_of_findSome?_eq_some hp
  exact hw.own? hs

theorem WellFormed.get (hw : h.WellFormed) (r : Ref) (k : Key) : (h.get r k).Below h.size := by
  unfold Heap.get
  split
  · rename_i hp
    exact (hw.find? hp).2
  · trivial

/-! ### What is changed -/

theorem WellFormed.alloc (hw : h.WellFormed) (hc : c.Below h.size) : (h.alloc c).2.WellFormed where
  acyclic := hw.acyclic.alloc hw.grounded hc.prototype
  below r := by
    have hle : h.size ≤ (h.alloc c).2.size := by
      rw [size_alloc]
      exact Nat.le_succ _
    rcases h.cell_alloc_cases c r with hr | ⟨-, hr⟩
    · rw [hr]
      exact (hw.below r).mono hle
    · rw [hr]
      exact hc.mono hle

theorem WellFormed.below_put (hw : h.WellFormed) (hc : c.Below h.size) (s : Ref) :
    ((h.put r c).cell s).Below (h.put r c).size := by
  rw [size_put]
  exact cell_put_rel (R := fun c d => c.Below h.size → d.Below h.size) (fun _ hc => hc)
    (fun _ => hc) s (hw.below s)

/-- Changing the properties of an object. -/
theorem WellFormed.put (hw : h.WellFormed) (hp : c.prototype = (h.cell r).prototype)
    (hc : c.properties.Below h.size) : (h.put r c).WellFormed where
  acyclic := hw.acyclic.congr fun s =>
    cell_put_rel (R := fun c d => d.prototype = c.prototype) (fun _ => rfl) hp s
  below := hw.below_put ⟨hp ▸ (hw.below r).prototype, hc⟩

theorem WellFormed.assign (hw : h.WellFormed) {v : Value} (hk : k.IsCanonical)
    (hv : v.Below h.size) (r : Ref) : (h.assign r k v).2.WellFormed := by
  unfold Heap.assign
  split
  · exact hw
  · exact hw.put (h.frames_assignIn _ k v).prototype
      (below_assignIn (hw.below r).properties hk hv)

theorem WellFormed.define (hw : h.WellFormed) {d : Descriptor} (hk : k.IsCanonical)
    (hd : d.Below h.size) (r : Ref) : (h.define r k d).2.WellFormed :=
  hw.put (h.frames_defineIn _ k d).prototype (below_defineIn (hw.below r).properties hk hd)

theorem WellFormed.delete (hw : h.WellFormed) (r : Ref) (k : Key) :
    (h.changeCell r (·.delete k)).2.WellFormed :=
  hw.put ((h.cell r).frames_delete k).prototype (Cell.below_delete (hw.below r).properties k)

theorem prototype_raise (c : Cell) (l : Level) : (c.raise l).prototype = c.prototype := by
  unfold Cell.raise
  split <;> rfl

theorem WellFormed.raise (hw : h.WellFormed) (r : Ref) (l : Level) :
    (h.put r ((h.cell r).raise l)).WellFormed :=
  hw.put (prototype_raise _ l) (Cell.below_raise (hw.below r).properties l)

theorem WellFormed.withProperty (hw : h.WellFormed) (hp : p.Below h.size k) (r : Ref) :
    (h.put r ((h.cell r).withProperty k p)).WellFormed :=
  hw.put rfl ((hw.below r).properties.insert hp)

theorem WellFormed.relink (hw : h.WellFormed) {target : Option Ref} (ht : h.Holds target)
    (r : Ref) : (h.relink r target).2.WellFormed := by
  obtain ⟨hok, hheap⟩ := relink_spec (r := r) hw.acyclic hw.grounded ht
  rw [hheap]
  split
  · rename_i hr
    by_cases hsame : target = h.prototype r
    · rw [hsame]
      exact hw.put rfl (hw.below r).properties
    · by_cases hlt : r.id < h.size
      · have hn := ((hok.1 hr).resolve_left hsame).2
        exact ⟨(acyclic_put_iff hw.acyclic hlt).2 hn, hw.below_put ⟨ht, (hw.below r).properties⟩⟩
      · rw [put_of_size_le (Nat.le_of_not_lt hlt)]
        exact hw
  · exact hw

end ScriptSandbox.Heap
