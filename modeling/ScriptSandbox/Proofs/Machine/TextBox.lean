import ScriptSandbox.Proofs.Machine.Curation

/-! # Boxed texts under operations

A realm makes a box of a text with the properties for its units, and all else that it makes is no box
of a text. So every box of a text that is short enough spells its text, at any moment.
-/

namespace ScriptSandbox

namespace Heap

variable {h h' : Heap}

/-- Every box of a text with no more units than there are indices spells its text. -/
def Spelled (h : Heap) : Prop :=
  ∀ r s, h.kind r = .string s → (Text.utf16 s).length ≤ maxLength →
    (h.cell r).Sound True ∧ (h.cell r).Spells s

theorem spelled_empty : Spelled {} := nofun

/-- It stays so while what is there evolves and no box comes in. -/
theorem Spelled.of_evolves (hs : h.Spelled)
    (hold : ∀ r : Ref, r.id < h.size → (h.cell r).Sound True →
      (h.cell r).Evolves (h'.cell r) ∧ (h'.cell r).Sound True)
    (hkind : ∀ r : Ref, r.id < h.size → h'.kind r = h.kind r)
    (hnew : ∀ r : Ref, h.size ≤ r.id → (h'.kind r).primitive? = none) : h'.Spelled := by
  intro r s hr hn
  have hlt : r.id < h.size := by
    by_contra hge
    have hnone := hnew r (Nat.not_lt.1 hge)
    rw [hr] at hnone
    cases hnone
  rw [hkind r hlt] at hr
  obtain ⟨hsound, hspells⟩ := hs r s hr hn
  obtain ⟨he, hsound'⟩ := hold r hlt hsound
  exact ⟨hsound', hspells.of_evolves he⟩

theorem Spelled.of_cell_eq (hs : h.Spelled)
    (hold : ∀ r : Ref, r.id < h.size → h'.cell r = h.cell r)
    (hnew : ∀ r : Ref, h.size ≤ r.id → (h'.kind r).primitive? = none) : h'.Spelled :=
  hs.of_evolves (fun r hr hsound => by rw [hold r hr]; exact ⟨.refl _, hsound⟩)
    (fun r hr => congrArg Cell.kind (hold r hr)) hnew

theorem Spelled.alloc {c : Cell} (hs : h.Spelled) (hc : c.IsInitial) : (h.alloc c).2.Spelled := by
  intro r s hr hn
  rcases h.cell_alloc_cases c r with hold | ⟨-, hnew⟩
  · rw [kind, hold] at hr
    rw [hold]
    exact hs r s hr hn
  · rw [kind, hnew] at hr
    rw [hnew]
    refine ⟨⟨Cell.closed_of_extensible hc.level, fun ha => ?_⟩,
      Cell.spells_of_textTable hr (hc.text hr) hn⟩
    rw [hr] at ha
    cases ha

end Heap

namespace Machine

variable {m : Machine}

/-- What comes in with a type object is no box. -/
theorem primitive?_enroll (m : Machine) (c : HostClass) {r : Ref} (hr : m.heap.size ≤ r.id) :
    ((m.enroll c).heap.kind r).primitive? = none := by
  by_cases hlt : r.id < (m.enroll c).heap.size
  · rcases Curates.kind_enroll m c hr hlt with rfl | ⟨f, hf⟩
    · rw [(Curates.represents_enroll m c).kind]
      rfl
    · rw [hf]
      rfl
  · exact Heap.primitive?_of_size_le (Nat.not_lt.1 hlt)

theorem isHabit_spelled : IsHabit fun m m' => m.heap.Spelled → m'.heap.Spelled where
  refl _ := id
  trans h h' := h' ∘ h
  quiet h hsize _ hm := by
    refine hm.of_evolves (fun r hr hs => ?_) (fun _ hr => h.kind_eq hr) fun r hr => ?_
    · exact ⟨h.evolves hs hr (Nat.le_refl _), h.sound hs fun _ => Or.inl hr⟩
    · exact Heap.primitive?_of_size_le (hsize.trans_le hr)
  make _ _ hc hm := hm.alloc hc
  enroll {m c} _ _ hm := hm.of_cell_eq (fun _ hr => Heap.cell_allocAll_of_lt hr _) fun _ hr =>
    primitive?_enroll m c hr

end Machine

end ScriptSandbox
