import Mathlib.Data.List.FinRange
import Mathlib.Data.Set.Basic
import ScriptSandbox.Proofs.Heap.Sound
import ScriptSandbox.Realm.Creation

/-! # Arrays as they are made

A new array has the number of its elements for its length. One with more elements than there are
indices is oversized: it holds more properties than the greatest array does.
-/

namespace ScriptSandbox

/-- The properties of an array that is made of elements. -/
def arrayTable (elements : List Value) : PropertyTable :=
  Exec.elementTable (elements.map .assigned) ⟨.ofNat elements.length, true, false, false⟩

theorem mem_keys_elementTable {elements : List Property} {length : Property} {k : Key} :
    k ∈ (Exec.elementTable elements length).keys ↔
      k = .length ∨ ∃ i < elements.length, k = .ofNat (i % (maxLength + 1)) := by
  have hz : ∀ i, (∃ p, (p, i) ∈ elements.zipIdx) ↔ i < elements.length := by
    intro i
    simp [List.mem_zipIdx_iff_getElem?, ← Option.isSome_iff_exists]
  rw [Exec.elementTable, PropertyTable.mem_keys_insertAll_empty]
  simp only [List.map_append, List.map_map, List.map_cons, List.map_nil, List.mem_append,
    List.mem_map, Function.comp_apply, Prod.exists, List.mem_singleton]
  constructor
  · rintro (⟨p, i, hi, rfl⟩ | rfl)
    · exact Or.inr ⟨i, (hz i).1 ⟨p, hi⟩, rfl⟩
    · exact Or.inl rfl
  · rintro (rfl | ⟨i, hi, rfl⟩)
    · exact Or.inr rfl
    · obtain ⟨p, hp⟩ := (hz i).2 hi
      exact Or.inl ⟨p, i, hp, rfl⟩

theorem get?_elementTable_length (elements : List Property) (length : Property) :
    (Exec.elementTable elements length).get? .length = some length := by
  rw [Exec.elementTable, PropertyTable.insertAll_concat, OrderedMap.get?_insert, if_pos rfl]

theorem mem_keys_arrayTable {elements : List Value} {k : Key} :
    k ∈ (arrayTable elements).keys ↔
      k = .length ∨ ∃ i < elements.length, k = .ofNat (i % (maxLength + 1)) := by
  rw [arrayTable, mem_keys_elementTable, List.length_map]

/-- Up to the greatest length the key of an element is its index. -/
theorem mem_keys_arrayTable_of_le {elements : List Value} {n : Nat} (hn : n < elements.length)
    (hle : n ≤ maxLength) : .ofNat n ∈ (arrayTable elements).keys :=
  mem_keys_arrayTable.2 (Or.inr ⟨n, hn, by rw [Nat.mod_eq_of_lt (Nat.lt_succ_of_le hle)]⟩)

theorem Cell.hasLength_arrayTable {c : Cell} {elements : List Value}
    (hc : c.properties = arrayTable elements) : c.HasLength elements.length true where
  own := by
    rw [hc, arrayTable, get?_elementTable_length]
  lt {i} hi := by
    rw [hc, mem_keys_arrayTable] at hi
    rcases hi with hi | ⟨j, hj, hi⟩
    · cases hi
    · rw [Key.ofNat] at hi
      split_ifs at hi
      rw [Key.index.injEq] at hi
      rw [hi]
      exact (Nat.mod_le _ _).trans_lt hj

/-- A table that is made of too many elements has all indices, one name more, and the length. -/
theorem length_lt_size_arrayTable {elements : List Value} (hn : maxLength < elements.length)
    {is : List ArrayIndex} (his : is.Nodup) : is.length + 1 < (arrayTable elements).size := by
  have hlast : Key.ofNat maxLength = .name maxLength.repr := dif_neg (Nat.lt_irrefl _)
  have hne : Key.name maxLength.repr ≠ .length := by decide
  have hnodup : (is.map Key.index ++ [Key.name maxLength.repr, Key.length]).Nodup := by
    rw [List.nodup_append]
    refine ⟨his.map fun i j hij => Key.index.inj hij, by simpa using hne, ?_⟩
    intro k hk j hj
    obtain ⟨i, -, rfl⟩ := List.mem_map.1 hk
    rcases List.mem_cons.1 hj with rfl | hj
    · simp
    · simp [List.mem_singleton.1 hj, Key.length]
  have hsub : is.map Key.index ++ [Key.name maxLength.repr, Key.length] ⊆
      (arrayTable elements).keys := by
    intro k hk
    rcases List.mem_append.1 hk with hk | hk
    · obtain ⟨i, -, rfl⟩ := List.mem_map.1 hk
      have hi := mem_keys_arrayTable_of_le (i.isLt.trans hn) i.isLt.le
      rwa [Key.ofNat, dif_pos i.isLt] at hi
    · rcases List.mem_cons.1 hk with rfl | hk
      · rw [← hlast]
        exact mem_keys_arrayTable_of_le hn (Nat.le_refl _)
      · exact mem_keys_arrayTable.2 (Or.inl (List.mem_singleton.1 hk))
  have hle := (List.subperm_of_subset hnodup hsub).length_le
  rw [OrderedMap.length_keys, List.length_append, List.length_map] at hle
  exact hle

theorem lt_size_arrayTable {elements : List Value} (hn : maxLength < elements.length) :
    maxLength + 1 < (arrayTable elements).size := by
  have h := length_lt_size_arrayTable hn (List.nodup_finRange maxLength)
  rwa [List.length_finRange] at h

/-- An array is oversized if it holds more properties than the greatest one: its elements and its
length. -/
def Cell.IsOversized (c : Cell) : Prop := c.kind = .array ∧ maxLength + 1 < c.properties.size

instance (c : Cell) : Decidable c.IsOversized := inferInstanceAs (Decidable (_ ∧ _))

namespace Heap

variable {h : Heap} {c d : Cell} {k : Key}

def oversized (h : Heap) : Set Ref := {r | (h.cell r).IsOversized}

theorem size_le_insert (t : PropertyTable) (k : Key) (p : Property) :
    t.size ≤ (t.insert k p).size := by
  rw [← OrderedMap.length_keys, ← OrderedMap.length_keys, OrderedMap.keys_insert]
  split <;> simp

theorem size_le_grow (hg : h.grow c k = .ok d) : c.properties.size ≤ d.properties.size := by
  unfold grow at hg
  split at hg
  · cases hg
    exact Nat.le_refl _
  · split_ifs at hg <;> cases hg
    · exact Nat.le_refl _
    · simp [Cell.recordLength, ← OrderedMap.length_keys]

/-- Only an assignment to a length takes properties away. -/
theorem size_le_assignIn (hk : k ≠ .length) (v : Value) :
    c.properties.size ≤ (h.assignIn c k v).2.properties.size := by
  unfold assignIn
  split
  · unfold add
    split
    · split
      · rename_i hg
        exact (size_le_grow hg).trans (size_le_insert _ _ _)
      · exact Nat.le_refl _
    · exact Nat.le_refl _
  · split
    · exact Nat.le_refl _
    · simp only [hk, and_false, ↓reduceIte, ← OrderedMap.length_keys, OrderedMap.keys_modify,
        Nat.le_refl]

/-- What is oversized stays so. -/
theorem oversized_subset_assign (r : Ref) (hk : k ≠ .length) (v : Value) :
    h.oversized ⊆ (h.assign r k v).2.oversized := by
  rintro s ⟨ha, hs⟩
  obtain ⟨hkind, hsize⟩ := cell_assign_rel (h := h) (r := r) (k := k) (v := v)
    (R := fun c d => d.kind = c.kind ∧ c.properties.size ≤ d.properties.size)
    (fun _ => ⟨rfl, Nat.le_refl _⟩)
    ⟨(h.frames_assignIn _ k v).kind, size_le_assignIn hk v⟩ s
  exact ⟨hkind.trans ha, hs.trans_le hsize⟩

/-- A new array of too many elements is oversized. -/
theorem length_le_of_not_mem_oversized {elements : List Value} (hk : c.kind = .array)
    (hc : c.properties = arrayTable elements) (h' : (h.alloc c).1 ∉ (h.alloc c).2.oversized) :
    elements.length ≤ maxLength := by
  by_contra hlt
  refine h' ?_
  rw [oversized, Set.mem_ofPred_eq, cell_alloc_self, Cell.IsOversized, hc]
  exact ⟨hk, lt_size_arrayTable (Nat.lt_of_not_le hlt)⟩

end Heap

end ScriptSandbox
