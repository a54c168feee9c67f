import Mathlib.Data.List.TakeWhile
import ScriptSandbox.Proofs.Cell.Change
import ScriptSandbox.Proofs.Cell.Frame
import ScriptSandbox.Proofs.Number.Whole
import ScriptSandbox.Proofs.Table

/-! # The length of an array

An array has a locked length, a natural past all its indices. Growing, cutting back and closing the
length keep it so, and change the cell only as it may evolve. They read a length that is too great
for an array as the greatest one, and record none that is.
-/

namespace ScriptSandbox.Cell

variable {c d : Cell} {k : Key} {p : Property} {n m : Nat} {w : Bool} {h : Heap}

/-- The cell records a length, read-only or not, and its indices lie below. -/
structure HasLength (c : Cell) (n : Nat) (w : Bool) : Prop where
  own : c.properties.get? .length = some ⟨.ofNat n, w, false, false⟩
  lt : ∀ {i}, .index i ∈ c.properties.keys → i.val < n

namespace HasLength

theorem storedLength (hc : c.HasLength n w) (h : Heap) :
    h.storedLength c = min n maxLength := by
  simp [Heap.storedLength, hc.own, Number.clamp32_ofNat]

theorem lt_storedLength (hc : c.HasLength n w) {i : ArrayIndex}
    (hi : .index i ∈ c.properties.keys) : i.val < min n maxLength :=
  Nat.lt_min.2 ⟨hc.lt hi, i.isLt⟩

theorem lengthWritable (hc : c.HasLength n w) : c.lengthWritable = w := by
  simp [Cell.lengthWritable, hc.own]

theorem ne_length (hc : c.HasLength n w) (hk : c.properties.get? k = none) : k ≠ .length := by
  rintro rfl
  rw [hc.own] at hk
  cases hk

theorem modify (hc : c.HasLength n w) (hk : k ≠ .length) (f : Property → Property) :
    HasLength { c with properties := c.properties.modify k f } n w where
  own := by rw [OrderedMap.get?_modify, if_neg hk.symm, hc.own]
  lt hi := by
    rw [OrderedMap.keys_modify] at hi
    exact hc.lt hi

theorem erase (hc : c.HasLength n w) (hk : k ≠ .length) :
    HasLength { c with properties := c.properties.erase k } n w where
  own := by rw [OrderedMap.get?_erase, if_neg hk.symm, hc.own]
  lt hi := by
    rw [OrderedMap.keys_erase] at hi
    exact hc.lt (List.mem_of_mem_filter hi)

theorem withProperty (hc : c.HasLength n w) (hk : k ≠ .length)
    (hlt : ∀ i, k = .index i → i.val < n) : (c.withProperty k p).HasLength n w where
  own := by rw [Cell.withProperty, OrderedMap.get?_insert, if_neg hk.symm, hc.own]
  lt {i} hi := by
    rw [Cell.withProperty, OrderedMap.keys_insert] at hi
    split at hi
    · exact hc.lt hi
    · rcases List.mem_append.1 hi with hi | hi
      · exact hc.lt hi
      · exact hlt i (List.mem_singleton.1 hi).symm

theorem mapValues_close (hc : c.HasLength n w) (l : Level) :
    ∃ w', HasLength { c with properties := c.properties.mapValues (·.close l) } n w' := by
  refine ⟨w && !decide (.frozen ≤ l), ?_, fun hi => ?_⟩
  · rw [OrderedMap.get?_mapValues, hc.own]
    rfl
  · rw [OrderedMap.keys_mapValues] at hi
    exact hc.lt hi

theorem recordLength (hc : c.HasLength n w)
    (hlt : ∀ {i}, .index i ∈ c.properties.keys → i.val < m) : (c.recordLength m).HasLength m w where
  own := by rw [Cell.recordLength, OrderedMap.get?_modify, if_pos rfl, hc.own]; rfl
  lt hi := by
    rw [Cell.recordLength, OrderedMap.keys_modify] at hi
    exact hlt hi

/-- An index past the length is the last one of an array that has grown to hold it. -/
theorem grow (hc : c.HasLength n w) {i : ArrayIndex} (hi : min n maxLength ≤ i.val) :
    (c.recordLength (i.val + 1)).HasLength (i.val + 1) w :=
  hc.recordLength fun hj => Nat.lt_succ_of_lt ((hc.lt_storedLength hj).trans_le hi)

/-- A length that fits is the least that the cell may be said to have. -/
theorem le_of_le {n' : Nat} {w' : Bool} (hc : c.HasLength n w)
    (hc' : c.HasLength n' w') (hn : n ≤ maxLength) : n ≤ n' := by
  have hmin : min n maxLength = min n' maxLength :=
    (hc.storedLength {}).symm.trans (hc'.storedLength {})
  rw [Nat.min_eq_left hn] at hmin
  exact hmin.trans_le (Nat.min_le_left _ _)

theorem closeLength (hc : c.HasLength n w) : c.closeLength.HasLength n false where
  own := by rw [Cell.closeLength, OrderedMap.get?_modify, if_pos rfl, hc.own]; rfl
  lt hi := by
    rw [Cell.closeLength, OrderedMap.keys_modify] at hi
    exact hc.lt hi

theorem fits (hc : c.HasLength n w) (hn : n ≤ maxLength) : c.Fits := fun _ =>
  ⟨n, hn, _, hc.own, rfl⟩

/-- A length that fits is recorded as it is read. -/
theorem ofNat_eq (hc : c.HasLength n w) (ha : c.kind = .array) (hf : c.Fits) :
    Value.ofNat (min n maxLength) = .ofNat n := by
  obtain ⟨m, hm, p, hp, hv⟩ := hf ha
  rw [hc.own, Option.some.injEq] at hp
  subst hp
  have hmin : min n maxLength = m := by
    have hclamp := congrArg Number.clamp32 (Value.number.inj hv)
    rw [Number.clamp32_ofNat, Number.clamp32_ofNat, Nat.min_eq_left hm] at hclamp
    exact hclamp
  rw [hmin]
  exact hv.symm

/-- A read-only length is only recorded as what it is read as. -/
theorem evolves_recordLength (hc : c.HasLength n w) (ha : c.kind = .array)
    (hm : w = true ∨ m = min n maxLength) : c.Evolves (c.recordLength m) := by
  refine evolves_modify fun p hp => ?_
  rw [hc.own, Option.some.injEq] at hp
  subst hp
  refine fun _ => ⟨rfl, rfl, fun hw => ⟨hw, fun hf => ?_⟩⟩
  rcases hm with rfl | rfl
  · cases hw
  · exact hc.ofNat_eq ha (hf rfl)

end HasLength

theorem evolves_closeLength (c : Cell) : c.Evolves c.closeLength :=
  evolves_modify fun _ _ _ => ⟨by assumption, rfl, fun _ => ⟨rfl, fun _ => rfl⟩⟩

/-! ### Removing elements -/

theorem get?_removeAll (c : Cell) (is : List ArrayIndex) (k : Key) :
    (c.removeAll is).properties.get? k =
      if k ∈ is.map Key.index then none else c.properties.get? k := by
  induction is generalizing c with
  | nil => simp [removeAll]
  | cons i is ih =>
    have hstep : c.removeAll (i :: is) =
      removeAll { c with properties := c.properties.erase (.index i) } is := rfl
    rw [hstep, ih, OrderedMap.get?_erase]
    by_cases hi : k = .index i
    · simp [hi]
    · simp [hi]

theorem mem_keys_removeAll {is : List ArrayIndex} :
    k ∈ (c.removeAll is).properties.keys ↔ k ∈ c.properties.keys ∧ k ∉ is.map Key.index := by
  simp only [OrderedMap.mem_keys_iff, get?_removeAll]
  by_cases hk : k ∈ is.map Key.index
  · simp [hk]
  · simp [hk]

theorem evolves_removeAll {is : List ArrayIndex}
    (hr : ∀ i ∈ is, ∀ p, c.properties.get? (.index i) = some p → p.configurable = true) :
    c.Evolves (c.removeAll is) := by
  induction is generalizing c with
  | nil => exact .refl c
  | cons i is ih =>
    refine (evolves_erase (hr i List.mem_cons_self)).trans (ih fun j hj p hp => ?_)
    rw [OrderedMap.get?_erase] at hp
    split at hp
    · cases hp
    · exact hr j (List.mem_cons_of_mem i hj) p hp

theorem HasLength.removeAll (hc : c.HasLength n w) (is : List ArrayIndex) :
    (c.removeAll is).HasLength n w where
  own := by rw [get?_removeAll, if_neg (by simp [Key.length]), hc.own]
  lt hi := hc.lt (mem_keys_removeAll.1 hi).1

/-- The indices that a cut removes: those from the new end on, up to the first it cannot remove. -/
def removed (c : Cell) (m : Nat) : List ArrayIndex :=
  (c.properties.indicesFrom m).takeWhile c.isRemovable

/-- The indices past the new end that a cut leaves, the greatest first. -/
def stuck (c : Cell) (m : Nat) : List ArrayIndex :=
  (c.properties.indicesFrom m).dropWhile c.isRemovable

theorem removed_append_stuck (c : Cell) (m : Nat) :
    c.removed m ++ c.stuck m = c.properties.indicesFrom m :=
  List.takeWhile_append_dropWhile

theorem configurable_of_mem_removed {i : ArrayIndex} (hi : i ∈ c.removed m)
    (hp : c.properties.get? (.index i) = some p) : p.configurable = true := by
  have := List.mem_takeWhile_imp hi
  rwa [isRemovable, hp] at this

/-- All past the new end is removed or left. -/
theorem mem_removed_or_mem_stuck {i : ArrayIndex} (hi : .index i ∈ c.properties.keys)
    (hm : m ≤ i.val) : i ∈ c.removed m ∨ i ∈ c.stuck m := by
  rw [← List.mem_append, removed_append_stuck]
  exact PropertyTable.mem_indicesFrom_iff.2 ⟨hi, hm⟩

/-- What is removed lies past what is left, and the greatest of this comes first. -/
theorem lt_of_stuck_eq_cons {j : ArrayIndex} {rest : List ArrayIndex}
    (hs : c.stuck m = j :: rest) : (m ≤ j.val ∧ .index j ∈ c.properties.keys) ∧
      (∀ i ∈ c.removed m, j < i) ∧ ∀ i ∈ rest, i < j := by
  have hsorted := c.properties.pairwise_indicesFrom m
  have hmem : j ∈ c.properties.indicesFrom m := by
    rw [← removed_append_stuck, hs]
    exact List.mem_append_right _ List.mem_cons_self
  rw [← removed_append_stuck, hs, List.pairwise_append] at hsorted
  refine ⟨(PropertyTable.mem_indicesFrom_iff.1 hmem).symm, fun i hi => ?_, fun i hi => ?_⟩
  · exact hsorted.2.2 i hi j List.mem_cons_self
  · exact (List.pairwise_cons.1 hsorted.2.1).1 i hi

theorem isRemovable_of_stuck_eq_cons {j : ArrayIndex} {rest : List ArrayIndex}
    (hs : c.stuck m = j :: rest) : c.isRemovable j = false := by
  have hnot := List.head?_dropWhile_not c.isRemovable (c.properties.indicesFrom m)
  rw [stuck] at hs
  rwa [hs] at hnot

/-- What a cut leaves lies below the length it records. -/
theorem lt_of_not_mem_removed {i : ArrayIndex} (hi : .index i ∈ c.properties.keys)
    (hr : i ∉ c.removed m) : i.val < ((c.stuck m).head?.map (·.val + 1)).getD m := by
  cases hs : c.stuck m with
  | nil =>
    simp only [List.head?_nil, Option.map_none, Option.getD_none]
    by_contra hlt
    have hmem := (mem_removed_or_mem_stuck hi (Nat.not_lt.1 hlt)).resolve_left hr
    rw [hs] at hmem
    cases hmem
  | cons j rest =>
    obtain ⟨⟨hm, -⟩, -, hrest⟩ := lt_of_stuck_eq_cons hs
    simp only [List.head?_cons, Option.map_some, Option.getD_some]
    by_cases him : i.val < m
    · omega
    · have hmem := (mem_removed_or_mem_stuck hi (Nat.not_lt.1 him)).resolve_left hr
      rw [hs] at hmem
      rcases List.mem_cons.1 hmem with rfl | hmem
      · exact Nat.lt_succ_self _
      · exact Nat.lt_succ_of_lt (hrest i hmem)

theorem cut_eq (c : Cell) (m : Nat) :
    c.cut m = ((c.removeAll (c.removed m)).recordLength
      (((c.stuck m).head?.map (·.val + 1)).getD m), (c.stuck m).head?) := by
  simp only [cut, removed, stuck]
  cases ((c.properties.indicesFrom m).dropWhile c.isRemovable).head? <;> rfl

namespace HasLength

theorem cut (hc : c.HasLength n w) (hm : m ≤ maxLength) :
    ∃ m' ≤ maxLength, (c.cut m).1.HasLength m' w := by
  rw [cut_eq]
  refine ⟨_, ?_, (hc.removeAll _).recordLength fun hi => ?_⟩
  · cases (c.stuck m).head? with
    | none => exact hm
    | some i => exact i.isLt
  · obtain ⟨hi, hr⟩ := mem_keys_removeAll.1 hi
    exact lt_of_not_mem_removed hi fun h => hr (List.mem_map_of_mem h)

theorem evolves_cut (hc : c.HasLength n true) (ha : c.kind = .array) (m : Nat) :
    c.Evolves (c.cut m).1 := by
  have hremove : c.Evolves (c.removeAll (c.removed m)) :=
    evolves_removeAll fun i hi p hp => configurable_of_mem_removed hi hp
  rw [cut_eq]
  exact hremove.trans ((hc.removeAll _).evolves_recordLength ha (Or.inl rfl))

/-- Resizing leaves a length that fits. -/
theorem resize (hc : c.HasLength n w) (hm : m ≤ maxLength) (close : Bool) :
    ∃ m' ≤ maxLength, ∃ w', (h.resize c m close).2.HasLength m' w' := by
  have hlen : ∃ m' ≤ maxLength, (h.resized c m).HasLength m' w := by
    unfold Heap.resized
    split
    · exact hc.cut hm
    · rename_i hlt
      rw [hc.storedLength h, not_lt] at hlt
      exact ⟨m, hm, hc.recordLength fun hi => (hc.lt_storedLength hi).trans_le hlt⟩
  obtain ⟨m', hm', hc'⟩ := hlen
  rw [Heap.resize_snd]
  split
  · exact ⟨m', hm', false, hc'.closeLength⟩
  · exact ⟨m', hm', w, hc'⟩

/-- Resizing an array whose length is read-only is for the length it has. -/
theorem evolves_resize (hc : c.HasLength n w) (ha : c.kind = .array)
    (hm : w = true ∨ m = min n maxLength) (close : Bool) : c.Evolves (h.resize c m close).2 := by
  have hev : c.Evolves (h.resized c m) := by
    unfold Heap.resized
    split
    · rename_i hlt
      rw [hc.storedLength h] at hlt
      rcases hm with rfl | rfl
      · exact hc.evolves_cut ha m
      · exact absurd hlt (Nat.lt_irrefl _)
    · exact hc.evolves_recordLength ha hm
  rw [Heap.resize_snd]
  split
  · exact hev.trans (evolves_closeLength _)
  · exact hev

end HasLength

end ScriptSandbox.Cell
