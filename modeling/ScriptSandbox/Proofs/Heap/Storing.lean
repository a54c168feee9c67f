import ScriptSandbox.Proofs.Heap.Sound

/-! # Storing a property

A property that is stored changes nothing else, but for the length of an array, which goes along
with a new index past its end. That is the only write besides the property itself, and where the
length is read-only neither of them is done.
-/

namespace ScriptSandbox.Heap

variable {h h' : Heap} {r s : Ref} {c : Cell} {j k : Key} {p q : Property} {i : ArrayIndex}
  {n : Nat}

/-! ### Growing arrays -/

/-- The length that an array must grow to before it takes a new key, if it must. -/
def growth? (h : Heap) (c : Cell) (k : Key) : Option Nat :=
  k.index?.bind fun i => if c.isArray ∧ h.storedLength c ≤ i.val then some (i.val + 1) else none

/-- The cell with room for a new key. -/
def grown (h : Heap) (c : Cell) (k : Key) : Cell := (h.growth? c k).elim c c.recordLength

theorem growth?_eq_some_iff : h.growth? c k = some n ↔ ∃ i : ArrayIndex,
    k = .index i ∧ c.kind = .array ∧ h.storedLength c ≤ i.val ∧ n = i.val + 1 := by
  cases k with
  | name s => simp [growth?, Key.index?]
  | index i =>
    simp only [growth?, Key.index?, Option.bind_some, Option.ite_none_right_eq_some,
      Option.some.injEq, Cell.isArray, decide_eq_true_eq]
    constructor
    · rintro ⟨⟨ha, hle⟩, rfl⟩
      exact ⟨i, rfl, ha, hle, rfl⟩
    · rintro ⟨_, ⟨⟩, ha, hle, rfl⟩
      exact ⟨⟨ha, hle⟩, rfl⟩

theorem ne_length_of_growth? (hn : h.growth? c k = some n) : k ≠ .length := by
  obtain ⟨i, rfl, -⟩ := growth?_eq_some_iff.1 hn
  simp [Key.length]

theorem grow_eq (h : Heap) (c : Cell) (k : Key) :
    h.grow c k = if h.growth? c k ≠ none ∧ c.lengthWritable = false
      then .error (.frozenWrite .length) else .ok (h.grown c k) := by
  cases k with
  | name s => rfl
  | index i =>
    by_cases hi : c.isArray ∧ h.storedLength c ≤ i.val
    · have hn : h.growth? c (.index i) = some (i.val + 1) := by simp [growth?, Key.index?, hi]
      cases hw : c.lengthWritable <;>
        simp [grow, grown, hn, Key.index?, hw, hi.1, Nat.not_lt.2 hi.2]
    · have hn : h.growth? c (.index i) = none := by simp [growth?, Key.index?, hi]
      have hlt : ¬c.isArray ∨ i.val < h.storedLength c := by
        rwa [not_and_or, not_le] at hi
      simp only [grow, grown, hn, Key.index?, if_pos hlt]
      simp

@[simp] theorem keys_grown (h : Heap) (c : Cell) (k : Key) :
    (h.grown c k).properties.keys = c.properties.keys := by
  unfold grown
  cases h.growth? c k with
  | none => rfl
  | some n => exact OrderedMap.keys_modify _ _ _

theorem frames_grown (h : Heap) (c : Cell) (k : Key) : c.Frames (h.grown c k) := by
  unfold grown
  cases h.growth? c k with
  | none => exact .refl c
  | some n => exact c.frames_properties _

theorem get?_grown (hj : j ≠ .length) :
    (h.grown c k).properties.get? j = c.properties.get? j := by
  unfold grown
  cases h.growth? c k with
  | none => rfl
  | some n => rw [Option.elim_some, Cell.recordLength, OrderedMap.get?_modify, if_neg hj]

theorem grown_of_none (hn : h.growth? c k = none) : h.grown c k = c := by
  rw [grown, hn, Option.elim_none]

theorem get?_length_grown (hn : h.growth? c k = some n) :
    (h.grown c k).properties.get? .length =
      (c.properties.get? .length).map ({ · with value := .ofNat n }) := by
  rw [grown, hn, Option.elim_some, Cell.recordLength, OrderedMap.get?_modify, if_pos rfl]

/-- Adding to a cell is refused where it is closed or a read-only length is in the way. -/
theorem add_eq (h : Heap) (c : Cell) (k : Key) (p : Property) :
    h.add c k p =
      if c.isExtensible = false then (.error (.notExtensible k), c)
      else if h.growth? c k ≠ none ∧ c.lengthWritable = false then
        (.error (.frozenWrite .length), c)
      else (.ok (), (h.grown c k).withProperty k p) := by
  rw [add, grow_eq]
  by_cases hx : c.isExtensible = false
  · simp [hx]
  · rw [if_neg hx]
    split_ifs <;> simp_all

theorem lengthWritable_eq_false_iff :
    c.lengthWritable = false ↔ ∃ q, c.properties.get? .length = some q ∧ q.writable = false := by
  rw [Cell.lengthWritable]
  cases c.properties.get? .length <;> simp

/-- An array with a read-only length has no room for the key, an index past its end. -/
def Overflows (h : Heap) (r : Ref) (k : Key) : Prop :=
  ∃ (i : ArrayIndex) (n : Nat) (q : Property), k = .index i ∧ h.kind r = .array ∧
    h.length? r = some n ∧ n ≤ i.val ∧ h.own? r .length = some q ∧ q.writable = false

theorem length?_of_array (ha : h.kind r = .array) :
    h.length? r = (h.own? r .length).map fun p => (h.toNumber p.value).clamp32 := by
  rw [length?, ha]

theorem storedLength_of_own? (hp : h.own? r .length = some p) :
    h.storedLength (h.cell r) = (h.toNumber p.value).clamp32 := by
  rw [own?] at hp
  rw [storedLength, hp]

theorem overflows_iff : h.Overflows r k ↔
    h.growth? (h.cell r) k ≠ none ∧ (h.cell r).lengthWritable = false := by
  rw [lengthWritable_eq_false_iff, Option.ne_none_iff_exists']
  simp only [growth?_eq_some_iff]
  constructor
  · rintro ⟨i, n, q, rfl, ha, hn, hle, hq, hw⟩
    rw [length?_of_array ha, hq, Option.map_some, ← storedLength_of_own? hq] at hn
    cases hn
    exact ⟨⟨_, i, rfl, ha, hle, rfl⟩, q, hq, hw⟩
  · rintro ⟨⟨_, i, rfl, ha, hle, rfl⟩, q, hq, hw⟩
    refine ⟨i, _, q, rfl, ha, ?_, hle, hq, hw⟩
    rw [length?_of_array ha, show h.own? r .length = some q from hq, Option.map_some,
      storedLength_of_own? hq]

/-! ### What is stored -/

/-- The second heap comes from the first by storing a property under a key of an object. -/
structure Stores (h : Heap) (r : Ref) (k : Key) (p : Property) (h' : Heap) : Prop where
  size : h'.size = h.size
  /-- Other objects stay as they are, and so do prototype, level and kind of this one. -/
  cell : ∀ s, s ≠ r → h'.cell s = h.cell s
  frames : (h.cell r).Frames (h'.cell r)
  own : h'.own? r k = some p
  /-- The key keeps its place; a new one comes last. -/
  keys : (h'.cell r).properties.keys =
    (h.cell r).properties.keys ++ if (h.own? r k).isSome then [] else [k]
  other : ∀ j, j ≠ k → j ≠ .length → h'.own? r j = h.own? r j
  /-- The length of an array goes along with a new index that is past its end. -/
  grows : ∀ n, h.own? r k = none → h.growth? (h.cell r) k = some n →
    h'.own? r .length = (h.own? r .length).map ({ · with value := .ofNat n })
  length : k ≠ .length → h.own? r k ≠ none ∨ h.growth? (h.cell r) k = none →
    h'.own? r .length = h.own? r .length

/-- Changing an own property. -/
theorem stores_modify (hr : r.id < h.size) {f : Property → Property}
    (hp : h.own? r k = some p) :
    h.Stores r k (f p) (h.put r { h.cell r with
      properties := (h.cell r).properties.modify k f }) := by
  have hown : ∀ j, (h.put r { h.cell r with
      properties := (h.cell r).properties.modify k f }).own? r j =
        if j = k then (h.own? r j).map f else h.own? r j := by
    intro j
    rw [own?, cell_put_self hr]
    exact OrderedMap.get?_modify _ _ _ _
  constructor
  case size => exact size_put _ _ _
  case cell => exact fun s hs => cell_put_of_ne hs _ _
  case frames =>
    rw [cell_put_self hr]
    exact (h.cell r).frames_properties _
  case own => rw [hown, if_pos rfl, hp, Option.map_some]
  case keys =>
    rw [cell_put_self hr, hp]
    simp
  case other => exact fun j hj _ => by rw [hown, if_neg hj]
  case grows =>
    intro n hk
    rw [hp] at hk
    cases hk
  case length => exact fun hk _ => by rw [hown, if_neg hk.symm]

/-- Adding a property. -/
theorem stores_add (hr : r.id < h.size) (hk : h.own? r k = none) (p : Property) :
    h.Stores r k p (h.put r ((h.grown (h.cell r) k).withProperty k p)) := by
  have hown : ∀ j, (h.put r ((h.grown (h.cell r) k).withProperty k p)).own? r j =
      if j = k then some p else (h.grown (h.cell r) k).properties.get? j := by
    intro j
    rw [own?, cell_put_self hr]
    exact OrderedMap.get?_insert _ _ _ _
  constructor
  case size => exact size_put _ _ _
  case cell => exact fun s hs => cell_put_of_ne hs _ _
  case frames =>
    rw [cell_put_self hr]
    exact (h.frames_grown _ k).trans (Cell.frames_properties _ _)
  case own => rw [hown, if_pos rfl]
  case keys =>
    have hnew : k ∉ (h.cell r).properties.keys := OrderedMap.get?_eq_none_iff.1 hk
    rw [cell_put_self hr, Cell.withProperty, OrderedMap.keys_insert, keys_grown, if_neg hnew, hk]
    simp
  case other => exact fun j hj hl => by rw [hown, if_neg hj, get?_grown hl, own?]
  case grows =>
    intro n _ hn
    rw [hown, if_neg (ne_length_of_growth? hn).symm, get?_length_grown hn, own?]
  case length =>
    intro hl hn
    rw [hown, if_neg hl.symm, grown_of_none (hn.resolve_left fun hne => hne hk), own?]

/-! ### The length of an array -/

namespace Stores

variable (hs : h.Stores r k p h')

include hs

theorem kind_eq (s : Ref) : h'.kind s = h.kind s := by
  by_cases hr : s = r
  · subst hr
    exact hs.frames.kind
  · rw [kind, hs.cell s hr, kind]

end Stores

end ScriptSandbox.Heap
