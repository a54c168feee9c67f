import ScriptSandbox.Heap.Inherit
import ScriptSandbox.Proofs.Cell.Sound

/-! # Sound heaps

The operations on a heap, cell by cell: each of them keeps a sound cell sound and lets it evolve.
-/

namespace ScriptSandbox.Heap

variable {h : Heap} {r : Ref} {c : Cell}

theorem cell_of_size_le (hr : h.size ≤ r.id) : h.cell r = {} := by
  simp only [size] at hr
  simp [cell, Array.getD_eq_getD_getElem?, hr]

theorem ref_lt_of_kind_ne {k : Kind} (hk : h.kind r = k) (hne : k ≠ .ordinary) :
    r.id < h.size := by
  by_contra hlt
  refine hne (hk.symm.trans ?_)
  rw [kind, cell_of_size_le (Nat.not_lt.1 hlt)]

theorem lt_size_of_hostType {c : HostClass} (hc : h.kind r = .hostType c) : r.id < h.size :=
  ref_lt_of_kind_ne hc nofun

theorem lt_size_of_own? {k : Key} {p : Property} (hp : h.own? r k = some p) : r.id < h.size := by
  by_contra hlt
  rw [own?, cell_of_size_le (Nat.not_lt.1 hlt)] at hp
  cases hp

/-- An own property is what is found first. -/
theorem find?_of_own? {k : Key} {p : Property} (hp : h.own? r k = some p) :
    h.find? r k = some p := by
  obtain ⟨n, hn⟩ := Nat.exists_eq_add_one.2 (Nat.zero_lt_of_lt (lt_size_of_own? hp))
  rw [find?, findFrom, chain, hn, walk, List.findSome?_cons, hp]

theorem get_of_own? {k : Key} {p : Property} (hp : h.own? r k = some p) : h.get r k = p.value := by
  rw [get, find?_of_own? hp]

theorem put_of_size_le (hr : h.size ≤ r.id) (c : Cell) : h.put r c = h := by
  simp only [size] at hr
  simp [put, Array.setIfInBounds, Nat.not_lt.2 hr]

theorem put_cell (h : Heap) (r : Ref) : h.put r (h.cell r) = h := by
  by_cases hr : r.id < h.size
  · simp only [size] at hr
    simp only [put, cell, Array.getD_eq_getD_getElem?, Array.getElem?_eq_getElem hr,
      Option.getD_some, Array.setIfInBounds, hr, ↓reduceDIte, Array.set_getElem_self]
  · exact put_of_size_le (Nat.le_of_not_lt hr) _

theorem put_put (h : Heap) (r : Ref) (c c' : Cell) : (h.put r c).put r c' = h.put r c' := by
  simp [put]

theorem changeCell_of_eq {g : Cell → Except Failure Unit × Cell} {result : Except Failure Unit}
    (hc : g (h.cell r) = (result, c)) : h.changeCell r g = (result, h.put r c) := by
  rw [changeCell, hc]

theorem exists_of_changeCell {g : Cell → Except Failure Unit × Cell} {h' : Heap}
    {result : Except Failure Unit} (hc : h.changeCell r g = (result, h')) :
    ∃ c, g (h.cell r) = (result, c) ∧ h' = h.put r c := by
  cases hg : g (h.cell r) with
  | mk result' c =>
    rw [changeCell_of_eq hg] at hc
    cases hc
    exact ⟨c, rfl, rfl⟩

/-- What does not change the cell does not change the heap. -/
theorem changeCell_of_eq_self {g : Cell → Except Failure Unit × Cell}
    {result : Except Failure Unit} (hc : g (h.cell r) = (result, h.cell r)) :
    h.changeCell r g = (result, h) := by
  rw [changeCell_of_eq hc, put_cell]

/-- A new object changes no cell but its own. -/
theorem cell_alloc_cases (h : Heap) (c : Cell) (r : Ref) :
    (h.alloc c).2.cell r = h.cell r ∨ r = (h.alloc c).1 ∧ (h.alloc c).2.cell r = c := by
  rcases Nat.lt_trichotomy r.id h.size with hlt | heq | hgt
  · exact Or.inl (cell_alloc_of_lt hlt c)
  · have hself : r = (h.alloc c).1 := by
      cases r
      simpa [alloc] using heq
    refine Or.inr ⟨hself, ?_⟩
    rw [hself, cell_alloc_self]
  · have hgt' : (h.alloc c).2.size ≤ r.id := by
      rw [size_alloc]
      exact hgt
    rw [cell_of_size_le hgt', cell_of_size_le hgt.le]
    exact Or.inl rfl

/-- Putting a cell relates every cell to what it becomes, if it does so for the one that is put. -/
theorem cell_put_rel {R : Cell → Cell → Prop} (hrefl : ∀ c, R c c) (hc : R (h.cell r) c)
    (s : Ref) : R (h.cell s) ((h.put r c).cell s) := by
  by_cases hr : r.id < h.size
  · by_cases hs : s = r
    · rw [hs, cell_put_self hr]
      exact hc
    · rw [cell_put_of_ne hs]
      exact hrefl _
  · rw [put_of_size_le (Nat.le_of_not_lt hr)]
    exact hrefl _

/-- What a change of one cell does to each cell. -/
theorem cell_changeCell_rel {R : Cell → Cell → Prop} (hrefl : ∀ c, R c c)
    {f : Cell → Except Failure Unit × Cell} (hf : R (h.cell r) (f (h.cell r)).2) (s : Ref) :
    R (h.cell s) ((h.changeCell r f).2.cell s) :=
  cell_put_rel hrefl hf s

theorem cell_assign_rel {R : Cell → Cell → Prop} (hrefl : ∀ c, R c c) {k : Key} {v : Value}
    (hf : R (h.cell r) (h.assignIn (h.cell r) k v).2) (s : Ref) :
    R (h.cell s) ((h.assign r k v).2.cell s) := by
  unfold assign
  split
  · exact hrefl _
  · exact cell_changeCell_rel hrefl hf s

/-- Linking puts the prototype into an extensible cell or leaves the heap as it is. -/
theorem relink_cases (h : Heap) (r : Ref) (target : Option Ref) :
    (h.relink r target).2 = h ∨ (h.cell r).level = .extensible ∧
      (h.relink r target).2 = h.put r { h.cell r with prototype := target } := by
  simp only [relink]
  split
  · exact Or.inl rfl
  · split
    · exact Or.inl rfl
    · split
      · rename_i hx
        exact Or.inr ⟨by simpa [Cell.isExtensible] using hx, rfl⟩
      · exact Or.inl rfl

@[simp] theorem size_changeCell (h : Heap) (r : Ref) (f : Cell → Except Failure Unit × Cell) :
    (h.changeCell r f).2.size = h.size :=
  h.size_put _ _

@[simp] theorem size_assign (h : Heap) (r : Ref) (k : Key) (v : Value) :
    (h.assign r k v).2.size = h.size := by
  unfold assign
  split
  · rfl
  · exact h.size_changeCell _ _

@[simp] theorem size_relink (h : Heap) (r : Ref) (target : Option Ref) :
    (h.relink r target).2.size = h.size := by
  rcases h.relink_cases r target with he | ⟨-, he⟩
  · rw [he]
  · rw [he, size_put]

section Sound

variable {s : Ref} {fits : Prop} (hs : (h.cell s).Sound fits)

include hs

theorem moves_assign (r : Ref) (k : Key) (v : Value) :
    (h.cell s).Moves ((h.assign r k v).2.cell s) :=
  cell_assign_rel (R := fun c d => c.Sound fits → c.Moves d) (fun c _ => .refl c)
    (fun hr => moves_assignIn hr k v) s hs

theorem moves_define (r : Ref) (k : Key) (d : Descriptor) :
    (h.cell s).Moves ((h.define r k d).2.cell s) :=
  cell_changeCell_rel (R := fun c d => c.Sound fits → c.Moves d) (fun c _ => .refl c)
    (fun hr => moves_defineIn hr k d) s hs

theorem sound_relink (r : Ref) (target : Option Ref) :
    ((h.relink r target).2.cell s).Sound fits := by
  rcases h.relink_cases r target with he | ⟨-, he⟩
  · rw [he]
    exact hs
  · rw [he]
    exact cell_put_rel (R := fun c d => c.Sound fits → d.Sound fits) (fun _ hc => hc)
      (fun hr => hr.relink target) s hs

theorem sound_put_raise (r : Ref) (l : Level) :
    ((h.put r ((h.cell r).raise l)).cell s).Sound fits :=
  cell_put_rel (R := fun c d => c.Sound fits → d.Sound fits) (fun _ hc => hc)
    (fun hr => hr.raise l) s hs

end Sound

theorem moves_changeCell_delete (h : Heap) (r : Ref) (k : Key) (s : Ref) :
    (h.cell s).Moves ((h.changeCell r (·.delete k)).2.cell s) :=
  cell_changeCell_rel .refl ((h.cell r).moves_delete k) s

theorem evolves_relink (h : Heap) (r : Ref) (target : Option Ref) (s : Ref) :
    (h.cell s).Evolves ((h.relink r target).2.cell s) := by
  rcases h.relink_cases r target with he | ⟨hl, he⟩
  · rw [he]
    exact .refl _
  · rw [he]
    exact cell_put_rel .refl (Cell.evolves_relink hl target) s

theorem evolves_put_raise (h : Heap) (r : Ref) (l : Level) (s : Ref) :
    (h.cell s).Evolves ((h.put r ((h.cell r).raise l)).cell s) :=
  cell_put_rel .refl (Cell.evolves_raise _ l) s

/-- Where there is no object yet, the cell is sound. -/
theorem sound_of_size_le (hr : h.size ≤ r.id) (fits : Prop) : (h.cell r).Sound fits := by
  rw [cell_of_size_le hr]
  exact ⟨Cell.closed_of_extensible rfl, fun hk => by cases hk⟩

end ScriptSandbox.Heap
