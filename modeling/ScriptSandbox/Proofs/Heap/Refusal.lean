import ScriptSandbox.Proofs.Heap.Resizing

/-! # Refused changes

All checks of a change come before its first write, so a change that fails leaves the heap as it
was. Cutting an array back is the exception: what it has removed before it meets a locked element
stays removed.
-/

namespace ScriptSandbox.Heap

variable {h h' : Heap} {r : Ref} {c d : Cell} {k : Key} {p : Property} {v : Value} {n : Nat}
  {b : ArrayIndex} {f : Failure} {close : Bool} {desc : Descriptor} {target : Option Ref}

/-- Cutting an array back to the length that a value stands for has stopped at a locked element, and
has changed no other object. -/
structure CutShort (h : Heap) (r : Ref) (v : Value) (b : ArrayIndex) (h' : Heap) : Prop where
  array : h.kind r = .array
  stop : ∃ n, h.arrayLength? v = some n ∧ n < h.storedLength (h.cell r) ∧ (h.cell r).IsStop n b
  size : h'.size = h.size
  cell : ∀ s, s ≠ r → h'.cell s = h.cell s
  frames : (h.cell r).Frames (h'.cell r)

/-- The outcome of resizing a cell to the length that a value stands for. -/
def IsResizing (h : Heap) (c : Cell) (v : Value) (outcome : Except Failure Unit × Cell) : Prop :=
  ∃ n close, h.arrayLength? v = some n ∧ h.resize c n close = outcome

theorem resize_error (he : h.resize c n close = (.error f, d)) :
    n < h.storedLength c ∧ ∃ b, c.IsStop n b ∧ f = .notConfigurable (.index b) := by
  by_cases hlt : n < h.storedLength c
  · refine ⟨hlt, ?_⟩
    rw [resize_of_lt hlt, c.cut_eq] at he
    cases hd : c.stuck n with
    | nil =>
      rw [hd] at he
      cases he
    | cons b rest =>
      rw [hd] at he
      cases he
      exact ⟨b, (Cell.mem_removed_iff_of_stuck_eq_cons hd).1, rfl⟩
  · rw [resize_of_le (Nat.not_lt.1 hlt)] at he
    cases he

theorem cutShort_of_resize (hr : r.id < h.size) (ha : (h.cell r).isArray)
    (hn : h.arrayLength? v = some n) (he : h.resize (h.cell r) n close = (.error f, d)) :
    ∃ b, h.CutShort r v b (h.put r d) ∧ f = .notConfigurable (.index b) := by
  obtain ⟨hlt, b, hb, rfl⟩ := resize_error he
  refine ⟨b, ⟨by simpa [Cell.isArray, kind] using ha, ⟨n, hn, hlt, hb⟩, size_put _ _ _,
    fun s hs => cell_put_of_ne hs _ _, ?_⟩, rfl⟩
  rw [cell_put_self hr]
  have hframes := h.frames_resize (h.cell r) n close
  rwa [he] at hframes

section ChangeCell

variable {g : Cell → Except Failure Unit × Cell} (he : h.changeCell r g = (.error f, h'))

include he

theorem error_of_changeCell : (g (h.cell r)).1 = .error f := congrArg Prod.fst he

theorem changeCell_eq_of_cell_eq (hg : (g (h.cell r)).2 = h.cell r) : h' = h := by
  have hh' : h.put r (g (h.cell r)).2 = h' := congrArg Prod.snd he
  rw [← hh', hg, put_cell]

theorem cutShort_of_changeCell (ha : (h.cell r).isArray)
    (hg : h.IsResizing (h.cell r) v (g (h.cell r))) :
    h' = h ∨ ∃ b, h.CutShort r v b h' ∧ f = .notConfigurable (.index b) := by
  obtain ⟨n, close, hn, hg⟩ := hg
  have hh' : h.put r (g (h.cell r)).2 = h' := congrArg Prod.snd he
  rw [← hh']
  -- past the objects there is no cell to put back
  by_cases hr : r.id < h.size
  · exact Or.inr (cutShort_of_resize hr ha hn (hg.trans (Prod.ext (error_of_changeCell he) rfl)))
  · exact Or.inl (put_of_size_le (Nat.not_lt.1 hr) _)

end ChangeCell

/-! ### Changes of one cell -/

theorem add_error (he : (h.add c k p).1 = .error f) : (h.add c k p).2 = c := by
  rw [add_eq] at he ⊢
  split_ifs at he ⊢
  · rfl
  · rfl

theorem redefine_error (he : (c.redefine k p desc).1 = .error f) : (c.redefine k p desc).2 = c := by
  rw [Cell.redefine] at he ⊢
  split_ifs at he ⊢
  rfl

theorem delete_error (he : (c.delete k).1 = .error f) : (c.delete k).2 = c := by
  rw [Cell.delete] at he ⊢
  split_ifs at he ⊢
  rfl

theorem assignIn_error (he : (h.assignIn c k v).1 = .error f) :
    (h.assignIn c k v).2 = c ∨
      k = .length ∧ c.isArray ∧ h.IsResizing c v (h.assignIn c k v) := by
  cases hp : c.properties.get? k with
  | none =>
    simp only [assignIn, hp] at he ⊢
    exact Or.inl (add_error he)
  | some p =>
    by_cases hw : p.writable
    · by_cases ha : c.isArray ∧ k = .length
      · obtain ⟨ha, rfl⟩ := ha
        cases hn : h.arrayLength? v with
        | none =>
          left
          simp [assignIn, hp, hw, ha, hn]
        | some n =>
          refine Or.inr ⟨rfl, ha, n, false, hn, ?_⟩
          simp [assignIn, hp, hw, ha, hn]
      · simp [assignIn, hp, hw, ha] at he
    · left
      simp [assignIn, hp, hw]

theorem defineLength_error (he : (h.defineLength c desc).1 = .error f) :
    (h.defineLength c desc).2 = c ∨
      ∃ v, desc.value = some v ∧ h.IsResizing c v (h.defineLength c desc) := by
  cases hp : c.properties.get? .length with
  | none =>
    left
    simp [defineLength, hp]
  | some p =>
    cases hv : desc.value with
    | none =>
      simp only [defineLength, hp, hv] at he ⊢
      exact Or.inl (redefine_error he)
    | some v =>
      cases hn : h.arrayLength? v with
      | none =>
        left
        simp [defineLength, hp, hv, hn]
      | some n =>
        by_cases hs : { desc with value := none }.suits p ∧ (p.writable ∨ n = h.storedLength c)
        · refine Or.inr ⟨v, rfl, n, desc.writable = some false, hn, ?_⟩
          simp only [defineLength, hp, hv, hn, if_pos hs]
        · left
          simp only [defineLength, hp, hv, hn, if_neg hs]

theorem defineIn_error (he : (h.defineIn c k desc).1 = .error f) :
    (h.defineIn c k desc).2 = c ∨ k = .length ∧ c.isArray ∧
      ∃ v, desc.value = some v ∧ h.IsResizing c v (h.defineIn c k desc) := by
  by_cases ha : c.isArray ∧ k = .length
  · simp only [defineIn, if_pos ha] at he ⊢
    exact (defineLength_error he).imp_right fun hcut => ⟨ha.2, ha.1, hcut⟩
  · simp only [defineIn, if_neg ha] at he ⊢
    left
    cases hp : c.properties.get? k with
    | none =>
      rw [hp] at he
      exact add_error he
    | some p =>
      rw [hp] at he
      exact redefine_error he

/-! ### Changes of the heap -/

theorem assign_error (he : h.assign r k v = (.error f, h')) :
    h' = h ∨ k = .length ∧ ∃ b, h.CutShort r v b h' ∧ f = .notConfigurable (.index b) := by
  by_cases hs : h.isShielded r k
  · rw [assign, if_pos hs] at he
    cases he
    exact Or.inl rfl
  · rw [assign, if_neg hs] at he
    rcases assignIn_error (error_of_changeCell he) with hc | ⟨hk, ha, hg⟩
    · exact Or.inl (changeCell_eq_of_cell_eq he hc)
    · exact (cutShort_of_changeCell he ha hg).imp_right fun hcut => ⟨hk, hcut⟩

theorem define_error (he : h.define r k desc = (.error f, h')) :
    h' = h ∨ k = .length ∧ ∃ v b, desc.value = some v ∧ h.CutShort r v b h' ∧
      f = .notConfigurable (.index b) := by
  rcases defineIn_error (error_of_changeCell he) with hc | ⟨hk, ha, v, hv, hg⟩
  · exact Or.inl (changeCell_eq_of_cell_eq he hc)
  · rcases cutShort_of_changeCell he ha hg with heq | ⟨b, hcut⟩
    · exact Or.inl heq
    · exact Or.inr ⟨hk, v, b, hv, hcut⟩

theorem relink_error (he : h.relink r target = (.error f, h')) : h' = h := by
  simp only [relink] at he
  split_ifs at he
  · cases he
  · cases he
    rfl
  · cases he
  · cases he
    rfl

/-! ### Rejected writes -/

theorem settle_ne_ok_true {mode : WriteMode} {result : Except Failure Unit}
    (hs : mode.settle result ≠ .ok true) : ∃ f, result = .error f := by
  cases result with
  | ok u => exact absurd rfl hs
  | error f => exact ⟨f, rfl⟩

theorem set_refused {mode : WriteMode} {result : Except Failure Bool}
    (he : h.set r k v mode = (result, h')) (hresult : result ≠ .ok true) :
    h' = h ∨ k = .length ∧ ∃ b, h.CutShort r v b h' ∧
      (result = .ok false ∨ result = .error (.notConfigurable (.index b))) := by
  rw [set, Prod.mk.injEq] at he
  obtain ⟨rfl, rfl⟩ := he
  obtain ⟨f, hf⟩ := settle_ne_ok_true hresult
  rcases assign_error (Prod.ext hf rfl) with heq | ⟨hk, b, hcut, rfl⟩
  · exact Or.inl heq
  · refine Or.inr ⟨hk, b, hcut, ?_⟩
    rw [hf]
    cases mode with
    | silent => exact Or.inl rfl
    | strict => exact Or.inr rfl

theorem delete_refused {mode : WriteMode} {result : Except Failure Bool}
    (he : h.delete r k mode = (result, h')) (hresult : result ≠ .ok true) : h' = h := by
  rw [delete, Prod.mk.injEq] at he
  obtain ⟨rfl, rfl⟩ := he
  obtain ⟨f, hf⟩ := settle_ne_ok_true hresult
  have he : h.changeCell r (·.delete k) = (.error f, (h.changeCell r (·.delete k)).2) :=
    Prod.ext hf rfl
  exact changeCell_eq_of_cell_eq he (delete_error (error_of_changeCell he))

end ScriptSandbox.Heap
