import ScriptSandbox.Proofs.Heap.Extends

/-! # Values with a text

All values have a text but an array or an arguments object that is its own length.
-/

namespace ScriptSandbox.Heap

variable {h : Heap} {v : Value} {r : Ref} {s : String} {c : Cell}

theorem text?_eq_none_iff : h.text? v = none ↔ ∃ r, v = .object r ∧ h.MeasuresItself r := by
  cases v with
  | object r => simp [text?]
  | _ => simp [text?]

theorem text_of_text? (hs : h.text? v = some s) : h.text v = s := by
  cases v with
  | object r => exact Option.some.inj (Option.ite_none_left_eq_some.1 hs).2
  | _ => exact Option.some.inj hs

theorem text?_eq_some_text (hv : h.text? v ≠ none) : h.text? v = some (h.text v) := by
  obtain ⟨s, hs⟩ := Option.ne_none_iff_exists'.1 hv
  rw [hs, text_of_text? hs]

/-- Objects of other kinds have a text whatever their length is. -/
theorem text?_of_kind_ne (ha : h.kind r ≠ .array) (hg : h.kind r ≠ .arguments) :
    h.text? (.object r) = some (h.text (.object r)) :=
  if_neg fun hl => hl.1.elim ha hg

theorem measuresItself_alloc (hc : c.kind = .ordinary) :
    (h.alloc c).2.MeasuresItself r ↔ h.MeasuresItself r := by
  have hkind := kind_alloc (h := h) hc r
  rw [MeasuresItself, MeasuresItself, hkind]
  refine and_congr_right fun hk => ?_
  have hne : h.kind r ≠ .ordinary := by rcases hk with hk | hk <;> simp [hk]
  rw [own?, own?, cell_alloc_of_lt (ref_lt_of_kind_ne rfl hne)]

/-- A value converts as before when a plain object is new. -/
theorem text?_alloc (hc : c.kind = .ordinary) (v : Value) : (h.alloc c).2.text? v = h.text? v := by
  cases v with
  | object r =>
    have htext : (h.alloc c).2.objectText r = h.objectText r := text_alloc hc (.object r)
    rw [text?, text?, htext]
    simp only [measuresItself_alloc hc]
  | _ => rfl

end ScriptSandbox.Heap
