import ScriptSandbox.Proofs.Heap.Chain

/-! # Larger heaps

A heap extends another one if it has all its objects, just as they are. What objects find by a key
stays the same then, since their prototypes are among the old objects.
-/

namespace ScriptSandbox.Heap

variable {h h' h'' : Heap} {r : Ref} {k : Key} {start : Option Ref} {rs : List Ref}

structure Extends (h h' : Heap) : Prop where
  /-- Objects are only ever added. -/
  size_le : h.size ≤ h'.size
  cell_eq : ∀ r, r.id < h.size → h'.cell r = h.cell r

namespace Extends

protected theorem refl (h : Heap) : h.Extends h := ⟨Nat.le_refl _, fun _ _ => rfl⟩

protected theorem trans (he : h.Extends h') (he' : h'.Extends h'') : h.Extends h'' where
  size_le := he.size_le.trans he'.size_le
  cell_eq r hr := (he'.cell_eq r (hr.trans_le he.size_le)).trans (he.cell_eq r hr)

protected theorem alloc (h : Heap) (c : Cell) : h.Extends (h.alloc c).2 where
  size_le := by
    rw [size_alloc]
    exact Nat.le_succ _
  cell_eq _ hr := cell_alloc_of_lt hr c

/-- Only objects that are there have a kind of their own. -/
theorem kind_eq (he : h.Extends h') (hr : h.kind r ≠ .ordinary) : h'.kind r = h.kind r := by
  have hlt : r.id < h.size := ref_lt_of_kind_ne rfl hr
  rw [kind, kind, he.cell_eq r hlt]

theorem lineage (he : h.Extends h') (hg : h.Grounded) (hs : h.Holds start)
    (hl : h.Lineage start rs) : h'.Lineage start rs := by
  induction hl with
  | nil => exact .nil
  | @cons r rs _ ih =>
    refine .cons ?_
    rw [prototype, he.cell_eq r (hs r rfl)]
    exact ih fun s hs => hg r s hs

/-- Objects find the same properties by a key as before. -/
theorem find?_eq (he : h.Extends h') (ha : h.Acyclic) (hg : h.Grounded) (hr : r.id < h.size)
    (k : Key) : h'.find? r k = h.find? r k := by
  have hs : h.Holds (some r) := holds_some hr
  have hl := lineage_chain ha hg hs
  have hchain : h'.chain (some r) = h.chain (some r) :=
    (he.lineage hg hs hl).walk_eq ((length_walk_le ha hg hs _).trans he.size_le)
  have hown : ∀ s ∈ h.chain (some r), h'.own? s k = h.own? s k := fun s hmem => by
    rw [own?, own?, he.cell_eq s (lt_size_of_mem_walk hg hs hmem)]
  rw [find?, find?, findFrom, findFrom, hchain, ← List.head?_filterMap, ← List.head?_filterMap,
    List.filterMap_congr hown]

end Extends

/-! ### New plain objects

A place that is not taken reads as a plain object, so values convert as before once it is taken by
one. -/

section Plain

variable {c : Cell}

theorem kind_alloc (hc : c.kind = .ordinary) (r : Ref) : (h.alloc c).2.kind r = h.kind r := by
  by_cases hr : r.id < h.size
  · exact congrArg Cell.kind (cell_alloc_of_lt hr c)
  · have hold : h.kind r = .ordinary := by
      by_contra hne
      exact hr (ref_lt_of_kind_ne rfl hne)
    by_contra hne
    rw [hold] at hne
    have hlt : r.id < (h.alloc c).2.size := ref_lt_of_kind_ne rfl hne
    rw [size_alloc] at hlt
    obtain rfl : r = (h.alloc c).1 :=
      congrArg Ref.mk (Nat.le_antisymm (Nat.le_of_lt_succ hlt) (Nat.le_of_not_lt hr))
    exact hne ((congrArg Cell.kind (cell_alloc_self h c)).trans hc)

theorem toNumber_alloc (hc : c.kind = .ordinary) (v : Value) :
    (h.alloc c).2.toNumber v = h.toNumber v := by
  cases v with
  | object r => rw [toNumber, toNumber, kind_alloc hc]
  | _ => rfl

theorem text_alloc (hc : c.kind = .ordinary) (v : Value) : (h.alloc c).2.text v = h.text v := by
  cases v with
  | object r =>
    have hkind := kind_alloc (h := h) hc r
    by_cases hr : h.kind r = .ordinary
    · rw [text, text, objectText, objectText, hkind, hr]
    · have hcell := cell_alloc_of_lt (ref_lt_of_kind_ne rfl hr) c
      have hlength : (h.alloc c).2.length? r = h.length? r := by
        simp only [length?, hkind, own?, hcell, toNumber_alloc hc]
      have helement : (h.alloc c).2.elementText r = h.elementText r := by
        funext i
        rw [elementText, elementText, own?, own?, hcell]
      rw [text, text, objectText, objectText, hkind, hlength, helement, hcell]
  | _ => rfl

theorem toKey_alloc (hc : c.kind = .ordinary) (v : Value) :
    (h.alloc c).2.toKey v = h.toKey v := by
  cases v with
  | number x => rfl
  | _ => exact congrArg Key.ofString (text_alloc hc _)

end Plain

end ScriptSandbox.Heap
