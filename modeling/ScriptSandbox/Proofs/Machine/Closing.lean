import Mathlib.Order.MinMax
import ScriptSandbox.Proofs.Machine.Operation

/-! # Raising levels repeatedly

An object that is raised to several levels comes to be what raising it to the highest of them makes
of it. So neither the order of the requests matters nor how often each is made, and a lower one makes
no difference beside a higher one.
-/

namespace ScriptSandbox

namespace Level

namespace Ranked

scoped instance : LinearOrder Level where
  le_refl := Level.le_refl
  le_trans _ _ _ := Level.le_trans
  le_antisymm l l' h h' := by
    have hrank : l.rank = l'.rank := Nat.le_antisymm h h'
    revert hrank
    cases l <;> cases l' <;> decide
  le_total l l' := Nat.le_total l.rank l'.rank
  toDecidableLE := inferInstance

end Ranked

open scoped Ranked

variable {l l' : Level} {ls ls' : List Level}

theorem extensible_le (l : Level) : .extensible ≤ l := Nat.zero_le _

/-- The highest of some levels, extensible without any. -/
def highest : List Level → Level := List.foldr max .extensible

theorem highest_cons (l : Level) (ls : List Level) : highest (l :: ls) = max l (highest ls) := rfl

theorem le_highest (hl : l ∈ ls) : l ≤ highest ls := by
  induction ls with
  | nil => cases hl
  | cons l' ls ih =>
    rw [highest_cons]
    rcases List.mem_cons.1 hl with rfl | hl
    · exact le_max_left l _
    · exact (ih hl).trans (le_max_right l' _)

theorem highest_mem (hne : ls ≠ []) : highest ls ∈ ls := by
  induction ls with
  | nil => exact absurd rfl hne
  | cons l ls ih =>
    rw [highest_cons]
    cases ls with
    | nil => simp [highest, max_eq_left (extensible_le l)]
    | cons l' ls =>
      have hrest := ih (List.cons_ne_nil _ _)
      rcases max_choice l (highest (l' :: ls)) with h | h
      · rw [h]
        exact List.mem_cons_self
      · rw [h]
        exact List.mem_cons_of_mem _ hrest

theorem highest_le (h : ∀ l ∈ ls, ∃ l' ∈ ls', l ≤ l') : highest ls ≤ highest ls' := by
  by_cases hne : ls = []
  · rw [hne]
    exact extensible_le _
  · obtain ⟨l', hl', hle⟩ := h _ (highest_mem hne)
    exact hle.trans (le_highest hl')

/-- Lists of which each has a level as high as any of the other have one highest level. -/
theorem highest_eq (h : ∀ l ∈ ls, ∃ l' ∈ ls', l ≤ l') (h' : ∀ l' ∈ ls', ∃ l ∈ ls, l' ≤ l) :
    highest ls = highest ls' :=
  le_antisymm (highest_le h) (highest_le h')

end Level

open scoped Level.Ranked

theorem Property.close_close {l l' : Level} (h : l ≤ l') (p : Property) :
    (p.close l).close l' = p.close l' := by
  revert h
  cases l <;> cases l' <;> simp +decide [Property.close]

theorem OrderedMap.mapValues_mapValues {κ α : Type} (m : OrderedMap κ α) (f g : α → α) :
    (m.mapValues f).mapValues g = m.mapValues (g ∘ f) := by
  simp [mapValues, Function.comp_def]

namespace Cell

variable {c : Cell} {l l' : Level}

theorem raise_of_le (h : l ≤ c.level) : c.raise l = c := if_pos h

theorem raise_of_not_le (h : ¬l ≤ c.level) :
    c.raise l = { c with level := l, properties := c.properties.mapValues (·.close l) } :=
  if_neg h

/-- Of two levels that a cell is raised to, the lower one makes no difference. -/
theorem raise_raise (c : Cell) (l l' : Level) : (c.raise l).raise l' = c.raise (max l l') := by
  by_cases hl : l ≤ c.level
  · rw [raise_of_le hl]
    rcases le_total l l' with h | h
    · rw [max_eq_right h]
    · rw [max_eq_left h, raise_of_le hl, raise_of_le (h.trans hl)]
  · rw [raise_of_not_le hl]
    by_cases h : l' ≤ l
    · rw [raise_of_le (c := { c with level := l, properties := _ }) h, max_eq_left h,
        raise_of_not_le hl]
    · have hle : l ≤ l' := (le_total l l').resolve_right h
      have hl' : ¬l' ≤ c.level := fun h' => hl (hle.trans h')
      have hclose : (fun p : Property => p.close l') ∘ (fun p : Property => p.close l) =
          fun p : Property => p.close l' :=
        funext (Property.close_close hle)
      rw [raise_of_not_le (c := { c with level := l, properties := _ }) h, max_eq_right hle,
        raise_of_not_le hl', OrderedMap.mapValues_mapValues, hclose]

/-- What raising a cell to a level above its own makes of it: from the sealed level on no property is
configurable, at the frozen one none is writable, and all else stays. -/
structure RaisesTo (c : Cell) (l : Level) (d : Cell) : Prop where
  level : d.level = l
  prototype : d.prototype = c.prototype
  kind : d.kind = c.kind
  keys : d.properties.keys = c.properties.keys
  property : ∀ k, d.properties.get? k = (c.properties.get? k).map fun p =>
    { value := p.value
      writable := if l = .frozen then false else p.writable
      enumerable := p.enumerable
      configurable := if .sealed ≤ l then false else p.configurable }

theorem raisesTo_raise (h : ¬l ≤ c.level) : c.RaisesTo l (c.raise l) := by
  rw [raise_of_not_le h]
  refine ⟨rfl, rfl, rfl, OrderedMap.keys_mapValues _ _, fun k => ?_⟩
  rw [OrderedMap.get?_mapValues]
  congr 1
  funext p
  cases l <;> simp +decide [Property.close]

end Cell

namespace Heap

variable {h : Heap} {r : Ref}

/-- Raising an object twice. -/
theorem put_raise_raise (h : Heap) (r : Ref) (l l' : Level) :
    (h.put r ((h.cell r).raise l)).put r (((h.put r ((h.cell r).raise l)).cell r).raise l') =
      h.put r ((h.cell r).raise (max l l')) := by
  by_cases hr : r.id < h.size
  · rw [put_put, cell_put_self hr, Cell.raise_raise]
  · rw [put_of_size_le (Nat.le_of_not_lt hr), put_of_size_le (Nat.le_of_not_lt hr),
      put_of_size_le (Nat.le_of_not_lt hr)]

end Heap

namespace Exec

variable {r : Ref} {ls ls' : List Level}

/-- Raises an object to some levels one after the other. -/
def raiseAll (r : Ref) : List Level → Exec Unit
  | [] => return
  | l :: ls => do
    discard (Operation.raise r l).exec
    raiseAll r ls

/-- The requests succeed, and leave what one for the highest level leaves. -/
theorem raiseAll_apply (r : Ref) (ls : List Level) (m : Machine) :
    raiseAll r ls m =
      .ok () (m.withHeap (m.heap.put r ((m.heap.cell r).raise (Level.highest ls)))) := by
  induction ls generalizing m with
  | nil =>
    have hle : Level.highest [] ≤ (m.heap.cell r).level := Level.extensible_le _
    rw [Cell.raise_of_le hle, Heap.put_cell]
    rfl
  | cons l ls ih =>
    have hfirst : discard (Operation.raise r l).exec m =
        .ok () (m.withHeap (m.heap.put r ((m.heap.cell r).raise l))) := rfl
    rw [raiseAll, bind_of_ok hfirst, ih]
    exact congrArg (fun h => EStateM.Result.ok () (m.withHeap h)) (m.heap.put_raise_raise r l _)

theorem raiseAll_congr (h : Level.highest ls = Level.highest ls') :
    raiseAll r ls = raiseAll r ls' := by
  funext m
  rw [raiseAll_apply, raiseAll_apply, h]

/-- Raising an object to several levels one after the other does what raising it to the highest of
them does, and so do all lists of requests that cover each other: requests may change places, be
repeated, and be left out beside higher ones. A request above the level of the object makes every
property read-only exactly if it is for the frozen level, and takes configurability from every
property exactly from the sealed level on; other requests change nothing. -/
theorem raiseAll_eq (r : Ref) (ls : List Level) :
    (raiseAll r ls = raiseAll r [Level.highest ls] ∧
      (∀ l ∈ ls, l ≤ Level.highest ls) ∧
      (Level.highest ls ∈ ls ∨ ls = [] ∧ Level.highest ls = .extensible)) ∧
    (∀ ls', (∀ l ∈ ls, ∃ l' ∈ ls', l ≤ l') → (∀ l' ∈ ls', ∃ l ∈ ls, l' ≤ l) →
      raiseAll r ls' = raiseAll r ls) ∧
    (∀ ls', raiseAll r (ls ++ ls') = raiseAll r (ls' ++ ls)) ∧
    raiseAll r (ls ++ ls) = raiseAll r ls ∧
    (∀ l l', l' ∈ ls → l ≤ l' →
      raiseAll r (l :: ls) = raiseAll r ls ∧ raiseAll r (ls ++ [l]) = raiseAll r ls) ∧
    (∀ m, raiseAll r ls m =
      .ok () (m.withHeap (m.heap.put r ((m.heap.cell r).raise (Level.highest ls))))) ∧
    ∀ (c : Cell) (l : Level), (l ≤ c.level → c.raise l = c) ∧
      (¬l ≤ c.level → c.RaisesTo l (c.raise l)) := by
  have hcover : ∀ {ls₁ ls₂ : List Level}, ls₁ ⊆ ls₂ → ∀ l ∈ ls₁, ∃ l' ∈ ls₂, l ≤ l' :=
    fun h l hl => ⟨l, h hl, le_rfl⟩
  refine ⟨⟨?_, fun _ => Level.le_highest, ?_⟩, fun ls' h h' => raiseAll_congr (Level.highest_eq h' h),
    fun ls' => ?_, ?_, fun l l' hl' hle => ⟨?_, ?_⟩, raiseAll_apply r ls,
    fun c l => ⟨Cell.raise_of_le, Cell.raisesTo_raise⟩⟩
  · exact raiseAll_congr (max_eq_left (Level.extensible_le _)).symm
  · by_cases hne : ls = []
    · exact Or.inr ⟨hne, hne ▸ rfl⟩
    · exact Or.inl (Level.highest_mem hne)
  · exact raiseAll_congr (Level.highest_eq (hcover (by simp)) (hcover (by simp)))
  · exact raiseAll_congr (Level.highest_eq (hcover (by simp)) (hcover (by simp)))
  · refine raiseAll_congr (Level.highest_eq ?_ (hcover (List.subset_cons_self _ _)))
    rintro l₁ (_ | ⟨_, hl₁⟩)
    · exact ⟨l', hl', hle⟩
    · exact ⟨l₁, hl₁, le_rfl⟩
  · refine raiseAll_congr (Level.highest_eq ?_ (hcover (List.subset_append_left _ _)))
    intro l₁ hl₁
    rcases List.mem_append.1 hl₁ with hl₁ | hl₁
    · exact ⟨l₁, hl₁, le_rfl⟩
    · exact ⟨l', hl', List.mem_singleton.1 hl₁ ▸ hle⟩

/-- An object that is closed to new properties, with a read-only index after a writable name. -/
def halfOpen : Cell where
  level := .nonExtensible
  properties := (PropertyTable.insertAll .empty
    [(.ofString "a", ⟨.ofNat 1, true, false, true⟩), (.ofString "7", ⟨.ofNat 2, false, true, true⟩)])

theorem raiseAll_eq_halfOpen :
    (∀ l ∈ [Level.sealed], ∃ l' ∈ [Level.nonExtensible, .sealed], l ≤ l') ∧
    (∀ l' ∈ [Level.nonExtensible, .sealed], ∃ l ∈ [Level.sealed], l' ≤ l) ∧
    raiseAll ⟨0⟩ [.nonExtensible, .sealed] = raiseAll ⟨0⟩ [.sealed] ∧
    raiseAll ⟨0⟩ [.sealed, .nonExtensible, .frozen, .sealed] = raiseAll ⟨0⟩ [.frozen] ∧
    Level.nonExtensible ≤ halfOpen.level ∧ halfOpen.raise .nonExtensible = halfOpen ∧
    ¬Level.sealed ≤ halfOpen.level ∧ halfOpen.RaisesTo .sealed (halfOpen.raise .sealed) := by
  have hcover : ∀ l ∈ [Level.sealed], ∃ l' ∈ [Level.nonExtensible, .sealed], l ≤ l' := by decide
  have hcover' : ∀ l' ∈ [Level.nonExtensible, .sealed], ∃ l ∈ [Level.sealed], l' ≤ l := by decide
  obtain ⟨-, hcongr, -, -, -, -, hcell⟩ := raiseAll_eq ⟨0⟩ [.sealed]
  obtain ⟨⟨hhighest, -⟩, -⟩ := raiseAll_eq ⟨0⟩ [.sealed, .nonExtensible, .frozen, .sealed]
  have hle : Level.nonExtensible ≤ halfOpen.level := by decide
  have hnle : ¬Level.sealed ≤ halfOpen.level := by decide
  exact ⟨hcover, hcover', hcongr _ hcover hcover', hhighest, hle, (hcell _ _).1 hle, hnle,
    (hcell _ _).2 hnle⟩

end Exec

end ScriptSandbox
