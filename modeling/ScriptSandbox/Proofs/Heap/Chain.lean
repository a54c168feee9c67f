import Mathlib.Data.List.Perm.Subperm
import Mathlib.Logic.Relation
import ScriptSandbox.Proofs.Heap.Sound

/-! # Prototype chains

While no object inherits from itself, the chain from any object meets every object at most once and
comes to an end. Linking an object to a prototype keeps this up exactly if the prototype does not
inherit from the object, and that is what linking checks.
-/

namespace ScriptSandbox.Heap

open Relation

variable {h : Heap} {r s t : Ref} {start target : Option Ref} {rs : List Ref} {n : Nat}

/-- The second object is the prototype of the first. -/
def Links (h : Heap) (r s : Ref) : Prop := h.prototype r = some s

/-- No object inherits from itself. -/
def Acyclic (h : Heap) : Prop := ∀ r, ¬TransGen h.Links r r

/-- Every prototype is there. -/
def Grounded (h : Heap) : Prop := ∀ r s, h.Links r s → s.id < h.size

/-- The object to start from, if any, is there. -/
def Holds (h : Heap) (start : Option Ref) : Prop := ∀ r, start = some r → r.id < h.size

/-- The object is on the chain from a start, the start included. -/
def Reaches (h : Heap) (start : Option Ref) (r : Ref) : Prop :=
  ∃ s, start = some s ∧ ReflTransGen h.Links s r

/-- The objects from a start to the end of its chain. -/
inductive Lineage (h : Heap) : Option Ref → List Ref → Prop
  | nil : Lineage h none []
  | cons {r : Ref} {rs : List Ref} (hr : Lineage h (h.prototype r) rs) :
      Lineage h (some r) (r :: rs)

theorem Lineage.unique {rs' : List Ref} (hl : h.Lineage start rs) (hl' : h.Lineage start rs') :
    rs = rs' := by
  induction hl generalizing rs' with
  | nil => cases hl'; rfl
  | cons _ ih =>
    cases hl' with
    | cons hr => rw [ih hr]

theorem holds_some (hr : r.id < h.size) : h.Holds (some r) := by
  rintro s ⟨⟩
  exact hr

/-! ### The bounded walk -/

theorem reaches_of_mem_walk (hr : r ∈ h.walk n start) : h.Reaches start r := by
  induction n generalizing start with
  | zero => cases hr
  | succ n ih =>
    cases start with
    | none => cases hr
    | some s =>
      rcases List.mem_cons.1 hr with rfl | hr
      · exact ⟨r, rfl, .refl⟩
      · obtain ⟨t, hst, ht⟩ := ih hr
        exact ⟨s, rfl, .head hst ht⟩

theorem nodup_walk (ha : h.Acyclic) (n : Nat) (start : Option Ref) : (h.walk n start).Nodup := by
  induction n generalizing start with
  | zero => exact List.nodup_nil
  | succ n ih =>
    cases start with
    | none => exact List.nodup_nil
    | some s =>
      refine List.nodup_cons.2 ⟨fun hs => ?_, ih _⟩
      obtain ⟨t, hst, ht⟩ := reaches_of_mem_walk hs
      exact ha s (.head' hst ht)

theorem lt_size_of_mem_walk (hg : h.Grounded) (hs : h.Holds start)
    (hr : r ∈ h.walk n start) : r.id < h.size := by
  obtain ⟨s, rfl, hsr⟩ := reaches_of_mem_walk hr
  rcases hsr.cases_tail with rfl | ⟨t, -, htr⟩
  · exact hs r rfl
  · exact hg t r htr

theorem length_walk_le (ha : h.Acyclic) (hg : h.Grounded) (hs : h.Holds start)
    (n : Nat) : (h.walk n start).length ≤ h.size := by
  have hnodup : ((h.walk n start).map Ref.id).Nodup := by
    refine (nodup_walk ha n start).map fun r s he => ?_
    cases r
    cases s
    cases he
    rfl
  have hsub : (h.walk n start).map Ref.id ⊆ List.range h.size := by
    intro i hi
    obtain ⟨r, hr, rfl⟩ := List.mem_map.1 hi
    exact List.mem_range.2 (lt_size_of_mem_walk hg hs hr)
  simpa using (List.subperm_of_subset hnodup hsub).length_le

/-- A walk that stops before its bound has come to the end. -/
theorem lineage_walk (hn : (h.walk n start).length < n) : h.Lineage start (h.walk n start) := by
  induction n generalizing start with
  | zero => exact absurd hn (Nat.not_lt_zero _)
  | succ n ih =>
    cases start with
    | none => exact .nil
    | some s => exact .cons (ih (Nat.lt_of_succ_lt_succ hn))

theorem Lineage.walk_eq (hl : h.Lineage start rs) (hn : rs.length ≤ n) : h.walk n start = rs := by
  induction hl generalizing n with
  | nil => cases n <;> rfl
  | @cons r rs _ ih =>
    cases n with
    | zero => exact absurd hn (Nat.not_succ_le_zero _)
    | succ n => exact congrArg (r :: ·) (ih (Nat.le_of_succ_le_succ hn))

/-- The chain from an object of the heap is the whole of its lineage. -/
theorem lineage_chain (ha : h.Acyclic) (hg : h.Grounded) (hs : h.Holds start) :
    h.Lineage start (h.chain start) := by
  have hlen := length_walk_le ha hg hs (h.size + 1)
  have hl : h.Lineage start (h.walk (h.size + 1) start) := lineage_walk (Nat.lt_succ_of_le hlen)
  rwa [chain, hl.walk_eq hlen]

theorem Lineage.mem_iff (hl : h.Lineage start rs) : r ∈ rs ↔ h.Reaches start r := by
  rw [← hl.walk_eq (Nat.le_refl _)]
  refine ⟨reaches_of_mem_walk, ?_⟩
  rw [hl.walk_eq (Nat.le_refl _)]
  rintro ⟨s, rfl, hsr⟩
  induction hsr using ReflTransGen.head_induction_on generalizing rs with
  | refl =>
    cases hl with
    | cons _ => exact List.mem_cons_self
  | head hst _ ih =>
    cases hl with
    | cons hl =>
      rw [hst] at hl
      exact List.mem_cons_of_mem _ (ih hl)

theorem mem_chain_iff (ha : h.Acyclic) (hg : h.Grounded) (hs : h.Holds start) :
    r ∈ h.chain start ↔ h.Reaches start r :=
  (lineage_chain ha hg hs).mem_iff

/-! ### New objects and new links -/

/-- Where no link changes, no cycle comes up. -/
theorem Acyclic.congr {h' : Heap} (ha : h.Acyclic) (he : ∀ r, h'.prototype r = h.prototype r) :
    h'.Acyclic := by
  have hlinks : h'.Links = h.Links := by
    funext r s
    rw [Links, Links, he]
  intro r
  rw [hlinks]
  exact ha r

/-- An object that nobody links to makes no cycle. -/
theorem Acyclic.alloc (ha : h.Acyclic) (hg : h.Grounded) {c : Cell} (hc : h.Holds c.prototype) :
    (h.alloc c).2.Acyclic := by
  have hold : ∀ {r s}, r.id < h.size → (h.alloc c).2.Links r s → h.Links r s := by
    intro r s hr hrs
    rwa [Links, prototype, cell_alloc_of_lt hr] at hrs
  have hlt : ∀ {r s}, (h.alloc c).2.Links r s → s.id < h.size := by
    intro r s hrs
    rcases h.cell_alloc_cases c r with hr | ⟨-, hr⟩
    · rw [Links, prototype, hr] at hrs
      exact hg r s hrs
    · rw [Links, prototype, hr] at hrs
      exact hc s hrs
  have hpath : ∀ {r s}, r.id < h.size → TransGen (h.alloc c).2.Links r s →
      TransGen h.Links r s ∧ s.id < h.size := by
    intro r s hr hrs
    induction hrs with
    | single hrs => exact ⟨.single (hold hr hrs), hlt hrs⟩
    | tail _ hst ih => exact ⟨.tail ih.1 (hold ih.2 hst), hlt hst⟩
  intro r hr
  obtain ⟨_, -, hlast⟩ := TransGen.tail'_iff.1 hr
  exact ha r (hpath (hlt hlast) hr).1

/-- Links to earlier objects alone make no cycle. -/
theorem acyclic_of_lt (hlt : ∀ r s, h.Links r s → s.id < r.id) : h.Acyclic := by
  have hpath : ∀ {r s}, TransGen h.Links r s → s.id < r.id := by
    intro r s hrs
    induction hrs with
    | single hrs => exact hlt _ _ hrs
    | tail _ hst ih => exact (hlt _ _ hst).trans ih
  exact fun r hr => Nat.lt_irrefl _ (hpath hr)

theorem links_put_iff {c : Cell} (hr : r.id < h.size) :
    (h.put r c).Links s t ↔ if s = r then c.prototype = some t else h.Links s t := by
  rw [Links, prototype]
  split
  · rename_i hs
    rw [hs, cell_put_self hr]
  · rename_i hs
    rw [cell_put_of_ne hs]
    rfl

/-- A path over a new link comes to its object, and goes on from the new prototype. -/
theorem transGen_put (hr : r.id < h.size) (hn : ¬h.Reaches target r)
    (hst : TransGen (h.put r { h.cell r with prototype := target }).Links s t) :
    TransGen h.Links s t ∨ ReflTransGen h.Links s r ∧ h.Reaches target t := by
  induction hst with
  | single hst =>
    rw [links_put_iff hr] at hst
    split at hst
    · rename_i hs
      exact Or.inr ⟨hs ▸ .refl, _, hst, .refl⟩
    · exact Or.inl (.single hst)
  | tail _ htu ih =>
    rw [links_put_iff hr] at htu
    split at htu
    · rename_i ht
      subst ht
      rcases ih with hsr | ⟨-, hreach⟩
      · exact Or.inr ⟨hsr.to_reflTransGen, _, htu, .refl⟩
      · exact absurd hreach hn
    · rcases ih with hst | ⟨hsr, x, hx, hxt⟩
      · exact Or.inl (.tail hst htu)
      · exact Or.inr ⟨hsr, x, hx, hxt.tail htu⟩

/-- A new link makes a cycle exactly if the new prototype inherits from the object already. -/
theorem acyclic_put_iff (ha : h.Acyclic) (hr : r.id < h.size) :
    (h.put r { h.cell r with prototype := target }).Acyclic ↔ ¬h.Reaches target r := by
  constructor
  · rintro ha' ⟨s, hs, hsr⟩
    have hlink : (h.put r { h.cell r with prototype := target }).Links r s := by
      rwa [links_put_iff hr, if_pos rfl]
    refine ha' r (.head' hlink ?_)
    clear hs hlink
    induction hsr using ReflTransGen.head_induction_on with
    | refl => exact .refl
    | @head a b hab _ ih =>
      by_cases har : a = r
      · exact har ▸ .refl
      · refine .head ?_ ih
        rw [links_put_iff hr, if_neg har]
        exact hab
  · intro hn s hss
    rcases transGen_put hr hn hss with hss | ⟨hsr, t, ht, hts⟩
    · exact ha s hss
    · exact hn ⟨t, ht, hts.trans hsr⟩

/-! ### Linking -/

/-- Linking is accepted exactly for the prototype that is there, and for an extensible object if the
prototype does not inherit from it. Then the object has the prototype, and otherwise nothing is
changed. -/
theorem relink_spec (ha : h.Acyclic) (hg : h.Grounded) (ht : h.Holds target) :
    ((h.relink r target).1 = .ok () ↔
      target = h.prototype r ∨ (h.cell r).isExtensible ∧ ¬h.Reaches target r) ∧
    (h.relink r target).2 =
      if (h.relink r target).1 = .ok () then h.put r { h.cell r with prototype := target } else h := by
  have hmem := mem_chain_iff (r := r) ha hg ht
  by_cases hsame : target = h.prototype r
  · have hok : h.relink r target = (.ok (), h) := if_pos hsame
    have hput : h.put r { h.cell r with prototype := target } = h := by
      rw [hsame]
      exact h.put_cell r
    rw [hok, if_pos rfl, hput]
    exact ⟨⟨fun _ => Or.inl hsame, fun _ => rfl⟩, rfl⟩
  · have hne : target ≠ (h.cell r).prototype := hsame
    by_cases hcycle : h.Reaches target r
    · simp [relink, hne, hsame, hmem.2 hcycle, hcycle]
    · have hnot : r ∉ h.chain target := fun hr => hcycle (hmem.1 hr)
      by_cases hx : (h.cell r).isExtensible
      · simp [relink, hne, hnot, hx, hcycle]
      · simp [relink, hne, hsame, hnot, hx]

end ScriptSandbox.Heap
