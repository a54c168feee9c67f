import ScriptSandbox.Proofs.Heap.TextBox
import ScriptSandbox.Proofs.KeyWalk.Rest

/-! # Walks over boxed texts

A walk from a box of a text names the units of the text first, whatever becomes of the heap between
two names. In a heap that stays as it is, it then names what was added to the box and what the box
inherits.
-/

namespace ScriptSandbox

namespace Heap

variable {h : Heap} {r : Ref} {s : String} {k : Key}

/-- A key beyond those seen is that of an enumerable property of one of the objects. -/
theorem exists_of_mem_keysBeyond {seen : Key → Bool} {rs : List Ref}
    (hk : k ∈ h.keysBeyond seen rs) :
    seen k = false ∧ ∃ t ∈ rs, ∃ p, h.own? t k = some p ∧ p.enumerable = true := by
  induction rs generalizing seen with
  | nil => cases hk
  | cons t rs ih =>
    rw [keysBeyond, List.mem_append, List.mem_filter] at hk
    rcases hk with ⟨hk, hseen⟩ | hk
    · exact ⟨by simpa using hseen, t, List.mem_cons_self,
        PropertyTable.exists_of_mem_enumerableKeys hk⟩
    · obtain ⟨hseen, t', ht', hp⟩ := ih hk
      rw [Bool.or_eq_false_iff] at hseen
      exact ⟨hseen.1, t', List.mem_cons_of_mem _ ht', hp⟩

/-- The object inherits the enumerable property, and has no property of its own under the key. -/
def Inherits (h : Heap) (r : Ref) (k : Key) : Prop :=
  h.own? r k = none ∧
    ∃ t p, h.Reaches (h.prototype r) t ∧ h.own? t k = some p ∧ p.enumerable = true

/-- The enumerable property has been added to the box of the text. -/
def Adds (h : Heap) (r : Ref) (s : String) (k : Key) : Prop :=
  k ∉ unitKeys s ∧ ∃ p, h.own? r k = some p ∧ p.enumerable = true

theorem not_adds_of_ownKeys (hr : (h.cell r).properties.ownKeys = unitKeys s) :
    ¬h.Adds r s k := by
  rintro ⟨hk, p, hp, -⟩
  rw [← hr, PropertyTable.mem_ownKeys_iff, OrderedMap.mem_keys_iff] at hk
  exact hk ⟨p, hp⟩

end Heap

/-- The names of the units of a text. -/
def unitNames (s : String) : List String := (List.range (Text.utf16 s).length).map Nat.repr

theorem map_text_units (s : String) :
    ((List.range (Text.utf16 s).length).map Key.ofNat).map Key.text = unitNames s := by
  rw [List.map_map]
  exact List.map_congr_left fun i _ => Key.text_ofNat i

namespace KeyWalk

variable {h : Heap} {r : Ref} {s : String} {w : KeyWalk} {answers : List (Option String)}

/-- A walk from the box names the units, and then what was added and what is inherited. -/
def Recites (h : Heap) (r : Ref) (s : String) : Prop :=
  ∃ tail : List Key, ((start (some r)).rest h).1 = unitNames s ++ tail.map Key.text ∧
    ∀ k ∈ tail, h.Adds r s k ∨ h.Inherits r k

theorem recites (ha : h.Acyclic) (hg : h.Grounded) (hr : (h.cell r).Spells s)
    (hn : (Text.utf16 s).length ≤ maxLength) : Recites h r s := by
  have hlt : r.id < h.size := Heap.ref_lt_of_kind_ne hr.kind nofun
  obtain ⟨late, hkeys, hlate⟩ := hr.exists_enumerableKeys hn
  refine ⟨late ++ h.keysBeyond (fun k => false || (h.own? r k).isSome) (h.chain (h.prototype r)),
    ?_, fun k hk => ?_⟩
  · have hl := Heap.lineage_chain ha hg (Heap.holds_some hlt)
    rw [rest_eq ha hg (ready_start hlt), remaining_start ha hg hlt hl, Heap.chain_cons ha hg hlt,
      Heap.keysBeyond, hkeys]
    simp only [Bool.not_false, List.filter_true, List.map_append, map_text_units, List.append_assoc]
  · rcases List.mem_append.1 hk with hk | hk
    · exact Or.inl (hlate k hk)
    · obtain ⟨hseen, t, ht, p, hp, he⟩ := Heap.exists_of_mem_keysBeyond hk
      rw [Bool.false_or, Option.isSome_eq_false_iff, Option.isNone_iff_eq_none] at hseen
      rw [Heap.mem_chain_iff ha hg (hg r)] at ht
      exact Or.inr ⟨hseen, t, p, ht, hp, he⟩

/-! ### While the heap changes -/

/-- How far a walk from the box of the text has come, with its answers: it is at the start, it has
named some units and the other ones are pending, or it has named all. -/
inductive Names (r : Ref) (s : String) : KeyWalk → List (Option String) → Prop
  | nothing : Names r s (start (some r)) []
  | units {w : KeyWalk} {rest : List Key} (n : Nat) (hn : n ≤ (Text.utf16 s).length)
      (hcurrent : w.current = some r)
      (hpending : w.pending = ((List.range (Text.utf16 s).length).drop n).map .ofNat ++ rest)
      (hvisited : ∀ k ∈ w.visited, ∃ i < n, k = .ofNat i) :
      Names r s w ((List.range n).map fun i => some i.repr)
  | all (w : KeyWalk) (more : List (Option String)) :
      Names r s w ((unitNames s).map some ++ more)

/-- The next pending key is named if it is there, enumerable and new. -/
theorem advance_of_pending {k : Key} {ks : List Key} {p : Property} (hcurrent : w.current = some r)
    (hpending : w.pending = k :: ks) (hp : h.own? r k = some p) (he : p.enumerable = true)
    (hk : k ∉ w.visited) (n : Nat) :
    advance h n w = (some k.text, { w with visited := k :: w.visited, pending := ks }) := by
  refine advance_of_some ?_ n
  have hget : (h.cell r).properties.get? k = some p := hp
  rw [nextPending, hcurrent]
  simp only [hpending, scan, hget, hk, he, ↓reduceIte]

theorem map_some_unitNames (s : String) : (unitNames s).map some =
    (List.range (Text.utf16 s).length).map fun i => some i.repr := by
  rw [unitNames, List.map_map]
  rfl

namespace Names

theorem advance {rest : List Key} {n : Nat} (hr : (h.cell r).Spells s)
    (hn : n < (Text.utf16 s).length) (hcurrent : w.current = some r)
    (hpending : w.pending = ((List.range (Text.utf16 s).length).drop n).map .ofNat ++ rest)
    (hvisited : ∀ k ∈ w.visited, ∃ i < n, k = .ofNat i) (fuel : Nat) :
    Names r s (w.advance h fuel).2
      (((List.range n).map fun i => some i.repr) ++ [(w.advance h fuel).1]) := by
  have hdrop : (List.range (Text.utf16 s).length).drop n =
      n :: (List.range (Text.utf16 s).length).drop (n + 1) := by
    rw [List.drop_eq_getElem_cons (by simpa using hn), List.getElem_range]
  have hnew : Key.ofNat n ∉ w.visited := by
    intro hmem
    obtain ⟨i, hi, he⟩ := hvisited _ hmem
    exact absurd (Key.ofNat_injective he) (Nat.ne_of_gt hi)
  rw [hdrop, List.map_cons, List.cons_append] at hpending
  obtain ⟨p, hp, he⟩ := hr.exists_get? hn
  have hanswers : ((List.range n).map fun i => some i.repr) ++ [some (Key.ofNat n).text] =
      (List.range (n + 1)).map fun i => some i.repr := by
    rw [Key.text_ofNat, List.range_succ, List.map_append, List.map_singleton]
  rw [advance_of_pending hcurrent hpending hp he hnew fuel, hanswers]
  refine .units (n + 1) hn hcurrent rfl fun k hk => ?_
  rcases List.mem_cons.1 hk with rfl | hk
  · exact ⟨n, Nat.lt_succ_self n, rfl⟩
  · obtain ⟨i, hi, rfl⟩ := hvisited k hk
    exact ⟨i, Nat.lt_succ_of_lt hi, rfl⟩

/-- Asking for a name goes on with the units, whatever the heap has become. -/
theorem next (hw : Names r s w answers) (hr : (h.cell r).Spells s)
    (hn : (Text.utf16 s).length ≤ maxLength) :
    Names r s (w.next h).2 (answers ++ [(w.next h).1]) := by
  cases hw with
  | nothing =>
    by_cases hzero : 0 < (Text.utf16 s).length
    · have hlt : r.id < h.size := Heap.ref_lt_of_kind_ne hr.kind nofun
      obtain ⟨fuel, hfuel⟩ := Nat.exists_eq_succ_of_ne_zero (Nat.ne_zero_of_lt hlt)
      have hload : KeyWalk.next (start (some r)) h =
          KeyWalk.advance h fuel (load (start (some r)) h r) := by
        rw [KeyWalk.next, hfuel]
        exact advance_of_cons rfl rfl fuel
      obtain ⟨rest, hkeys⟩ := hr.exists_ownKeys hn
      rw [hload]
      exact advance hr hzero rfl hkeys (fun _ hk => absurd hk List.not_mem_nil) fuel
    · have hnames : (unitNames s).map some = [] := by
        rw [map_some_unitNames, Nat.eq_zero_of_not_pos hzero]
        rfl
      have hall := Names.all (r := r) (s := s) (KeyWalk.next (start (some r)) h).2
        [(KeyWalk.next (start (some r)) h).1]
      rwa [hnames] at hall
  | units n hle hcurrent hpending hvisited =>
    rcases Nat.lt_or_eq_of_le hle with hlt | rfl
    · exact advance hr hlt hcurrent hpending hvisited h.size
    · rw [← map_some_unitNames]
      exact .all _ _
  | all w more =>
    rw [List.append_assoc]
    exact .all _ _

/-- The answers are the first names of the units, or begin with all of them. -/
theorem agrees (hw : Names r s w answers) :
    answers <+: (unitNames s).map some ∨ (unitNames s).map some <+: answers := by
  cases hw with
  | nothing => exact Or.inl (List.nil_prefix)
  | units n hle _ _ _ =>
    left
    rw [map_some_unitNames, ← Nat.min_eq_left hle, ← List.take_range]
    exact (List.take_prefix _ _).map _
  | all _ more => exact Or.inr (List.prefix_append _ _)

end Names

end KeyWalk

end ScriptSandbox
