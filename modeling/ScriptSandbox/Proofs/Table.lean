import Mathlib.Data.List.Induction
import Mathlib.Data.List.Perm.Subperm
import Mathlib.Data.List.Sort
import Mathlib.Tactic.SplitIfs
import ScriptSandbox.PropertyTable

/-! # Property tables as maps

The indices that a table lists are those among its keys, each once and in order, and a table that is
filled from a list has the keys of the list.
-/

namespace ScriptSandbox

theorem ArrayIndex.ascending_eq_insertionSort (is : List ArrayIndex) :
    ArrayIndex.ascending is = is.insertionSort (· ≤ ·) := by
  have hp : ∀ (i : ArrayIndex) l, ArrayIndex.place i l = l.orderedInsert (· ≤ ·) i := by
    intro i l
    induction l with
    | nil => rfl
    | cons j l ih => simp only [ArrayIndex.place, List.orderedInsert, ih]
  induction is with
  | nil => rfl
  | cons i is ih => rw [List.insertionSort_cons, ← hp, ← ih]; rfl

theorem OrderedMap.modify_eq_self {κ α : Type} [DecidableEq κ] {m : OrderedMap κ α} {k : κ}
    {f : α → α} (hf : ∀ a, m.get? k = some a → f a = a) : m.modify k f = m := by
  refine ext_get? (m.keys_modify k f) fun j => ?_
  rw [get?_modify]
  split_ifs with hj
  · subst hj
    cases ha : m.get? j with
    | none => rfl
    | some a => rw [Option.map_some, hf a ha]
  · rfl

namespace PropertyTable

theorem mem_indices_iff {t : PropertyTable} {i : ArrayIndex} :
    i ∈ t.indices ↔ Key.index i ∈ t.keys := by
  simp only [indices, ArrayIndex.ascending_eq_insertionSort, List.mem_insertionSort,
    List.mem_filterMap]
  constructor
  · rintro ⟨k, hk, hi⟩
    cases k with
    | index j => cases hi; exact hk
    | name s => cases hi
  · intro h
    exact ⟨_, h, rfl⟩

theorem mem_indicesFrom_iff {t : PropertyTable} {n : Nat} {i : ArrayIndex} :
    i ∈ t.indicesFrom n ↔ Key.index i ∈ t.keys ∧ n ≤ i.val := by
  simp [indicesFrom, mem_indices_iff]

/-- The own keys are the keys, the indices first. -/
theorem mem_ownKeys_iff {t : PropertyTable} {k : Key} : k ∈ t.ownKeys ↔ k ∈ t.keys := by
  cases k with
  | index i => simp [ownKeys, names, mem_indices_iff, Key.index?]
  | name s => simp [ownKeys, names, Key.index?]

theorem pairwise_indices (t : PropertyTable) : t.indices.Pairwise (· < ·) := by
  have hle : t.indices.Pairwise (· ≤ ·) := by
    rw [indices, ArrayIndex.ascending_eq_insertionSort]
    exact List.pairwise_insertionSort (· ≤ ·) _
  have hnodup : t.indices.Nodup := by
    rw [indices, ArrayIndex.ascending_eq_insertionSort]
    refine (List.perm_insertionSort (· ≤ ·) _).nodup_iff.2 (List.Nodup.filterMap ?_ t.nodup_keys)
    intro k k' i hk hk'
    cases k <;> cases k' <;> simp_all [Key.index?]
  exact (hle.and hnodup).imp fun ⟨hle, hne⟩ => lt_of_le_of_ne hle hne

theorem pairwise_indicesFrom (t : PropertyTable) (n : Nat) :
    (t.indicesFrom n).Pairwise (fun i j => j < i) := by
  rw [indicesFrom, List.pairwise_reverse]
  exact (pairwise_indices t).filter _

theorem nodup_ownKeys (t : PropertyTable) : t.ownKeys.Nodup := by
  refine List.Nodup.append ?_ (t.nodup_keys.filter _) ?_
  · refine List.Nodup.map (fun i j h => by cases h; rfl) ?_
    exact (pairwise_indices t).imp fun h => ne_of_lt h
  · intro k hk hk'
    obtain ⟨i, -, rfl⟩ := List.mem_map.1 hk
    simp [names, Key.index?] at hk'

theorem exists_of_mem_enumerableKeys {t : PropertyTable} {k : Key} (hk : k ∈ t.enumerableKeys) :
    ∃ p, t.get? k = some p ∧ p.enumerable = true :=
  (Option.any_eq_true _ _).1 (List.mem_filter.1 hk).2

theorem length_ownKeys_le (t : PropertyTable) : t.ownKeys.length ≤ t.size := by
  have hsub : t.ownKeys ⊆ t.keys := fun _ hk => mem_ownKeys_iff.1 hk
  calc t.ownKeys.length ≤ t.keys.length :=
        (List.subperm_of_subset (nodup_ownKeys t) hsub).length_le
    _ = t.size := t.length_keys

theorem keys_insertAll_subset {t : PropertyTable} {ps : List (Key × Property)} {k : Key}
    (h : k ∈ (t.insertAll ps).keys) : k ∈ t.keys ∨ k ∈ ps.map Prod.fst := by
  induction ps generalizing t with
  | nil => exact Or.inl h
  | cons e ps ih =>
    rcases ih h with h | h
    · rw [OrderedMap.keys_insert] at h
      split at h
      · exact Or.inl h
      · rcases List.mem_append.1 h with h | h
        · exact Or.inl h
        · exact Or.inr (List.mem_cons.2 (Or.inl (List.mem_singleton.1 h)))
    · exact Or.inr (List.mem_cons_of_mem _ h)

theorem mem_keys_insertAll {t : PropertyTable} {ps : List (Key × Property)} {k : Key}
    (h : k ∈ t.keys ∨ k ∈ ps.map Prod.fst) : k ∈ (t.insertAll ps).keys := by
  induction ps generalizing t with
  | nil =>
    rcases h with h | h
    · exact h
    · cases h
  | cons e ps ih =>
    refine ih ?_
    rw [OrderedMap.keys_insert]
    rcases h with h | h
    · left
      split <;> simp [h]
    · rcases List.mem_cons.1 h with rfl | h
      · left
        split <;> simp_all
      · exact Or.inr h

theorem mem_keys_insertAll_empty {ps : List (Key × Property)} {k : Key} :
    k ∈ (insertAll .empty ps).keys ↔ k ∈ ps.map Prod.fst :=
  ⟨fun h => (keys_insertAll_subset h).resolve_left List.not_mem_nil,
    fun h => mem_keys_insertAll (Or.inr h)⟩

theorem insertAll_concat (t : PropertyTable) (ps : List (Key × Property)) (e : Key × Property) :
    t.insertAll (ps ++ [e]) = (t.insertAll ps).insert e.1 e.2 := by
  simp [insertAll]

/-- Keys stand where they came in first. -/
theorem keys_insertAll_empty (ps : List (Key × Property)) :
    (insertAll .empty ps).keys = (ps.map Prod.fst).eraseDups := by
  induction ps using List.reverseRecOn with
  | nil => rfl
  | append_singleton ps e ih =>
    rw [insertAll_concat, OrderedMap.keys_insert, ih, List.map_append, List.eraseDups_append]
    simp only [List.mem_eraseDups, List.map_cons, List.map_nil, List.removeAll]
    split_ifs with he
    · simp [he]
    · simp [he, List.eraseDups_cons]

theorem get?_insertAll_of_not_mem {t : PropertyTable} {ps : List (Key × Property)} {k : Key}
    (hk : k ∉ ps.map Prod.fst) : (t.insertAll ps).get? k = t.get? k := by
  induction ps generalizing t with
  | nil => rfl
  | cons e ps ih =>
    rw [List.map_cons, List.mem_cons, not_or] at hk
    exact (ih hk.2).trans ((OrderedMap.get?_insert _ _ _ _).trans (if_neg hk.1))

theorem keys_insertAll_of_nodup {ps : List (Key × Property)} (hn : (ps.map Prod.fst).Nodup) :
    (insertAll .empty ps).keys = ps.map Prod.fst := by
  induction ps using List.reverseRecOn with
  | nil => rfl
  | append_singleton ps e ih =>
    rw [List.map_append, List.nodup_append] at hn
    obtain ⟨hps, -, hne⟩ := hn
    have hnew : e.1 ∉ ps.map Prod.fst := fun he => hne _ he _ (by simp) rfl
    rw [insertAll_concat, OrderedMap.keys_insert, ih hps, if_neg hnew, List.map_append,
      List.map_singleton]

theorem get?_insertAll_of_mem {t : PropertyTable} {ps : List (Key × Property)} {k : Key}
    {p : Property} (hn : (ps.map Prod.fst).Nodup) (h : (k, p) ∈ ps) :
    (t.insertAll ps).get? k = some p := by
  induction ps generalizing t with
  | nil => cases h
  | cons e ps ih =>
    rw [List.map_cons, List.nodup_cons] at hn
    rcases List.mem_cons.1 h with rfl | h
    · exact (get?_insertAll_of_not_mem hn.1).trans ((OrderedMap.get?_insert _ _ _ _).trans (if_pos rfl))
    · exact ih hn.2 h

end PropertyTable

end ScriptSandbox
