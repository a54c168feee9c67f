/-! # Maps in order of insertion

A map is a list of entries with distinct keys. Replacing a value leaves its key in place, a new key
goes to the end, and removing a key moves no other. Each operation is described by what it does to
`get?` and to `keys`.
-/

namespace ScriptSandbox

structure OrderedMap (κ α : Type) where
  entries : List (κ × α)
  nodup_keys : (entries.map Prod.fst).Nodup

namespace OrderedMap

variable {κ α : Type}

def empty : OrderedMap κ α := ⟨[], List.nodup_nil⟩

instance : Inhabited (OrderedMap κ α) := ⟨empty⟩

/-- The keys in order of insertion. -/
def keys (m : OrderedMap κ α) : List κ := m.entries.map Prod.fst

def values (m : OrderedMap κ α) : List α := m.entries.map Prod.snd

def size (m : OrderedMap κ α) : Nat := m.entries.length

/-- Changes every value. -/
def mapValues (m : OrderedMap κ α) (f : α → α) : OrderedMap κ α where
  entries := m.entries.map fun e => (e.1, f e.2)
  nodup_keys := by simpa [Function.comp_def] using m.nodup_keys

@[simp] theorem keys_mapValues (m : OrderedMap κ α) (f : α → α) :
    (m.mapValues f).keys = m.keys := by
  simp [keys, mapValues, Function.comp_def]

@[simp] theorem length_keys (m : OrderedMap κ α) : m.keys.length = m.size := by
  simp [keys, size]

variable [DecidableEq κ]

def get? (m : OrderedMap κ α) (k : κ) : Option α :=
  (m.entries.find? (·.1 = k)).map Prod.snd

def contains (m : OrderedMap κ α) (k : κ) : Bool := (m.get? k).isSome

/-- Changes the value of a key, if the key is there. -/
def modify (m : OrderedMap κ α) (k : κ) (f : α → α) : OrderedMap κ α where
  entries := m.entries.map fun e => if e.1 = k then (e.1, f e.2) else e
  nodup_keys := by
    have h : (m.entries.map fun e => if e.1 = k then (e.1, f e.2) else e).map Prod.fst =
        m.entries.map Prod.fst := by
      rw [List.map_map]
      apply List.map_congr_left
      intro e _
      simp only [Function.comp_apply]
      split <;> rfl
    rw [h]
    exact m.nodup_keys

/-- Replaces the value of a key in place, or adds the key at the end. -/
def insert (m : OrderedMap κ α) (k : κ) (v : α) : OrderedMap κ α :=
  if h : k ∈ m.keys then m.modify k fun _ => v
  else
    { entries := m.entries ++ [(k, v)]
      nodup_keys := by
        rw [List.map_append, List.nodup_append]
        refine ⟨m.nodup_keys, by simp, ?_⟩
        rintro a ha b hb rfl
        simp only [List.map_cons, List.map_nil, List.mem_singleton] at hb
        exact h (hb ▸ ha) }

def erase (m : OrderedMap κ α) (k : κ) : OrderedMap κ α where
  entries := m.entries.filter (·.1 ≠ k)
  nodup_keys := m.nodup_keys.sublist (List.filter_sublist.map Prod.fst)

theorem find?_key {l : List (κ × α)} (h : (l.map Prod.fst).Nodup) {k : κ} {v : α}
    (hm : (k, v) ∈ l) : l.find? (fun e => decide (e.1 = k)) = some (k, v) := by
  induction l with
  | nil => cases hm
  | cons e l ih =>
    rw [List.map_cons, List.nodup_cons] at h
    by_cases he : e.1 = k
    · rcases List.mem_cons.1 hm with rfl | hm
      · simp
      · exact absurd (List.mem_map_of_mem (f := Prod.fst) hm) (he ▸ h.1)
    · rw [List.find?_cons_of_neg (by simpa using he)]
      rcases List.mem_cons.1 hm with rfl | hm
      · exact absurd rfl he
      · exact ih h.2 hm

theorem get?_eq_some_iff {m : OrderedMap κ α} {k : κ} {v : α} :
    m.get? k = some v ↔ (k, v) ∈ m.entries := by
  constructor
  · intro h
    obtain ⟨e, he, rfl⟩ := Option.map_eq_some_iff.1 h
    have hk : e.1 = k := by simpa using List.find?_some he
    exact hk ▸ List.mem_of_find?_eq_some he
  · intro h
    rw [get?, find?_key m.nodup_keys h, Option.map_some]

theorem get?_eq_none_iff {m : OrderedMap κ α} {k : κ} : m.get? k = none ↔ k ∉ m.keys := by
  rw [get?, Option.map_eq_none_iff, List.find?_eq_none, keys, List.mem_map]
  constructor
  · rintro h ⟨e, he, rfl⟩
    exact h e he (by simp)
  · intro h e he hk
    exact h ⟨e, he, by simpa using hk⟩

theorem mem_values_iff {m : OrderedMap κ α} {v : α} :
    v ∈ m.values ↔ ∃ k, m.get? k = some v := by
  simp only [get?_eq_some_iff, values, List.mem_map, Prod.exists, exists_eq_right]

theorem mem_keys_iff {m : OrderedMap κ α} {k : κ} : k ∈ m.keys ↔ ∃ v, m.get? k = some v := by
  rw [← Option.isSome_iff_exists, ← Decidable.not_iff_not, ← get?_eq_none_iff]
  cases m.get? k <;> simp

@[simp] theorem get?_empty (k : κ) : (empty : OrderedMap κ α).get? k = none := rfl

@[simp] theorem keys_modify (m : OrderedMap κ α) (k : κ) (f : α → α) :
    (m.modify k f).keys = m.keys := by
  simp only [keys, modify, List.map_map]
  apply List.map_congr_left
  intro e _
  simp only [Function.comp_apply]
  split <;> rfl

theorem get?_modify (m : OrderedMap κ α) (k j : κ) (f : α → α) :
    (m.modify k f).get? j = if j = k then (m.get? j).map f else m.get? j := by
  obtain ⟨l, h⟩ := m
  simp only [get?, modify]
  clear h
  induction l with
  | nil => simp
  | cons e l ih =>
    rw [List.map_cons, List.find?_cons, List.find?_cons]
    by_cases hk : e.1 = k <;> by_cases hj : e.1 = j <;> grind

theorem keys_insert (m : OrderedMap κ α) (k : κ) (v : α) :
    (m.insert k v).keys = if k ∈ m.keys then m.keys else m.keys ++ [k] := by
  rw [insert]
  split
  · rename_i h
    simp
  · rename_i h
    simp [keys]

theorem get?_insert (m : OrderedMap κ α) (k j : κ) (v : α) :
    (m.insert k v).get? j = if j = k then some v else m.get? j := by
  rw [insert]
  split
  · rename_i h
    rw [get?_modify]
    split
    · rename_i hj
      obtain ⟨w, hw⟩ := mem_keys_iff.1 h
      simp [hj, hw]
    · rfl
  · rename_i h
    simp only [get?, List.find?_append, Option.map_or]
    by_cases hj : j = k
    · have : m.get? k = none := get?_eq_none_iff.2 h
      simp only [get?] at this
      simp [hj, this]
    · simp [hj, Ne.symm hj]

@[simp] theorem keys_erase (m : OrderedMap κ α) (k : κ) :
    (m.erase k).keys = m.keys.filter (· ≠ k) := by
  simp [keys, erase, List.filter_map, Function.comp_def]

theorem get?_erase (m : OrderedMap κ α) (k j : κ) :
    (m.erase k).get? j = if j = k then none else m.get? j := by
  obtain ⟨l, h⟩ := m
  simp only [get?, erase]
  clear h
  induction l with
  | nil => simp
  | cons e l ih =>
    rw [List.filter_cons, List.find?_cons]
    by_cases hk : e.1 = k <;> by_cases hj : e.1 = j <;> grind

theorem get?_mapValues (m : OrderedMap κ α) (k : κ) (f : α → α) :
    (m.mapValues f).get? k = (m.get? k).map f := by
  obtain ⟨l, h⟩ := m
  simp only [get?, mapValues]
  clear h
  induction l with
  | nil => rfl
  | cons e l ih =>
    rw [List.map_cons, List.find?_cons, List.find?_cons]
    by_cases hk : e.1 = k
    · simp [hk]
    · simpa [hk] using ih

/-- Two maps with the same keys in the same order and the same values are equal. -/
theorem ext_get? {m n : OrderedMap κ α} (hk : m.keys = n.keys)
    (hg : ∀ k, m.get? k = n.get? k) : m = n := by
  obtain ⟨l, hl⟩ := m
  obtain ⟨l', hl'⟩ := n
  have he : l = l' := by
    apply List.ext_getElem
    · simpa [keys] using congrArg List.length hk
    · intro i hi hi'
      have h₁ : l[i].1 = l'[i].1 := by
        have := congrArg (·[i]?) hk
        simpa [keys, hi, hi'] using this
      have hm : (⟨l, hl⟩ : OrderedMap κ α).get? l[i].1 = some l[i].2 :=
        get?_eq_some_iff.2 (List.getElem_mem hi)
      have hm' : (⟨l', hl'⟩ : OrderedMap κ α).get? l'[i].1 = some l'[i].2 :=
        get?_eq_some_iff.2 (List.getElem_mem hi')
      rw [hg, h₁, hm'] at hm
      exact Prod.ext h₁ (Option.some.inj hm).symm
  subst he
  rfl

end OrderedMap

end ScriptSandbox
