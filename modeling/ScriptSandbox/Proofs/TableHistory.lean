import ScriptSandbox.Proofs.Table

/-! # Tables and their histories

A table lists its names in the order in which they came in. That order is told by what was done to
the table: a present name came in with the last insertion that found it missing.
-/

namespace ScriptSandbox

namespace PropertyTable

/-- Changes every value in a way of its own. -/
def mapEach (t : PropertyTable) (f : Key → Property → Property) : PropertyTable where
  entries := t.entries.map fun e => (e.1, f e.1 e.2)
  nodup_keys := by simpa [Function.comp_def] using t.nodup_keys

theorem keys_mapEach (t : PropertyTable) (f : Key → Property → Property) :
    (t.mapEach f).keys = t.keys := by
  simp [OrderedMap.keys, mapEach, Function.comp_def]

/-- What can be done to a table. -/
inductive Edit where
  | insert (k : Key) (p : Property)
  | erase (k : Key)
  | modify (k : Key) (f : Property → Property)
  | mapEach (f : Key → Property → Property)
  | clear

namespace Edit

def apply (t : PropertyTable) : Edit → PropertyTable
  | insert k p => OrderedMap.insert t k p
  | erase k => OrderedMap.erase t k
  | modify k f => OrderedMap.modify t k f
  | mapEach f => PropertyTable.mapEach t f
  | clear => .empty

/-- One step: keys may go and stay in order, or a missing key is inserted and comes last. -/
theorem keys_apply (t : PropertyTable) (e : Edit) :
    (e.apply t).keys.Sublist t.keys ∨
      ∃ k p, e = insert k p ∧ k ∉ t.keys ∧ (e.apply t).keys = t.keys ++ [k] := by
  cases e with
  | insert k p =>
    have hkeys : ((insert k p).apply t).keys = if k ∈ t.keys then t.keys else t.keys ++ [k] :=
      OrderedMap.keys_insert t k p
    by_cases hk : k ∈ t.keys
    · exact Or.inl (by rw [hkeys, if_pos hk])
    · exact Or.inr ⟨k, p, rfl, hk, by rw [hkeys, if_neg hk]⟩
  | erase k =>
    left
    rw [apply, OrderedMap.keys_erase]
    exact List.filter_sublist
  | modify k f => exact Or.inl (by rw [apply, OrderedMap.keys_modify])
  | mapEach f => exact Or.inl (by rw [apply, keys_mapEach])
  | clear => exact Or.inl (List.nil_sublist _)

end Edit

/-- A table that began empty, after some edits. -/
def after (edits : List Edit) : PropertyTable := edits.foldl Edit.apply .empty

variable {edits : List Edit} {e : Edit} {t : PropertyTable} {k j : Key} {i i' n : Nat}

theorem after_concat (edits : List Edit) (e : Edit) :
    after (edits ++ [e]) = e.apply (after edits) := by
  simp [after]

/-- The edit at a place has inserted a key that was missing, and the key has been there since. -/
structure CameIn (edits : List Edit) (k : Key) (i : Nat) : Prop where
  inserted : ∃ p, edits[i]? = some (.insert k p)
  missing : (after (edits.take i)).get? k = none
  present : ∀ n, i < n → n ≤ edits.length → ((after (edits.take n)).get? k).isSome

namespace CameIn

theorem lt_length (h : CameIn edits k i) : i < edits.length := by
  obtain ⟨p, hp⟩ := h.inserted
  exact (List.getElem?_eq_some_iff.1 hp).1

theorem isSome (h : CameIn edits k i) : ((after edits).get? k).isSome := by
  have hall := h.present edits.length h.lt_length le_rfl
  rwa [List.take_length] at hall

/-- There is one insertion only with which a key came in. -/
theorem unique (h : CameIn edits k i) (h' : CameIn edits k i') : i = i' := by
  have hnot : ∀ {i i'}, CameIn edits k i → CameIn edits k i' → ¬i < i' := by
    intro i i' h h' hlt
    have hsome := h.present i' hlt h'.lt_length.le
    rw [h'.missing] at hsome
    exact Bool.false_ne_true hsome
  exact Nat.le_antisymm (Nat.not_lt.1 (hnot h' h)) (Nat.not_lt.1 (hnot h h'))

theorem concat (h : CameIn edits k i) (hk : k ∈ (after (edits ++ [e])).keys) :
    CameIn (edits ++ [e]) k i := by
  have hi := h.lt_length
  refine ⟨?_, ?_, fun n hn hle => ?_⟩
  · rw [List.getElem?_append_left hi]
    exact h.inserted
  · rw [List.take_append_of_le_length hi.le]
    exact h.missing
  · rw [List.length_append, List.length_singleton] at hle
    rcases Nat.lt_or_ge edits.length n with hlt | hge
    · rw [List.take_of_length_le (by rw [List.length_append]; exact hlt), Option.isSome_iff_exists]
      exact OrderedMap.mem_keys_iff.1 hk
    · rw [List.take_append_of_le_length hge]
      exact h.present n hn hge

theorem last {p : Property} (hk : k ∉ (after edits).keys) :
    CameIn (edits ++ [.insert k p]) k edits.length := by
  refine ⟨⟨p, by simp⟩, ?_, fun n hn hle => ?_⟩
  · rw [List.take_left']
    · exact OrderedMap.get?_eq_none_iff.2 hk
    · rfl
  · rw [List.length_append, List.length_singleton] at hle
    rw [List.take_of_length_le (by rw [List.length_append]; exact hn), after_concat]
    exact Option.isSome_iff_exists.2 ⟨p, (OrderedMap.get?_insert _ _ _ _).trans (if_pos rfl)⟩

end CameIn

/-- The one key came in before the other. -/
def Precedes (edits : List Edit) (k j : Key) : Prop :=
  ∃ i i', CameIn edits k i ∧ CameIn edits j i' ∧ i < i'

theorem exists_cameIn (hk : k ∈ (after edits).keys) : ∃ i, CameIn edits k i := by
  induction edits using List.reverseRecOn with
  | nil => exact absurd hk List.not_mem_nil
  | append_singleton edits e ih =>
    have hmem := hk
    rw [after_concat] at hmem
    rcases e.keys_apply (after edits) with hsub | ⟨k', p, rfl, hk', hkeys⟩
    · obtain ⟨i, hi⟩ := ih (hsub.subset hmem)
      exact ⟨i, hi.concat hk⟩
    · rw [hkeys, List.mem_append, List.mem_singleton] at hmem
      rcases hmem with hmem | rfl
      · obtain ⟨i, hi⟩ := ih hmem
        exact ⟨i, hi.concat hk⟩
      · exact ⟨_, CameIn.last hk'⟩

theorem Precedes.concat (h : Precedes edits k j) (hk : k ∈ (after (edits ++ [e])).keys)
    (hj : j ∈ (after (edits ++ [e])).keys) : Precedes (edits ++ [e]) k j := by
  obtain ⟨i, i', hi, hi', hlt⟩ := h
  exact ⟨i, i', hi.concat hk, hi'.concat hj, hlt⟩

/-- The keys of a table stand in the order in which they came in. -/
theorem pairwise_keys (edits : List Edit) : (after edits).keys.Pairwise (Precedes edits) := by
  induction edits using List.reverseRecOn with
  | nil => exact List.Pairwise.nil
  | append_singleton edits e ih =>
    rcases e.keys_apply (after edits) with hsub | ⟨k, p, rfl, hk, hkeys⟩
    · rw [← after_concat] at hsub
      exact (ih.sublist hsub).imp_of_mem fun hk hj h => h.concat hk hj
    · rw [← after_concat] at hkeys
      have hold : ∀ {j}, j ∈ (after edits).keys → j ∈ (after (edits ++ [.insert k p])).keys :=
        fun hj => hkeys ▸ List.mem_append_left _ hj
      rw [hkeys, List.pairwise_append]
      refine ⟨ih.imp_of_mem fun hk hj h => h.concat (hold hk) (hold hj), List.pairwise_singleton _ _,
        fun j hj k' hk' => ?_⟩
      obtain rfl := List.mem_singleton.1 hk'
      obtain ⟨i, hi⟩ := exists_cameIn hj
      exact ⟨i, _, hi.concat (hold hj), CameIn.last hk, hi.lt_length⟩

section Order

theorem indices_eq_filter {t t' : PropertyTable} {q : ArrayIndex → Bool}
    (h : ∀ i, Key.index i ∈ t'.keys ↔ Key.index i ∈ t.keys ∧ q i) :
    t'.indices = t.indices.filter q := by
  refine (pairwise_indices t').eq_of_mem_iff ((pairwise_indices t).filter q) fun i => ?_
  rw [List.mem_filter, mem_indices_iff, mem_indices_iff, h]

theorem ownKeys_eq_of_keys {t t' : PropertyTable} (h : t'.keys = t.keys) :
    t'.ownKeys = t.ownKeys := by
  rw [ownKeys, ownKeys, indices, indices, names, names, h]

theorem ownKeys_erase (t : PropertyTable) (k : Key) :
    ownKeys (t.erase k) = t.ownKeys.filter (· ≠ k) := by
  have hindices : indices (t.erase k) = t.indices.filter fun i => Key.index i ≠ k :=
    indices_eq_filter fun i => by simp
  have hnames : names (t.erase k) = t.names.filter (· ≠ k) := by
    simp only [names, OrderedMap.keys_erase, List.filter_filter, Bool.and_comm]
  rw [ownKeys, ownKeys, hindices, hnames, List.filter_append, List.filter_map]
  rfl

theorem ownKeys_insert_of_mem (hk : k ∈ t.keys) (p : Property) :
    ownKeys (t.insert k p) = t.ownKeys :=
  ownKeys_eq_of_keys ((t.keys_insert k p).trans (if_pos hk))

/-- A new name comes last. -/
theorem ownKeys_insert_name {s : String} (hs : Key.name s ∉ t.keys) (p : Property) :
    ownKeys (t.insert (.name s) p) = t.ownKeys ++ [.name s] := by
  have hkeys := (t.keys_insert (.name s) p).trans (if_neg hs)
  have hindices : indices (t.insert (.name s) p) = t.indices := by
    rw [indices, indices, hkeys, List.filterMap_append]
    exact congrArg ArrayIndex.ascending (List.append_nil _)
  have hnames : names (t.insert (.name s) p) = t.names ++ [.name s] := by
    rw [names, names, hkeys, List.filter_append]
    rfl
  rw [ownKeys, ownKeys, hindices, hnames, List.append_assoc]

end Order

/-- What a table lists after some edits: every present key once, the indices ascending and then the
names in the order in which they came in, and the indices from any start on descending. -/
structure Lists (edits : List Edit) (t : PropertyTable) : Prop where
  nodup : t.ownKeys.Nodup
  mem_iff : ∀ k, k ∈ t.ownKeys ↔ (t.get? k).isSome
  order : ∃ (is : List ArrayIndex) (ns : List String),
    t.ownKeys = is.map .index ++ ns.map .name ∧ is.Pairwise (· < ·) ∧
      (ns.map .name).Pairwise (Precedes edits)
  cameIn_iff : ∀ k, (∃! i, CameIn edits k i) ↔ (t.get? k).isSome
  descending : ∀ start, (t.indicesFrom start).Pairwise (· > ·)
  mem_indicesFrom_iff : ∀ start i,
    i ∈ t.indicesFrom start ↔ (t.get? (.index i)).isSome ∧ start ≤ i.val

/-- What an edit does to the listed keys. Those that stay keep their places, but for a name that is
taken out and put back in. -/
structure Reorders (t : PropertyTable) : Prop where
  modify : ∀ k f, ownKeys (t.modify k f) = t.ownKeys
  mapEach : ∀ f, (t.mapEach f).ownKeys = t.ownKeys
  mapValues : ∀ f, ownKeys (t.mapValues f) = t.ownKeys
  replace : ∀ k p, (t.get? k).isSome → ownKeys (t.insert k p) = t.ownKeys
  erase : ∀ k, ownKeys (t.erase k) = t.ownKeys.filter (· ≠ k)
  insert : ∀ s p, t.get? (.name s) = none → ownKeys (t.insert (.name s) p) = t.ownKeys ++ [.name s]
  reinsert : ∀ s p, ownKeys ((t.erase (.name s)).insert (.name s) p) =
    t.ownKeys.filter (· ≠ .name s) ++ [.name s]

theorem isSome_get?_iff : (t.get? k).isSome ↔ k ∈ t.keys :=
  Option.isSome_iff_exists.trans OrderedMap.mem_keys_iff.symm

theorem exists_names (t : PropertyTable) : ∃ ns : List String, t.names = ns.map .name := by
  refine ⟨t.names.map Key.text, ?_⟩
  calc t.names = t.names.map id := (List.map_id _).symm
    _ = t.names.map (Key.name ∘ Key.text) := List.map_congr_left fun k hk => by
        cases k with
        | index i => simp [names, Key.index?] at hk
        | name s => rfl
    _ = (t.names.map Key.text).map .name := List.map_map.symm

theorem reorders (t : PropertyTable) : t.Reorders where
  modify k f := ownKeys_eq_of_keys (t.keys_modify k f)
  mapEach f := ownKeys_eq_of_keys (t.keys_mapEach f)
  mapValues f := ownKeys_eq_of_keys (t.keys_mapValues f)
  replace _ p hk := ownKeys_insert_of_mem (isSome_get?_iff.1 hk) p
  erase := ownKeys_erase t
  insert _ p hs := ownKeys_insert_name (OrderedMap.get?_eq_none_iff.1 hs) p
  reinsert s p := by
    have hs : Key.name s ∉ (t.erase (.name s)).keys := by simp
    rw [ownKeys_insert_name hs, ownKeys_erase]

theorem lists (edits : List Edit) : Lists edits (after edits) where
  nodup := nodup_ownKeys _
  mem_iff _ := mem_ownKeys_iff.trans isSome_get?_iff.symm
  order := by
    obtain ⟨ns, hns⟩ := exists_names (after edits)
    refine ⟨_, ns, by rw [ownKeys, hns], pairwise_indices _, ?_⟩
    rw [← hns]
    exact (pairwise_keys edits).filter _
  cameIn_iff k := by
    constructor
    · rintro ⟨i, hi, -⟩
      exact hi.isSome
    · intro hk
      obtain ⟨i, hi⟩ := exists_cameIn (isSome_get?_iff.1 hk)
      exact ⟨i, hi, fun _ h => h.unique hi⟩
  descending := pairwise_indicesFrom _
  mem_indicesFrom_iff _ _ := by rw [mem_indicesFrom_iff, isSome_get?_iff]

/-- Whatever was done to a table that began empty, it lists the keys that have a value, each once:
the indices in ascending order, then the names in the order of the insertions with which they came
in. A changed or replaced value moves no key, and neither does the erasure of another key, but a name
that is erased and inserted again comes last. From a start on the indices are listed descending. -/
theorem lists_and_reorders :
    (∀ edits, Lists edits (after edits)) ∧ ∀ t : PropertyTable, t.Reorders :=
  ⟨lists, reorders⟩

example :
    let put (s : String) := Edit.insert (.ofString s) (.hidden .null)
    let t := after [put "b", put "10", put "a", put "2", .erase (.ofString "b"), put "10", put "b"]
    t.ownKeys.map Key.text = ["2", "10", "a", "b"] ∧ (t.indicesFrom 3).map (·.val) = [10] := by
  decide +kernel

end PropertyTable

end ScriptSandbox
