import ScriptSandbox.Proofs.Heap.Array
import ScriptSandbox.Proofs.Key
import ScriptSandbox.Proofs.Units

/-! # Boxed texts

A boxed text has a property for each unit of the text, under the indices from zero on, and the number
of the units for its length. None of these can be changed, so they are what tells a box of the text,
and they come first among the keys of the box whatever is added to it.
-/

namespace ScriptSandbox

namespace ArrayIndex

variable {n : Nat} {i : ArrayIndex}

/-- The indices below a number, in ascending order. -/
def below (n : Nat) (hn : n ≤ maxLength) : List ArrayIndex := (List.finRange n).map (Fin.castLE hn)

theorem mem_below_iff {hn : n ≤ maxLength} : i ∈ below n hn ↔ i.val < n := by
  rw [below, List.mem_map]
  constructor
  · rintro ⟨j, -, rfl⟩
    exact j.isLt
  · intro hi
    exact ⟨⟨i.val, hi⟩, List.mem_finRange _, rfl⟩

theorem pairwise_below (n : Nat) (hn : n ≤ maxLength) : (below n hn).Pairwise (· < ·) :=
  List.Pairwise.map _ (fun _ _ h => h) (List.pairwise_lt_finRange n)

theorem map_index_below (n : Nat) (hn : n ≤ maxLength) :
    (below n hn).map Key.index = (List.range n).map Key.ofNat := by
  rw [below, List.map_map, ← List.map_coe_finRange_eq_range, List.map_map]
  refine List.map_congr_left fun i _ => ?_
  have hkey : Key.ofNat i.val = .index (i.castLE hn) := dif_pos (i.isLt.trans_le hn)
  exact hkey.symm

end ArrayIndex

/-! ### Tables of elements -/

namespace PropertyTable

variable {t : PropertyTable} {elements : List Property} {length : Property} {n i : Nat}

/-- The indices below a number come first if all of them are there. -/
theorem indices_eq_of_forall_mem (hn : n ≤ maxLength)
    (h : ∀ i < n, Key.ofNat i ∈ t.keys) :
    t.indices = ArrayIndex.below n hn ++ t.indices.filter (n ≤ ·.val) := by
  have hlater : (ArrayIndex.below n hn ++ t.indices.filter (n ≤ ·.val)).Pairwise (· < ·) := by
    rw [List.pairwise_append]
    refine ⟨ArrayIndex.pairwise_below n hn, (pairwise_indices t).filter _, fun i hi j hj => ?_⟩
    have hj' : n ≤ j.val := by simpa using (List.mem_filter.1 hj).2
    exact (ArrayIndex.mem_below_iff.1 hi).trans_le hj'
  refine (pairwise_indices t).eq_of_mem_iff hlater fun i => ?_
  rw [List.mem_append, List.mem_filter, ArrayIndex.mem_below_iff, mem_indices_iff]
  constructor
  · intro hi
    rcases Nat.lt_or_ge i.val n with hlt | hge
    · exact Or.inl hlt
    · exact Or.inr ⟨hi, by simpa using hge⟩
  · rintro (hlt | ⟨hi, -⟩)
    · have hkey : Key.ofNat i.val = .index i := dif_pos i.isLt
      exact hkey ▸ h i.val hlt
    · exact hi

theorem map_fst_elements (hn : elements.length ≤ maxLength) :
    ((elements.zipIdx.map fun e => (Key.ofNat (e.2 % (maxLength + 1)), e.1)) ++
      [(Key.length, length)]).map Prod.fst =
        (List.range elements.length).map Key.ofNat ++ [.length] := by
  rw [List.map_append, List.map_map, List.map_singleton, List.range_eq_range',
    ← List.zipIdx_map_snd 0 elements, List.map_map]
  congr 1
  refine List.map_congr_left fun e he => congrArg Key.ofNat (Nat.mod_eq_of_lt ?_)
  have hlt : e.2 < elements.length :=
    (List.getElem?_eq_some_iff.1 (List.mem_zipIdx_iff_getElem?.1 he)).1
  exact Nat.lt_succ_of_lt (hlt.trans_le hn)

theorem nodup_elementKeys (n : Nat) :
    ((List.range n).map Key.ofNat ++ [Key.length]).Nodup := by
  refine (List.nodup_range.map Key.ofNat_injective).append (List.nodup_singleton _) ?_
  rw [List.disjoint_singleton]
  intro hmem
  obtain ⟨i, -, hi⟩ := List.mem_map.1 hmem
  exact Key.ofNat_ne_length i hi

theorem keys_elementTable (hn : elements.length ≤ maxLength) :
    (Exec.elementTable elements length).keys =
      (List.range elements.length).map Key.ofNat ++ [.length] := by
  rw [Exec.elementTable, keys_insertAll_of_nodup, map_fst_elements hn]
  rw [map_fst_elements hn]
  exact nodup_elementKeys _

theorem get?_elementTable {p : Property} (hn : elements.length ≤ maxLength)
    (hp : elements[i]? = some p) :
    (Exec.elementTable elements length).get? (.ofNat i) = some p := by
  have hi : i < elements.length := (List.getElem?_eq_some_iff.1 hp).1
  refine get?_insertAll_of_mem ?_ (List.mem_append_left _ (List.mem_map.2 ⟨(p, i), ?_, ?_⟩))
  · rw [map_fst_elements hn]
    exact nodup_elementKeys _
  · exact List.mem_zipIdx_iff_getElem?.2 hp
  · rw [Nat.mod_eq_of_lt (Nat.lt_succ_of_lt (hi.trans_le hn))]

/-- The elements are listed in order, and then the length. -/
theorem ownKeys_elementTable (hn : elements.length ≤ maxLength) :
    (Exec.elementTable elements length).ownKeys =
      (List.range elements.length).map Key.ofNat ++ [.length] := by
  have hkeys : (Exec.elementTable elements length).keys = _ := keys_elementTable hn
  generalize Exec.elementTable elements length = t at hkeys
  have hindices : t.indices = ArrayIndex.below _ hn := by
    refine (pairwise_indices t).eq_of_mem_iff (ArrayIndex.pairwise_below _ hn) fun i => ?_
    rw [mem_indices_iff, hkeys, List.mem_append, ← ArrayIndex.map_index_below _ hn]
    simp [Key.length]
  have hnames : t.names = [.length] := by
    rw [names, hkeys, List.filter_append, ← ArrayIndex.map_index_below _ hn, List.filter_map]
    simp [Function.comp_def, Key.index?, Key.length]
  rw [ownKeys, hindices, hnames, ArrayIndex.map_index_below]

end PropertyTable

/-! ### Texts -/

/-- What shows a unit. -/
def Property.ofUnit (c : Char) : Property := ⟨.string (String.singleton c), false, true, false⟩

/-- The properties that a box of the text is made with. -/
def textTable (s : String) : PropertyTable :=
  Exec.elementTable ((Text.units s).map .ofUnit) ⟨.ofNat (Text.units s).length, false, false, false⟩

/-- The keys that a box of the text is made with, in the order in which they are listed. -/
def unitKeys (s : String) : List Key :=
  (List.range (Text.utf16 s).length).map .ofNat ++ [.length]

theorem ownKeys_textTable {s : String} (hn : (Text.utf16 s).length ≤ maxLength) :
    (textTable s).ownKeys = unitKeys s := by
  have hlength : ((Text.units s).map Property.ofUnit).length = (Text.utf16 s).length := by
    rw [List.length_map, Text.length_units]
  rw [textTable, PropertyTable.ownKeys_elementTable (hlength ▸ hn), hlength, unitKeys]

namespace Cell

variable {c d : Cell} {s : String} {i : Nat}

/-- The cell is a box of the text, with each unit of it as a read-only property that is enumerable,
and its length as one that is not. -/
structure Spells (c : Cell) (s : String) : Prop where
  kind : c.kind = .string s
  unit : ∀ i u, (Text.utf16 s)[i]? = some u → c.properties.get? (.ofNat i) =
    some ⟨.string (String.singleton (Text.shown u)), false, true, false⟩
  length : c.properties.get? .length =
    some ⟨.ofNat (Text.utf16 s).length, false, false, false⟩

theorem spells_of_textTable (hk : c.kind = .string s) (hc : c.properties = textTable s)
    (hn : (Text.utf16 s).length ≤ maxLength) : c.Spells s where
  kind := hk
  unit i u hu := by
    rw [hc, textTable]
    refine PropertyTable.get?_elementTable ?_ ?_
    · rwa [List.length_map, Text.length_units]
    · rw [Text.units_eq, List.map_map, List.getElem?_map, hu]
      rfl
  length := by rw [hc, textTable, get?_elementTable_length, Text.length_units]

namespace Spells

variable (hc : c.Spells s)

include hc

/-- Whatever scripts do to a box, it is one of the same text. -/
theorem of_evolves (he : c.Evolves d) : d.Spells s := by
  have hfits : c.Fits := fun ha => by
    rw [hc.kind] at ha
    cases ha
  have hkept : ∀ {k p}, c.properties.get? k = some p → p.configurable = false →
      p.writable = false → d.properties.get? k = some p := by
    intro k p hk hconf hw
    obtain ⟨q, hq, hy⟩ := he.locked hk hconf
    rw [hq, hy.eq hconf hw fun _ => hfits]
  exact ⟨he.kind.trans hc.kind, fun i u hu => hkept (hc.unit i u hu) rfl rfl,
    hkept hc.length rfl rfl⟩

theorem exists_get? (hi : i < (Text.utf16 s).length) :
    ∃ p, c.properties.get? (.ofNat i) = some p ∧ p.enumerable = true :=
  ⟨_, hc.unit i _ (List.getElem?_eq_getElem hi), rfl⟩

/-- The units come first among the keys. -/
theorem exists_ownKeys (hn : (Text.utf16 s).length ≤ maxLength) : ∃ rest,
    c.properties.ownKeys = (List.range (Text.utf16 s).length).map .ofNat ++ rest := by
  have hmem : ∀ i < (Text.utf16 s).length, Key.ofNat i ∈ c.properties.keys := by
    intro i hi
    obtain ⟨p, hp, -⟩ := hc.exists_get? hi
    exact OrderedMap.mem_keys_iff.2 ⟨p, hp⟩
  rw [PropertyTable.ownKeys, PropertyTable.indices_eq_of_forall_mem hn hmem, List.map_append,
    ArrayIndex.map_index_below, List.append_assoc]
  exact ⟨_, rfl⟩

/-- Among the enumerable keys the units come first as well, and behind them there are only keys that
the box was not made with. -/
theorem exists_enumerableKeys (hn : (Text.utf16 s).length ≤ maxLength) : ∃ rest,
    c.properties.enumerableKeys = (List.range (Text.utf16 s).length).map .ofNat ++ rest ∧
      ∀ k ∈ rest, k ∉ unitKeys s ∧ ∃ p, c.properties.get? k = some p ∧ p.enumerable = true := by
  obtain ⟨rest, hrest⟩ := hc.exists_ownKeys hn
  have hnodup := PropertyTable.nodup_ownKeys c.properties
  rw [hrest, List.nodup_append] at hnodup
  obtain ⟨-, -, hne⟩ := hnodup
  have hunits : ((List.range (Text.utf16 s).length).map Key.ofNat).filter
      (fun k => (c.properties.get? k).any Property.enumerable) =
        (List.range (Text.utf16 s).length).map .ofNat := by
    refine List.filter_eq_self.2 fun k hk => ?_
    obtain ⟨i, hi, rfl⟩ := List.mem_map.1 hk
    obtain ⟨p, hp, he⟩ := hc.exists_get? (List.mem_range.1 hi)
    rw [hp, Option.any_some, he]
  refine ⟨rest.filter _, by rw [PropertyTable.enumerableKeys, hrest, List.filter_append, hunits],
    fun k hk => ?_⟩
  obtain ⟨hk, he⟩ := List.mem_filter.1 hk
  obtain ⟨p, hp, he⟩ := Option.any_eq_true _ _ |>.1 he
  refine ⟨fun hunit => ?_, p, hp, he⟩
  rcases List.mem_append.1 hunit with hunit | hunit
  · exact hne k hunit k hk rfl
  · rw [List.mem_singleton.1 hunit, hc.length] at hp
    cases hp
    cases he

end Spells

end Cell

end ScriptSandbox
