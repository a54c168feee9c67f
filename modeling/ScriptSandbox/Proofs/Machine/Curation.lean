import ScriptSandbox.Proofs.Habit.Operation
import ScriptSandbox.Proofs.Table

/-! # Type objects under operations

A type object is what its class makes of it: its cell is known from the class and its place, and
frozen, so it stays like that. A realm keeps every type object that it makes, and drops none, so it
has one for a name.
-/

namespace ScriptSandbox

/-- A cell that is frozen for good stays as it is. -/
theorem Cell.Evolves.eq_of_frozen {c d : Cell} (h : c.Evolves d) (hc : c.Closed)
    (hl : c.level = .frozen) (hk : c.kind ≠ .array) : d = c := by
  have hle : .frozen ≤ c.level := by
    rw [hl]
    decide
  have hne : c.level ≠ .extensible := by simp [hl]
  have hsealed : ∀ {k p}, c.properties.get? k = some p → p.configurable = false :=
    hc.sealed (Level.le_trans (by decide) hle)
  have hlevel : d.level = c.level := by
    have hrise := h.level
    rw [hl] at hrise ⊢
    cases hd : d.level <;> rw [hd] at hrise <;> first | rfl | exact absurd hrise (by decide)
  have hproperties : d.properties = c.properties :=
    OrderedMap.ext_get? (h.keys_eq hne hsealed) fun k =>
      h.get?_eq hne hsealed (hc.frozen hle) k fun _ ha => absurd ha hk
  cases c
  cases d
  have hprototype := h.prototype hne
  have hkind := h.kind
  simp_all

namespace HostClass

variable {c : HostClass} {target : Ref} {place : Nat} {k : Key} {p : Property}

theorem keys_typeCell (c : HostClass) (target : Ref) (place : Nat) :
    (c.typeCell target place).properties.keys = (c.statics.map StaticMethod.key).eraseDups := by
  rw [typeCell, OrderedMap.keys_mapValues, PropertyTable.keys_insertAll_empty,
    StaticMethod.map_fst_entries]

/-- Of the static methods under one key, the last is found. -/
theorem get?_typeCell {i : Nat} {s : StaticMethod} (hs : c.statics[i]? = some s)
    (hlast : ∀ j t, i < j → c.statics[j]? = some t → t.key ≠ s.key) :
    (c.typeCell target place).properties.get? s.key =
      some ⟨.object ⟨place + 1 + i⟩, false, false, false⟩ := by
  have hget : ∀ (ss : List StaticMethod) (n i : Nat) (t : PropertyTable), ss[i]? = some s →
      (∀ j t, i < j → ss[j]? = some t → t.key ≠ s.key) →
      (t.insertAll (StaticMethod.entries n ss)).get? s.key =
        some (.hidden (.object ⟨n + i⟩)) := by
    intro ss
    induction ss with
    | nil => exact fun n i t h => by cases h
    | cons s' rest ih =>
      intro n i t hi hlast
      cases i with
      | zero =>
        cases hi
        have hnot : s.key ∉ (StaticMethod.entries (n + 1) rest).map Prod.fst := by
          rw [StaticMethod.map_fst_entries, List.mem_map]
          rintro ⟨t, ht, hkey⟩
          obtain ⟨j, hj⟩ := List.mem_iff_getElem?.1 ht
          exact hlast (j + 1) t (Nat.succ_pos j) hj hkey
        refine (PropertyTable.get?_insertAll_of_not_mem hnot).trans ?_
        exact (OrderedMap.get?_insert _ _ _ _).trans (if_pos rfl)
      | succ i =>
        have hnext := ih (n + 1) i (t.insert s'.key (.hidden (.object ⟨n⟩))) hi
          fun j t hij hj => hlast (j + 1) t (Nat.succ_lt_succ hij) hj
        rw [Nat.add_right_comm] at hnext
        exact hnext
  rw [typeCell, OrderedMap.get?_mapValues, hget c.statics _ i .empty hs hlast]
  rfl

theorem closed_typeCell (c : HostClass) (target : Ref) (place : Nat) :
    (c.typeCell target place).Closed := by
  have hclose : ∀ {k p}, (c.typeCell target place).properties.get? k = some p →
      ∃ q : Property, p = q.close .frozen := by
    intro k p hp
    rw [typeCell, OrderedMap.get?_mapValues] at hp
    obtain ⟨q, -, rfl⟩ := Option.map_eq_some_iff.1 hp
    exact ⟨q, rfl⟩
  constructor
  · intro _ k p hp
    obtain ⟨q, rfl⟩ := hclose hp
    exact Bool.and_false _
  · intro _ k p hp
    obtain ⟨q, rfl⟩ := hclose hp
    exact Bool.and_false _

end HostClass

namespace Heap

variable {h h' : Heap} {c : HostClass} {target r : Ref}

/-- The object is the type object of the class, with the functions of its static methods behind
it. -/
structure Represents (h : Heap) (c : HostClass) (target r : Ref) : Prop where
  cell : h.cell r = c.typeCell target r.id
  functions : ∀ i s, c.statics[i]? = some s → h.kind ⟨r.id + 1 + i⟩ = .function s.callable

namespace Represents

theorem kind (hr : h.Represents c target r) : h.kind r = .hostType c := by
  rw [Heap.kind, hr.cell, HostClass.typeCell]

theorem lt_size (hr : h.Represents c target r) : r.id < h.size :=
  lt_size_of_hostType hr.kind

theorem closed (hr : h.Represents c target r) : (h.cell r).Closed := by
  rw [hr.cell]
  exact c.closed_typeCell target r.id

/-- It stays what it is while objects evolve and keep their kinds. -/
theorem of_evolves (hr : h.Represents c target r) (he : (h.cell r).Evolves (h'.cell r))
    (hk : ∀ s : Ref, s.id < h.size → h'.kind s = h.kind s) : h'.Represents c target r where
  cell := by
    refine (he.eq_of_frozen hr.closed ?_ ?_).trans hr.cell
    · rw [hr.cell, HostClass.typeCell]
    · rw [hr.cell, HostClass.typeCell]
      nofun
  functions i s hs := by
    have hf := hr.functions i s hs
    rw [hk _ (ref_lt_of_kind_ne hf nofun), hf]

theorem of_cell_eq (hr : h.Represents c target r)
    (he : ∀ s : Ref, s.id < h.size → h'.cell s = h.cell s) : h'.Represents c target r :=
  hr.of_evolves (he r hr.lt_size ▸ .refl _) fun s hs => congrArg Cell.kind (he s hs)

end Represents

end Heap

namespace Machine

variable {long : Set Ref} {base : Nat} {m m' m'' : Machine} {c : HostClass} {r : Ref}

/-- The realm keeps its type objects, and each new one of them as what its class makes of it. -/
structure Curates (m m' : Machine) : Prop where
  size_le : m.heap.size ≤ m'.heap.size
  intrinsics : m'.realm.intrinsics = m.realm.intrinsics
  kind : ∀ r : Ref, r.id < m.heap.size → m'.heap.kind r = m.heap.kind r
  represents : ∀ {c target r}, m.heap.Represents c target r → m'.heap.Represents c target r
  kept : ∀ {name r}, m.realm.typeObjects.get? name = some r →
    m'.realm.typeObjects.get? name = some r
  fresh : ∀ {r c}, m.heap.size ≤ r.id → m'.heap.kind r = .hostType c →
    m'.realm.typeObjects.get? c.name = some r ∧
      m'.heap.Represents c m'.realm.intrinsics.functionPrototype r

namespace Curates

protected theorem trans (h : m.Curates m') (h' : m'.Curates m'') : m.Curates m'' where
  size_le := h.size_le.trans h'.size_le
  intrinsics := h'.intrinsics.trans h.intrinsics
  kind r hr := (h'.kind r (hr.trans_le h.size_le)).trans (h.kind r hr)
  represents hr := h'.represents (h.represents hr)
  kept hr := h'.kept (h.kept hr)
  fresh {r c} hr hc := by
    by_cases hlt : r.id < m'.heap.size
    · rw [h'.kind r hlt] at hc
      obtain ⟨hkept, hrep⟩ := h.fresh hr hc
      rw [h'.intrinsics]
      exact ⟨h'.kept hkept, h'.represents hrep⟩
    · exact h'.fresh (Nat.not_lt.1 hlt) hc

/-- Nothing has been made, and nothing is kept that was not. -/
theorem of_step (h : Step ∅ m.heap.size m m') (hs : m'.heap.size = m.heap.size)
    (ht : m'.realm.typeObjects = m.realm.typeObjects) : m.Curates m' where
  size_le := h.size_le
  intrinsics := h.intrinsics_eq
  kind r hr := h.kind_eq hr
  represents {c target r} hr := by
    have hsound : (m.heap.cell r).Sound True := ⟨hr.closed, fun ha => by
      rw [hr.cell, HostClass.typeCell] at ha
      cases ha⟩
    exact hr.of_evolves (h.evolves hsound hr.lt_size (Nat.le_refl _)) fun s hs => h.kind_eq hs
  kept hr := by rwa [ht]
  fresh {r c} hr hc := by
    have hlt : r.id < m'.heap.size := Heap.lt_size_of_hostType hc
    omega

theorem make {d : Cell} (hd : d.kind.hostType? = none) :
    m.Curates (m.withHeap (m.heap.alloc d).2) where
  size_le := by
    rw [withHeap, Heap.size_alloc]
    exact Nat.le_succ _
  intrinsics := rfl
  kind r hr := congrArg Cell.kind (Heap.cell_alloc_of_lt hr d)
  represents hr := hr.of_cell_eq fun s hs => Heap.cell_alloc_of_lt hs d
  kept hr := hr
  fresh {r c} hr hc := by
    rcases m.heap.cell_alloc_cases d r with hold | ⟨-, hnew⟩
    · rw [withHeap, Heap.kind, hold] at hc
      exact absurd (Heap.lt_size_of_hostType hc) (Nat.not_lt.2 hr)
    · rw [withHeap, Heap.kind, hnew] at hc
      rw [hc] at hd
      cases hd

/-- Of what comes in with a type object, it alone is one. -/
theorem represents_enroll (m : Machine) (c : HostClass) :
    (m.enroll c).heap.Represents c m.realm.intrinsics.functionPrototype ⟨m.heap.size⟩ where
  cell := Heap.cell_allocAll_cons _ _ _
  functions i s hs := by
    have hcell : (c.cells m.realm.intrinsics.functionPrototype m.heap.size)[i + 1]? =
        some (s.callable.cell m.realm.intrinsics.functionPrototype) := by
      rw [HostClass.cells, List.getElem?_cons_succ, List.getElem?_map, hs, Option.map_some]
    have hkind := congrArg Cell.kind (Heap.cell_allocAll (h := m.heap) hcell)
    rw [← Nat.add_assoc, Nat.add_right_comm] at hkind
    exact hkind

/-- What else comes in with it are functions. -/
theorem kind_enroll (m : Machine) (c : HostClass) {r : Ref} (hr : m.heap.size ≤ r.id)
    (hlt : r.id < (m.enroll c).heap.size) :
    r = ⟨m.heap.size⟩ ∨ ∃ f, (m.enroll c).heap.kind r = .function f := by
  obtain ⟨id⟩ := r
  obtain ⟨i, rfl⟩ := Nat.exists_eq_add_of_le hr
  rw [Machine.enroll, Heap.size_allocAll] at hlt
  cases i with
  | zero => exact Or.inl rfl
  | succ i =>
    have hi : i < c.statics.length := by
      simp only [HostClass.cells, List.length_cons, List.length_map] at hlt
      omega
    have hfunction := (represents_enroll m c).functions i _ (List.getElem?_eq_getElem hi)
    rw [Nat.add_right_comm, Nat.add_assoc] at hfunction
    exact Or.inr ⟨_, hfunction⟩

theorem enroll (hc : m.realm.typeObjects.get? c.name = none) : m.Curates (m.enroll c) where
  size_le := by
    rw [Machine.enroll, Heap.size_allocAll]
    exact Nat.le_add_right _ _
  intrinsics := rfl
  kind r hr := congrArg Cell.kind (Heap.cell_allocAll_of_lt hr _)
  represents hr := hr.of_cell_eq fun s hs => Heap.cell_allocAll_of_lt hs _
  kept {name r} hr := by
    rw [Machine.enroll, OrderedMap.get?_insert, if_neg]
    · exact hr
    · rintro rfl
      rw [hc] at hr
      cases hr
  fresh {r d} hr hd := by
    rcases kind_enroll m c hr (Heap.lt_size_of_hostType hd) with rfl | ⟨f, hf⟩
    · have hrep := represents_enroll m c
      rw [hrep.kind] at hd
      cases hd
      exact ⟨(OrderedMap.get?_insert _ _ _ _).trans (if_pos rfl), hrep⟩
    · rw [hf] at hd
      cases hd

end Curates

theorem isHabit_curates : IsHabit Curates where
  refl _ := ⟨Nat.le_refl _, rfl, fun _ _ => rfl, id, id, fun hr hc =>
    absurd (Heap.lt_size_of_hostType hc) (Nat.not_lt.2 hr)⟩
  trans := .trans
  quiet := .of_step
  make _ _ hc := .make hc.hostType
  enroll _ hc := .enroll hc

end Machine

end ScriptSandbox
