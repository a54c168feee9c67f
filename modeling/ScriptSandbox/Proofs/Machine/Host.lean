import ScriptSandbox.Proofs.Gate
import ScriptSandbox.Proofs.Machine.Step

/-! # Host classes along a path

The policy and the catalog stay as they are along a path, so what the gate lets through anywhere on
it is what it lets through at its start. Every host class that a path brings into the heap has been
let through, and is remembered at its end.
-/

namespace ScriptSandbox

/-- The host class that an object carries, as its type object or as an instance of it. -/
def Kind.hostClass? : Kind → Option HostClass
  | hostType c | hostInstance c => some c
  | _ => none

/-- Some object carries the host class. -/
def Heap.Carries (h : Heap) (c : HostClass) : Prop := ∃ r, (h.kind r).hostClass? = some c

theorem Heap.lt_size_of_hostClass? {h : Heap} {r : Ref} {c : HostClass}
    (hr : (h.kind r).hostClass? = some c) : r.id < h.size :=
  ref_lt_of_kind_ne rfl fun hk => by
    rw [hk] at hr
    cases hr

namespace Machine

variable {long : Set Ref} {base : Nat} {m m' : Machine} {c : HostClass}

/-- The gate of a realm stays sound. -/
theorem Step.gate (h : Step long base m m') (hg : m.realm.gate.Sound) :
    m'.realm.gate.Sound ∧ m.realm.gate.Extends m'.realm.gate := by
  cases h with
  | remember hc => exact ⟨hg.remember hc, Gate.extends_remember _ _⟩
  | _ => exact ⟨hg, .refl _⟩

theorem Path.gate (h : Path long base m m') (hg : m.realm.gate.Sound) :
    m'.realm.gate.Sound ∧ m.realm.gate.Extends m'.realm.gate := by
  induction h with
  | refl => exact ⟨hg, .refl _⟩
  | tail _ h ih =>
    obtain ⟨hg', he⟩ := h.gate ih.1
    exact ⟨hg', ih.2.trans he⟩

/-- A sound gate lets a class through under its own name and remembers just that class. -/
theorem LetsThrough.of_sound (h : m.LetsThrough c) (hg : m.realm.gate.Sound) :
    m.realm.gate.resolve m.policy c.name = .ok c ∧
      m.realm.gate.resolved.get? c.name = some c := by
  obtain ⟨⟨name, hname⟩, hmem⟩ := h
  rw [← hg.name_eq hname] at hname
  refine ⟨hname, ?_⟩
  rw [OrderedMap.contains, Option.isSome_iff_exists] at hmem
  obtain ⟨d, hd⟩ := hmem
  obtain ⟨-, -, hf⟩ := Gate.resolve_eq_ok_iff.1 hname
  rw [hg.find?_eq_catalog, hg.kept hd] at hf
  rw [hd, hf]

/-- What a gate remembers it remembered before, or it would let it through before. -/
theorem Step.remembered (h : Step long base m m') (hg : m.realm.gate.Sound)
    (hc : m'.realm.gate.resolved.get? c.name = some c) :
    m.realm.gate.resolved.get? c.name = some c ∨
      m.realm.gate.resolve m.policy c.name = .ok c := by
  cases h with
  | @remember name d hd =>
    rw [withGate, Gate.get?_remember, Option.or_eq_some_iff] at hc
    rcases hc with hc | ⟨-, hc⟩
    · exact Or.inl hc
    · split_ifs at hc
      cases hc
      rw [hg.name_eq hd]
      exact Or.inr hd
  | _ => exact Or.inl hc

theorem Path.remembered (h : Path long base m m') (hg : m.realm.gate.Sound)
    (hc : m'.realm.gate.resolved.get? c.name = some c) :
    m.realm.gate.resolved.get? c.name = some c ∨
      m.realm.gate.resolve m.policy c.name = .ok c := by
  induction h with
  | refl => exact Or.inl hc
  | tail hp h ih =>
    obtain ⟨hg', he⟩ := Path.gate hp hg
    rcases h.remembered hg' hc with hc | hr
    · exact ih hc
    · rw [Path.policy_eq hp] at hr
      exact Or.inr ((hg.resolve_eq_ok_iff_of_extends hg' he).1 hr)

/-- A new object carries only what the gate let through or what its type object carries. -/
theorem Makes.carries {d : Cell} (hd : m.Makes long d) (hc : d.kind.hostClass? = some c) :
    m.heap.Carries c ∨ m.LetsThrough c := by
  cases hk : d.kind with
  | hostType e =>
    rw [hk] at hc
    cases hc
    exact Or.inr (hd.hostType hk)
  | hostInstance e =>
    rw [hk] at hc
    cases hc
    obtain ⟨s, hs⟩ := hd.hostInstance hk
    exact Or.inl ⟨s, by rw [hs, Kind.hostClass?]⟩
  | _ =>
    rw [hk] at hc
    cases hc

theorem Step.carries (h : Step long base m m') (hc : m'.heap.Carries c) :
    m.heap.Carries c ∨ m.LetsThrough c := by
  obtain ⟨r, hr⟩ := hc
  by_cases hlt : r.id < m.heap.size
  · rw [h.kind_eq hlt] at hr
    exact Or.inl ⟨r, hr⟩
  · have hlt' : r.id < m'.heap.size := Heap.lt_size_of_hostClass? hr
    cases h with
    | @alloc d hd =>
      rw [withHeap, Heap.kind] at hr
      rcases m.heap.cell_alloc_cases d r with hold | ⟨-, hnew⟩
      · rw [hold] at hr
        exact Or.inl ⟨r, hr⟩
      · rw [hnew] at hr
        exact hd.carries hr
    | furnish | assign | define | delete | relink | raise =>
      refine absurd ?_ hlt
      simpa [withHeap, Heap.define] using hlt'
    | remember | keep | importPackage | setStrict => exact absurd hlt' hlt

/-- A host class that comes into the heap along a path would be let through at its start, and is
remembered at its end. -/
theorem Path.carries (h : Path long base m m') (hg : m.realm.gate.Sound) (hc : m'.heap.Carries c) :
    m.heap.Carries c ∨ m.realm.gate.resolve m.policy c.name = .ok c ∧
      m'.realm.gate.resolved.get? c.name = some c := by
  induction h with
  | refl => exact Or.inl hc
  | tail hp h ih =>
    obtain ⟨hg', he⟩ := Path.gate hp hg
    have he' := (h.gate hg').2
    rcases h.carries hc with hc | ht
    · exact (ih hc).imp_right fun hr => ⟨hr.1, he'.resolved hr.2⟩
    · obtain ⟨hr, hm⟩ := ht.of_sound hg'
      rw [Path.policy_eq hp] at hr
      exact Or.inr ⟨(hg.resolve_eq_ok_iff_of_extends hg' he).1 hr, he'.resolved hm⟩

/-- The class of a type object that comes into the heap along a path is remembered at its end. -/
theorem Path.contains_of_hostType (h : Path long base m m') (hg : m.realm.gate.Sound) {r : Ref}
    (hr : m.heap.size ≤ r.id) (hk : m'.heap.kind r = .hostType c) :
    m'.realm.gate.resolved.contains c.name := by
  induction h with
  | refl => exact absurd (Heap.lt_size_of_hostType hk) (Nat.not_lt.2 hr)
  | @tail m₁ m₂ hp h ih =>
    have hlt : r.id < m₂.heap.size := Heap.lt_size_of_hostType hk
    by_cases hold : r.id < m₁.heap.size
    · rw [h.kind_eq hold] at hk
      obtain ⟨d, hd⟩ := Option.isSome_iff_exists.1 (ih hk)
      have he := (h.gate (Path.gate hp hg).1).2
      exact Option.isSome_iff_exists.2 ⟨d, he.resolved hd⟩
    · cases h with
      | @alloc d hd =>
        rw [withHeap, Heap.kind] at hk
        rcases m₁.heap.cell_alloc_cases d r with hold' | ⟨-, hnew⟩
        · rw [hold'] at hk
          exact absurd (Heap.lt_size_of_hostType hk) hold
        · rw [hnew] at hk
          exact (hd.hostType hk).remembers
      | furnish | assign | define | delete | relink | raise =>
        refine absurd ?_ hold
        simpa [withHeap, Heap.define] using hlt
      | remember | keep | importPackage | setStrict => exact absurd hlt hold

end Machine

end ScriptSandbox
