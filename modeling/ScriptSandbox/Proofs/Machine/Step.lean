import Mathlib.Logic.Relation
import ScriptSandbox.Proofs.Heap.Array
import ScriptSandbox.Realm.Globals

/-! # The steps of a machine

Whatever a realm does to its machine is a path of few kinds of steps: making an object, the checked
changes of objects, furnishing a new object past all checks, and what a realm notes down. A path
takes its objects from `base` on for new. An array that it makes has no more elements than there are
indices, unless it is one of those that are let be `long`.
-/

namespace ScriptSandbox

/-- An object that is new and still open, and no array. -/
structure Heap.IsNew (h : Heap) (base : Nat) (r : Ref) : Prop where
  le : base ≤ r.id
  lt : r.id < h.size
  level : (h.cell r).level = .extensible
  kind : h.kind r ≠ .array

namespace Machine

def withHeap (m : Machine) (h : Heap) : Machine := { m with heap := h }

def withGate (m : Machine) (g : Gate) : Machine := { m with realm := { m.realm with gate := g } }

/-- The gate lets the class through, and has done so. -/
structure LetsThrough (m : Machine) (c : HostClass) : Prop where
  resolves : ∃ name, m.realm.gate.resolve m.policy name = .ok c
  remembers : m.realm.gate.resolved.contains c.name

/-- What a new cell is. -/
structure Makes (long : Set Ref) (m : Machine) (c : Cell) : Prop where
  level : c.level = .extensible
  array : c.kind = .array → ∃ elements, c.properties = arrayTable elements ∧
    ((m.heap.alloc c).1 ∉ long → elements.length ≤ maxLength)
  hostType : ∀ {cls}, c.kind = .hostType cls → m.LetsThrough cls
  hostInstance : ∀ {cls}, c.kind = .hostInstance cls → ∃ r, m.heap.kind r = .hostType cls

inductive Step (long : Set Ref) (base : Nat) : Machine → Machine → Prop
  -- the heap
  | alloc {m : Machine} {c : Cell} (hc : m.Makes long c) :
      Step long base m (m.withHeap (m.heap.alloc c).2)
  | furnish {m : Machine} {r : Ref} (hr : m.heap.IsNew base r) (k : Key) (p : Property) :
      Step long base m (m.withHeap (m.heap.put r ((m.heap.cell r).withProperty k p)))
  | assign (m : Machine) (r : Ref) (k : Key) (v : Value) :
      Step long base m (m.withHeap (m.heap.assign r k v).2)
  | define (m : Machine) (r : Ref) (k : Key) (d : Descriptor) :
      Step long base m (m.withHeap (m.heap.define r k d).2)
  | delete (m : Machine) (r : Ref) (k : Key) :
      Step long base m (m.withHeap (m.heap.changeCell r (·.delete k)).2)
  | relink (m : Machine) (r : Ref) (target : Option Ref) :
      Step long base m (m.withHeap (m.heap.relink r target).2)
  | raise (m : Machine) (r : Ref) (l : Level) :
      Step long base m (m.withHeap (m.heap.put r ((m.heap.cell r).raise l)))
  -- the realm
  | remember {m : Machine} {name : String} {c : HostClass}
      (hc : m.realm.gate.resolve m.policy name = .ok c) :
      Step long base m (m.withGate (m.realm.gate.remember c))
  | keep {m : Machine} {c : HostClass} {r : Ref} (hr : m.heap.kind r = .hostType c) :
      Step long base m { m with
        realm := { m.realm with typeObjects := m.realm.typeObjects.insert c.name r } }
  | importPackage {m : Machine} {name : String} (hn : TypeName.check name = .ok ())
      (hi : name ∉ m.realm.imports) :
      Step long base m { m with
        realm := { m.realm with imports := m.realm.imports ++ [name] } }
  | setStrict (m : Machine) (strict : Bool) :
      Step long base m { m with
        realm := { m.realm with settings := { m.realm.settings with strict } } }

abbrev Path (long : Set Ref) (base : Nat) : Machine → Machine → Prop :=
  Relation.ReflTransGen (Step long base)

variable {long long' : Set Ref} {base base' : Nat} {m m' : Machine}

theorem Makes.mono (hl : long ⊆ long') {c : Cell} (hc : m.Makes long c) : m.Makes long' c where
  level := hc.level
  array hk := by
    obtain ⟨elements, he, hlen⟩ := hc.array hk
    exact ⟨elements, he, fun h => hlen fun h' => h (hl h')⟩
  hostType := hc.hostType
  hostInstance := hc.hostInstance

/-- Fewer objects count as new for a path that starts later. -/
theorem Step.mono (hl : long ⊆ long') (hb : base' ≤ base) (h : Step long base m m') :
    Step long' base' m m' := by
  cases h with
  | alloc hc => exact .alloc (hc.mono hl)
  | furnish hr k p => exact .furnish ⟨hb.trans hr.le, hr.lt, hr.level, hr.kind⟩ k p
  | assign r k v => exact .assign _ r k v
  | define r k d => exact .define _ r k d
  | delete r k => exact .delete _ r k
  | relink r target => exact .relink _ r target
  | raise r l => exact .raise _ r l
  | remember hc => exact .remember hc
  | keep hr => exact .keep hr
  | importPackage hn hi => exact .importPackage hn hi
  | setStrict strict => exact .setStrict _ strict

theorem Path.mono (hl : long ⊆ long') (hb : base' ≤ base) (h : Path long base m m') :
    Path long' base' m m' :=
  Relation.ReflTransGen.mono (fun _ _ => Step.mono hl hb) _ _ h

theorem Step.policy_eq (h : Step long base m m') : m'.policy = m.policy := by
  cases h <;> rfl

theorem Path.policy_eq (h : Path long base m m') : m'.policy = m.policy := by
  induction h with
  | refl => rfl
  | tail _ h ih => rw [h.policy_eq, ih]

theorem Step.intrinsics_eq (h : Step long base m m') :
    m'.realm.intrinsics = m.realm.intrinsics := by
  cases h <;> rfl

theorem Path.intrinsics_eq (h : Path long base m m') :
    m'.realm.intrinsics = m.realm.intrinsics := by
  induction h with
  | refl => rfl
  | tail _ h ih => rw [h.intrinsics_eq, ih]

/-! ### The heap along a path -/

theorem Step.size_le (h : Step long base m m') : m.heap.size ≤ m'.heap.size := by
  cases h <;> simp [withHeap, withGate, Heap.define]

theorem Path.size_le (h : Path long base m m') : m.heap.size ≤ m'.heap.size := by
  induction h with
  | refl => exact Nat.le_refl _
  | tail _ h ih => exact ih.trans h.size_le

/-- Objects keep their kinds. -/
theorem Step.kind_eq (h : Step long base m m') {r : Ref} (hr : r.id < m.heap.size) :
    m'.heap.kind r = m.heap.kind r := by
  have hk : ∀ {s : Ref} {c : Cell}, c.kind = (m.heap.cell s).kind →
      (m.heap.put s c).kind r = m.heap.kind r := fun hc =>
    Heap.cell_put_rel (R := fun c d => d.kind = c.kind) (fun _ => rfl) hc r
  cases h with
  | alloc hc => exact congrArg Cell.kind (Heap.cell_alloc_of_lt hr _)
  | furnish _ k p => exact hk rfl
  | assign s k v =>
    exact Heap.cell_assign_rel (R := fun c d => d.kind = c.kind) (fun _ => rfl)
      (Heap.frames_assignIn _ _ _ _).kind r
  | define s k d => exact hk (Heap.frames_defineIn _ _ _ _).kind
  | delete s k => exact hk (Cell.frames_delete _ _).kind
  | relink s target => exact (m.heap.evolves_relink s target r).kind
  | raise s l => exact hk (Cell.evolves_raise _ l).kind
  | remember _ | keep _ | importPackage _ _ | setStrict _ => rfl

theorem Path.kind_eq (h : Path long base m m') {r : Ref} (hr : r.id < m.heap.size) :
    m'.heap.kind r = m.heap.kind r := by
  induction h with
  | refl => rfl
  | tail hp h ih => rw [h.kind_eq (hr.trans_le (Path.size_le hp)), ih]

theorem Makes.sound {c : Cell} (hc : m.Makes long c) {fits : Prop}
    (hr : fits → (m.heap.alloc c).1 ∉ long) : c.Sound fits where
  closed := Cell.closed_of_extensible hc.level
  length hk := by
    obtain ⟨elements, he, hlen⟩ := hc.array hk
    exact ⟨_, _, Cell.hasLength_arrayTable he, fun hf => hlen (hr hf)⟩

/-- A step leaves all cells sound, and lengths fit but for new ones that may be long. -/
theorem Step.sound (h : Step long base m m') {r : Ref} {fits : Prop}
    (hs : (m.heap.cell r).Sound fits) (hr : fits → r.id < m.heap.size ∨ r ∉ long) :
    (m'.heap.cell r).Sound fits := by
  cases h with
  | @alloc c hc =>
    rcases m.heap.cell_alloc_cases c r with hold | ⟨hself, hnew⟩
    · rw [withHeap, hold]
      exact hs
    · rw [withHeap, hnew]
      refine hc.sound fun hf => hself ▸ (hr hf).resolve_left ?_
      rw [hself]
      exact Nat.lt_irrefl _
  | @furnish s hs' k p =>
    have hn : ((m.heap.cell s).withProperty k p).Sound fits :=
      ⟨Cell.closed_of_extensible hs'.level, fun hk => absurd hk hs'.kind⟩
    exact Heap.cell_put_rel (R := fun c d => c.Sound fits → d.Sound fits) (fun _ hc => hc)
      (fun _ => hn) r hs
  | assign s k v => exact (Heap.moves_assign hs s k v).sound hs
  | define s k d => exact (Heap.moves_define hs s k d).sound hs
  | delete s k => exact (m.heap.moves_changeCell_delete s k r).sound hs
  | relink s target => exact Heap.sound_relink hs s target
  | raise s l => exact Heap.sound_put_raise hs s l
  | remember _ | keep _ | importPackage _ _ | setStrict _ => exact hs

theorem Path.sound (h : Path long base m m') {r : Ref} {fits : Prop}
    (hs : (m.heap.cell r).Sound fits) (hr : fits → r.id < m.heap.size ∨ r ∉ long) :
    (m'.heap.cell r).Sound fits := by
  induction h with
  | refl => exact hs
  | tail hp h ih =>
    exact h.sound ih fun hf => (hr hf).imp_left fun hlt => hlt.trans_le (Path.size_le hp)

/-- An object that is not new evolves. -/
theorem Step.evolves (h : Step long base m m') {r : Ref} {fits : Prop}
    (hs : (m.heap.cell r).Sound fits) (hr : r.id < base) (hb : base ≤ m.heap.size) :
    (m.heap.cell r).Evolves (m'.heap.cell r) := by
  cases h with
  | @alloc c _ =>
    have heq : (m.heap.alloc c).2.cell r = m.heap.cell r :=
      Heap.cell_alloc_of_lt (hr.trans_le hb) c
    exact heq ▸ .refl _
  | @furnish s hs' k p =>
    have heq : (m.heap.put s ((m.heap.cell s).withProperty k p)).cell r = m.heap.cell r := by
      refine Heap.cell_put_of_ne ?_ _ _
      rintro rfl
      exact absurd hr (Nat.not_lt.2 hs'.le)
    exact heq ▸ .refl _
  | assign s k v => exact (Heap.moves_assign hs s k v).evolves
  | define s k d => exact (Heap.moves_define hs s k d).evolves
  | delete s k => exact (m.heap.moves_changeCell_delete s k r).evolves
  | relink s target => exact m.heap.evolves_relink s target r
  | raise s l => exact m.heap.evolves_put_raise s l r
  | remember _ | keep _ | importPackage _ _ | setStrict _ => exact .refl _

theorem Path.evolves (h : Path long base m m') {r : Ref} {fits : Prop}
    (hs : (m.heap.cell r).Sound fits) (hr : r.id < base) (hb : base ≤ m.heap.size) :
    (m.heap.cell r).Evolves (m'.heap.cell r) := by
  induction h with
  | refl => exact .refl _
  | tail hp h ih =>
    have hs' := Path.sound hp hs fun _ => Or.inl (hr.trans_le hb)
    exact ih.trans (h.evolves hs' hr (hb.trans (Path.size_le hp)))

end Machine

end ScriptSandbox
