import ScriptSandbox.Proofs.Machine.Trace
import ScriptSandbox.Realm.Genesis
import ScriptSandbox.Realm.HostType

/-! # Furnishing objects

Objects that nobody knows yet are set up past all checks: functions are put on them, and the objects
of a new realm are tied to each other. This makes and changes new objects only, none of them a box,
and never fails.
-/

namespace ScriptSandbox

/-- Objects of these kinds are made without conditions, and are no boxes. -/
def Kind.IsPlain : Kind → Prop
  | array | boolean _ | number _ | string _ | hostType _ | hostInstance _ => False
  | _ => True

theorem Kind.IsPlain.primitive?_eq_none {k : Kind} (hk : k.IsPlain) : k.primitive? = none := by
  cases k with
  | boolean _ | number _ | string _ => exact hk.elim
  | _ => rfl

namespace Heap

variable {h : Heap} {base : Nat} {r : Ref} {c : Cell}

/-- Where there is no object there is no box. -/
theorem primitive?_of_size_le (hr : h.size ≤ r.id) : (h.kind r).primitive? = none := by
  rw [kind, cell_of_size_le hr]
  rfl

theorem IsNew.base_le (hr : h.IsNew base r) : base ≤ h.size :=
  hr.le.trans hr.lt.le

theorem isNew_alloc (hb : base ≤ h.size) (hl : c.level = .extensible) (hk : c.kind ≠ .array) :
    (h.alloc c).2.IsNew base (h.alloc c).1 where
  le := hb
  lt := by
    rw [size_alloc]
    exact Nat.lt_succ_self _
  level := by rw [cell_alloc_self, hl]
  kind := by rwa [kind, cell_alloc_self]

theorem IsNew.alloc (hr : h.IsNew base r) (c : Cell) : (h.alloc c).2.IsNew base r where
  le := hr.le
  lt := by
    rw [size_alloc]
    exact Nat.lt_succ_of_lt hr.lt
  level := by rw [cell_alloc_of_lt hr.lt, hr.level]
  kind := by
    rw [Heap.kind, cell_alloc_of_lt hr.lt]
    exact hr.kind

theorem IsNew.put (hr : h.IsNew base r) {s : Ref} {c : Cell} (hl : c.level = (h.cell s).level)
    (hk : c.kind = (h.cell s).kind) : (h.put s c).IsNew base r := by
  obtain ⟨hl', hk'⟩ := cell_put_rel (R := fun c d => d.level = c.level ∧ d.kind = c.kind)
    (fun _ => ⟨rfl, rfl⟩) ⟨hl, hk⟩ r
  refine ⟨hr.le, ?_, hl'.trans hr.level, ?_⟩
  · rw [size_put]
    exact hr.lt
  · rw [Heap.kind, hk']
    exact hr.kind

end Heap

namespace Machine

variable {long : Set Ref} {base : Nat} {m m' m'' : Machine} {r : Ref} {c : Cell}

theorem Makes.of_isPlain (hl : c.level = .extensible) (hk : c.kind.IsPlain) : m.Makes long c where
  level := hl
  array h := by
    rw [h] at hk
    exact hk.elim
  hostType h := by
    rw [h] at hk
    exact hk.elim
  hostInstance h := by
    rw [h] at hk
    exact hk.elim

theorem Makes.of_primitive? {v : Value} (hl : c.level = .extensible)
    (hk : c.kind.primitive? = some v) : m.Makes long c where
  level := hl
  array h := by
    rw [h] at hk
    cases hk
  hostType h := by
    rw [h] at hk
    cases hk
  hostInstance h := by
    rw [h] at hk
    cases hk

/-- Making and furnishing objects. What was new is still new, what was there stays as it is, and what
is made is no box. -/
structure Furnishes (base : Nat) (m m' : Machine) : Prop where
  path : Path ∅ base m m'
  realm : m'.realm = m.realm
  isNew : ∀ {r}, m.heap.IsNew base r → m'.heap.IsNew base r
  old : ∀ {r}, r.id < base → r.id < m.heap.size → m'.heap.cell r = m.heap.cell r
  unboxed : ∀ {r}, m.heap.size ≤ r.id → (m'.heap.kind r).primitive? = none

namespace Furnishes

protected theorem refl (m : Machine) : Furnishes base m m :=
  ⟨.refl, rfl, id, fun _ _ => rfl, Heap.primitive?_of_size_le⟩

protected theorem trans (h : Furnishes base m m') (h' : Furnishes base m' m'') :
    Furnishes base m m'' where
  path := h.path.trans h'.path
  realm := h'.realm.trans h.realm
  isNew hr := h'.isNew (h.isNew hr)
  old hb hr := (h'.old hb (hr.trans_le h.path.size_le)).trans (h.old hb hr)
  unboxed {r} hr := by
    rcases Nat.lt_or_ge r.id m'.heap.size with hlt | hge
    · rw [Path.kind_eq h'.path hlt]
      exact h.unboxed hr
    · exact h'.unboxed hge

protected theorem alloc (hc : m.Makes ∅ c) (hk : c.kind.primitive? = none) :
    Furnishes base m (m.withHeap (m.heap.alloc c).2) where
  path := .single (.alloc hc)
  realm := rfl
  isNew hr := hr.alloc c
  old _ hr := Heap.cell_alloc_of_lt hr c
  unboxed {r} hr := by
    rcases m.heap.cell_alloc_cases c r with hold | ⟨-, hnew⟩
    · rw [withHeap, Heap.kind, hold]
      exact Heap.primitive?_of_size_le hr
    · rw [withHeap, Heap.kind, hnew]
      exact hk

protected theorem put (hr : m.heap.IsNew base r) (k : Key) (p : Property) :
    Furnishes base m (m.withHeap (m.heap.put r ((m.heap.cell r).withProperty k p))) where
  path := .single (.furnish hr k p)
  realm := rfl
  isNew hs := hs.put rfl rfl
  old hb _ := Heap.cell_put_of_ne (fun h => absurd (h ▸ hr.le) (Nat.not_le_of_lt hb)) _ _
  unboxed hs := Heap.primitive?_of_size_le ((Heap.size_put _ _ _).trans_le hs)

end Furnishes

end Machine

namespace Exec

variable {α β : Type} {base : Nat} {m m' : Machine} {r : Ref}

/-- A computation succeeds and does no more than furnish objects. -/
def Furnishes (base : Nat) (x : Exec α) (m : Machine) (Q : α → Machine → Prop) : Prop :=
  ∃ a m', x m = .ok a m' ∧ m.Furnishes base m' ∧ Q a m'

/-- The answer is new. -/
abbrev Gives (base : Nat) (r : Ref) (m : Machine) : Prop := m.heap.IsNew base r

abbrev Done (_ : α) (_ : Machine) : Prop := True

namespace Furnishes

variable {x : Exec α} {f : α → Exec β} {Q : α → Machine → Prop} {R : β → Machine → Prop}

theorem path (h : x.Furnishes m.heap.size m Q) : Machine.Path ∅ m.heap.size m (x.final m) := by
  obtain ⟨a, m', hx, hm, -⟩ := h
  rw [final_of_ok hx]
  exact hm.path

protected theorem bind (hx : x.Furnishes base m Q)
    (hf : ∀ a m', m.Furnishes base m' → Q a m' → (f a).Furnishes base m' R) :
    (x >>= f).Furnishes base m R := by
  obtain ⟨a, m₁, h₁, hm₁, hq⟩ := hx
  obtain ⟨b, m₂, h₂, hm₂, hr⟩ := hf a m₁ hm₁ hq
  exact ⟨b, m₂, (bind_of_ok h₁).trans h₂, hm₁.trans hm₂, hr⟩

protected theorem pure {a : α} (hq : Q a m) : (pure a : Exec α).Furnishes base m Q :=
  ⟨a, m, rfl, .refl m, hq⟩

theorem done (hx : x.Furnishes base m Q) : x.Furnishes base m Done := by
  obtain ⟨a, m', h, hm, -⟩ := hx
  exact ⟨a, m', h, hm, trivial⟩

protected theorem discard (hx : x.Furnishes base m Q) : (discard x).Furnishes base m Done := by
  obtain ⟨a, m', h, hm, -⟩ := hx
  exact ⟨(), m', discard_of_ok h, hm, trivial⟩

end Furnishes

theorem furnishes_intrinsics :
    intrinsics.Furnishes base m fun own m' => own = m'.realm.intrinsics :=
  ⟨_, m, rfl, .refl m, rfl⟩

theorem furnishes_alloc {c : Cell} (hb : base ≤ m.heap.size) (hl : c.level = .extensible)
    (hk : c.kind.IsPlain) : (alloc c).Furnishes base m (Gives base) := by
  refine ⟨_, _, rfl, .alloc (.of_isPlain hl hk) hk.primitive?_eq_none, Heap.isNew_alloc hb hl ?_⟩
  intro h
  rw [h] at hk
  exact hk

theorem furnishes_modifyCell (hr : m.heap.IsNew base r) (k : Key) (p : Property) :
    (modifyCell r (·.withProperty k p)).Furnishes base m Done :=
  ⟨(), _, rfl, .put hr k p, trivial⟩

theorem furnishes_createObject (hb : base ≤ m.heap.size) :
    createObject.Furnishes base m (Gives base) :=
  furnishes_intrinsics.bind fun _ _ hm _ => furnishes_alloc (hb.trans hm.path.size_le) rfl trivial

theorem furnishes_createPackage (hb : base ≤ m.heap.size) (path : String) :
    (createPackage path).Furnishes base m (Gives base) :=
  furnishes_intrinsics.bind fun _ _ hm _ => furnishes_alloc (hb.trans hm.path.size_le) rfl trivial

/-! ### Functions on objects -/

theorem furnishes_createFunction (hb : base ≤ m.heap.size) (name : String) (routine : Routine)
    (arity : Nat) : (createFunction name routine arity).Furnishes base m (Gives base) :=
  furnishes_intrinsics.bind fun _ _ hm _ => furnishes_alloc (hb.trans hm.path.size_le) rfl trivial

theorem furnishes_registerMethod (hr : m.heap.IsNew base r) (name : String) (routine : Routine)
    (arity : Nat) : (registerMethod r name routine arity).Furnishes base m Done :=
  (furnishes_createFunction hr.base_le name routine arity).bind fun _ _ hm _ =>
    furnishes_modifyCell (hm.isNew hr) _ _

theorem furnishes_registerStatics (methods : List StaticMethod) (hr : m.heap.IsNew base r) :
    (registerStatics r methods).Furnishes base m Done := by
  induction methods generalizing m with
  | nil => exact .pure trivial
  | cons method rest ih =>
    exact (furnishes_registerMethod hr _ _ _).bind fun _ _ hm _ => ih (hm.isNew hr)

theorem furnishes_registerAll (methods : List (String × Builtin × Nat))
    (hr : m.heap.IsNew base r) : (registerAll r methods).Furnishes base m Done := by
  induction methods generalizing m with
  | nil => exact .pure trivial
  | cons method rest ih =>
    exact (furnishes_registerMethod hr _ _ _).bind fun _ _ hm _ => ih (hm.isNew hr)

/-! ### Objects for failures -/

theorem furnishes_createError (hb : base ≤ m.heap.size) (kind : ErrorKind) (message : String) :
    (createError kind message).Furnishes base m (Gives base) :=
  furnishes_intrinsics.bind fun _ _ hm _ => furnishes_alloc (hb.trans hm.path.size_le) rfl trivial

theorem furnishes_createFailure (hb : base ≤ m.heap.size) (f : Failure) :
    (createFailure f).Furnishes base m (Gives base) := by
  refine Furnishes.bind (Q := Done) ⟨_, m, rfl, .refl m, trivial⟩ fun text m₁ h₁ _ => ?_
  refine (furnishes_createError (hb.trans h₁.path.size_le) f.kind text).bind fun r m₂ h₂ hr => ?_
  cases f.typeName? with
  | some name =>
    exact (furnishes_modifyCell hr _ _).bind fun _ _ hm _ => .pure (hm.isNew hr)
  | none => exact .pure hr

end Exec

end ScriptSandbox
