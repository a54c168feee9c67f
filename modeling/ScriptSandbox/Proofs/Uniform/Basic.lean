import ScriptSandbox.Proofs.Machine.Trace

/-! # Runs side by side

Two machines may differ in what their realms know, and still have the same objects. A computation is
uniform for such a relation of machines if its runs on related ones end alike: with the same answer
or the same failure, and on related machines again. What only works on objects is uniform for every
relation of this kind.
-/

namespace ScriptSandbox

namespace Machine

/-- Related machines have the same heap and the same intrinsics, and stay related whatever becomes of
the heap. -/
structure IsFrame (R : Machine → Machine → Prop) : Prop where
  heap : ∀ {m m'}, R m m' → m'.heap = m.heap
  intrinsics : ∀ {m m'}, R m m' → m'.realm.intrinsics = m.realm.intrinsics
  withHeap : ∀ {m m'}, R m m' → ∀ h, R (m.withHeap h) (m'.withHeap h)

end Machine

namespace Exec

open Machine

variable {α β : Type} {R : Machine → Machine → Prop}

/-- Two runs have ended alike. -/
inductive Alike (R : Machine → Machine → Prop) :
    EStateM.Result Failure Machine α → EStateM.Result Failure Machine α → Prop
  | ok (a : α) {m m' : Machine} (h : R m m') : Alike R (.ok a m) (.ok a m')
  | error (f : Failure) {m m' : Machine} (h : R m m') : Alike R (.error f m) (.error f m')

def Uniform (R : Machine → Machine → Prop) (x : Exec α) : Prop :=
  ∀ m m', R m m' → Alike R (x m) (x m')

/-- What a run answers, or how it fails. -/
def outcome (x : Exec α) (m : Machine) : Except Failure α :=
  match x m with
  | .ok a _ => .ok a
  | .error f _ => .error f

variable {x : Exec α} {f : α → Exec β} {m m' : Machine}

theorem ok_of_outcome {a : α} (h : x.outcome m = .ok a) : x m = .ok a (x.final m) := by
  unfold outcome at h
  unfold Exec.final
  cases hx : x m with
  | ok b m' =>
    rw [hx] at h
    cases h
    rfl
  | error e m' =>
    rw [hx] at h
    cases h

theorem Alike.outcome_eq {y : Exec α} (h : Alike R (x m) (y m')) : y.outcome m' = x.outcome m := by
  unfold outcome
  generalize x m = r, y m' = r' at h
  cases h <;> rfl

theorem Alike.final {y : Exec α} (h : Alike R (x m) (y m')) : R (x.final m) (y.final m') := by
  unfold Exec.final
  generalize x m = r, y m' = r' at h
  cases h with
  | ok a h | error f h => exact h

theorem Alike.bind (hx : Alike R (x m) (x m'))
    (hf : ∀ a m₁ m₁', x m = .ok a m₁ → R m₁ m₁' → Alike R (f a m₁) (f a m₁')) :
    Alike R ((x >>= f) m) ((x >>= f) m') := by
  simp only [Bind.bind, EStateM.bind]
  generalize x m = r, x m' = r' at hx hf ⊢
  cases hx with
  | ok a h => exact hf a _ _ rfl h
  | error e h => exact .error e h

theorem Uniform.bind (hx : x.Uniform R) (hf : ∀ a, (f a).Uniform R) : (x >>= f).Uniform R :=
  fun m m' h => (hx m m' h).bind fun a _ _ _ h' => hf a _ _ h'

theorem uniform_pure (a : α) : (pure a : Exec α).Uniform R := fun _ _ h => .ok a h

theorem uniform_throw (f : Failure) : (throw f : Exec α).Uniform R := fun _ _ h => .error f h

theorem uniform_failType (fault : TypeFault) : (failType fault : Exec α).Uniform R :=
  uniform_throw _

theorem uniform_ofExcept (r : Except Failure α) : (ofExcept r).Uniform R := by
  cases r with
  | ok a => exact uniform_pure a
  | error f => exact uniform_throw f

theorem Uniform.bind_pure (hx : x.Uniform R) (g : α → β) :
    (x >>= fun a => pure (g a)).Uniform R :=
  hx.bind fun _ => uniform_pure _

theorem Uniform.discard (hx : x.Uniform R) : (discard x).Uniform R := by
  intro m m' h
  have ha := hx m m' h
  simp only [Functor.discard, Functor.mapConst, EStateM.map, Function.comp_apply]
  generalize x m = r, x m' = r' at ha ⊢
  cases ha with
  | ok _ h => exact .ok _ h
  | error f h => exact .error f h

/-- Reading something of the machine on which related machines agree. -/
theorem uniform_read {g : Machine → α} (hg : ∀ {m m'}, R m m' → g m' = g m) :
    (return g (← get) : Exec α).Uniform R := by
  intro m m' h
  change Alike R (.ok (g m) m) (.ok (g m') m')
  rw [hg h]
  exact .ok _ h

/-- Going on by a part of the realm on which related machines agree. -/
theorem uniform_bind_realm (g : Realm → α) {f : α → Exec β}
    (hg : ∀ {m m'}, R m m' → g m'.realm = g m.realm) (hf : ∀ a, (f a).Uniform R) :
    (realm >>= fun r => f (g r)).Uniform R := by
  intro m m' h
  change Alike R (f (g m.realm) m) (f (g m'.realm) m')
  rw [hg h]
  exact hf _ _ _ h

/-! ### Objects -/

section Frame

variable (hR : IsFrame R)

include hR

theorem uniform_look (g : Heap → α) : (look g).Uniform R :=
  uniform_read fun h => by rw [hR.heap h]

theorem uniform_text (v : Value) : (text v).Uniform R := uniform_look hR _

theorem uniform_intrinsics : intrinsics.Uniform R := uniform_read fun h => hR.intrinsics h

theorem uniform_change (g : Heap → Except Failure α × Heap) : (change g).Uniform R := by
  intro m m' h
  have hnext := hR.withHeap h (g m.heap).2
  have hm : ∀ m, change g m = ofExcept (g m.heap).1 (m.withHeap (g m.heap).2) := fun _ => rfl
  rw [hm m, hm m', hR.heap h]
  exact uniform_ofExcept _ _ _ hnext

theorem uniform_alloc (c : Cell) : (alloc c).Uniform R :=
  uniform_change hR fun h => (.ok (h.alloc c).1, (h.alloc c).2)

theorem uniform_modifyCell (r : Ref) (g : Cell → Cell) : (modifyCell r g).Uniform R :=
  uniform_change hR fun h => (.ok (), h.put r (g (h.cell r)))

end Frame

end Exec

end ScriptSandbox
