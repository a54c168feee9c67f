import ScriptSandbox.Proofs.Machine.Step

/-! # Computations as paths

A traced computation runs along a path that makes no long array, whether it succeeds or fails. A
fitted one may end by making a long array, which is then oversized in what it leaves.
-/

namespace ScriptSandbox

namespace Exec

open Machine

variable {α β : Type}

/-- The machine that a computation leaves, however it ends. -/
def final (x : Exec α) (m : Machine) : Machine :=
  match x m with
  | .ok _ m' => m'
  | .error _ m' => m'

/-- A computation that only reads. -/
def Still (x : Exec α) : Prop := ∀ m, x.final m = m

def Traced (x : Exec α) : Prop := ∀ m, Path ∅ m.heap.size m (x.final m)

def Fitted (x : Exec α) : Prop :=
  ∀ m, Path (x.final m).heap.oversized m.heap.size m (x.final m)

/-- What is oversized before the computation is oversized after it. -/
def Lasting (x : Exec α) : Prop := ∀ m, m.heap.oversized ⊆ (x.final m).heap.oversized

variable {x : Exec α} {f : α → Exec β} {m m' : Machine} {a : α}

theorem final_of_ok (h : x m = .ok a m') : x.final m = m' := by
  rw [final, h]

theorem bind_of_ok (h : x m = .ok a m') : (x >>= f) m = f a m' := by
  simp only [bind, EStateM.bind, h]

theorem bind_of_error {e : Failure} (h : x m = .error e m') : (x >>= f) m = .error e m' := by
  simp only [bind, EStateM.bind, h]

theorem exists_of_bind_eq_ok {b : β} (h : (x >>= f) m = .ok b m') :
    ∃ a m₁, x m = .ok a m₁ ∧ f a m₁ = .ok b m' := by
  cases hx : x m with
  | ok a m₁ =>
    rw [bind_of_ok hx] at h
    exact ⟨a, m₁, rfl, h⟩
  | error e m₁ =>
    rw [bind_of_error hx] at h
    cases h

theorem final_bind_of_ok (h : x m = .ok a m') : (x >>= f).final m = (f a).final m' := by
  rw [final, bind_of_ok h, final]

theorem final_bind_of_error {e : Failure} (h : x m = .error e m') :
    (x >>= f).final m = x.final m := by
  rw [final, bind_of_error h, final, h]

theorem Still.traced (h : x.Still) : x.Traced := fun m => by
  rw [h m]

theorem Still.lasting (h : x.Still) : x.Lasting := fun m => by
  rw [h m]

theorem Traced.fitted (h : x.Traced) : x.Fitted := fun m =>
  Path.mono (Set.empty_subset _) (Nat.le_refl _) (h m)

/-! ### Sequences -/

/-- A sequence at one machine, where the second part may rely on what the first part answers. -/
theorem path_bind {long : Set Ref} (hx : Path long m.heap.size m (x.final m))
    (hf : ∀ a m', x m = .ok a m' → Path long m'.heap.size m' ((f a).final m')) :
    Path long m.heap.size m ((x >>= f).final m) := by
  cases h : x m with
  | ok a m' =>
    rw [final_of_ok h] at hx
    rw [final_bind_of_ok h]
    exact hx.trans (Path.mono (Set.Subset.refl _) hx.size_le (hf a m' h))
  | error e m' =>
    rw [final_bind_of_error h]
    exact hx

/-- A sequence at one machine, for any relation that composes. -/
theorem related_bind {R : Machine → Machine → Prop}
    (ht : ∀ {m m' m''}, R m m' → R m' m'' → R m m'') (hx : R m (x.final m))
    (hf : ∀ a m', x m = .ok a m' → R m' ((f a).final m')) : R m ((x >>= f).final m) := by
  cases h : x m with
  | ok a m' =>
    rw [final_of_ok h] at hx
    rw [final_bind_of_ok h]
    exact ht hx (hf a m' h)
  | error e m' =>
    rw [final_bind_of_error h]
    exact hx

/-- After a traced part, only the fitted one may make a long array. -/
theorem fitted_bind (hx : Path ∅ m.heap.size m (x.final m))
    (hf : ∀ a m', x m = .ok a m' →
      Path ((f a).final m').heap.oversized m'.heap.size m' ((f a).final m')) :
    Path ((x >>= f).final m).heap.oversized m.heap.size m ((x >>= f).final m) := by
  refine path_bind (Path.mono (Set.empty_subset _) (Nat.le_refl _) hx) fun a m' h => ?_
  rw [final_bind_of_ok h]
  exact hf a m' h

theorem Traced.bind (hx : x.Traced) (hf : ∀ a, (f a).Traced) : (x >>= f).Traced := fun m =>
  path_bind (hx m) fun a m' _ => hf a m'

theorem Traced.bind_fitted (hx : x.Traced) (hf : ∀ a, (f a).Fitted) : (x >>= f).Fitted := fun m =>
  fitted_bind (hx m) fun a m' _ => hf a m'

/-- A fitted part may come first if what is oversized then is oversized afterwards. -/
theorem Fitted.bind_traced (hx : x.Fitted) (hf : ∀ a, (f a).Traced) (hl : ∀ a, (f a).Lasting) :
    (x >>= f).Fitted := fun m => by
  have hxm := hx m
  cases h : x m with
  | ok a m' =>
    rw [final_of_ok h] at hxm
    rw [final_bind_of_ok h]
    refine (Path.mono (hl a m') (Nat.le_refl _) hxm).trans ?_
    exact Path.mono (Set.empty_subset _) hxm.size_le (hf a m')
  | error e m' =>
    rw [final_bind_of_error h]
    exact hxm

theorem final_bind_still (hf : ∀ a, (f a).Still) (m : Machine) :
    (x >>= f).final m = x.final m := by
  cases h : x m with
  | ok a m' => rw [final_bind_of_ok h, hf a m', final_of_ok h]
  | error e m' => rw [final_bind_of_error h]

theorem Still.bind (hx : x.Still) (hf : ∀ a, (f a).Still) : (x >>= f).Still := fun m => by
  rw [final_bind_still hf, hx m]

theorem Lasting.bind (hx : x.Lasting) (hf : ∀ a, (f a).Lasting) : (x >>= f).Lasting :=
  fun m => by
    cases h : x m with
    | ok a m' =>
      have hxm := hx m
      rw [final_of_ok h] at hxm
      rw [final_bind_of_ok h]
      exact hxm.trans (hf a m')
    | error e m' =>
      rw [final_bind_of_error h]
      exact hx m

theorem Fitted.bind_still (hx : x.Fitted) (hf : ∀ a, (f a).Still) : (x >>= f).Fitted := fun m => by
  rw [final_bind_still hf]
  exact hx m

theorem discard_of_ok (h : x m = .ok a m') : discard x m = .ok () m' := by
  simp only [discard, Functor.discard, Functor.mapConst, EStateM.map, Function.comp_apply, h,
    Function.const_apply]

theorem exists_of_discard_eq_ok {u : PUnit} (h : discard x m = .ok u m') :
    ∃ a, x m = .ok a m' := by
  simp only [discard, Functor.discard, Functor.mapConst, EStateM.map, Function.comp_apply] at h
  cases hx : x m with
  | ok a m₁ =>
    rw [hx] at h
    cases h
    exact ⟨a, rfl⟩
  | error e m₁ =>
    rw [hx] at h
    cases h

theorem final_discard (x : Exec α) (m : Machine) : (discard x).final m = x.final m := by
  simp only [final, discard, Functor.discard, Functor.mapConst, EStateM.map, Function.comp_apply]
  cases x m <;> rfl

theorem Traced.discard (hx : x.Traced) : (discard x).Traced := fun m => by
  rw [final_discard]
  exact hx m

theorem Lasting.discard (hx : x.Lasting) : (discard x).Lasting := fun m => by
  rw [final_discard]
  exact hx m

/-! ### Reading and failing -/

theorem still_pure (a : α) : (pure a : Exec α).Still := fun _ => rfl

theorem still_throw (e : Failure) : (throw e : Exec α).Still := fun _ => rfl

theorem get_apply (m : Machine) : (get : Exec Machine) m = .ok m m := rfl

theorem intrinsics_apply (m : Machine) : intrinsics m = .ok m.realm.intrinsics m := rfl

theorem look_apply (g : Heap → α) (m : Machine) : look g m = .ok (g m.heap) m := rfl

theorem writeMode_apply (m : Machine) : writeMode m = .ok m.realm.writeMode m := rfl

theorem still_get : (get : Exec Machine).Still := fun _ => rfl

theorem still_look (g : Heap → α) : (look g).Still := fun _ => rfl

theorem still_realm : realm.Still := fun _ => rfl

theorem still_intrinsics : intrinsics.Still := fun _ => rfl

theorem still_writeMode : writeMode.Still := fun _ => rfl

theorem still_failType (fault : TypeFault) : (failType fault : Exec α).Still := fun _ => rfl

theorem still_text (v : Value) : (text v).Still := fun _ => rfl

theorem still_ofExcept (r : Except Failure α) : (ofExcept r).Still := fun _ => by
  cases r <;> rfl

theorem Traced.bind_pure (hx : x.Traced) (g : α → β) : (x >>= fun a => pure (g a)).Traced :=
  hx.bind fun a => (still_pure (g a)).traced

theorem Fitted.bind_pure (hx : x.Fitted) (g : α → β) : (x >>= fun a => pure (g a)).Fitted :=
  hx.bind_still fun a => still_pure (g a)

/-! ### Changes of the machine -/

theorem final_modifyRealm (g : Realm → Realm) (m : Machine) :
    (modifyRealm g).final m = { m with realm := g m.realm } := rfl

theorem change_apply (g : Heap → Except Failure α × Heap) (m : Machine) :
    change g m = ofExcept (g m.heap).1 (m.withHeap (g m.heap).2) := rfl

theorem final_change (g : Heap → Except Failure α × Heap) (m : Machine) :
    (change g).final m = m.withHeap (g m.heap).2 :=
  (final_bind_of_ok rfl).trans ((final_bind_of_ok rfl).trans (still_ofExcept _ _))

theorem traced_change {g : Heap → Except Failure α × Heap}
    (h : ∀ m : Machine, Step ∅ m.heap.size m (m.withHeap (g m.heap).2)) :
    (change g).Traced := fun m => by
  rw [final_change]
  exact .single (h m)

theorem traced_set (r : Ref) (k : Key) (v : Value) (mode : WriteMode) :
    (change (·.set r k v mode)).Traced :=
  traced_change fun m => .assign m r k v

theorem lasting_set (r : Ref) {k : Key} (hk : k ≠ .length) (v : Value) (mode : WriteMode) :
    (change (·.set r k v mode)).Lasting := fun m => by
  rw [final_change]
  exact Heap.oversized_subset_assign r hk v

theorem traced_delete (r : Ref) (k : Key) (mode : WriteMode) :
    (change (·.delete r k mode)).Traced :=
  traced_change fun m => .delete m r k

theorem traced_define (r : Ref) (k : Key) (d : Descriptor) : (change (·.define r k d)).Traced :=
  traced_change fun m => .define m r k d

theorem traced_relink (r : Ref) (target : Option Ref) : (change (·.relink r target)).Traced :=
  traced_change fun m => .relink m r target

theorem traced_raise (r : Ref) (l : Level) : (modifyCell r (·.raise l)).Traced := fun m =>
  .single (.raise m r l)

theorem traced_alloc {c : Cell} (h : ∀ m : Machine, m.Makes ∅ c) : (alloc c).Traced := fun m =>
  .single (.alloc (h m))

end Exec

end ScriptSandbox
