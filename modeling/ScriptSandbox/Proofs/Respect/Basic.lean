import ScriptSandbox.Proofs.Heap.WellFormed
import ScriptSandbox.Proofs.Machine.Trace
import ScriptSandbox.Realm.Creation

/-! # Computations on well-formed machines

A machine is well-formed if its heap is and its realm knows objects of the heap only. Computations
that are asked about objects of the heap leave a well-formed machine, and answer objects of the heap.
-/

namespace ScriptSandbox

/-- The objects that the engine uses are among the first so many. -/
structure Intrinsics.Below (n : Nat) (own : Intrinsics) : Prop where
  global : own.global.id < n
  objectPrototype : own.objectPrototype.id < n
  functionPrototype : own.functionPrototype.id < n
  arrayPrototype : own.arrayPrototype.id < n
  stringPrototype : own.stringPrototype.id < n
  numberPrototype : own.numberPrototype.id < n
  booleanPrototype : own.booleanPrototype.id < n
  errorPrototype : ∀ kind, (own.errorPrototype kind).id < n

structure Realm.Below (n : Nat) (realm : Realm) : Prop where
  intrinsics : realm.intrinsics.Below n
  typeObjects : ∀ name r, realm.typeObjects.get? name = some r → r.id < n

theorem Intrinsics.Below.mono {n n' : Nat} {own : Intrinsics} (hn : n ≤ n') (h : own.Below n) :
    own.Below n' where
  global := h.global.trans_le hn
  objectPrototype := h.objectPrototype.trans_le hn
  functionPrototype := h.functionPrototype.trans_le hn
  arrayPrototype := h.arrayPrototype.trans_le hn
  stringPrototype := h.stringPrototype.trans_le hn
  numberPrototype := h.numberPrototype.trans_le hn
  booleanPrototype := h.booleanPrototype.trans_le hn
  errorPrototype kind := (h.errorPrototype kind).trans_le hn

theorem Realm.Below.mono {n n' : Nat} {realm : Realm} (hn : n ≤ n') (h : realm.Below n) :
    realm.Below n' where
  intrinsics := h.intrinsics.mono hn
  typeObjects name r hr := (h.typeObjects name r hr).trans_le hn

/-- Keeping a type object. -/
theorem Realm.Below.keep {n : Nat} {realm : Realm} (hrealm : realm.Below n) {name : String}
    {r : Ref} (hr : r.id < n) :
    Realm.Below n { realm with typeObjects := realm.typeObjects.insert name r } where
  intrinsics := hrealm.intrinsics
  typeObjects name' s hs := by
    rw [OrderedMap.get?_insert] at hs
    split at hs
    · cases hs
      exact hr
    · exact hrealm.typeObjects name' s hs

structure Machine.WellFormed (m : Machine) : Prop where
  heap : m.heap.WellFormed
  realm : m.realm.Below m.heap.size

namespace Exec

variable {α β : Type} {n n' : Nat} {x : Exec α} {f : α → Exec β} {Q : Nat → α → Prop}
  {R : Nat → β → Prop}

/-- From a well-formed machine with at least so many objects, a computation leaves a well-formed one
with no fewer, and what it answers is as stated, given the number of objects in the end. -/
def Respects (n : Nat) (x : Exec α) (Q : Nat → α → Prop) : Prop :=
  ∀ m : Machine, m.WellFormed → n ≤ m.heap.size →
    (x.final m).WellFormed ∧ m.heap.size ≤ (x.final m).heap.size ∧
      ∀ a m', x m = .ok a m' → Q m'.heap.size a

/-- Any answer will do. -/
abbrev Any (_ : Nat) (_ : α) : Prop := True

/-- The answer is an object of the heap. -/
abbrev Exists (n : Nat) (r : Ref) : Prop := r.id < n

theorem Respects.bind (hx : x.Respects n Q)
    (hf : ∀ a n', n ≤ n' → Q n' a → (f a).Respects n' R) : (x >>= f).Respects n R := by
  intro m hm hn
  obtain ⟨hw, hle, hq⟩ := hx m hm hn
  cases h : x m with
  | error e m' =>
    rw [final_bind_of_error h]
    refine ⟨hw, hle, fun b m'' hb => ?_⟩
    rw [bind_of_error h] at hb
    cases hb
  | ok a m' =>
    rw [final_of_ok h] at hw hle
    rw [final_bind_of_ok h]
    obtain ⟨hw', hle', hr⟩ := hf a _ (hn.trans hle) (hq a m' h) m' hw (Nat.le_refl _)
    refine ⟨hw', hle.trans hle', fun b m'' hb => ?_⟩
    rw [bind_of_ok h] at hb
    exact hr b m'' hb

theorem Respects.discard (hx : x.Respects n Q) : (discard x).Respects n Any := fun m hm hn => by
  obtain ⟨hw, hle, -⟩ := hx m hm hn
  rw [final_discard]
  exact ⟨hw, hle, fun _ _ _ => trivial⟩

theorem Still.respects (hx : x.Still) : x.Respects n Any := fun m hm _ => by
  rw [hx m]
  exact ⟨hm, Nat.le_refl _, fun _ _ _ => trivial⟩

theorem respects_pure {a : α} (ha : ∀ n', n ≤ n' → Q n' a) : (pure a : Exec α).Respects n Q :=
  fun m hm hn => ⟨hm, Nat.le_refl _, fun _ _ h => by
    cases h
    exact ha _ hn⟩

theorem respects_throw (e : Failure) : (throw e : Exec α).Respects n Q := fun m hm _ =>
  ⟨hm, Nat.le_refl _, fun _ _ h => by cases h⟩

theorem respects_failType (fault : TypeFault) : (failType fault : Exec α).Respects n Q :=
  respects_throw _

theorem respects_ofExcept (r : Except Failure α) : (ofExcept r).Respects n Any :=
  (still_ofExcept r).respects

theorem Respects.bind_pure (hx : x.Respects n Q) (g : α → β) :
    (x >>= fun a => pure (g a)).Respects n Any :=
  hx.bind fun _ _ _ _ => respects_pure fun _ _ => trivial

/-- A sequence where the second part does not rely on the first one's answer. -/
theorem Respects.seq (hx : x.Respects n Q) (hf : ∀ a n', n ≤ n' → (f a).Respects n' R) :
    (x >>= f).Respects n R :=
  hx.bind fun a n' hn _ => hf a n' hn

theorem respects_look {g : Heap → α}
    (hg : ∀ h : Heap, h.WellFormed → n ≤ h.size → Q h.size (g h)) : (look g).Respects n Q :=
  fun m hm hn => ⟨hm, Nat.le_refl _, fun _ _ h => by
    cases h
    exact hg _ hm.heap hn⟩

theorem respects_realm : realm.Respects n Realm.Below := fun m hm _ =>
  ⟨hm, Nat.le_refl _, fun _ _ h => by
    cases h
    exact hm.realm⟩

theorem respects_intrinsics : intrinsics.Respects n Intrinsics.Below := fun m hm _ =>
  ⟨hm, Nat.le_refl _, fun _ _ h => by
    cases h
    exact hm.realm.intrinsics⟩

/-! ### Changes -/

theorem respects_change {g : Heap → Except Failure α × Heap}
    (hg : ∀ h : Heap, h.WellFormed → n ≤ h.size → (g h).2.WellFormed ∧ (g h).2.size = h.size) :
    (change g).Respects n Any := by
  intro m hm hn
  obtain ⟨hw, hsize⟩ := hg _ hm.heap hn
  rw [final_change]
  refine ⟨⟨hw, ?_⟩, ?_, fun _ _ _ => trivial⟩
  · change m.realm.Below (g m.heap).2.size
    rw [hsize]
    exact hm.realm
  · exact hsize.ge

theorem respects_set {k : Key} {v : Value} (hk : k.IsCanonical) (hv : v.Below n) (r : Ref)
    (mode : WriteMode) : (change (·.set r k v mode)).Respects n Any :=
  respects_change fun h hw hn => ⟨hw.assign hk (hv.mono hn) r, h.size_assign r k v⟩

theorem respects_delete (r : Ref) (k : Key) (mode : WriteMode) :
    (change (·.delete r k mode)).Respects n Any :=
  respects_change fun h hw _ => ⟨hw.delete r k, h.size_changeCell r (·.delete k)⟩

theorem respects_define {k : Key} {d : Descriptor} (hk : k.IsCanonical) (hd : d.Below n) (r : Ref) :
    (change (·.define r k d)).Respects n Any :=
  respects_change fun h hw hn => ⟨hw.define hk (hd.mono hn) r, h.size_changeCell r _⟩

theorem respects_relink {target : Option Ref} (ht : ∀ s, target = some s → s.id < n) (r : Ref) :
    (change (·.relink r target)).Respects n Any :=
  respects_change fun h hw hn =>
    ⟨hw.relink (fun s hs => (ht s hs).trans_le hn) r, h.size_relink r target⟩

theorem respects_modifyCell {r : Ref} {g : Cell → Cell}
    (hg : ∀ h : Heap, h.WellFormed → n ≤ h.size → (h.put r (g (h.cell r))).WellFormed) :
    (modifyCell r g).Respects n Any := by
  intro m hm hn
  have hsize : (m.heap.put r (g (m.heap.cell r))).size = m.heap.size := m.heap.size_put r _
  refine ⟨⟨hg _ hm.heap hn, ?_⟩, hsize.ge, fun _ _ _ => trivial⟩
  exact hm.realm.mono hsize.ge

theorem respects_raise (r : Ref) (l : Level) : (modifyCell r (·.raise l)).Respects n Any :=
  respects_modifyCell fun _ hw _ => hw.raise r l

theorem respects_furnish {k : Key} {p : Property} (hk : k.IsCanonical) (hp : p.value.Below n)
    (r : Ref) : (modifyCell r (·.withProperty k p)).Respects n Any :=
  respects_modifyCell fun _ hw hn => hw.withProperty ⟨hk, hp.mono hn⟩ r

theorem respects_alloc {c : Cell} (hc : c.Below n) : (alloc c).Respects n Exists := by
  intro m hm hn
  have hsize : (m.heap.alloc c).2.size = m.heap.size + 1 := m.heap.size_alloc c
  have hle : m.heap.size ≤ (m.heap.alloc c).2.size := hsize ▸ Nat.le_succ _
  refine ⟨⟨hm.heap.alloc (hc.mono hn), hm.realm.mono hle⟩, hle, fun r m' h => ?_⟩
  cases h
  exact hsize ▸ Nat.lt_succ_self _

theorem respects_modifyRealm {g : Realm → Realm}
    (hg : ∀ n' realm, n ≤ n' → realm.Below n' → (g realm).Below n') :
    (modifyRealm g).Respects n Any := fun _ hm hn =>
  ⟨⟨hm.heap, hg _ _ hn hm.realm⟩, Nat.le_refl _, fun _ _ _ => trivial⟩

end Exec

end ScriptSandbox
