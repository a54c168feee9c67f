import ScriptSandbox.Proofs.Machine.Genesis

/-! # What furnishing a realm spares

A realm is furnished by making objects and by putting properties on them. Each part names the few
objects and keys that it puts something on, so that all other properties are known to stay.
-/

namespace ScriptSandbox

namespace Heap

variable {h : Heap} {r s : Ref} {j k : Key} {p : Property}

/-- Puts a property on an object past all checks. -/
def furnish (h : Heap) (r : Ref) (k : Key) (p : Property) : Heap :=
  h.put r ((h.cell r).withProperty k p)

@[simp] theorem size_furnish (h : Heap) (r : Ref) (k : Key) (p : Property) :
    (h.furnish r k p).size = h.size :=
  h.size_put r _

@[simp] theorem kind_furnish (h : Heap) (r : Ref) (k : Key) (p : Property) (s : Ref) :
    (h.furnish r k p).kind s = h.kind s :=
  cell_put_rel (R := fun c d => d.kind = c.kind) (fun _ => rfl) (by rfl) s

theorem own?_furnish (hr : r.id < h.size) : (h.furnish r k p).own? r k = some p := by
  rw [own?, furnish, cell_put_self hr]
  exact (OrderedMap.get?_insert _ _ _ _).trans (if_pos rfl)

theorem own?_furnish_of_ne (hne : r ≠ s ∨ j ≠ k) : (h.furnish r j p).own? s k = h.own? s k := by
  rcases hne with hne | hne
  · exact congrArg (·.properties.get? k) (cell_put_of_ne hne.symm h _)
  · refine cell_put_rel (R := fun c d => d.properties.get? k = c.properties.get? k)
      (fun _ => rfl) ?_ s
    exact (OrderedMap.get?_insert _ _ _ _).trans (if_neg hne.symm)

end Heap

/-! ### Sparing a property -/

namespace Machine

variable {realm : Realm} {base : Nat} {r s : Ref} {j k : Key} {m m' m'' : Machine}

/-- In this realm, the object is still there and what it was, with the property of the key. -/
def Spares (realm : Realm) (r : Ref) (k : Key) (m m' : Machine) : Prop :=
  m.realm = realm → r.id < m.heap.size →
    m'.realm = realm ∧ r.id < m'.heap.size ∧ m'.heap.kind r = m.heap.kind r ∧
      m'.heap.own? r k = m.heap.own? r k

namespace Spares

protected theorem refl (m : Machine) : m.Spares realm r k m := fun hm hr => ⟨hm, hr, rfl, rfl⟩

protected theorem trans (h : m.Spares realm r k m') (h' : m'.Spares realm r k m'') :
    m.Spares realm r k m'' := fun hm hr => by
  obtain ⟨hm', hr', hkind, hown⟩ := h hm hr
  obtain ⟨hm'', hr'', hkind', hown'⟩ := h' hm' hr'
  exact ⟨hm'', hr'', hkind'.trans hkind, hown'.trans hown⟩

theorem furnish (hne : s ≠ r ∨ j ≠ k) (p : Property) :
    m.Spares realm r k (m.withHeap (m.heap.furnish s j p)) := fun hm hr =>
  ⟨hm, by rwa [withHeap, Heap.size_furnish], Heap.kind_furnish _ _ _ _ _,
    Heap.own?_furnish_of_ne hne⟩

end Spares

/-- Making new objects spares the old ones. -/
theorem Furnishes.spares (h : m.Furnishes m.heap.size m') : m.Spares realm r k m' :=
  fun hm hr => ⟨h.realm.trans hm, hr.trans_le h.path.size_le,
    congrArg Cell.kind (h.old hr hr), congrArg (·.properties.get? k) (h.old hr hr)⟩

end Machine

namespace Exec

open Machine

variable {α β : Type} {realm : Realm} {own : Intrinsics} {base : Nat} {r s : Ref} {j k : Key}

/-- The computation leaves the object what it is, with the property of the key. -/
def Spares (realm : Realm) (r : Ref) (k : Key) (x : Exec α) : Prop :=
  ∀ m : Machine, m.Spares realm r k (x.final m)

namespace Spares

variable {x : Exec α} {f : α → Exec β}

protected theorem bind (hx : x.Spares realm r k) (hf : ∀ a, (f a).Spares realm r k) :
    (x >>= f).Spares realm r k := fun m =>
  related_bind .trans (hx m) fun a m' _ => hf a m'

/-- What goes on with a new object need not spare that one. -/
theorem bind_new {x : Exec Ref} {f : Ref → Exec β}
    (hx : ∀ m, x.Furnishes m.heap.size m (Gives m.heap.size))
    (hf : ∀ a, a ≠ r → (f a).Spares realm r k) : (x >>= f).Spares realm r k := fun m hm hr => by
  obtain ⟨a, m', h, hf', hnew⟩ := hx m
  have hne : a ≠ r := fun ha => absurd (ha ▸ hnew.le) (Nat.not_le_of_lt hr)
  rw [final_bind_of_ok h]
  exact (hf'.spares.trans (hf a hne m')) hm hr

/-- Reading the realm. -/
theorem bind_realm {f : Realm → Exec β} (hf : (f realm).Spares realm r k) :
    (Exec.realm >>= f).Spares realm r k := fun m hm hr => by
  have hread : Exec.realm m = .ok m.realm m := rfl
  rw [final_bind_of_ok hread, hm]
  exact hf m hm hr

theorem bind_intrinsics {f : Intrinsics → Exec β} (hf : (f realm.intrinsics).Spares realm r k) :
    (intrinsics >>= f).Spares realm r k := fun m hm hr => by
  rw [final_bind_of_ok (intrinsics_apply m), hm]
  exact hf m hm hr

protected theorem pure (a : α) : (pure a : Exec α).Spares realm r k := fun m => .refl m

protected theorem discard (hx : x.Spares realm r k) : (discard x).Spares realm r k := fun m => by
  rw [final_discard]
  exact hx m

end Spares

theorem Furnishes.spares {x : Exec α} {Q : Nat → α → Machine → Prop}
    (hx : ∀ m, x.Furnishes m.heap.size m (Q m.heap.size)) : x.Spares realm r k := fun m => by
  obtain ⟨a, m', h, hf, -⟩ := hx m
  rw [final_of_ok h]
  exact hf.spares

theorem spares_modifyCell (hne : s ≠ r ∨ j ≠ k) (p : Property) :
    (modifyCell s (·.withProperty j p)).Spares realm r k := fun _ => .furnish hne p

theorem spares_registerAll (methods : List (String × Builtin × Nat))
    (hne : s ≠ r ∨ ∀ e ∈ methods, Key.ofString e.1 ≠ k) :
    (registerAll s methods).Spares realm r k := by
  induction methods with
  | nil => exact .pure ()
  | cons e rest ih =>
    have hnew : ∀ m : Machine, (createFunction e.1 (.builtin e.2.1) e.2.2).Furnishes m.heap.size m
        (Gives m.heap.size) := fun m => furnishes_createFunction (Nat.le_refl _) _ _ _
    refine Spares.bind (Spares.bind_new hnew fun f _ => ?_) fun _ => ih ?_
    · exact spares_modifyCell (hne.imp_right fun h => h e List.mem_cons_self) _
    · exact hne.imp_right fun h e' he' => h e' (List.mem_cons_of_mem _ he')

/-! ### Furnishing a realm -/

theorem spares_installConstructor (name : String) (b : Builtin)
    (hs : s ≠ r ∨ .name "constructor" ≠ k)
    (hg : realm.intrinsics.global ≠ r ∨ .ofString name ≠ k) :
    (installConstructor name b s).Spares realm r k :=
  .bind_new (fun _ => furnishes_createFunction (Nat.le_refl _) _ _ _) fun _ hne =>
    (spares_modifyCell (Or.inl hne) _).bind fun _ => (spares_modifyCell hs _).bind fun _ =>
      .bind_intrinsics <| (spares_modifyCell hg _).bind fun _ => .pure _

theorem spares_installErrorKinds (kinds : List ErrorKind)
    (hs : ∀ kind ∈ kinds, realm.intrinsics.errorPrototype kind ≠ r ∨
      ∀ j ∈ [.name "name", .name "message", .name "constructor"], j ≠ k)
    (hg : ∀ kind ∈ kinds, realm.intrinsics.global ≠ r ∨ .ofString kind.name ≠ k) :
    (installErrorKinds kinds).Spares realm r k := by
  induction kinds with
  | nil => exact .pure ()
  | cons kind rest ih =>
    have hkind := hs kind List.mem_cons_self
    refine .bind_intrinsics ?_
    refine (spares_modifyCell (hkind.imp_right fun h => h _ (by simp)) _).bind fun _ => ?_
    refine (spares_modifyCell (hkind.imp_right fun h => h _ (by simp)) _).bind fun _ => ?_
    refine (spares_installConstructor _ _ (hkind.imp_right fun h => h _ (by simp))
      (hg kind List.mem_cons_self)).discard.bind fun _ => ?_
    exact ih (fun kind' h => hs kind' (List.mem_cons_of_mem _ h))
      fun kind' h => hg kind' (List.mem_cons_of_mem _ h)

theorem spares_createPackage (path : String) : (createPackage path).Spares realm r k :=
  Furnishes.spares (Q := Gives) fun _ => furnishes_createPackage (Nat.le_refl _) path

theorem spares_installRoots (roots : List String)
    (hg : realm.intrinsics.global ≠ r ∨ ∀ root ∈ roots, .ofString root ≠ k) :
    (installRoots roots).Spares realm r k := by
  induction roots with
  | nil => exact .pure ()
  | cons root rest ih =>
    refine (spares_createPackage root).bind fun _ => .bind_intrinsics ?_
    have hroot := hg.imp_right fun h => h root List.mem_cons_self
    refine (spares_modifyCell hroot _).bind fun _ => ?_
    exact ih (hg.imp_right fun h root' hr => h root' (List.mem_cons_of_mem _ hr))

theorem spares_installInterop
    (hg : realm.intrinsics.global ≠ r ∨
      ∀ name ∈ ["Java", "Packages", "importPackage", "importClass"] ++ realm.settings.packageRoots,
        .ofString name ≠ k) :
    installInterop.Spares realm r k := by
  have hname : ∀ name ∈ ["Java", "Packages", "importPackage", "importClass"],
      realm.intrinsics.global ≠ r ∨ Key.ofString name ≠ k := fun name hn =>
    hg.imp_right fun h => h name (List.mem_append_left _ hn)
  have hjava : Key.ofString "Java" = .name "Java" := by decide +kernel
  have hpackages : Key.ofString "Packages" = .name "Packages" := by decide +kernel
  refine .bind_intrinsics ?_
  refine .bind_new (fun _ => furnishes_createObject (Nat.le_refl _)) fun access hne => ?_
  refine (spares_registerAll _ (Or.inl hne)).bind fun _ => ?_
  refine (spares_createPackage "").bind fun packages => ?_
  refine (spares_modifyCell (hjava ▸ hname "Java" (by simp)) _).bind fun _ => ?_
  refine (spares_modifyCell (hpackages ▸ hname "Packages" (by simp)) _).bind fun _ => ?_
  refine .bind_realm ?_
  refine (spares_installRoots _ ?_).bind fun _ => spares_registerAll _ ?_
  · exact hg.imp_right fun h root hr => h root (List.mem_append_right _ hr)
  · refine hg.imp_right fun h e he => h e.1 (List.mem_append_left _ ?_)
    simp only [List.mem_cons, List.not_mem_nil, or_false] at he
    rcases he with rfl | rfl <;> simp

end Exec

end ScriptSandbox
