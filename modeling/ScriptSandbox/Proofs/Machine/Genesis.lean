import ScriptSandbox.Proofs.Machine.Furnish

/-! # New realms as paths

All intrinsics of a new realm are new and stay so until it is furnished, so furnishing them past all
checks touches nothing that was there before.
-/

namespace ScriptSandbox

/-- The intrinsics that a realm is furnished through are new. -/
structure Intrinsics.AreNew (own : Intrinsics) (base : Nat) (h : Heap) : Prop where
  global : h.IsNew base own.global
  objectPrototype : h.IsNew base own.objectPrototype
  arrayPrototype : h.IsNew base own.arrayPrototype
  stringPrototype : h.IsNew base own.stringPrototype
  numberPrototype : h.IsNew base own.numberPrototype
  booleanPrototype : h.IsNew base own.booleanPrototype
  errorPrototype : ∀ kind, h.IsNew base (own.errorPrototype kind)

theorem Machine.Furnishes.areNew {own : Intrinsics} {base : Nat} {m m' : Machine}
    (h : m.Furnishes base m') (ho : own.AreNew base m.heap) : own.AreNew base m'.heap where
  global := h.isNew ho.global
  objectPrototype := h.isNew ho.objectPrototype
  arrayPrototype := h.isNew ho.arrayPrototype
  stringPrototype := h.isNew ho.stringPrototype
  numberPrototype := h.isNew ho.numberPrototype
  booleanPrototype := h.isNew ho.booleanPrototype
  errorPrototype kind := h.isNew (ho.errorPrototype kind)

namespace Exec

variable {α β : Type} {own : Intrinsics} {base : Nat} {target : Ref}

/-- The computation furnishes a realm that has these intrinsics, as long as they are new. -/
def Installs (own : Intrinsics) (base : Nat) (x : Exec α) : Prop :=
  ∀ m : Machine, m.realm.intrinsics = own → own.AreNew base m.heap → x.Furnishes base m Done

namespace Installs

variable {x : Exec α} {f : α → Exec β}

protected theorem bind (hx : Installs own base x) (hf : ∀ a, Installs own base (f a)) :
    Installs own base (x >>= f) := fun m hm ho =>
  (hx m hm ho).bind fun a m' h _ => hf a m' (by rw [h.realm, hm]) (h.areNew ho)

theorem bind_intrinsics {f : Intrinsics → Exec β} (hf : Installs own base (f own)) :
    Installs own base (intrinsics >>= f) := fun m hm ho =>
  Furnishes.bind (Q := fun own' m' => own' = own ∧ m'.realm.intrinsics = own)
    ⟨_, m, rfl, .refl m, hm, hm⟩ fun own' m' h hq => by
      rw [hq.1]
      exact hf m' hq.2 (h.areNew ho)

protected theorem pure (a : α) : Installs own base (pure a : Exec α) := fun _ _ _ => .pure trivial

protected theorem discard (hx : Installs own base x) : Installs own base (discard x) :=
  fun m hm ho => (hx m hm ho).discard

section Final

variable {x : Exec Unit} {f : Unit → Exec β} {m : Machine} (hx : Installs own base x)
  (hm : m.realm.intrinsics = own) (ho : own.AreNew base m.heap)

include hx hm ho

theorem furnishes_final : m.Furnishes base (x.final m) := by
  obtain ⟨_, m', h, hf, -⟩ := hx m hm ho
  rwa [final_of_ok h]

theorem final_bind : (x >>= f).final m = (f ()).final (x.final m) := by
  obtain ⟨_, m', h, -, -⟩ := hx m hm ho
  rw [final_bind_of_ok h, final_of_ok h]

end Final

end Installs

/-- A reference to an object that is new whenever the intrinsics are. -/
abbrev IsOwn (own : Intrinsics) (base : Nat) (r : Ref) : Prop :=
  ∀ {h : Heap}, own.AreNew base h → h.IsNew base r

theorem installs_modifyCell (hr : IsOwn own base target) (k : Key) (p : Property) :
    Installs own base (modifyCell target (·.withProperty k p)) := fun _ _ ho =>
  furnishes_modifyCell (hr ho) k p

theorem installs_registerAll (hr : IsOwn own base target)
    (methods : List (String × Builtin × Nat)) :
    Installs own base (registerAll target methods) := fun _ _ ho =>
  furnishes_registerAll methods (hr ho)

theorem furnishes_installConstructor {m : Machine} (hm : m.realm.intrinsics = own)
    (ho : own.AreNew base m.heap) (ht : IsOwn own base target) (name : String) (b : Builtin) :
    (installConstructor name b target).Furnishes base m (Gives base) := by
  refine (furnishes_createFunction (ht ho).base_le _ _ _).bind fun ctor m₁ h₁ hc => ?_
  refine (furnishes_modifyCell hc _ _).bind fun _ m₂ h₂ _ => ?_
  have ho₂ := h₂.areNew (h₁.areNew ho)
  refine (furnishes_modifyCell (ht ho₂) _ _).bind fun _ m₃ h₃ _ => ?_
  refine furnishes_intrinsics.bind fun own' m₄ h₄ he => ?_
  rw [h₄.realm, h₃.realm, h₂.realm, h₁.realm, hm] at he
  subst he
  refine (furnishes_modifyCell (h₄.areNew (h₃.areNew ho₂)).global _ _).bind fun _ m₅ h₅ _ => ?_
  exact .pure (h₅.isNew (h₄.isNew (h₃.isNew (h₂.isNew hc))))

theorem installs_installConstructor (ht : IsOwn own base target) (name : String) (b : Builtin) :
    Installs own base (installConstructor name b target) := fun _ hm ho =>
  (furnishes_installConstructor hm ho ht name b).done

/-- A constructor and the functions on it. -/
theorem installs_constructor_registerAll (ht : IsOwn own base target) (name : String) (b : Builtin)
    (methods : List (String × Builtin × Nat)) :
    Installs own base (installConstructor name b target >>= (registerAll · methods)) :=
  fun _ hm ho =>
    (furnishes_installConstructor hm ho ht name b).bind fun _ _ _ hc =>
      furnishes_registerAll methods hc

/-! ### The parts of a realm -/

theorem installs_installObject : Installs own base installObject :=
  .bind_intrinsics <| (installs_registerAll (·.objectPrototype) _).bind fun _ =>
    installs_constructor_registerAll (·.objectPrototype) _ _ _

theorem installs_installArray : Installs own base installArray :=
  .bind_intrinsics <| (installs_registerAll (·.arrayPrototype) _).bind fun _ =>
    installs_constructor_registerAll (·.arrayPrototype) _ _ _

theorem installs_installBoxes : Installs own base installBoxes := by
  refine .bind_intrinsics ?_
  refine (installs_registerAll (·.stringPrototype) _).bind fun _ => ?_
  refine (installs_installConstructor (·.stringPrototype) _ _).discard.bind fun _ => ?_
  refine (installs_registerAll (·.numberPrototype) _).bind fun _ => ?_
  refine (installs_installConstructor (·.numberPrototype) _ _).discard.bind fun _ => ?_
  refine (installs_registerAll (·.booleanPrototype) _).bind fun _ => ?_
  exact (installs_installConstructor (·.booleanPrototype) _ _).discard

theorem installs_installErrorKinds (kinds : List ErrorKind) :
    Installs own base (installErrorKinds kinds) := by
  induction kinds with
  | nil => exact .pure ()
  | cons kind rest ih =>
    have hk : IsOwn own base (own.errorPrototype kind) := (·.errorPrototype kind)
    refine .bind_intrinsics ?_
    refine (installs_modifyCell hk _ _).bind fun _ => ?_
    refine (installs_modifyCell hk _ _).bind fun _ => ?_
    exact (installs_installConstructor hk _ _).discard.bind fun _ => ih

theorem installs_installErrors : Installs own base installErrors :=
  (installs_installErrorKinds _).bind fun _ =>
    .bind_intrinsics (installs_registerAll (·.errorPrototype .error) _)

theorem installs_createPackage (path : String) : Installs own base (createPackage path) :=
  fun _ _ ho => (furnishes_createPackage ho.global.base_le path).done

theorem installs_installRoots (roots : List String) : Installs own base (installRoots roots) := by
  induction roots with
  | nil => exact .pure ()
  | cons root rest ih =>
    refine (installs_createPackage root).bind fun r => .bind_intrinsics ?_
    exact (installs_modifyCell (·.global) _ _).bind fun _ => ih

theorem installs_installInterop : Installs own base installInterop := by
  refine .bind_intrinsics fun m hm ho => ?_
  refine (furnishes_createObject ho.global.base_le).bind fun access m₁ h₁ ha => ?_
  refine (furnishes_registerAll _ ha).bind fun _ m₂ h₂ _ => ?_
  have h := h₁.trans h₂
  refine (?_ : Installs own base _) m₂ (by rw [h.realm, hm]) (h.areNew ho)
  refine (installs_createPackage "").bind fun packages => ?_
  refine (installs_modifyCell (·.global) _ _).bind fun _ => ?_
  refine (installs_modifyCell (·.global) _ _).bind fun _ => ?_
  refine Installs.bind (fun m _ _ => ⟨_, m, rfl, .refl m, trivial⟩) fun r => ?_
  exact (installs_installRoots _).bind fun _ => installs_registerAll (·.global) _

theorem installs_install : Installs own base install :=
  installs_installObject.bind fun _ => installs_installArray.bind fun _ =>
    installs_installBoxes.bind fun _ => installs_installErrors.bind fun _ =>
      installs_installInterop

/-- Boxes, errors and what serves the host are furnished last, in this order. -/
theorem exists_final_install {m : Machine} (hm : m.realm.intrinsics = own)
    (ho : own.AreNew base m.heap) : ∃ m', m.Furnishes base m' ∧
      install.final m = installInterop.final (installErrors.final (installBoxes.final m')) := by
  have hobject := installs_installObject.furnishes_final hm ho
  have hm₁ := (congrArg Realm.intrinsics hobject.realm).trans hm
  have ho₁ := hobject.areNew ho
  have harray := installs_installArray.furnishes_final hm₁ ho₁
  have hm₂ := (congrArg Realm.intrinsics harray.realm).trans hm₁
  have ho₂ := harray.areNew ho₁
  have hboxes := installs_installBoxes.furnishes_final hm₂ ho₂
  have hm₃ := (congrArg Realm.intrinsics hboxes.realm).trans hm₂
  refine ⟨_, hobject.trans harray, ?_⟩
  rw [install, installs_installObject.final_bind hm ho, installs_installArray.final_bind hm₁ ho₁,
    installs_installBoxes.final_bind hm₂ ho₂,
    installs_installErrors.final_bind hm₃ (hboxes.areNew ho₂)]

end Exec

/-! ### The intrinsics -/

namespace Heap

variable {h : Heap} {base : Nat} {r : Ref}

/-- A heap with more objects. -/
def allocAll (h : Heap) (cells : List Cell) : Heap := cells.foldl (fun h c => (h.alloc c).2) h

theorem size_allocAll (h : Heap) (cells : List Cell) :
    (h.allocAll cells).size = h.size + cells.length := by
  induction cells generalizing h with
  | nil => rfl
  | cons c cells ih =>
    rw [allocAll, List.foldl_cons, ← allocAll, ih, size_alloc, List.length_cons]
    omega

theorem allocAll_append (h : Heap) (cells cells' : List Cell) :
    h.allocAll (cells ++ cells') = (h.allocAll cells).allocAll cells' :=
  List.foldl_append

theorem IsNew.allocAll (hr : h.IsNew base r) (cells : List Cell) :
    (h.allocAll cells).IsNew base r := by
  induction cells generalizing h with
  | nil => exact hr
  | cons c cells ih => exact ih (hr.alloc c)

theorem isNew_allocAll {cells : List Cell} (hb : base ≤ h.size)
    (hc : ∀ c ∈ cells, c.level = .extensible ∧ c.kind.IsPlain) (hr : h.size ≤ r.id)
    (hlt : r.id < h.size + cells.length) : (h.allocAll cells).IsNew base r := by
  induction cells generalizing h with
  | nil => exact absurd hlt (Nat.not_lt.2 hr)
  | cons c cells ih =>
    obtain ⟨hl, hk⟩ := hc c List.mem_cons_self
    rw [List.length_cons] at hlt
    rcases Nat.eq_or_lt_of_le hr with heq | hgt
    · have hself : r = (h.alloc c).1 := by
        cases r
        simpa [Heap.alloc] using heq.symm
      rw [hself]
      refine (isNew_alloc hb hl fun ha => ?_).allocAll cells
      rw [ha] at hk
      exact hk
    · refine ih (hb.trans ?_) (fun c hc' => hc c (List.mem_cons_of_mem _ hc')) ?_ ?_
      all_goals
        rw [size_alloc]
        omega

end Heap

namespace Machine

theorem furnishes_allocAll {cells : List Cell}
    (hc : ∀ c ∈ cells, c.level = .extensible ∧ c.kind.IsPlain) (base : Nat) (m : Machine) :
    m.Furnishes base (m.withHeap (m.heap.allocAll cells)) := by
  induction cells generalizing m with
  | nil => exact .refl m
  | cons c cells ih =>
    obtain ⟨hl, hk⟩ := hc c List.mem_cons_self
    exact (Furnishes.alloc (.of_isPlain hl hk) hk.primitive?_eq_none).trans
      (ih (fun c hc' => hc c (List.mem_cons_of_mem _ hc')) (m.withHeap (m.heap.alloc c).2))

end Machine

namespace Intrinsics

/-- The objects of the intrinsics in the order of their places. -/
def cells (h : Heap) : List Cell :=
  let plain : Cell := { prototype := some ⟨h.size⟩ }
  let derived : Cell := { prototype := some ⟨h.size + 7⟩ }
  {} :: List.replicate 7 plain ++ List.replicate 5 derived

theorem allocate_snd (h : Heap) : (allocate h).2 = h.allocAll (cells h) := by
  simp [allocate, cells, Heap.allocAll, Heap.alloc, Heap.size]

theorem isPlain_of_mem_cells {h : Heap} {c : Cell} (hc : c ∈ cells h) :
    c.level = .extensible ∧ c.kind.IsPlain := by
  simp only [cells, List.mem_append, List.mem_cons, List.mem_replicate] at hc
  rcases hc with (rfl | ⟨-, rfl⟩) | ⟨-, rfl⟩ <;> exact ⟨rfl, trivial⟩

theorem areNew_allocate (h : Heap) : (allocate h).1.AreNew h.size (allocate h).2 := by
  have hnew : ∀ {r : Ref}, h.size ≤ r.id → r.id < h.size + 13 → (allocate h).2.IsNew h.size r := by
    intro r hr hlt
    rw [allocate_snd]
    exact Heap.isNew_allocAll (Nat.le_refl _) (fun c => isPlain_of_mem_cells) hr hlt
  have hid : ∀ kind, h.size ≤ ((allocate h).1.errorPrototype kind).id ∧
      ((allocate h).1.errorPrototype kind).id < h.size + 13 := by
    intro kind
    cases kind <;> simp only [allocate, Heap.alloc, Heap.size, Array.size_push] <;> omega
  refine ⟨?_, ?_, ?_, ?_, ?_, ?_, fun kind => hnew (hid kind).1 (hid kind).2⟩
  all_goals
    refine hnew ?_ ?_ <;> simp only [allocate, Heap.alloc, Heap.size, Array.size_push] <;> omega

theorem furnishes_allocate (m : Machine) (base : Nat) :
    m.Furnishes base (m.withHeap (allocate m.heap).2) := by
  rw [allocate_snd]
  exact Machine.furnishes_allocAll (fun c => isPlain_of_mem_cells) base m

end Intrinsics

/-- A realm over new intrinsics is furnished without fail. -/
theorem Machine.furnishes_install {m : Machine}
    (hm : m.realm.intrinsics = (Intrinsics.allocate m.heap).1) :
    ∃ m', Exec.install (m.withHeap (Intrinsics.allocate m.heap).2) = .ok () m' ∧
      m.Furnishes m.heap.size m' := by
  obtain ⟨_, m', h, hf, -⟩ := Exec.installs_install (m.withHeap (Intrinsics.allocate m.heap).2) hm
    (Intrinsics.areNew_allocate m.heap)
  exact ⟨m', h, (Intrinsics.furnishes_allocate m _).trans hf⟩

end ScriptSandbox
