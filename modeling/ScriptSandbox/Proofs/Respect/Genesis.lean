import ScriptSandbox.Proofs.Machine.Genesis
import ScriptSandbox.Proofs.Respect.Creation

/-! # New realms on well-formed machines

The objects of a new realm inherit from objects that were made before them, and what they are
furnished with is of the heap.
-/

namespace ScriptSandbox

namespace Exec

variable {n : Nat} {target : Ref}

theorem respects_installConstructor (name : String) (b : Builtin) (ht : target.id < n) :
    (installConstructor name b target).Respects n Any := by
  have hprototype : (Key.name "prototype").IsCanonical := by decide
  have hconstructor : (Key.name "constructor").IsCanonical := by decide
  refine (respects_createFunction name (.builtin b) 1).bind fun ctor n₁ h₁ hc => ?_
  refine Respects.seq (respects_furnish (p := ⟨.object target, false, false, false⟩) hprototype
    (ht.trans_le h₁) ctor) fun _ n₂ h₂ => ?_
  refine Respects.seq (respects_furnish (p := .hidden (.object ctor)) hconstructor
    (hc.trans_le h₂) target) fun _ n₃ h₃ => ?_
  refine still_intrinsics.respects.seq fun own n₄ h₄ => ?_
  refine Respects.seq (respects_furnish (p := .hidden (.object ctor)) (Key.isCanonical_ofString _)
    (hc.trans_le (h₂.trans (h₃.trans h₄))) own.global) fun _ _ _ => ?_
  exact (still_pure ctor).respects

theorem respects_registerAll (r : Ref) (methods : List (String × Builtin × Nat)) :
    (registerAll r methods).Respects n Any := by
  induction methods generalizing n with
  | nil => exact (still_pure _).respects
  | cons method rest ih => exact (respects_registerMethod r _ _ _).seq fun _ _ _ => ih

/-- A prototype with functions on it, and its constructor with functions on it. -/
theorem respects_installPrototype {prototype : Intrinsics → Ref}
    (hp : ∀ n own, Intrinsics.Below n own → (prototype own).id < n) (name : String) (b : Builtin)
    (methods functions : List (String × Builtin × Nat)) :
    (do
      let target := prototype (← intrinsics)
      registerAll target methods
      let ctor ← installConstructor name b target
      registerAll ctor functions : Exec Unit).Respects n Any := by
  refine respects_intrinsics.bind fun own n₁ _ hown => ?_
  refine (respects_registerAll _ methods).seq fun _ n₂ h₂ => ?_
  refine (respects_installConstructor name b ((hp _ own hown).trans_le h₂)).seq fun ctor _ _ => ?_
  exact respects_registerAll ctor functions

theorem respects_installBoxes : installBoxes.Respects n Any := by
  refine respects_intrinsics.bind fun own n₁ _ hown => ?_
  refine (respects_registerAll _ _).seq fun _ n₂ h₂ => ?_
  refine (respects_installConstructor _ _ (hown.stringPrototype.trans_le h₂)).discard.seq
    fun _ n₃ h₃ => ?_
  refine (respects_registerAll _ _).seq fun _ n₄ h₄ => ?_
  have h := h₂.trans (h₃.trans h₄)
  refine (respects_installConstructor _ _ (hown.numberPrototype.trans_le h)).discard.seq
    fun _ n₅ h₅ => ?_
  refine (respects_registerAll _ _).seq fun _ n₆ h₆ => ?_
  have h' := h.trans (h₅.trans h₆)
  exact (respects_installConstructor _ _ (hown.booleanPrototype.trans_le h')).discard

theorem respects_installErrorKinds (kinds : List ErrorKind) :
    (installErrorKinds kinds).Respects n Any := by
  have hname : (Key.name "name").IsCanonical := by decide
  have hmessage : (Key.name "message").IsCanonical := by decide
  induction kinds generalizing n with
  | nil => exact (still_pure _).respects
  | cons kind rest ih =>
    refine respects_intrinsics.bind fun own n₁ _ hown => ?_
    refine Respects.seq (respects_furnish (p := .hidden (.string kind.name)) hname trivial _)
      fun _ n₂ h₂ => ?_
    refine Respects.seq (respects_furnish (p := .hidden (.string "")) hmessage trivial _)
      fun _ n₃ h₃ => ?_
    refine (respects_installConstructor kind.name (.error kind)
      ((hown.errorPrototype kind).trans_le (h₂.trans h₃))).discard.seq fun _ _ _ => ih

theorem respects_installErrors : installErrors.Respects n Any :=
  (respects_installErrorKinds _).seq fun _ _ _ => still_intrinsics.respects.seq fun _ _ _ =>
    respects_registerAll _ _

theorem respects_installRoots (roots : List String) : (installRoots roots).Respects n Any := by
  induction roots generalizing n with
  | nil => exact (still_pure _).respects
  | cons root rest ih =>
    refine (respects_createPackage root).bind fun r n₁ _ hr => ?_
    refine still_intrinsics.respects.seq fun own n₂ h₂ => ?_
    exact Respects.seq (respects_furnish (p := .hidden (.object r)) (Key.isCanonical_ofString root)
      (hr.trans_le h₂) own.global) fun _ _ _ => ih

theorem respects_installInterop : installInterop.Respects n Any := by
  have hjava : (Key.name "Java").IsCanonical := by decide
  have hpackages : (Key.name "Packages").IsCanonical := by decide
  refine still_intrinsics.respects.seq fun own _ _ => ?_
  refine respects_createObject.bind fun access n₁ _ ha => ?_
  refine (respects_registerAll access _).seq fun _ n₂ h₂ => ?_
  refine (respects_createPackage "").bind fun packages n₃ h₃ hp => ?_
  refine Respects.seq (respects_furnish (p := .hidden (.object access)) hjava
    (ha.trans_le (h₂.trans h₃)) own.global) fun _ n₄ h₄ => ?_
  refine Respects.seq (respects_furnish (p := .hidden (.object packages)) hpackages
    (hp.trans_le h₄) own.global) fun _ n₅ h₅ => ?_
  refine still_realm.respects.seq fun realm _ _ => ?_
  exact (respects_installRoots _).seq fun _ _ _ => respects_registerAll _ _

theorem respects_install : install.Respects n Any :=
  (respects_installPrototype (fun _ _ h => h.objectPrototype) _ _ _ _).seq fun _ _ _ =>
    (respects_installPrototype (fun _ _ h => h.arrayPrototype) _ _ _ _).seq fun _ _ _ =>
      respects_installBoxes.seq fun _ _ _ => respects_installErrors.seq fun _ _ _ =>
        respects_installInterop

end Exec

/-! ### The intrinsics -/

namespace Heap

variable {h : Heap} {cells : List Cell}

theorem WellFormed.allocAll (hw : h.WellFormed) (hc : ∀ c ∈ cells, c.Below h.size) :
    (h.allocAll cells).WellFormed := by
  induction cells generalizing h with
  | nil => exact hw
  | cons c cells ih =>
    refine ih (hw.alloc (hc c List.mem_cons_self)) fun d hd => ?_
    refine (hc d (List.mem_cons_of_mem _ hd)).mono ?_
    rw [size_alloc]
    exact Nat.le_succ _

end Heap

namespace Intrinsics

theorem below_allocate (h : Heap) : (allocate h).1.Below (allocate h).2.size := by
  have hid : ∀ kind, ((allocate h).1.errorPrototype kind).id < (allocate h).2.size := by
    intro kind
    cases kind <;> simp only [allocate, Heap.alloc, Heap.size, Array.size_push] <;> omega
  refine ⟨?_, ?_, ?_, ?_, ?_, ?_, ?_, hid⟩
  all_goals
    simp only [allocate, Heap.alloc, Heap.size, Array.size_push]
    omega

theorem allocAll_cells (h : Heap) : h.allocAll (cells h) =
    ((h.alloc {}).2.allocAll (List.replicate 7 { prototype := some ⟨h.size⟩ })).allocAll
      (List.replicate 5 { prototype := some ⟨h.size + 7⟩ }) := by
  rw [cells, Heap.allocAll_append]
  rfl

/-- The prototype of objects comes first, and the prototype of errors before those of particular
ones. -/
theorem wellFormed_allocate {h : Heap} (hw : h.WellFormed) : (allocate h).2.WellFormed := by
  have hbelow : ∀ {n i : Nat}, i < n → Cell.Below n { prototype := some ⟨i⟩ } := fun hi =>
    .of_prototype rfl hi PropertyTable.below_empty
  have hroot : (h.alloc {}).2.WellFormed := hw.alloc Cell.below_default
  have hplain : ((h.alloc {}).2.allocAll
      (List.replicate 7 { prototype := some ⟨h.size⟩ })).WellFormed := by
    refine hroot.allocAll fun c hc => ?_
    rw [List.eq_of_mem_replicate hc, Heap.size_alloc]
    exact hbelow (Nat.lt_succ_self _)
  rw [allocate_snd, allocAll_cells]
  refine hplain.allocAll fun c hc => ?_
  rw [List.eq_of_mem_replicate hc, Heap.size_allocAll, Heap.size_alloc, List.length_replicate]
  exact hbelow (Nat.lt_succ_self _)

end Intrinsics

end ScriptSandbox
