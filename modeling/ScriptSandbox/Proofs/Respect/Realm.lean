import ScriptSandbox.Proofs.Respect.Creation
import ScriptSandbox.Realm.Globals

/-! # Realms on well-formed machines

The type objects that a realm keeps are objects of the heap, and what members and free names are
given is of the heap as well.
-/

namespace ScriptSandbox.Exec

variable {n : Nat}

/-! ### Host types -/

theorem respects_registerStatics (r : Ref) (methods : List StaticMethod) :
    (registerStatics r methods).Respects n Any := by
  induction methods generalizing n with
  | nil => exact (still_pure _).respects
  | cons method rest ih =>
    exact (respects_registerMethod r _ _ _).seq fun _ _ _ => ih

theorem respects_createTypeObject (c : HostClass) : (createTypeObject c).Respects n Exists := by
  refine respects_intrinsics.bind fun own n₁ _ hown => ?_
  refine (respects_alloc (.of_prototype rfl hown.functionPrototype PropertyTable.below_empty)).bind
    fun r n₂ _ hr => ?_
  refine (respects_registerStatics r c.statics).seq fun _ n₃ h₃ => ?_
  exact (respects_raise r .frozen).seq fun _ _ h₄ =>
    respects_pure fun _ h₅ => hr.trans_le (h₃.trans (h₄.trans h₅))

theorem respects_typeObject (c : HostClass) : (typeObject c).Respects n Exists := by
  refine respects_realm.bind fun realm n₁ _ hrealm => ?_
  split
  · rename_i r hr
    exact respects_pure fun _ h => (hrealm.typeObjects _ r hr).trans_le h
  · refine (respects_createTypeObject c).bind fun r n₂ _ hr => ?_
    refine Respects.seq (respects_modifyRealm fun _ _ h hbelow => ?_) fun _ _ h₃ =>
      respects_pure fun _ h₄ => hr.trans_le (h₃.trans h₄)
    exact hbelow.keep (hr.trans_le h)

theorem respects_resolveClass (name : String) : (resolveClass name).Respects n Any := by
  refine still_get.respects.seq fun m _ _ => (respects_ofExcept _).seq fun c _ _ => ?_
  refine Respects.seq (respects_modifyRealm fun _ _ _ h => ?_) fun _ _ _ => (still_pure _).respects
  exact ⟨h.intrinsics, h.typeObjects⟩

theorem respects_resolveType (name : String) : (resolveType name).Respects n Exists :=
  (respects_resolveClass name).seq fun c _ _ => respects_typeObject c

theorem respects_packageMember (path : String) (k : Key) :
    (packageMember path k).Respects n Any := by
  cases k with
  | index i => exact (still_pure _).respects
  | name member =>
    have hpackage : ∀ n q, (do return .object (← createPackage q) : Exec Value).Respects n Any :=
      fun n q => (respects_createPackage q).bind_pure _
    simp only [packageMember]
    split
    · refine still_get.respects.seq fun m n' _ => ?_
      split
      · split
        · exact (still_throw _).respects.seq fun _ n'' _ => hpackage n'' _
        · exact hpackage n' _
      · split
        · exact hpackage n' _
        · exact (respects_resolveType _).bind_pure _
    · exact (still_pure _).respects

/-! ### Members -/

theorem respects_getOf (r : Ref) (k : Key) : (getOf r k).Respects n Any := by
  refine (still_look _).respects.seq fun kind _ _ => ?_
  split
  · exact respects_packageMember _ k
  · exact (still_look _).respects

theorem respects_getMember {target : Value} (ht : target.Below n) (k : Key) :
    (getMember target k).Respects n Any := by
  unfold getMember
  split
  · exact respects_failType _
  · exact respects_failType _
  · exact respects_getOf _ k
  · exact (respects_box ht).seq fun r _ _ => (still_look _).respects

theorem respects_setMember {k : Key} {v : Value} (hk : k.IsCanonical) (hv : v.Below n)
    (target : Value) : (setMember target k v).Respects n Any := by
  refine still_writeMode.respects.seq fun mode n₁ h₁ => ?_
  split
  · exact respects_failType _
  · exact respects_failType _
  · refine (still_look _).respects.seq fun kind n₂ h₂ => ?_
    split
    · exact respects_ofExcept _
    · exact respects_set hk (hv.mono (h₁.trans h₂)) _ mode
  · exact respects_ofExcept _

theorem respects_deleteMember {target : Value} (ht : target.Below n) (k : Key) :
    (deleteMember target k).Respects n Any := by
  unfold deleteMember
  split
  · exact respects_failType _
  · exact (respects_box ht).seq fun r _ _ => still_writeMode.respects.seq fun mode _ _ =>
      respects_delete r k mode

theorem respects_walkOver {target : Value} (ht : target.Below n) :
    (walkOver target).Respects n Any := by
  unfold walkOver
  split
  · exact (still_pure _).respects
  · exact (respects_box ht).bind_pure _

/-! ### Free names -/

theorem respects_setGlobal {v : Value} (hv : v.Below n) (name : String) :
    (setGlobal name v).Respects n Any :=
  still_writeMode.respects.seq fun mode _ h₁ => still_intrinsics.respects.seq fun own _ h₂ =>
    respects_set (Key.isCanonical_ofString name) (hv.mono (h₁.trans h₂)) own.global mode

theorem respects_findImported (name : String) (packages : List String) :
    (findImported name packages).Respects n Any := by
  induction packages generalizing n with
  | nil => exact respects_throw _
  | cons package rest ih =>
    refine still_get.respects.seq fun m _ _ => ?_
    split
    · split
      · exact ih
      · exact respects_throw _
    · exact (respects_resolveType _).bind_pure _

theorem respects_getGlobal (name : String) : (getGlobal name).Respects n Any := by
  refine still_intrinsics.respects.seq fun own _ _ => (still_look _).respects.seq fun p _ _ => ?_
  split
  · exact (still_pure _).respects
  · exact still_realm.respects.seq fun realm _ _ => respects_findImported name realm.imports

theorem respects_importPackage (name : String) : (importPackage name).Respects n Any := by
  refine (respects_ofExcept _).seq fun _ _ _ => respects_modifyRealm fun _ realm _ h => ?_
  split
  · exact h
  · exact ⟨h.intrinsics, h.typeObjects⟩

theorem respects_importClass {v : Value} (hv : v.Below n) : (importClass v).Respects n Any := by
  refine (still_look _).respects.seq fun c _ h => ?_
  split
  · exact (still_text v).respects.seq fun _ _ _ => respects_failType _
  · exact (respects_setGlobal (hv.mono h) _).discard

end ScriptSandbox.Exec
