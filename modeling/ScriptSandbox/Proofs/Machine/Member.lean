import ScriptSandbox.Proofs.Machine.HostType
import ScriptSandbox.Realm.Globals

/-! # Members and free names as paths

Reading members and free names may resolve host types on the way; writing and deleting change one
object.
-/

namespace ScriptSandbox.Exec

open Machine

theorem traced_getOf (r : Ref) (k : Key) : (getOf r k).Traced := by
  refine (still_look _).traced.bind fun kind => ?_
  split
  · exact traced_packageMember _ k
  · exact (still_look _).traced

theorem traced_getMember (target : Value) (k : Key) : (getMember target k).Traced := by
  unfold getMember
  split
  · exact (still_failType _).traced
  · exact (still_failType _).traced
  · exact traced_getOf _ k
  · exact (traced_box _).bind fun r => (still_look _).traced

theorem traced_setMember (target : Value) (k : Key) (v : Value) : (setMember target k v).Traced := by
  refine still_writeMode.traced.bind fun mode => ?_
  split
  · exact (still_failType _).traced
  · exact (still_failType _).traced
  · refine (still_look _).traced.bind fun kind => ?_
    split
    · exact (still_ofExcept _).traced
    · exact traced_set _ k v mode
  · exact (still_ofExcept _).traced

theorem lasting_setMember (target : Value) {k : Key} (hk : k ≠ .length) (v : Value) :
    (setMember target k v).Lasting := by
  refine still_writeMode.lasting.bind fun mode => ?_
  split
  · exact (still_failType _).lasting
  · exact (still_failType _).lasting
  · refine (still_look _).lasting.bind fun kind => ?_
    split
    · exact (still_ofExcept _).lasting
    · exact lasting_set _ hk v mode
  · exact (still_ofExcept _).lasting

theorem traced_deleteMember (target : Value) (k : Key) : (deleteMember target k).Traced := by
  unfold deleteMember
  split
  · exact (still_failType _).traced
  · refine (traced_box target).bind fun r => still_writeMode.traced.bind fun mode => ?_
    exact traced_delete r k mode

theorem traced_walkOver (target : Value) : (walkOver target).Traced := by
  unfold walkOver
  split
  · exact (still_pure _).traced
  · exact (traced_box target).bind_pure _

/-! ### Free names -/

theorem traced_setGlobal (name : String) (v : Value) : (setGlobal name v).Traced :=
  still_writeMode.traced.bind fun mode => still_intrinsics.traced.bind fun own =>
    traced_set own.global (.ofString name) v mode

theorem traced_findImported (name : String) (packages : List String) :
    (findImported name packages).Traced := by
  induction packages with
  | nil => exact (still_throw _).traced
  | cons package rest ih =>
    refine still_get.traced.bind fun m => ?_
    split
    · split
      · exact ih
      · exact (still_throw _).traced
    · exact (traced_resolveType _).bind_pure _

theorem traced_getGlobal (name : String) : (getGlobal name).Traced := by
  refine still_intrinsics.traced.bind fun own => (still_look _).traced.bind fun p => ?_
  split
  · exact (still_pure _).traced
  · exact still_realm.traced.bind fun realm => traced_findImported name realm.imports

theorem traced_importPackage (name : String) : (importPackage name).Traced := fun m => by
  unfold importPackage
  cases hn : TypeName.check name with
  | error f => exact .refl
  | ok u =>
    refine path_bind .refl fun _ m' h => ?_
    cases h
    rw [final_modifyRealm]
    by_cases hi : name ∈ m.realm.imports
    · rw [if_pos hi]
    · rw [if_neg hi]
      exact .single (.importPackage hn hi)

theorem still_hostTypeOf? (v : Value) : (hostTypeOf? v).Still := still_look _

theorem traced_importClass (v : Value) : (importClass v).Traced := by
  refine (still_hostTypeOf? v).traced.bind fun c => ?_
  split
  · exact ((still_text v).bind fun _ => still_failType _).traced
  · exact (traced_setGlobal _ v).discard

end ScriptSandbox.Exec
