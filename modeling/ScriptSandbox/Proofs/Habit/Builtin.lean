import ScriptSandbox.Proofs.Habit.Basic
import ScriptSandbox.Proofs.Machine.Builtin

/-! # Builtins and habits

No builtin does anything to its machine but through the changes that habits respect.
-/

namespace ScriptSandbox.Exec

open Machine

variable {R : Machine → Machine → Prop} (hR : IsHabit R)

include hR

/-! ### Reflection -/

namespace Reflection

theorem follows_object (args : List Value) : (object args).Follows R := by
  unfold object
  dsimp only
  split
  · exact (follows_createObject hR).bind_pure hR _
  · exact (follows_box hR _).bind_pure hR _

theorem follows_arrayOfKeys (ks : List Key) : (arrayOfKeys ks).Follows R :=
  (follows_createArray hR _).bind_pure hR _

theorem follows_keys (args : List Value) : (keys args).Follows R :=
  (follows_toObject hR _).bind hR fun _ => (still_look _).bind_follows hR fun ks =>
    follows_arrayOfKeys hR ks

theorem follows_getOwnPropertyNames (args : List Value) : (getOwnPropertyNames args).Follows R :=
  (follows_toObject hR _).bind hR fun _ => (still_look _).bind_follows hR fun ks =>
    follows_arrayOfKeys hR ks

theorem follows_getOwnPropertyDescriptor (args : List Value) :
    (getOwnPropertyDescriptor args).Follows R := by
  refine (follows_toObject hR _).bind hR fun r => (still_toKey _).bind_follows hR fun k => ?_
  refine (still_look _).bind_follows hR fun p => ?_
  split
  · exact (follows_createObjectFrom hR _).bind_pure hR _
  · exact (still_pure _).follows hR

theorem follows_defineProperty (args : List Value) : (defineProperty args).Follows R := by
  unfold defineProperty
  split
  · refine (still_toKey _).bind_follows hR fun k => ?_
    refine (still_toDescriptor _).bind_follows hR fun d => ?_
    exact (follows_define hR _ k d).bind_pure hR _
  · exact (still_failType _).follows hR

theorem follows_defineAll (r source : Ref) (ks : List Key) : (defineAll r source ks).Follows R := by
  induction ks with
  | nil => exact (still_pure _).follows hR
  | cons k ks ih =>
    refine (still_look _).bind_follows hR fun v => (still_toDescriptor v).bind_follows hR fun d => ?_
    exact (follows_define hR r k d).bind hR fun _ => ih

theorem follows_create (args : List Value) : (create args).Follows R := by
  refine (still_toPrototype _).bind_follows hR fun target => ?_
  refine (follows_createWithPrototype hR target).bind hR fun r => ?_
  dsimp only
  split
  · exact (still_pure _).follows hR
  · refine (follows_box hR _).bind hR fun source => (still_look _).bind_follows hR fun ks => ?_
    exact (follows_defineAll hR r source ks).bind_pure hR _

theorem follows_getPrototypeOf (args : List Value) : (getPrototypeOf args).Follows R :=
  (follows_toObject hR _).bind hR fun _ => ((still_look _).follows hR).bind_pure hR _

theorem follows_setPrototypeOf (args : List Value) : (setPrototypeOf args).Follows R := by
  unfold setPrototypeOf
  dsimp only
  split
  · refine (still_failType _).bind_follows hR fun _ => ?_
    refine (still_toPrototype _).bind_follows hR fun next => ?_
    split
    · exact (follows_relink hR _ next).bind_pure hR _
    · exact (still_pure _).follows hR
  · refine (still_toPrototype _).bind_follows hR fun next => ?_
    split
    · exact (follows_relink hR _ next).bind_pure hR _
    · exact (still_pure _).follows hR

theorem follows_raise (l : Level) (args : List Value) : (raise l args).Follows R := by
  unfold raise
  split
  · exact (Exec.follows_raise hR _ l).bind_pure hR _
  · exact (still_pure _).follows hR

theorem follows_hasOwnProperty (this : Value) (args : List Value) :
    (hasOwnProperty this args).Follows R :=
  (follows_toObject hR this).bind hR fun _ => (still_toKey _).bind_follows hR fun _ =>
    ((still_look _).follows hR).bind_pure hR _

theorem follows_valueOf (this : Value) : (valueOf this).Follows R :=
  (follows_toObject hR this).bind_pure hR _

end Reflection

/-! ### Arrays -/

namespace Sequences

theorem follows_array (args : List Value) : (array args).Follows R := by
  unfold array
  split
  · split
    · exact (still_throw _).follows hR
    · refine (follows_createArray hR _).bind hR fun r => ?_
      refine still_writeMode.bind_follows hR fun mode => ?_
      exact (follows_set hR r _ _ mode).discard.bind_pure hR _
  · exact (follows_createArray hR args).bind_pure hR _

theorem follows_append (r : Ref) (n : Nat) (vs : List Value) : (append r n vs).Follows R := by
  induction vs generalizing n with
  | nil => exact (still_pure n).follows hR
  | cons v vs ih => exact (follows_set hR r _ v .strict).discard.bind hR fun _ => ih _

theorem follows_push (this : Value) (args : List Value) : (push this args).Follows R := by
  refine (follows_toObject hR this).bind hR fun r => (still_look _).bind_follows hR fun n => ?_
  refine (follows_append hR r n args).bind hR fun n => ?_
  exact (follows_set hR r _ _ .strict).discard.bind_pure hR _

end Sequences

/-! ### Boxes -/

namespace Boxes

theorem follows_finish (this : Value) (target : Ref) (v : Value) :
    (finish this target v).Follows R := by
  refine (still_look _).bind_follows hR fun fresh => ?_
  split
  · exact (follows_box hR v).bind_pure hR _
  · exact (still_pure v).follows hR

theorem follows_string (this : Value) (args : List Value) : (string this args).Follows R := by
  have hfinish : ∀ s,
      (do finish this (← intrinsics).stringPrototype (.string s) : Exec Value).Follows R :=
    fun s => still_intrinsics.bind_follows hR fun own => follows_finish hR _ _ _
  unfold string
  split
  · exact (still_text _).bind_follows hR hfinish
  · exact hfinish ""

theorem follows_number (this : Value) (args : List Value) : (number this args).Follows R := by
  have hfinish : ∀ x,
      (do finish this (← intrinsics).numberPrototype (.number x) : Exec Value).Follows R :=
    fun x => still_intrinsics.bind_follows hR fun own => follows_finish hR _ _ _
  unfold number
  split
  · exact (still_look _).bind_follows hR hfinish
  · exact hfinish .zero

theorem follows_boolean (this : Value) (args : List Value) : (boolean this args).Follows R :=
  still_intrinsics.bind_follows hR fun _ => follows_finish hR _ _ _

end Boxes

theorem Errors.follows_construct (kind : ErrorKind) (args : List Value) :
    (construct kind args).Follows R := by
  have hcreate : ∀ message,
      (do return .object (← createError kind message) : Exec Value).Follows R :=
    fun message => (follows_createError hR kind message).bind_pure hR _
  unfold construct
  split
  · exact hcreate ""
  · exact (still_text _).bind_follows hR hcreate

/-! ### Host types -/

namespace Interop

theorem follows_hostType (args : List Value) : (hostType args).Follows R := by
  unfold hostType
  split
  · exact (follows_resolveType hR _).bind_pure hR _
  · exact ((still_text _).bind fun _ => still_failType _).follows hR

theorem follows_importPackages (args : List Value) : (importPackages args).Follows R := by
  induction args with
  | nil => exact (still_pure _).follows hR
  | cons v vs ih =>
    refine (still_look _).bind_follows hR fun path => ?_
    split
    · exact (follows_importPackage hR _).bind hR fun _ => ih
    · exact (still_text v).bind_follows hR fun _ => (still_failType _).bind_follows hR fun _ => ih

theorem follows_importClasses (args : List Value) : (importClasses args).Follows R := by
  induction args with
  | nil => exact (still_pure _).follows hR
  | cons v vs ih => exact (follows_importClass hR v).bind hR fun _ => ih

end Interop

theorem follows_runBuiltin (b : Builtin) (this : Value) (args : List Value) :
    (runBuiltin b this args).Follows R := by
  cases b with
  | object => exact Reflection.follows_object hR args
  | keys => exact Reflection.follows_keys hR args
  | getOwnPropertyNames => exact Reflection.follows_getOwnPropertyNames hR args
  | getOwnPropertyDescriptor => exact Reflection.follows_getOwnPropertyDescriptor hR args
  | defineProperty => exact Reflection.follows_defineProperty hR args
  | create => exact Reflection.follows_create hR args
  | getPrototypeOf => exact Reflection.follows_getPrototypeOf hR args
  | setPrototypeOf => exact Reflection.follows_setPrototypeOf hR args
  | freeze | «seal» | preventExtensions => exact Reflection.follows_raise hR _ args
  | isFrozen | isSealed => exact (Reflection.still_hasLevel _ args).follows hR
  | isExtensible => exact (Reflection.still_isExtensible args).follows hR
  | hasOwnProperty => exact Reflection.follows_hasOwnProperty hR this args
  | toString => exact (Reflection.still_toString this).follows hR
  | valueOf => exact Reflection.follows_valueOf hR this
  | array => exact Sequences.follows_array hR args
  | isArray => exact (Sequences.still_isArray args).follows hR
  | push => exact Sequences.follows_push hR this args
  | string => exact Boxes.follows_string hR this args
  | stringValue => exact (Boxes.still_stringValue this).follows hR
  | number => exact Boxes.follows_number hR this args
  | numberValue => exact (Boxes.still_numberValue this).follows hR
  | boolean => exact Boxes.follows_boolean hR this args
  | booleanValue => exact (Boxes.still_booleanValue this).follows hR
  | error kind => exact Errors.follows_construct hR kind args
  | errorText => exact (Errors.still_toString this).follows hR
  | hostType => exact Interop.follows_hostType hR args
  | isHostType => exact (Interop.still_isHostType args).follows hR
  | hostTypeName => exact (Interop.still_hostTypeName args).follows hR
  | importPackage => exact Interop.follows_importPackages hR args
  | importClass => exact Interop.follows_importClasses hR args

end ScriptSandbox.Exec
