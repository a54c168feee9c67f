import ScriptSandbox.Proofs.Machine.Member
import ScriptSandbox.Realm.Invocation

/-! # Builtins as paths

All builtins are traced, but for those that answer with an array.
-/

namespace ScriptSandbox.Exec

open Machine

theorem still_toKey (v : Value) : (toKey v).Still := still_look _

/-! ### Reflection -/

namespace Reflection

theorem traced_object (args : List Value) : (object args).Traced := by
  unfold object
  dsimp only
  split
  · exact traced_createObject.bind_pure _
  · exact (traced_box _).bind_pure _

theorem fitted_arrayOfKeys (ks : List Key) : (arrayOfKeys ks).Fitted :=
  (fitted_createArray _).bind_pure _

theorem fitted_keys (args : List Value) : (keys args).Fitted :=
  (traced_toObject _).bind_fitted fun _ => (still_look _).traced.bind_fitted fun ks =>
    fitted_arrayOfKeys ks

theorem fitted_getOwnPropertyNames (args : List Value) : (getOwnPropertyNames args).Fitted :=
  (traced_toObject _).bind_fitted fun _ => (still_look _).traced.bind_fitted fun ks =>
    fitted_arrayOfKeys ks

theorem traced_getOwnPropertyDescriptor (args : List Value) :
    (getOwnPropertyDescriptor args).Traced := by
  refine (traced_toObject _).bind fun r => (still_toKey _).traced.bind fun k => ?_
  refine (still_look _).traced.bind fun p => ?_
  split
  · exact (traced_createObjectFrom _).bind_pure _
  · exact (still_pure _).traced

theorem still_toDescriptor (v : Value) : (toDescriptor v).Still := by
  unfold toDescriptor
  split
  · exact still_look _
  · exact still_failType _

theorem traced_defineProperty (args : List Value) : (defineProperty args).Traced := by
  unfold defineProperty
  split
  · refine (still_toKey _).traced.bind fun k => (still_toDescriptor _).traced.bind fun d => ?_
    exact (traced_define _ k d).bind_pure _
  · exact (still_failType _).traced

theorem still_toPrototype (v : Value) : (toPrototype v).Still := by
  unfold toPrototype
  split
  · exact still_pure _
  · exact still_pure _
  · exact still_failType _

theorem traced_defineAll (r source : Ref) (ks : List Key) : (defineAll r source ks).Traced := by
  induction ks with
  | nil => exact (still_pure _).traced
  | cons k ks ih =>
    refine (still_look _).traced.bind fun v => (still_toDescriptor v).traced.bind fun d => ?_
    exact (traced_define r k d).bind fun _ => ih

theorem traced_create (args : List Value) : (create args).Traced := by
  refine (still_toPrototype _).traced.bind fun target => ?_
  refine (traced_createWithPrototype target).bind fun r => ?_
  dsimp only
  split
  · exact (still_pure _).traced
  · refine (traced_box _).bind fun source => (still_look _).traced.bind fun ks => ?_
    exact (traced_defineAll r source ks).bind_pure _

theorem traced_getPrototypeOf (args : List Value) : (getPrototypeOf args).Traced :=
  (traced_toObject _).bind fun _ => ((still_look _).traced).bind_pure _

theorem traced_setPrototypeOf (args : List Value) : (setPrototypeOf args).Traced := by
  unfold setPrototypeOf
  dsimp only
  split
  · refine (still_failType _).traced.bind fun _ => (still_toPrototype _).traced.bind fun next => ?_
    split
    · exact (traced_relink _ next).bind_pure _
    · exact (still_pure _).traced
  · refine (still_toPrototype _).traced.bind fun next => ?_
    split
    · exact (traced_relink _ next).bind_pure _
    · exact (still_pure _).traced

theorem traced_raise (l : Level) (args : List Value) : (raise l args).Traced := by
  unfold raise
  split
  · exact (Exec.traced_raise _ l).bind_pure _
  · exact (still_pure _).traced

theorem still_hasLevel (l : Level) (args : List Value) : (hasLevel l args).Still := by
  unfold hasLevel
  split
  · exact (still_look _).bind fun _ => still_pure _
  · exact still_pure _

theorem still_isExtensible (args : List Value) : (isExtensible args).Still := by
  unfold isExtensible
  split
  · exact (still_look _).bind fun _ => still_pure _
  · exact still_pure _

theorem traced_hasOwnProperty (this : Value) (args : List Value) :
    (hasOwnProperty this args).Traced :=
  (traced_toObject this).bind fun _ => (still_toKey _).traced.bind fun _ =>
    ((still_look _).traced).bind_pure _

theorem still_toString (this : Value) : (toString this).Still :=
  (still_look _).bind fun _ => still_pure _

theorem traced_valueOf (this : Value) : (valueOf this).Traced :=
  (traced_toObject this).bind_pure _

end Reflection

/-! ### Arrays -/

namespace Sequences

theorem fitted_array (args : List Value) : (array args).Fitted := by
  unfold array
  split
  · split
    · exact (still_throw _).traced.fitted
    · refine Traced.fitted ?_
      refine (traced_createArray (Nat.zero_le _)).bind fun r => ?_
      refine still_writeMode.traced.bind fun mode => ?_
      exact (traced_set r _ _ mode).discard.bind_pure _
  · exact (fitted_createArray args).bind_pure _

theorem still_isArray (args : List Value) : (isArray args).Still := by
  unfold isArray
  split
  · exact (still_look _).bind fun _ => still_pure _
  · exact still_pure _

theorem traced_append (r : Ref) (n : Nat) (vs : List Value) : (append r n vs).Traced := by
  induction vs generalizing n with
  | nil => exact (still_pure n).traced
  | cons v vs ih => exact (traced_set r _ v .strict).discard.bind fun _ => ih _

theorem traced_push (this : Value) (args : List Value) : (push this args).Traced := by
  refine (traced_toObject this).bind fun r => (still_look _).traced.bind fun n => ?_
  refine (traced_append r n args).bind fun n => ?_
  exact (traced_set r _ _ .strict).discard.bind_pure _

end Sequences

/-! ### Boxes -/

namespace Boxes

theorem traced_finish (this : Value) (target : Ref) (v : Value) : (finish this target v).Traced := by
  refine (still_look _).traced.bind fun fresh => ?_
  split
  · exact (traced_box v).bind_pure _
  · exact (still_pure v).traced

theorem traced_string (this : Value) (args : List Value) : (string this args).Traced := by
  have hfinish : ∀ s, (do finish this (← intrinsics).stringPrototype (.string s) : Exec Value).Traced :=
    fun s => still_intrinsics.traced.bind fun own => traced_finish _ _ _
  unfold string
  split
  · exact (still_text _).traced.bind hfinish
  · exact hfinish ""

theorem traced_number (this : Value) (args : List Value) : (number this args).Traced := by
  have hfinish : ∀ x, (do finish this (← intrinsics).numberPrototype (.number x) : Exec Value).Traced :=
    fun x => still_intrinsics.traced.bind fun own => traced_finish _ _ _
  unfold number
  split
  · exact (still_look _).traced.bind hfinish
  · exact hfinish .zero

theorem traced_boolean (this : Value) (args : List Value) : (boolean this args).Traced :=
  still_intrinsics.traced.bind fun _ => traced_finish _ _ _

theorem still_stringValue (this : Value) : (stringValue this).Still := by
  refine (still_look _).bind fun v => ?_
  split
  · exact still_pure _
  · exact still_failType _

theorem still_numberValue (this : Value) : (numberValue this).Still := by
  refine (still_look _).bind fun v => ?_
  split
  · exact still_pure _
  · exact still_failType _

theorem still_booleanValue (this : Value) : (booleanValue this).Still := by
  refine (still_look _).bind fun v => ?_
  split
  · exact still_pure _
  · exact still_failType _

end Boxes

/-! ### Errors -/

namespace Errors

theorem traced_construct (kind : ErrorKind) (args : List Value) : (construct kind args).Traced := by
  have hcreate : ∀ message, (do return .object (← createError kind message) : Exec Value).Traced :=
    fun message => (traced_createError kind message).bind_pure _
  unfold construct
  split
  · exact hcreate ""
  · exact (still_text _).traced.bind hcreate

theorem still_memberText (r : Ref) (name missing : String) : (memberText r name missing).Still := by
  refine (still_look _).bind fun v => ?_
  split
  · exact still_pure _
  · exact still_text _

theorem still_toString (this : Value) : (toString this).Still := by
  unfold toString
  split
  · refine (still_memberText _ _ _).bind fun name => (still_memberText _ _ _).bind fun message => ?_
    exact still_pure _
  · exact still_failType _

end Errors

/-! ### Host types -/

namespace Interop

theorem traced_hostType (args : List Value) : (hostType args).Traced := by
  unfold hostType
  split
  · exact (traced_resolveType _).bind_pure _
  · exact ((still_text _).bind fun _ => still_failType _).traced

theorem still_isHostType (args : List Value) : (isHostType args).Still :=
  (still_hostTypeOf? _).bind fun _ => still_pure _

theorem still_hostTypeName (args : List Value) : (hostTypeName args).Still := by
  refine (still_hostTypeOf? _).bind fun c => ?_
  split
  · exact still_pure _
  · exact still_pure _

theorem traced_importPackages (args : List Value) : (importPackages args).Traced := by
  induction args with
  | nil => exact (still_pure _).traced
  | cons v vs ih =>
    refine (still_look _).traced.bind fun path => ?_
    split
    · exact (traced_importPackage _).bind fun _ => ih
    · exact (still_text v).traced.bind fun _ => (still_failType _).traced.bind fun _ => ih

theorem traced_importClasses (args : List Value) : (importClasses args).Traced := by
  induction args with
  | nil => exact (still_pure _).traced
  | cons v vs ih => exact (traced_importClass v).bind fun _ => ih

end Interop

theorem fitted_runBuiltin (b : Builtin) (this : Value) (args : List Value) :
    (runBuiltin b this args).Fitted := by
  cases b with
  | object => exact (Reflection.traced_object args).fitted
  | keys => exact Reflection.fitted_keys args
  | getOwnPropertyNames => exact Reflection.fitted_getOwnPropertyNames args
  | getOwnPropertyDescriptor => exact (Reflection.traced_getOwnPropertyDescriptor args).fitted
  | defineProperty => exact (Reflection.traced_defineProperty args).fitted
  | create => exact (Reflection.traced_create args).fitted
  | getPrototypeOf => exact (Reflection.traced_getPrototypeOf args).fitted
  | setPrototypeOf => exact (Reflection.traced_setPrototypeOf args).fitted
  | freeze | «seal» | preventExtensions => exact (Reflection.traced_raise _ args).fitted
  | isFrozen | isSealed => exact (Reflection.still_hasLevel _ args).traced.fitted
  | isExtensible => exact (Reflection.still_isExtensible args).traced.fitted
  | hasOwnProperty => exact (Reflection.traced_hasOwnProperty this args).fitted
  | toString => exact (Reflection.still_toString this).traced.fitted
  | valueOf => exact (Reflection.traced_valueOf this).fitted
  | array => exact Sequences.fitted_array args
  | isArray => exact (Sequences.still_isArray args).traced.fitted
  | push => exact (Sequences.traced_push this args).fitted
  | string => exact (Boxes.traced_string this args).fitted
  | stringValue => exact (Boxes.still_stringValue this).traced.fitted
  | number => exact (Boxes.traced_number this args).fitted
  | numberValue => exact (Boxes.still_numberValue this).traced.fitted
  | boolean => exact (Boxes.traced_boolean this args).fitted
  | booleanValue => exact (Boxes.still_booleanValue this).traced.fitted
  | error kind => exact (Errors.traced_construct kind args).fitted
  | errorText => exact (Errors.still_toString this).traced.fitted
  | hostType => exact (Interop.traced_hostType args).fitted
  | isHostType => exact (Interop.still_isHostType args).traced.fitted
  | hostTypeName => exact (Interop.still_hostTypeName args).traced.fitted
  | importPackage => exact (Interop.traced_importPackages args).fitted
  | importClass => exact (Interop.traced_importClasses args).fitted

end ScriptSandbox.Exec
