import ScriptSandbox.Proofs.Uniform.Creation
import ScriptSandbox.Realm.Invocation

/-! # Builtins side by side

What builtins do to objects is uniform. Only those that look at the mode of the realm, or at what it
knows of host types, may tell related machines apart. Tests for instances and walks over names are
uniform as well.
-/

namespace ScriptSandbox

namespace Exec

open Machine

variable {R : Machine → Machine → Prop} (hR : IsFrame R)

include hR

theorem uniform_toKey (v : Value) : (toKey v).Uniform R := uniform_look hR _

/-- A function of the heap, put into an answer. -/
theorem uniform_answer {α β : Type} (f : Heap → α) (g : α → β) :
    (look f >>= fun a => pure (g a)).Uniform R :=
  (uniform_look hR f).bind_pure g

theorem uniform_hostTypeOf? (v : Value) : (hostTypeOf? v).Uniform R := uniform_look hR _

/-- Failing with the text of a value. -/
theorem uniform_failText {α : Type} (v : Value) (fault : String → TypeFault) :
    (text v >>= fun s => failType (fault s) : Exec α).Uniform R :=
  (uniform_text hR v).bind fun _ => uniform_failType _

/-! ### Reflection -/

namespace Reflection

theorem uniform_object (args : List Value) : (object args).Uniform R := by
  unfold object
  dsimp only
  split
  · exact (uniform_createObject hR).bind_pure _
  · exact (uniform_box hR _).bind_pure _

theorem uniform_arrayOfKeys (ks : List Key) : (arrayOfKeys ks).Uniform R :=
  (uniform_createArray hR _).bind_pure _

theorem uniform_keys (args : List Value) : (keys args).Uniform R :=
  (uniform_toObject hR _).bind fun _ => (uniform_look hR _).bind fun ks => uniform_arrayOfKeys hR ks

theorem uniform_getOwnPropertyNames (args : List Value) : (getOwnPropertyNames args).Uniform R :=
  (uniform_toObject hR _).bind fun _ => (uniform_look hR _).bind fun ks => uniform_arrayOfKeys hR ks

theorem uniform_getOwnPropertyDescriptor (args : List Value) :
    (getOwnPropertyDescriptor args).Uniform R := by
  refine (uniform_toObject hR _).bind fun r => (uniform_toKey hR _).bind fun k => ?_
  refine (uniform_look hR _).bind fun p => ?_
  split
  · exact (uniform_createObjectFrom hR _).bind_pure _
  · exact uniform_pure _

theorem uniform_toDescriptor (v : Value) : (toDescriptor v).Uniform R := by
  unfold toDescriptor
  split
  · exact uniform_look hR _
  · exact uniform_failType _

theorem uniform_defineProperty (args : List Value) : (defineProperty args).Uniform R := by
  unfold defineProperty
  split
  · refine (uniform_toKey hR _).bind fun k => (uniform_toDescriptor hR _).bind fun d => ?_
    exact (uniform_change hR _).bind_pure _
  · exact uniform_failType _

omit hR in
theorem uniform_toPrototype (v : Value) : (toPrototype v).Uniform R := by
  unfold toPrototype
  split
  · exact uniform_pure _
  · exact uniform_pure _
  · exact uniform_failType _

theorem uniform_defineAll (r source : Ref) (ks : List Key) : (defineAll r source ks).Uniform R := by
  induction ks with
  | nil => exact uniform_pure ()
  | cons k ks ih =>
    refine (uniform_look hR _).bind fun v => (uniform_toDescriptor hR v).bind fun d => ?_
    exact (uniform_change hR _).bind fun _ => ih

theorem uniform_create (args : List Value) : (create args).Uniform R := by
  refine (uniform_toPrototype _).bind fun target => ?_
  refine (uniform_createWithPrototype hR target).bind fun r => ?_
  dsimp only
  split
  · exact uniform_pure _
  · refine (uniform_box hR _).bind fun source => (uniform_look hR _).bind fun ks => ?_
    exact (uniform_defineAll hR r source ks).bind_pure _

theorem uniform_getPrototypeOf (args : List Value) : (getPrototypeOf args).Uniform R :=
  (uniform_toObject hR _).bind fun _ => uniform_answer hR _ _

theorem uniform_setPrototypeOf (args : List Value) : (setPrototypeOf args).Uniform R := by
  unfold setPrototypeOf
  dsimp only
  split
  · refine (uniform_failType _).bind fun _ => (uniform_toPrototype _).bind fun next => ?_
    split
    · exact (uniform_change hR _).bind_pure _
    · exact uniform_pure _
  · refine (uniform_toPrototype _).bind fun next => ?_
    split
    · exact (uniform_change hR _).bind_pure _
    · exact uniform_pure _

theorem uniform_raise (l : Level) (args : List Value) : (raise l args).Uniform R := by
  unfold raise
  split
  · exact (uniform_modifyCell hR _ _).bind_pure _
  · exact uniform_pure _

theorem uniform_hasLevel (l : Level) (args : List Value) : (hasLevel l args).Uniform R := by
  unfold hasLevel
  split
  · exact uniform_answer hR _ _
  · exact uniform_pure _

theorem uniform_isExtensible (args : List Value) : (isExtensible args).Uniform R := by
  unfold isExtensible
  split
  · exact uniform_answer hR _ _
  · exact uniform_pure _

theorem uniform_hasOwnProperty (this : Value) (args : List Value) :
    (hasOwnProperty this args).Uniform R :=
  (uniform_toObject hR this).bind fun _ => (uniform_toKey hR _).bind fun _ => uniform_answer hR _ _

theorem uniform_toString (this : Value) : (toString this).Uniform R := uniform_answer hR _ _

theorem uniform_valueOf (this : Value) : (valueOf this).Uniform R :=
  (uniform_toObject hR this).bind_pure _

end Reflection

/-! ### Arrays -/

namespace Sequences

/-- The constructor writes a length, in the mode of the realm. -/
theorem uniform_array (hw : writeMode.Uniform R) (args : List Value) : (array args).Uniform R := by
  unfold array
  split
  · split
    · exact uniform_throw _
    · refine (uniform_createArray hR _).bind fun r => hw.bind fun mode => ?_
      exact (uniform_change hR _).discard.bind_pure _
  · exact (uniform_createArray hR args).bind_pure _

theorem uniform_isArray (args : List Value) : (isArray args).Uniform R := by
  unfold isArray
  split
  · exact uniform_answer hR _ _
  · exact uniform_pure _

theorem uniform_append (r : Ref) (n : Nat) (vs : List Value) : (append r n vs).Uniform R := by
  induction vs generalizing n with
  | nil => exact uniform_pure n
  | cons v vs ih => exact (uniform_change hR _).discard.bind fun _ => ih _

theorem uniform_push (this : Value) (args : List Value) : (push this args).Uniform R := by
  refine (uniform_toObject hR this).bind fun r => (uniform_look hR _).bind fun n => ?_
  refine (uniform_append hR r n args).bind fun n => ?_
  exact (uniform_change hR _).discard.bind_pure _

end Sequences

/-! ### Boxes -/

namespace Boxes

theorem uniform_finish (this : Value) (target : Ref) (v : Value) :
    (finish this target v).Uniform R := by
  refine (uniform_look hR _).bind fun fresh => ?_
  split
  · exact (uniform_box hR v).bind_pure _
  · exact uniform_pure v

theorem uniform_string (this : Value) (args : List Value) : (string this args).Uniform R := by
  have hfinish : ∀ s,
      (do finish this (← intrinsics).stringPrototype (.string s) : Exec Value).Uniform R :=
    fun s => (uniform_intrinsics hR).bind fun own => uniform_finish hR _ _ _
  unfold string
  split
  · exact (uniform_text hR _).bind hfinish
  · exact hfinish ""

theorem uniform_number (this : Value) (args : List Value) : (number this args).Uniform R := by
  have hfinish : ∀ x,
      (do finish this (← intrinsics).numberPrototype (.number x) : Exec Value).Uniform R :=
    fun x => (uniform_intrinsics hR).bind fun own => uniform_finish hR _ _ _
  unfold number
  split
  · exact (uniform_look hR _).bind hfinish
  · exact hfinish .zero

theorem uniform_boolean (this : Value) (args : List Value) : (boolean this args).Uniform R :=
  (uniform_intrinsics hR).bind fun _ => uniform_finish hR _ _ _

theorem uniform_stringValue (this : Value) : (stringValue this).Uniform R := by
  refine (uniform_look hR _).bind fun v => ?_
  split
  · exact uniform_pure _
  · exact uniform_failType _

theorem uniform_numberValue (this : Value) : (numberValue this).Uniform R := by
  refine (uniform_look hR _).bind fun v => ?_
  split
  · exact uniform_pure _
  · exact uniform_failType _

theorem uniform_booleanValue (this : Value) : (booleanValue this).Uniform R := by
  refine (uniform_look hR _).bind fun v => ?_
  split
  · exact uniform_pure _
  · exact uniform_failType _

end Boxes

/-! ### Errors -/

namespace Errors

theorem uniform_construct (kind : ErrorKind) (args : List Value) :
    (construct kind args).Uniform R := by
  have hcreate : ∀ message,
      (do return .object (← createError kind message) : Exec Value).Uniform R :=
    fun message => (uniform_createError hR kind message).bind_pure _
  unfold construct
  split
  · exact hcreate ""
  · exact (uniform_text hR _).bind hcreate

theorem uniform_memberText (r : Ref) (name missing : String) :
    (memberText r name missing).Uniform R := by
  refine (uniform_look hR _).bind fun v => ?_
  split
  · exact uniform_pure _
  · exact uniform_text hR _

theorem uniform_toString (this : Value) : (toString this).Uniform R := by
  unfold toString
  split
  · refine (uniform_memberText hR _ _ _).bind fun name => ?_
    exact (uniform_memberText hR _ _ _).bind_pure _
  · exact uniform_failType _

end Errors

/-! ### Host types -/

namespace Interop

theorem uniform_isHostType (args : List Value) : (isHostType args).Uniform R :=
  (uniform_hostTypeOf? hR _).bind_pure _

theorem uniform_hostTypeName (args : List Value) : (hostTypeName args).Uniform R := by
  refine (uniform_hostTypeOf? hR _).bind fun c => ?_
  split
  · exact uniform_pure _
  · exact uniform_pure _

end Interop

/-! ### Functions and walks -/

theorem uniform_routineOf (callee : Value) : (routineOf callee).Uniform R := by
  refine (uniform_look hR _).bind fun f => ?_
  split
  · exact uniform_pure _
  · exact uniform_failText hR _ _

theorem uniform_instanceOf (v ctor : Value) : (instanceOf v ctor).Uniform R := by
  unfold instanceOf
  split
  · refine (uniform_look hR _).bind fun kind => ?_
    split
    · split
      · refine (uniform_look hR _).bind fun kind => ?_
        split
        · exact uniform_pure _
        · exact uniform_pure _
      · exact uniform_pure _
    · split
      · refine (uniform_look hR _).bind fun target => ?_
        split
        · exact uniform_look hR _
        · exact uniform_failType _
      · exact uniform_pure _
    · exact uniform_failType _
  · exact uniform_failType _

theorem uniform_walkOver (target : Value) : (walkOver target).Uniform R := by
  unfold walkOver
  split
  · exact uniform_pure _
  · exact (uniform_box hR target).bind_pure _

end Exec

/-- Whether a builtin asks nothing of the realm it runs in but its intrinsics. -/
def Builtin.isPlain : Builtin → Bool
  | array | hostType | importPackage | importClass => false
  | _ => true

open Exec Machine

theorem Exec.uniform_runBuiltin {R : Machine → Machine → Prop} (hR : IsFrame R) {b : Builtin}
    (hb : b.isPlain) (this : Value) (args : List Value) : (runBuiltin b this args).Uniform R := by
  cases b with
  | object => exact Reflection.uniform_object hR args
  | keys => exact Reflection.uniform_keys hR args
  | getOwnPropertyNames => exact Reflection.uniform_getOwnPropertyNames hR args
  | getOwnPropertyDescriptor => exact Reflection.uniform_getOwnPropertyDescriptor hR args
  | defineProperty => exact Reflection.uniform_defineProperty hR args
  | create => exact Reflection.uniform_create hR args
  | getPrototypeOf => exact Reflection.uniform_getPrototypeOf hR args
  | setPrototypeOf => exact Reflection.uniform_setPrototypeOf hR args
  | freeze | «seal» | preventExtensions => exact Reflection.uniform_raise hR _ args
  | isFrozen | isSealed => exact Reflection.uniform_hasLevel hR _ args
  | isExtensible => exact Reflection.uniform_isExtensible hR args
  | hasOwnProperty => exact Reflection.uniform_hasOwnProperty hR this args
  | toString => exact Reflection.uniform_toString hR this
  | valueOf => exact Reflection.uniform_valueOf hR this
  | isArray => exact Sequences.uniform_isArray hR args
  | push => exact Sequences.uniform_push hR this args
  | string => exact Boxes.uniform_string hR this args
  | stringValue => exact Boxes.uniform_stringValue hR this
  | number => exact Boxes.uniform_number hR this args
  | numberValue => exact Boxes.uniform_numberValue hR this
  | boolean => exact Boxes.uniform_boolean hR this args
  | booleanValue => exact Boxes.uniform_booleanValue hR this
  | error kind => exact Errors.uniform_construct hR kind args
  | errorText => exact Errors.uniform_toString hR this
  | isHostType => exact Interop.uniform_isHostType hR args
  | hostTypeName => exact Interop.uniform_hostTypeName hR args
  | array | hostType | importPackage | importClass => cases hb

end ScriptSandbox
