import ScriptSandbox.Proofs.Uniform.Basic
import ScriptSandbox.Realm.Genesis
import ScriptSandbox.Realm.HostType

/-! # Creating objects side by side

Creating objects and furnishing a new realm asks nothing of a machine but its objects, so it is
uniform.
-/

namespace ScriptSandbox.Exec

open Machine

variable {R : Machine → Machine → Prop} (hR : IsFrame R)

include hR

/-- Making an object by the intrinsics. -/
theorem uniform_make (c : Intrinsics → Cell) :
    (intrinsics >>= fun own => alloc (c own)).Uniform R :=
  (uniform_intrinsics hR).bind fun _ => uniform_alloc hR _

theorem uniform_createObject : createObject.Uniform R := uniform_make hR _

theorem uniform_createWithPrototype (target : Option Ref) :
    (createWithPrototype target).Uniform R :=
  uniform_alloc hR _

theorem uniform_createObjectFrom (entries : List (String × Value)) :
    (createObjectFrom entries).Uniform R :=
  uniform_make hR _

theorem uniform_createArray (elements : List Value) : (createArray elements).Uniform R :=
  uniform_make hR _

theorem uniform_createArguments (elements : List Value) : (createArguments elements).Uniform R :=
  uniform_make hR _

theorem uniform_createFunction (name : String) (routine : Routine) (arity : Nat) :
    (createFunction name routine arity).Uniform R :=
  uniform_make hR _

theorem uniform_registerMethod (r : Ref) (name : String) (routine : Routine) (arity : Nat) :
    (registerMethod r name routine arity).Uniform R :=
  (uniform_createFunction hR name routine arity).bind fun _ => uniform_modifyCell hR r _

theorem uniform_createPackage (path : String) : (createPackage path).Uniform R :=
  uniform_make hR _

theorem uniform_box (v : Value) : (box v).Uniform R := by
  cases v with
  | object r => exact uniform_pure r
  | string _ | number _ | boolean _ | undefined | null => exact uniform_make hR _

theorem uniform_toObject (v : Value) : (toObject v).Uniform R := by
  unfold toObject
  split
  · exact uniform_failType _
  · exact uniform_box hR v

theorem uniform_createError (kind : ErrorKind) (message : String) :
    (createError kind message).Uniform R :=
  uniform_make hR _

theorem uniform_createFailure (f : Failure) : (createFailure f).Uniform R := by
  refine (uniform_look hR _).bind fun message => ?_
  refine (uniform_createError hR f.kind message).bind fun r => ?_
  cases f.typeName? with
  | some name => exact (uniform_modifyCell hR r _).bind_pure _
  | none => exact uniform_pure r

theorem uniform_caught (f : Failure) : (caught f).Uniform R := by
  unfold caught
  split
  · exact uniform_pure _
  · exact (uniform_createFailure hR _).bind_pure _

/-! ### Type objects -/

theorem uniform_registerStatics (r : Ref) (methods : List StaticMethod) :
    (registerStatics r methods).Uniform R := by
  induction methods with
  | nil => exact uniform_pure ()
  | cons m rest ih => exact (uniform_registerMethod hR r _ _ _).bind fun _ => ih

theorem uniform_createTypeObject (c : HostClass) : (createTypeObject c).Uniform R := by
  refine (uniform_intrinsics hR).bind fun own => (uniform_alloc hR _).bind fun r => ?_
  refine (uniform_registerStatics hR r c.statics).bind fun _ => ?_
  exact (uniform_modifyCell hR r _).bind_pure _

/-! ### New realms -/

theorem uniform_installConstructor (name : String) (b : Builtin) (target : Ref) :
    (installConstructor name b target).Uniform R := by
  refine (uniform_createFunction hR name (.builtin b) 1).bind fun ctor => ?_
  refine (uniform_modifyCell hR ctor _).bind fun _ => (uniform_modifyCell hR target _).bind fun _ => ?_
  exact (uniform_intrinsics hR).bind fun own => (uniform_modifyCell hR own.global _).bind_pure _

theorem uniform_registerAll (r : Ref) (methods : List (String × Builtin × Nat)) :
    (registerAll r methods).Uniform R := by
  induction methods with
  | nil => exact uniform_pure ()
  | cons m rest ih => exact (uniform_registerMethod hR r _ _ _).bind fun _ => ih

/-- An intrinsic prototype with its methods, and the constructor that goes with it. -/
theorem uniform_installPrototype (target : Intrinsics → Ref) (methods statics : List (String × Builtin × Nat))
    (name : String) (b : Builtin) :
    (do
      let own ← intrinsics
      registerAll (target own) methods
      let ctor ← installConstructor name b (target own)
      registerAll ctor statics : Exec Unit).Uniform R := by
  refine (uniform_intrinsics hR).bind fun own => (uniform_registerAll hR _ methods).bind fun _ => ?_
  exact (uniform_installConstructor hR name b _).bind fun _ => uniform_registerAll hR _ statics

theorem uniform_installObject : installObject.Uniform R :=
  uniform_installPrototype hR (·.objectPrototype) _ _ _ _

theorem uniform_installArray : installArray.Uniform R :=
  uniform_installPrototype hR (·.arrayPrototype) _ _ _ _

theorem uniform_installBoxes : installBoxes.Uniform R := by
  refine (uniform_intrinsics hR).bind fun own => (uniform_registerAll hR _ _).bind fun _ => ?_
  refine (uniform_installConstructor hR _ _ _).discard.bind fun _ => ?_
  refine (uniform_registerAll hR _ _).bind fun _ => ?_
  refine (uniform_installConstructor hR _ _ _).discard.bind fun _ => ?_
  refine (uniform_registerAll hR _ _).bind fun _ => ?_
  exact (uniform_installConstructor hR _ _ _).discard

theorem uniform_installErrorKinds (kinds : List ErrorKind) :
    (installErrorKinds kinds).Uniform R := by
  induction kinds with
  | nil => exact uniform_pure ()
  | cons kind rest ih =>
    refine (uniform_intrinsics hR).bind fun own => ?_
    refine (uniform_modifyCell hR _ _).bind fun _ => (uniform_modifyCell hR _ _).bind fun _ => ?_
    exact (uniform_installConstructor hR _ _ _).discard.bind fun _ => ih

theorem uniform_installErrors : installErrors.Uniform R :=
  (uniform_installErrorKinds hR _).bind fun _ => (uniform_intrinsics hR).bind fun _ =>
    uniform_registerAll hR _ _

theorem uniform_installRoots (roots : List String) : (installRoots roots).Uniform R := by
  induction roots with
  | nil => exact uniform_pure ()
  | cons root rest ih =>
    refine (uniform_createPackage hR root).bind fun r => (uniform_intrinsics hR).bind fun own => ?_
    exact (uniform_modifyCell hR _ _).bind fun _ => ih

/-- The host types of a new realm, if the realms have the same settings. -/
theorem uniform_installInterop (hs : ∀ {m m'}, R m m' → m'.realm.settings = m.realm.settings) :
    installInterop.Uniform R := by
  refine (uniform_intrinsics hR).bind fun own => (uniform_createObject hR).bind fun access => ?_
  refine (uniform_registerAll hR _ _).bind fun _ => (uniform_createPackage hR _).bind fun packages => ?_
  refine (uniform_modifyCell hR _ _).bind fun _ => (uniform_modifyCell hR _ _).bind fun _ => ?_
  have hroots : (realm >>= fun realm =>
      installRoots realm.settings.packageRoots >>= fun _ =>
        registerAll own.global
          [("importPackage", .importPackage, 1), ("importClass", .importClass, 1)]).Uniform R :=
    uniform_bind_realm (·.settings.packageRoots) (fun h => by rw [hs h]) fun roots =>
      (uniform_installRoots hR roots).bind fun _ => uniform_registerAll hR _ _
  exact hroots

theorem uniform_install (hs : ∀ {m m'}, R m m' → m'.realm.settings = m.realm.settings) :
    install.Uniform R :=
  (uniform_installObject hR).bind fun _ => (uniform_installArray hR).bind fun _ =>
    (uniform_installBoxes hR).bind fun _ => (uniform_installErrors hR).bind fun _ =>
      uniform_installInterop hR hs

end ScriptSandbox.Exec
