import ScriptSandbox.Operation
import ScriptSandbox.Proofs.Uniform.Catalog

/-! # Operations over hidden host types

Calls hand on fewer and fewer arguments, so by induction on them a call shows nothing of hidden host
types, and with it no operation does.
-/

namespace ScriptSandbox

namespace Exec

open Machine

variable {c : Catalog}

theorem uniform_anyBuiltin (b : Builtin) (this : Value) (args : List Value) :
    (runBuiltin b this args).Uniform (Veils c) := by
  by_cases hb : b.isPlain
  · exact uniform_runBuiltin isFrame_veils hb this args
  · cases b with
    | array => exact Sequences.uniform_array isFrame_veils uniform_writeMode args
    | hostType => exact Interop.uniform_hostType args
    | importPackage => exact Interop.uniform_importPackages args
    | importClass => exact Interop.uniform_importClasses args
    | _ => exact absurd rfl hb

theorem uniform_runCallback (callback : Callback) (this : Value) (args : List Value)
    (hrun : ∀ callee rest, args = callee :: rest →
      ∀ routine, (run routine this rest).Uniform (Veils c)) :
    (run (.callback callback) this args).Uniform (Veils c) := by
  have hR := isFrame_veils (c := c)
  unfold run
  cases callback with
  | noop | null | receiver | first | count => exact uniform_pure _
  | arguments => exact (uniform_createArguments hR args).bind_pure _
  | initSize => exact (uniform_setMember _ _ _).discard.bind_pure _
  | storeArguments =>
    exact (uniform_createArray hR args).bind fun r => (uniform_setMember _ _ _).discard.bind_pure _
  | newObject => exact (uniform_createObject hR).bind_pure _
  | classForName => exact (uniform_text hR _).bind fun _ => (uniform_resolveType _).bind_pure _
  | throwFirst | throwInternal => exact uniform_throw _
  | callFirst =>
    cases args with
    | nil => exact uniform_failType _
    | cons callee rest =>
      exact (uniform_routineOf hR callee).bind fun routine => hrun callee rest rfl routine
  | getGlobal => exact (uniform_text hR _).bind fun _ => uniform_getGlobal _

theorem uniform_run (routine : Routine) (this : Value) (args : List Value) :
    (run routine this args).Uniform (Veils c) := by
  induction args generalizing routine with
  | nil =>
    cases routine with
    | builtin b => exact uniform_anyBuiltin b this []
    | callback callback =>
      refine uniform_runCallback callback this [] fun callee rest h => ?_
      cases h
  | cons v rest ih =>
    cases routine with
    | builtin b => exact uniform_anyBuiltin b this (v :: rest)
    | callback callback =>
      refine uniform_runCallback callback this (v :: rest) fun callee rest' h routine => ?_
      cases h
      exact ih routine

theorem uniform_call (callee this : Value) (args : List Value) :
    (call callee this args).Uniform (Veils c) :=
  (uniform_routineOf isFrame_veils callee).bind fun routine => uniform_run routine this args

theorem uniform_callMethod (target : Value) (name : String) (args : List Value) :
    (callMethod target name args).Uniform (Veils c) := by
  refine (uniform_getMember target _).bind fun method => ?_
  refine (uniform_look isFrame_veils _).bind fun callable => ?_
  split
  · exact uniform_call method target args
  · exact uniform_failText isFrame_veils target fun s => .notFunction (s ++ "." ++ name)

theorem uniform_constructHost (cls : HostClass) (args : List Value) :
    (constructHost cls args).Uniform (Veils c) := by
  unfold constructHost
  split
  · exact uniform_failType _
  · refine (uniform_intrinsics isFrame_veils).bind fun own => ?_
    exact (uniform_alloc isFrame_veils _).bind fun r => (uniform_run _ _ args).discard.bind_pure _

theorem uniform_construct (callee : Value) (args : List Value) :
    (construct callee args).Uniform (Veils c) := by
  have hR := isFrame_veils (c := c)
  have hplain : ∀ target, (do
      let this ← createWithPrototype (some target)
      let result ← call callee (.object this) args
      if result.isObject then return result else return .object this : Exec Value).Uniform
        (Veils c) := fun target => by
    refine (uniform_createWithPrototype hR _).bind fun this => ?_
    refine (uniform_call callee _ args).bind fun result => ?_
    split
    · exact uniform_pure _
    · exact uniform_pure _
  unfold construct
  split
  · refine (uniform_look hR _).bind fun kind => ?_
    split
    · exact uniform_constructHost _ args
    · refine (uniform_look hR _).bind fun v => ?_
      split
      · exact (uniform_pure _).bind hplain
      · exact (uniform_intrinsics hR).bind fun own => (uniform_pure _).bind hplain
    · exact uniform_failText hR _ _
  · exact uniform_failType _

end Exec

open Exec Machine

/-- No operation shows anything of hidden host types. -/
theorem Operation.uniform_exec {c : Catalog} (op : Operation) : op.exec.Uniform (Veils c) := by
  have hR := isFrame_veils (c := c)
  cases op with
  | get target k => exact (uniform_getMember target k).bind_pure _
  | set target k v => exact (uniform_setMember target k v).bind_pure _
  | delete target k => exact (uniform_deleteMember target k).bind_pure _
  | walk target => exact (uniform_walkOver hR target).bind_pure _
  | call callee this args => exact (uniform_call callee this args).bind_pure _
  | callMethod target name args => exact (uniform_callMethod target name args).bind_pure _
  | construct callee args => exact (uniform_construct callee args).bind_pure _
  | instanceOf v ctor => exact (uniform_instanceOf hR v ctor).bind_pure _
  | getGlobal name => exact (uniform_getGlobal name).bind_pure _
  | setGlobal name v => exact (uniform_setGlobal name v).bind_pure _
  | importPackage name => exact (uniform_importPackage name).bind_pure _
  | importClass v => exact (uniform_importClass v).bind_pure _
  | resolveType name => exact (uniform_resolveType name).bind_pure _
  | resolveClass name => exact (uniform_resolveClass name).bind_pure _
  | createObject => exact (uniform_createObject hR).bind_pure _
  | createWithPrototype target => exact (uniform_createWithPrototype hR target).bind_pure _
  | createObjectFrom entries => exact (uniform_createObjectFrom hR entries).bind_pure _
  | createArray elements => exact (uniform_createArray hR elements).bind_pure _
  | createArguments elements => exact (uniform_createArguments hR elements).bind_pure _
  | createFunction name routine arity =>
    exact (uniform_createFunction hR name routine arity).bind_pure _
  | createPackage path => exact (uniform_createPackage hR path).bind_pure _
  | createError kind message => exact (uniform_createError hR kind message).bind_pure _
  | box v => exact (uniform_box hR v).bind_pure _
  | toObject v => exact (uniform_toObject hR v).bind_pure _
  | recover f => exact (uniform_caught hR f).bind_pure _
  | assign | remove | define | relink => exact (uniform_change hR _).bind_pure _
  | raise r l => exact (uniform_modifyCell hR r _).bind_pure _
  | setStrict strict =>
    refine (uniform_modifyRealm ?_ ?_).bind_pure _
    · exact fun _ => rfl
    · exact fun _ => rfl

end ScriptSandbox
