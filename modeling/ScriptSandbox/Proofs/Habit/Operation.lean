import ScriptSandbox.Proofs.Habit.Builtin
import ScriptSandbox.Proofs.Machine.Operation

/-! # Operations and habits

Every operation respects every habit; calls by induction on their arguments.
-/

namespace ScriptSandbox

open Machine

variable {R : Machine → Machine → Prop} (hR : IsHabit R)

include hR

namespace Exec

theorem follows_runCallback (c : Callback) (this : Value) (args : List Value)
    (hrun : ∀ callee rest, args = callee :: rest → ∀ routine, (run routine this rest).Follows R) :
    (run (.callback c) this args).Follows R := by
  unfold run
  cases c with
  | noop | null | receiver | first | count => exact (still_pure _).follows hR
  | arguments => exact (follows_createArguments hR args).bind_pure hR _
  | initSize => exact (follows_setMember hR _ _ _).discard.bind_pure hR _
  | storeArguments =>
    exact (follows_createArray hR args).bind hR fun r =>
      (follows_setMember hR _ _ _).discard.bind_pure hR _
  | newObject => exact (follows_createObject hR).bind_pure hR _
  | classForName =>
    exact (still_text _).bind_follows hR fun _ => (follows_resolveType hR _).bind_pure hR _
  | throwFirst | throwInternal => exact (still_throw _).follows hR
  | callFirst =>
    cases args with
    | nil => exact (still_failType _).follows hR
    | cons callee rest =>
      exact (still_routineOf callee).bind_follows hR fun routine => hrun callee rest rfl routine
  | getGlobal => exact (still_text _).bind_follows hR fun _ => follows_getGlobal hR _

theorem follows_run (routine : Routine) (this : Value) (args : List Value) :
    (run routine this args).Follows R := by
  induction args generalizing routine with
  | nil =>
    cases routine with
    | builtin b => exact follows_runBuiltin hR b this []
    | callback c =>
      refine follows_runCallback hR c this [] fun callee rest h => ?_
      cases h
  | cons v rest ih =>
    cases routine with
    | builtin b => exact follows_runBuiltin hR b this (v :: rest)
    | callback c =>
      refine follows_runCallback hR c this (v :: rest) fun callee rest' h routine => ?_
      cases h
      exact ih routine

theorem follows_call (callee this : Value) (args : List Value) : (call callee this args).Follows R :=
  (still_routineOf callee).bind_follows hR fun routine => follows_run hR routine this args

theorem follows_callMethod (target : Value) (name : String) (args : List Value) :
    (callMethod target name args).Follows R := by
  refine (follows_getMember hR target _).bind hR fun method => ?_
  refine (still_look _).bind_follows hR fun callable => ?_
  split
  · exact follows_call hR method target args
  · exact ((still_text _).bind fun _ => still_failType _).follows hR

/-! ### Constructing objects -/

theorem follows_constructHost (c : HostClass) (args : List Value) :
    (constructHost c args).Follows R := by
  unfold constructHost
  cases c.constructor with
  | none => exact (still_failType _).follows hR
  | some callback =>
    refine still_intrinsics.bind_follows hR fun own => ?_
    refine (follows_alloc hR ⟨rfl, rfl, ?_⟩).bind hR fun r => ?_
    · exact nofun
    · exact (follows_run hR _ _ _).discard.bind_pure hR _

/-- A plain object that a function is run on. -/
theorem follows_constructPlain (callee : Value) (target : Ref) (args : List Value) :
    (do
      let this ← createWithPrototype (some target)
      let result ← call callee (.object this) args
      if result.isObject then return result else return .object this : Exec Value).Follows R := by
  refine (follows_createWithPrototype hR _).bind hR fun this => ?_
  refine (follows_call hR callee _ args).bind hR fun result => ?_
  split <;> exact (still_pure _).follows hR

theorem follows_construct (callee : Value) (args : List Value) :
    (construct callee args).Follows R := by
  have hfail : ∀ v, (do failType (.notConstructor (← text v)) : Exec Value).Follows R := fun v =>
    ((still_text v).bind fun _ => still_failType _).follows hR
  unfold construct
  split
  · refine (still_look _).bind_follows hR fun kind => ?_
    split
    · exact follows_constructHost hR _ args
    · refine (still_look _).bind_follows hR fun v => ?_
      split
      · exact (still_pure _).bind_follows hR fun target => follows_constructPlain hR _ target args
      · exact still_intrinsics.bind_follows hR fun own => (still_pure _).bind_follows hR
          fun target => follows_constructPlain hR _ target args
    · exact hfail _
  · exact (still_failType _).follows hR

end Exec

open Exec

/-- Whatever an operation does respects the habit. -/
theorem Operation.follows_exec (op : Operation) : op.exec.Follows R := by
  cases op with
  | get target k => exact (follows_getMember hR target k).bind_pure hR _
  | set target k v => exact (follows_setMember hR target k v).bind_pure hR _
  | delete target k => exact (follows_deleteMember hR target k).bind_pure hR _
  | walk target => exact (follows_walkOver hR target).bind_pure hR _
  | call callee this args => exact (follows_call hR callee this args).bind_pure hR _
  | callMethod target name args => exact (follows_callMethod hR target name args).bind_pure hR _
  | construct callee args => exact (follows_construct hR callee args).bind_pure hR _
  | instanceOf v ctor => exact ((still_instanceOf v ctor).follows hR).bind_pure hR _
  | getGlobal name => exact (follows_getGlobal hR name).bind_pure hR _
  | setGlobal name v => exact (follows_setGlobal hR name v).bind_pure hR _
  | importPackage name => exact (follows_importPackage hR name).bind_pure hR _
  | importClass v => exact (follows_importClass hR v).bind_pure hR _
  | resolveType name => exact (follows_resolveType hR name).bind_pure hR _
  | resolveClass name => exact (follows_resolveClass hR name).bind_pure hR _
  | createObject => exact (follows_createObject hR).bind_pure hR _
  | createWithPrototype target => exact (follows_createWithPrototype hR target).bind_pure hR _
  | createObjectFrom entries => exact (follows_createObjectFrom hR entries).bind_pure hR _
  | createArray elements => exact (follows_createArray hR elements).bind_pure hR _
  | createArguments elements => exact (follows_createArguments hR elements).bind_pure hR _
  | createFunction name routine arity =>
    exact (follows_createFunction hR name routine arity).bind_pure hR _
  | createPackage path => exact (follows_createPackage hR path).bind_pure hR _
  | createError kind message => exact (follows_createError hR kind message).bind_pure hR _
  | box v => exact (follows_box hR v).bind_pure hR _
  | toObject v => exact (follows_toObject hR v).bind_pure hR _
  | recover f => exact (follows_caught hR f).bind_pure hR _
  | assign r k v mode => exact (follows_set hR r k v mode).bind_pure hR _
  | remove r k mode => exact (follows_delete hR r k mode).bind_pure hR _
  | define r k d => exact (follows_define hR r k d).bind_pure hR _
  | relink r target => exact (follows_relink hR r target).bind_pure hR _
  | raise r l => exact (follows_raise hR r l).bind_pure hR _
  | setStrict strict => exact fun m => hR.quiet (.setStrict m strict) rfl rfl

end ScriptSandbox
