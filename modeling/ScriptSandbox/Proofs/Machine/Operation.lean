import ScriptSandbox.Operation
import ScriptSandbox.Proofs.Machine.Builtin

/-! # Operations as paths

Calls hand on fewer and fewer arguments, so by induction on them a call is fitted, and with it every
operation.
-/

namespace ScriptSandbox

namespace Exec

open Machine

theorem fitted_storeArguments (this : Value) (args : List Value) :
    (do
      let r ← createArray args
      discard (setMember this (.name "args") (.object r))
      return .undefined : Exec Value).Fitted := by
  refine (fitted_createArray args).bind_traced (fun r => ?_) fun r => ?_
  · exact (traced_setMember _ _ _).discard.bind_pure _
  · exact (lasting_setMember _ (by decide) _).discard.bind fun _ => (still_pure _).lasting

theorem still_routineOf (callee : Value) : (routineOf callee).Still := by
  refine (still_look _).bind fun f => ?_
  split
  · exact still_pure _
  · exact (still_text _).bind fun _ => still_failType _

theorem fitted_runCallback (c : Callback) (this : Value) (args : List Value)
    (hrun : ∀ callee rest, args = callee :: rest → ∀ routine, (run routine this rest).Fitted) :
    (run (.callback c) this args).Fitted := by
  unfold run
  cases c with
  | noop | null | receiver | first | count => exact (still_pure _).traced.fitted
  | arguments => exact ((traced_createArguments args).bind_pure _).fitted
  | initSize => exact ((traced_setMember _ _ _).discard.bind_pure _).fitted
  | storeArguments => exact fitted_storeArguments this args
  | newObject => exact (traced_createObject.bind_pure _).fitted
  | classForName =>
    exact ((still_text _).traced.bind fun _ => (traced_resolveType _).bind_pure _).fitted
  | throwFirst | throwInternal => exact (still_throw _).traced.fitted
  | callFirst =>
    cases args with
    | nil => exact (still_failType _).traced.fitted
    | cons callee rest =>
      exact (still_routineOf callee).traced.bind_fitted fun routine => hrun callee rest rfl routine
  | getGlobal => exact ((still_text _).traced.bind fun _ => traced_getGlobal _).fitted

theorem fitted_run (routine : Routine) (this : Value) (args : List Value) :
    (run routine this args).Fitted := by
  induction args generalizing routine with
  | nil =>
    cases routine with
    | builtin b => exact fitted_runBuiltin b this []
    | callback c =>
      refine fitted_runCallback c this [] fun callee rest h => ?_
      cases h
  | cons v rest ih =>
    cases routine with
    | builtin b => exact fitted_runBuiltin b this (v :: rest)
    | callback c =>
      refine fitted_runCallback c this (v :: rest) fun callee rest' h routine => ?_
      cases h
      exact ih routine

theorem fitted_call (callee this : Value) (args : List Value) : (call callee this args).Fitted :=
  (still_routineOf callee).traced.bind_fitted fun routine => fitted_run routine this args

theorem fitted_callMethod (target : Value) (name : String) (args : List Value) :
    (callMethod target name args).Fitted := by
  refine (traced_getMember target _).bind_fitted fun method => ?_
  refine (still_look _).traced.bind_fitted fun callable => ?_
  split
  · exact fitted_call method target args
  · exact ((still_text _).bind fun _ => still_failType _).traced.fitted

/-! ### Constructing objects -/

/-- An instance is made of a class whose type object is there. -/
theorem path_constructHost {m : Machine} {ctor : Ref} {c : HostClass}
    (hc : m.heap.kind ctor = .hostType c) (args : List Value) :
    Path ((constructHost c args).final m).heap.oversized m.heap.size m
      ((constructHost c args).final m) := by
  unfold constructHost
  cases c.constructor with
  | none => exact (still_failType _).traced.fitted m
  | some callback =>
    refine fitted_bind (still_intrinsics.traced m) fun own m' h => ?_
    cases h
    refine fitted_bind (.single (.alloc ⟨rfl, nofun, nofun, fun h => ?_⟩)) fun r m' _ => ?_
    · cases h
      exact ⟨ctor, hc⟩
    · rw [final_bind_still (fun _ => still_pure _), final_discard]
      exact fitted_run _ _ _ m'

/-- A plain object that a function is run on. -/
theorem fitted_constructPlain (callee : Value) (target : Ref) (args : List Value) :
    (do
      let this ← createWithPrototype (some target)
      let result ← call callee (.object this) args
      if result.isObject then return result else return .object this : Exec Value).Fitted := by
  refine (traced_createWithPrototype _).bind_fitted fun this => ?_
  refine (fitted_call callee _ args).bind_still fun result => ?_
  split <;> exact still_pure _

theorem fitted_construct (callee : Value) (args : List Value) : (construct callee args).Fitted := by
  have hfail : ∀ v, (do failType (.notConstructor (← text v)) : Exec Value).Fitted := fun v =>
    ((still_text v).bind fun _ => still_failType _).traced.fitted
  unfold construct
  split
  · rename_i ctor
    intro m
    refine fitted_bind ((still_look _).traced m) fun kind m' h => ?_
    cases h
    split
    · rename_i c hc
      exact path_constructHost hc args
    · refine ((still_look _).traced.bind_fitted fun v => ?_ : Fitted _) m
      split
      · exact (still_pure _).traced.bind_fitted fun target => fitted_constructPlain _ target args
      · exact still_intrinsics.traced.bind_fitted fun own => (still_pure _).traced.bind_fitted
          fun target => fitted_constructPlain _ target args
    · exact hfail _ m
  · exact (still_failType _).traced.fitted

theorem still_instanceOf (v ctor : Value) : (instanceOf v ctor).Still := by
  unfold instanceOf
  split
  · refine (still_look _).bind fun kind => ?_
    split
    · split
      · refine (still_look _).bind fun kind => ?_
        split
        · exact still_pure _
        · exact still_pure _
      · exact still_pure _
    · split
      · refine (still_look _).bind fun target => ?_
        split
        · exact still_look _
        · exact still_failType _
      · exact still_pure _
    · exact still_failType _
  · exact still_failType _

end Exec

open Exec

/-- Whatever an operation does is a path, whose long arrays are oversized at its end. -/
theorem Operation.fitted_exec (op : Operation) : op.exec.Fitted := by
  cases op with
  | get target k => exact ((traced_getMember target k).bind_pure _).fitted
  | set target k v => exact ((traced_setMember target k v).bind_pure _).fitted
  | delete target k => exact ((traced_deleteMember target k).bind_pure _).fitted
  | walk target => exact ((traced_walkOver target).bind_pure _).fitted
  | call callee this args => exact (fitted_call callee this args).bind_pure _
  | callMethod target name args => exact (fitted_callMethod target name args).bind_pure _
  | construct callee args => exact (fitted_construct callee args).bind_pure _
  | instanceOf v ctor => exact ((still_instanceOf v ctor).traced.bind_pure _).fitted
  | getGlobal name => exact ((traced_getGlobal name).bind_pure _).fitted
  | setGlobal name v => exact ((traced_setGlobal name v).bind_pure _).fitted
  | importPackage name => exact ((traced_importPackage name).bind_pure _).fitted
  | importClass v => exact ((traced_importClass v).bind_pure _).fitted
  | resolveType name => exact ((traced_resolveType name).bind_pure _).fitted
  | resolveClass name => exact ((traced_resolveClass name).bind_pure _).fitted
  | createObject => exact (traced_createObject.bind_pure _).fitted
  | createWithPrototype target => exact ((traced_createWithPrototype target).bind_pure _).fitted
  | createObjectFrom entries => exact ((traced_createObjectFrom entries).bind_pure _).fitted
  | createArray elements => exact (fitted_createArray elements).bind_pure _
  | createArguments elements => exact ((traced_createArguments elements).bind_pure _).fitted
  | createFunction name routine arity =>
    exact ((traced_createFunction name routine arity).bind_pure _).fitted
  | createPackage path => exact ((traced_createPackage path).bind_pure _).fitted
  | createError kind message => exact ((traced_createError kind message).bind_pure _).fitted
  | box v => exact ((traced_box v).bind_pure _).fitted
  | toObject v => exact ((traced_toObject v).bind_pure _).fitted
  | recover f => exact ((traced_caught f).bind_pure _).fitted
  | assign r k v mode => exact ((traced_set r k v mode).bind_pure _).fitted
  | remove r k mode => exact ((traced_delete r k mode).bind_pure _).fitted
  | define r k d => exact ((traced_define r k d).bind_pure _).fitted
  | relink r target => exact ((traced_relink r target).bind_pure _).fitted
  | raise r l => exact ((traced_raise r l).bind_pure _).fitted
  | setStrict strict => exact Traced.fitted fun m => .single (.setStrict m strict)

end ScriptSandbox
