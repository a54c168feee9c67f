import ScriptSandbox.Proofs.Machine.Operation
import ScriptSandbox.Proofs.Respect.Builtin

/-! # Operations on well-formed machines

An operation that is given objects of the heap and canonical keys only leaves a well-formed machine.
-/

namespace ScriptSandbox

namespace Exec

variable {n : Nat} {this : Value} {args : List Value}

theorem respects_runCallback (c : Callback) (ha : ∀ v ∈ args, v.Below n)
    (hrun : ∀ callee rest, args = callee :: rest → ∀ n', n ≤ n' → ∀ routine,
      (run routine this rest).Respects n' Any) :
    (run (.callback c) this args).Respects n Any := by
  unfold run
  cases c with
  | noop | null | receiver | first | count => exact (still_pure _).respects
  | arguments => exact (respects_createArguments ha).bind_pure _
  | initSize =>
    have hk : (Key.name "size").IsCanonical := by decide
    exact (respects_setMember (v := .ofNat 0) hk trivial this).discard.bind_pure _
  | storeArguments =>
    have hk : (Key.name "args").IsCanonical := by decide
    exact (respects_createArray ha).bind fun r _ _ hr =>
      (respects_setMember (v := .object r) hk hr this).discard.bind_pure _
  | newObject => exact respects_createObject.bind_pure _
  | classForName =>
    exact (still_text _).respects.seq fun _ _ _ => (respects_resolveType _).bind_pure _
  | throwFirst | throwInternal => exact respects_throw _
  | callFirst =>
    cases args with
    | nil => exact respects_failType _
    | cons callee rest =>
      exact (still_routineOf callee).respects.seq fun routine n' hn =>
        hrun callee rest rfl n' hn routine
  | getGlobal => exact (still_text _).respects.seq fun _ _ _ => respects_getGlobal _

theorem respects_run (routine : Routine) (hthis : this.Below n) (ha : ∀ v ∈ args, v.Below n) :
    (run routine this args).Respects n Any := by
  induction args generalizing n routine with
  | nil =>
    cases routine with
    | builtin b => exact respects_runBuiltin b hthis ha
    | callback c => exact respects_runCallback c ha nofun
  | cons v rest ih =>
    cases routine with
    | builtin b => exact respects_runBuiltin b hthis ha
    | callback c =>
      refine respects_runCallback c ha fun callee rest' h n' hn routine => ?_
      cases h
      exact ih routine (hthis.mono hn) fun w hw => (ha w (List.mem_cons_of_mem _ hw)).mono hn

theorem respects_call (callee : Value) (hthis : this.Below n) (ha : ∀ v ∈ args, v.Below n) :
    (call callee this args).Respects n Any :=
  (still_routineOf callee).respects.seq fun routine _ hn =>
    respects_run routine (hthis.mono hn) fun v hv => (ha v hv).mono hn

theorem respects_callMethod {target : Value} (ht : target.Below n) (name : String)
    (ha : ∀ v ∈ args, v.Below n) : (callMethod target name args).Respects n Any := by
  refine (respects_getMember ht _).seq fun method _ h₁ => ?_
  refine (still_look _).respects.seq fun callable _ h₂ => ?_
  split
  · exact respects_call method (ht.mono (h₁.trans h₂)) fun v hv => (ha v hv).mono (h₁.trans h₂)
  · exact (still_text _).respects.seq fun _ _ _ => respects_failType _

theorem respects_constructHost (c : HostClass) (ha : ∀ v ∈ args, v.Below n) :
    (constructHost c args).Respects n Any := by
  unfold constructHost
  cases c.constructor with
  | none => exact respects_failType _
  | some callback =>
    refine respects_intrinsics.bind fun own n₁ h₁ hown => ?_
    refine (respects_alloc (.of_prototype rfl hown.objectPrototype PropertyTable.below_empty)).bind
      fun r n₂ h₂ hr => ?_
    have hrun : (run (.callback callback) (.object r) args).Respects n₂ Any :=
      respects_run _ hr fun v hv => (ha v hv).mono (h₁.trans h₂)
    exact hrun.discard.bind_pure _

/-- The prototype of what is constructed is an object that the constructor holds. -/
theorem respects_constructPlain (callee : Value) {target : Ref} (ht : target.id < n)
    (ha : ∀ v ∈ args, v.Below n) :
    (do
      let this ← createWithPrototype (some target)
      let result ← call callee (.object this) args
      if result.isObject then return result else return .object this : Exec Value).Respects n Any := by
  have htarget : ∀ r, some target = some r → r.id < n := by
    rintro r ⟨⟩
    exact ht
  refine (respects_createWithPrototype htarget).bind fun this n₁ hn hthis => ?_
  have hobject : (Value.object this).Below n₁ := hthis
  refine Respects.seq (respects_call callee hobject fun v hv => (ha v hv).mono hn)
    fun result _ _ => ?_
  split <;> exact (still_pure _).respects

theorem respects_construct (callee : Value) (ha : ∀ v ∈ args, v.Below n) :
    (construct callee args).Respects n Any := by
  unfold construct
  split
  · refine (still_look _).respects.seq fun kind n₁ h₁ => ?_
    have ha₁ : ∀ v ∈ args, v.Below n₁ := fun v hv => (ha v hv).mono h₁
    split
    · exact respects_constructHost _ ha₁
    · refine Respects.bind (Q := fun n v => v.Below n) (respects_look fun h hw _ => hw.get _ _)
        fun v n₂ h₂ hv => ?_
      have ha₂ : ∀ v ∈ args, v.Below n₂ := fun v hv => (ha₁ v hv).mono h₂
      split
      · exact Respects.bind (Q := Exists) (respects_pure fun _ h => Nat.lt_of_lt_of_le hv h)
          fun target _ h₃ ht => respects_constructPlain _ ht fun v hv => (ha₂ v hv).mono h₃
      · refine respects_intrinsics.bind fun own n₃ h₃ hown => ?_
        exact Respects.bind (Q := Exists)
          (respects_pure fun _ h => hown.objectPrototype.trans_le h)
          fun target _ h₄ ht => respects_constructPlain _ ht fun v hv =>
            (ha₂ v hv).mono (h₃.trans h₄)
    · exact (still_text _).respects.seq fun _ _ _ => respects_failType _
  · exact respects_failType _

end Exec

/-! ### What an operation is given -/

namespace Operation

/-- The values and objects that an operation is given. -/
def values : Operation → List Value
  | get target _ | delete target _ | walk target => [target]
  | set target _ v => [target, v]
  | call callee this args => callee :: this :: args
  | callMethod target _ args => target :: args
  | construct callee args => callee :: args
  | instanceOf v ctor => [v, ctor]
  | setGlobal _ v | importClass v | box v | toObject v => [v]
  | createWithPrototype target => [.ofRef? target]
  | createObjectFrom entries => entries.map Prod.snd
  | createArray elements | createArguments elements => elements
  | recover (.thrown v) => [v]
  | assign r _ v _ => [.object r, v]
  | remove r _ _ | raise r _ => [.object r]
  | define r _ d => .object r :: d.value.toList
  | relink r target => [.object r, .ofRef? target]
  | _ => []

/-- The keys that an operation is given. -/
def keys : Operation → List Key
  | get _ k | set _ k _ | delete _ k | assign _ k _ _ | remove _ k _ | define _ k _ => [k]
  | _ => []

/-- The operation is given some of the first objects and canonical keys only. -/
def Below (n : Nat) (op : Operation) : Prop :=
  (∀ v ∈ op.values, v.Below n) ∧ ∀ k ∈ op.keys, k.IsCanonical

instance (n : Nat) : DecidablePred (Below n) := fun _ => inferInstanceAs (Decidable (_ ∧ _))

open Exec

variable {n : Nat} {op : Operation}

theorem lt_of_below_ofRef? {target : Option Ref} (h : (Value.ofRef? target).Below n) :
    ∀ r, target = some r → r.id < n := by
  rintro r rfl
  exact h

theorem Below.respects (h : op.Below n) : op.exec.Respects n Any := by
  obtain ⟨hv, hk⟩ := h
  cases op with
  | get target k => exact (respects_getMember (hv _ (by simp [values])) k).bind_pure _
  | set target k v =>
    exact (respects_setMember (hk _ (by simp [keys])) (hv _ (by simp [values])) target).bind_pure _
  | delete target k => exact (respects_deleteMember (hv _ (by simp [values])) k).bind_pure _
  | walk target => exact (respects_walkOver (hv _ (by simp [values]))).bind_pure _
  | call callee this args =>
    exact (respects_call callee (hv _ (by simp [values]))
      fun v h => hv v (by simp [values, h])).bind_pure _
  | callMethod target name args =>
    exact (respects_callMethod (hv _ (by simp [values])) name
      fun v h => hv v (by simp [values, h])).bind_pure _
  | construct callee args =>
    exact (respects_construct callee fun v h => hv v (by simp [values, h])).bind_pure _
  | instanceOf v ctor => exact (still_instanceOf v ctor).respects.bind_pure _
  | getGlobal name => exact (respects_getGlobal name).bind_pure _
  | setGlobal name v => exact (respects_setGlobal (hv _ (by simp [values])) name).bind_pure _
  | importPackage name => exact (respects_importPackage name).bind_pure _
  | importClass v => exact (respects_importClass (hv _ (by simp [values]))).bind_pure _
  | resolveType name => exact (respects_resolveType name).bind_pure _
  | resolveClass name => exact (respects_resolveClass name).bind_pure _
  | createObject => exact respects_createObject.bind_pure _
  | createWithPrototype target =>
    exact (respects_createWithPrototype (lt_of_below_ofRef? (hv _ (by simp [values])))).bind_pure _
  | createObjectFrom entries =>
    exact (respects_createObjectFrom fun e he =>
      hv _ (List.mem_map_of_mem he)).bind_pure _
  | createArray elements => exact (respects_createArray hv).bind_pure _
  | createArguments elements => exact (respects_createArguments hv).bind_pure _
  | createFunction name routine arity =>
    exact (respects_createFunction name routine arity).bind_pure _
  | createPackage path => exact (respects_createPackage path).bind_pure _
  | createError kind message => exact (respects_createError kind message).bind_pure _
  | box v => exact (respects_box (hv _ (by simp [values]))).bind_pure _
  | toObject v => exact (respects_toObject (hv _ (by simp [values]))).bind_pure _
  | recover f => exact (respects_caught f).bind_pure _
  | assign r k v mode =>
    exact (respects_set (hk _ (by simp [keys])) (hv _ (by simp [values])) r mode).bind_pure _
  | remove r k mode => exact (respects_delete r k mode).bind_pure _
  | define r k d =>
    refine Respects.bind_pure (respects_define (hk _ (by simp [keys])) (fun v h => ?_) r) _
    exact hv _ (by simp [values, h])
  | relink r target =>
    exact (respects_relink (lt_of_below_ofRef? (hv _ (by simp [values]))) r).bind_pure _
  | raise r l => exact (respects_raise r l).bind_pure _
  | setStrict strict =>
    refine Respects.seq (respects_modifyRealm fun _ _ _ h => ?_) fun _ _ _ =>
      (still_pure _).respects
    exact ⟨h.intrinsics, h.typeObjects⟩

end Operation

end ScriptSandbox
