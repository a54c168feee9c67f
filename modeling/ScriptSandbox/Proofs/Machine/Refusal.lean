import ScriptSandbox.Proofs.Heap.Extends
import ScriptSandbox.Proofs.Heap.Refusal
import ScriptSandbox.Proofs.Uniform.WriteMode

/-! # Refused updates

The updates of objects are the operations that write to properties or prototypes. One that is
refused, with a failure or with false, leaves all objects as they were. Only where it asks for the
length of an array may the array be cut back a part of the way.
-/

namespace ScriptSandbox

/-- The value is a function that runs a builtin. -/
def Heap.Runs (h : Heap) (callee : Value) (b : Builtin) : Prop :=
  ∃ r f, callee = .object r ∧ h.kind r = .function f ∧ f.routine = .builtin b

theorem Heap.Runs.alloc {h : Heap} {callee : Value} {b : Builtin} {c : Cell}
    (hr : h.Runs callee b) (hc : c.kind = .ordinary) : (h.alloc c).2.Runs callee b := by
  obtain ⟨r, f, hcallee, hf, hb⟩ := hr
  exact ⟨r, f, hcallee, (kind_alloc hc r).trans hf, hb⟩

/-- The answers to an update that does not go through. -/
inductive Refused : Except Failure Answer → Prop
  | failed (f : Failure) : Refused (.error f)
  | rejected : Refused (.ok (.accepted false))

namespace Operation

variable {m : Machine} {h : Heap} {op : Operation}

/-- Writes to properties, by members and free names, by descriptors, and deletions, and links to
prototypes, with those that functions of the language make. -/
inductive IsUpdate (h : Heap) : Operation → Prop
  | set (target : Value) (k : Key) (v : Value) : IsUpdate h (set target k v)
  | delete (target : Value) (k : Key) : IsUpdate h (delete target k)
  | setGlobal (name : String) (v : Value) : IsUpdate h (setGlobal name v)
  | define (r : Ref) (k : Key) (d : Descriptor) : IsUpdate h (define r k d)
  | defineProperty {callee : Value} (hc : h.Runs callee .defineProperty) (this : Value)
      (args : List Value) : IsUpdate h (call callee this args)
  | setPrototypeOf {callee : Value} (hc : h.Runs callee .setPrototypeOf) (this : Value)
      (args : List Value) : IsUpdate h (call callee this args)
  | assign (r : Ref) (k : Key) (v : Value) (mode : WriteMode) : IsUpdate h (assign r k v mode)
  | remove (r : Ref) (k : Key) (mode : WriteMode) : IsUpdate h (remove r k mode)
  | relink (r : Ref) (target : Option Ref) : IsUpdate h (relink r target)

/-- The operation asks for a value as the length of an object. -/
inductive AsksLength (m : Machine) : Operation → Ref → Value → Prop
  | set (r : Ref) (v : Value) : AsksLength m (set (.object r) .length v) r v
  | setGlobal {name : String} (hn : Key.ofString name = .length) (v : Value) :
      AsksLength m (setGlobal name v) m.realm.intrinsics.global v
  | define (r : Ref) {d : Descriptor} {v : Value} (hd : d.value = some v) :
      AsksLength m (define r .length d) r v
  | defineProperty {callee this : Value} {args : List Value} {r s : Ref} {v : Value}
      (hc : m.heap.Runs callee .defineProperty) (hr : Exec.argument args 0 = .object r)
      (hk : m.heap.toKey (Exec.argument args 1) = .length)
      (hs : Exec.argument args 2 = .object s)
      (hd : (Exec.Reflection.descriptorOf m.heap s).value = some v) :
      AsksLength m (call callee this args) r v
  | assign (r : Ref) (v : Value) (mode : WriteMode) : AsksLength m (assign r .length v mode) r v

/-- A refused operation has cut an array back, as far as it goes. -/
def CutsShort (op : Operation) (m : Machine) : Prop :=
  ∃ r v b, op.AsksLength m r v ∧ m.heap.CutShort r v b (op.exec.final m).heap ∧
    (op.exec.outcome m = .ok (.accepted false) ∨
      op.exec.outcome m = .error (.notConfigurable (.index b)))

end Operation

namespace Exec

variable {α β : Type} {m m' : Machine} {x : Exec α} {f : α → Exec β} {a : α}

theorem outcome_bind_of_ok (h : x m = .ok a m') : (x >>= f).outcome m = (f a).outcome m' := by
  rw [outcome, bind_of_ok h, outcome]

/-- A computation is a change of the heap here. -/
structure Changes (x : Exec α) (m : Machine) (result : Except Failure α) (h : Heap) : Prop where
  outcome : x.outcome m = result
  final : x.final m = m.withHeap h

theorem changes_change (g : Heap → Except Failure α × Heap) (m : Machine) :
    (change g).Changes m (g m.heap).1 (g m.heap).2 :=
  ⟨outcome_change g m, final_change g m⟩

theorem Changes.bind_pure {result : Except Failure α} {h : Heap} (hx : x.Changes m result h)
    (g : α → β) : (x >>= fun a => pure (g a)).Changes m (result.map g) h where
  outcome := by rw [outcome_bind_pure, hx.outcome]
  final := by rw [final_bind_still fun a => still_pure (g a), hx.final]

theorem Changes.of_bind {result : Except Failure β} {h : Heap} (hx : x m = .ok a m)
    (hf : (f a).Changes m result h) : (x >>= f).Changes m result h where
  outcome := by rw [outcome_bind_of_ok hx, hf.outcome]
  final := by rw [final_bind_of_ok hx, hf.final]

/-- Writing a member is an assignment to an object, or else fails. -/
theorem setMember_cases (target : Value) (k : Key) (v : Value) (m : Machine) :
    (setMember target k v).final m = m ∨ ∃ r, target = .object r ∧
      (setMember target k v).Changes m (m.heap.set r k v m.realm.writeMode).1
        (m.heap.set r k v m.realm.writeMode).2 := by
  unfold setMember
  rw [final_bind_of_ok (writeMode_apply m)]
  cases target with
  | undefined | null => exact Or.inl rfl
  | boolean _ | number _ | string _ => exact Or.inl (still_ofExcept _ m)
  | object r =>
    rw [final_bind_of_ok (look_apply _ m)]
    cases hk : (m.heap.kind r).hostPackage? with
    | some path => exact Or.inl (still_ofExcept _ m)
    | none =>
      refine Or.inr ⟨r, rfl, .of_bind (writeMode_apply m) (.of_bind (look_apply _ m) ?_)⟩
      rw [hk]
      exact changes_change (·.set r k v m.realm.writeMode) m

theorem changes_setGlobal (name : String) (v : Value) (m : Machine) :
    (setGlobal name v).Changes m
      (m.heap.set m.realm.intrinsics.global (.ofString name) v m.realm.writeMode).1
      (m.heap.set m.realm.intrinsics.global (.ofString name) v m.realm.writeMode).2 :=
  .of_bind (writeMode_apply m) (.of_bind (intrinsics_apply m) (changes_change _ m))

theorem extends_box (v : Value) (m : Machine) : m.heap.Extends ((box v).final m).heap := by
  cases v with
  | object r => exact .refl _
  | string s => exact .alloc _ _
  | number _ | boolean _ | undefined | null => exact .alloc _ _

/-- Deleting a member is a deletion from an object or a fresh box, or else fails. -/
theorem changes_deleteMember {target : Value} {r : Ref} (ht : target.isNullish = false)
    (hb : box target m = .ok r m') (k : Key) :
    (deleteMember target k).outcome m = (m'.heap.delete r k m'.realm.writeMode).1 ∧
      (deleteMember target k).final m =
        m'.withHeap (m'.heap.delete r k m'.realm.writeMode).2 := by
  have hx : (do
      let mode ← writeMode
      change (·.delete r k mode)).Changes m' (m'.heap.delete r k m'.realm.writeMode).1
      (m'.heap.delete r k m'.realm.writeMode).2 :=
    .of_bind (writeMode_apply m') (changes_change _ m')
  unfold deleteMember
  rw [ht, if_neg (by simp), outcome_bind_of_ok hb, final_bind_of_ok hb]
  exact ⟨hx.outcome, hx.final⟩

theorem routineOf_of_function {r : Ref} {f : Callable} (hf : m.heap.kind r = .function f) :
    routineOf (.object r) m = .ok f.routine m := by
  unfold routineOf
  rw [bind_of_ok (look_apply _ m)]
  simp only [Value.object?, Option.bind_some, hf, Kind.function?]
  rfl

theorem routineOf_of_runs {callee : Value} {b : Builtin} (hc : m.heap.Runs callee b) :
    routineOf callee m = .ok (.builtin b) m := by
  obtain ⟨r, f, rfl, hf, hb⟩ := hc
  rw [routineOf_of_function hf, hb]

/-- Calling a function that runs a builtin is running the builtin. -/
theorem call_apply_of_runs {callee : Value} {b : Builtin} (hc : m.heap.Runs callee b)
    (this : Value) (args : List Value) :
    call callee this args m = runBuiltin b this args m := by
  have hrun : run (.builtin b) this args = runBuiltin b this args := by
    unfold run
    rfl
  unfold call
  rw [bind_of_ok (routineOf_of_runs hc), hrun]

theorem call_of_runs {callee : Value} {b : Builtin} (hc : m.heap.Runs callee b) (this : Value)
    (args : List Value) :
    (call callee this args).outcome m = (runBuiltin b this args).outcome m ∧
      (call callee this args).final m = (runBuiltin b this args).final m := by
  rw [outcome, outcome, final, final, call_apply_of_runs hc]
  exact ⟨rfl, rfl⟩

open Reflection in
theorem defineProperty_cases (args : List Value) (m : Machine) :
    (defineProperty args).final m = m ∨ ∃ r s, argument args 0 = .object r ∧
      argument args 2 = .object s ∧ (defineProperty args).Changes m
        ((m.heap.define r (m.heap.toKey (argument args 1)) (descriptorOf m.heap s)).1.map
          fun _ => .object r)
        (m.heap.define r (m.heap.toKey (argument args 1)) (descriptorOf m.heap s)).2 := by
  unfold defineProperty
  cases argument args 0 with
  | object r =>
    cases argument args 2 with
    | object s =>
      have hkey : toKey (argument args 1) m = .ok (m.heap.toKey (argument args 1)) m := rfl
      have hd : toDescriptor (.object s) m = .ok (descriptorOf m.heap s) m := rfl
      refine Or.inr ⟨r, s, rfl, rfl, .of_bind hkey (.of_bind hd ?_)⟩
      exact (changes_change _ m).bind_pure _
    | _ => exact Or.inl rfl
  | _ => exact Or.inl rfl

open Reflection in
theorem setPrototypeOf_cases (args : List Value) (m : Machine) :
    (setPrototypeOf args).final m = m ∨ ∃ r next, (setPrototypeOf args).Changes m
      ((m.heap.relink r next).1.map fun _ => .object r) (m.heap.relink r next).2 := by
  unfold setPrototypeOf
  cases argument args 0 with
  | undefined | null => exact Or.inl rfl
  | object r =>
    have hrelink : ∀ v next, toPrototype v m = .ok next m → (do
        let next ← toPrototype v
        change (·.relink r next)
        return Value.object r : Exec Value).Changes m
        ((m.heap.relink r next).1.map fun _ => .object r) (m.heap.relink r next).2 :=
      fun v next hnext => .of_bind hnext ((changes_change _ m).bind_pure _)
    cases argument args 1 with
    | object s => exact Or.inr ⟨r, some s, hrelink (.object s) (some s) rfl⟩
    | null => exact Or.inr ⟨r, none, hrelink .null none rfl⟩
    | _ => exact Or.inl rfl
  | _ => cases argument args 1 <;> exact Or.inl rfl

end Exec

/-! ### Refused answers -/

theorem Refused.ne_ok_true {result : Except Failure Bool} (h : Refused (result.map .accepted)) :
    result ≠ .ok true := by
  rintro rfl
  cases h

theorem Refused.exists_error {α : Type} {result : Except Failure α} {g : α → Answer}
    (h : Refused (result.map g)) (hg : ∀ a, g a ≠ .accepted false) : ∃ f, result = .error f := by
  cases result with
  | error f => exact ⟨f, rfl⟩
  | ok a =>
    generalize ha : (Except.ok a : Except Failure α).map g = answer at h
    cases h with
    | failed f => cases ha
    | rejected => exact absurd (Except.ok.inj ha) (hg a)

namespace Operation

open Exec

variable {m : Machine} {op : Operation} {r : Ref} {k : Key} {v : Value} {d : Descriptor}

/-- The objects are as they were, or an array has been cut back a part of the way. -/
def Withdraws (op : Operation) (m : Machine) : Prop :=
  m.heap.Extends (op.exec.final m).heap ∨ op.CutsShort m

theorem withdraws_of_final_eq (h : op.exec.final m = m) : op.Withdraws m := by
  rw [Withdraws, h]
  exact Or.inl (.refl _)

theorem withdraws_set {mode : WriteMode}
    (hx : op.exec.Changes m ((m.heap.set r k v mode).1.map .accepted) (m.heap.set r k v mode).2)
    (hask : k = .length → op.AsksLength m r v) (hr : Refused (op.exec.outcome m)) :
    op.Withdraws m := by
  rw [hx.outcome] at hr
  have hset : m.heap.set r k v mode = ((m.heap.set r k v mode).1, (m.heap.set r k v mode).2) := rfl
  rcases Heap.set_refused hset hr.ne_ok_true with heq | ⟨hk, b, hcut, hanswer⟩
  · rw [Withdraws, hx.final, heq]
    exact Or.inl (.refl _)
  · refine Or.inr ⟨r, v, b, hask hk, ?_, ?_⟩
    · rw [hx.final]
      exact hcut
    · rw [hx.outcome]
      rcases hanswer with hf | hf
      · rw [hf]
        exact Or.inl rfl
      · rw [hf]
        exact Or.inr rfl

theorem withdraws_define {g : Unit → Answer}
    (hx : op.exec.Changes m ((m.heap.define r k d).1.map g) (m.heap.define r k d).2)
    (hg : ∀ u, g u ≠ .accepted false)
    (hask : ∀ v, k = .length → d.value = some v → op.AsksLength m r v)
    (hr : Refused (op.exec.outcome m)) : op.Withdraws m := by
  rw [hx.outcome] at hr
  obtain ⟨f, hf⟩ := hr.exists_error hg
  have hdefine : m.heap.define r k d = (.error f, (m.heap.define r k d).2) := Prod.ext hf rfl
  rcases Heap.define_error hdefine with heq | ⟨hk, v, b, hv, hcut, rfl⟩
  · rw [Withdraws, hx.final, heq]
    exact Or.inl (.refl _)
  · refine Or.inr ⟨r, v, b, hask v hk hv, ?_, Or.inr ?_⟩
    · rw [hx.final]
      exact hcut
    · rw [hx.outcome, hf]
      rfl

theorem withdraws_relink {target : Option Ref} {g : Unit → Answer}
    (hx : op.exec.Changes m ((m.heap.relink r target).1.map g) (m.heap.relink r target).2)
    (hg : ∀ u, g u ≠ .accepted false) (hr : Refused (op.exec.outcome m)) : op.Withdraws m := by
  rw [hx.outcome] at hr
  obtain ⟨f, hf⟩ := hr.exists_error hg
  have hrelink : m.heap.relink r target = (.error f, (m.heap.relink r target).2) := Prod.ext hf rfl
  rw [Withdraws, hx.final, Heap.relink_error hrelink]
  exact Or.inl (.refl _)

theorem withdraws_delete {h : Heap} {mode : WriteMode} (hext : m.heap.Extends h)
    (ho : op.exec.outcome m = (h.delete r k mode).1.map .accepted)
    (hf : (op.exec.final m).heap = (h.delete r k mode).2) (hr : Refused (op.exec.outcome m)) :
    op.Withdraws m := by
  have hdelete : h.delete r k mode = ((h.delete r k mode).1, (h.delete r k mode).2) := rfl
  rw [ho] at hr
  rw [Withdraws, hf, Heap.delete_refused hdelete hr.ne_ok_true]
  exact Or.inl hext

theorem withdraws_deleteMember {target : Value} (hr : Refused ((delete target k).exec.outcome m)) :
    (delete target k).Withdraws m := by
  have hfinal : (delete target k).exec.final m = (deleteMember target k).final m :=
    final_bind_still (fun _ => still_pure _) m
  cases ht : target.isNullish with
  | true =>
    apply withdraws_of_final_eq
    rw [hfinal, deleteMember, if_pos ht]
    rfl
  | false =>
    obtain ⟨s, m', hb⟩ := box_succeeds target m
    obtain ⟨ho, hf⟩ := changes_deleteMember ht hb k
    -- a primitive gets a box first, which is a new object
    have hext := extends_box target m
    rw [final_of_ok hb] at hext
    have houtcome : (delete target k).exec.outcome m =
        (m'.heap.delete s k m'.realm.writeMode).1.map .accepted := by
      rw [← ho]
      exact outcome_bind_pure _ _ m
    have hheap : ((delete target k).exec.final m).heap =
        (m'.heap.delete s k m'.realm.writeMode).2 := by
      rw [hfinal, hf]
      rfl
    exact withdraws_delete hext houtcome hheap hr

theorem changes_call {callee : Value} {b : Builtin} (hc : m.heap.Runs callee b) {this : Value}
    {args : List Value} {result : Except Failure Unit} {h : Heap}
    (hx : (runBuiltin b this args).Changes m (result.map fun _ => v) h) :
    (call callee this args).exec.Changes m (result.map fun _ => .value v) h := by
  obtain ⟨ho, hf⟩ := call_of_runs hc this args
  have hcall : (Exec.call callee this args).Changes m (result.map fun _ => v) h :=
    ⟨ho.trans hx.outcome, hf.trans hx.final⟩
  have hexec := hcall.bind_pure Answer.value
  cases result <;> exact hexec

/-- A call of a builtin that leaves the machine alone. -/
theorem withdraws_call {callee : Value} {b : Builtin} (hc : m.heap.Runs callee b) {this : Value}
    {args : List Value} (hm : (runBuiltin b this args).final m = m) :
    (call callee this args).Withdraws m := by
  apply withdraws_of_final_eq
  calc (call callee this args).exec.final m
      = (Exec.call callee this args).final m := final_bind_still (fun _ => still_pure _) m
    _ = (runBuiltin b this args).final m := (call_of_runs hc this args).2
    _ = m := hm

/-- An update that is refused leaves all objects as they were, unless it has cut an array back to a
locked element. -/
theorem extends_or_cutsShort_of_refused (hu : op.IsUpdate m.heap)
    (hr : Refused (op.exec.outcome m)) :
    m.heap.Extends (op.exec.final m).heap ∨ op.CutsShort m := by
  change op.Withdraws m
  -- each update is one change of the heap, or else fails before it comes to that
  cases hu with
  | set target k v =>
    rcases setMember_cases target k v m with hm | ⟨r, rfl, hx⟩
    · exact withdraws_of_final_eq ((final_bind_still (fun _ => still_pure _) m).trans hm)
    · have hset := hx.bind_pure Answer.accepted
      refine withdraws_set hset ?_ hr
      rintro rfl
      exact .set r v
  | setGlobal name v =>
    have hset := (changes_setGlobal name v m).bind_pure Answer.accepted
    exact withdraws_set hset (fun hk => .setGlobal hk v) hr
  | assign r k v mode =>
    have hset := (changes_change (·.set r k v mode) m).bind_pure Answer.accepted
    refine withdraws_set hset ?_ hr
    rintro rfl
    exact .assign r v mode
  | delete target k => exact withdraws_deleteMember hr
  | remove r k mode =>
    have hdelete := (changes_change (·.delete r k mode) m).bind_pure Answer.accepted
    exact withdraws_delete (.refl _) hdelete.outcome (congrArg Machine.heap hdelete.final) hr
  | define r k d =>
    have hdefine := (changes_change (·.define r k d) m).bind_pure fun _ => Answer.done
    refine withdraws_define hdefine nofun ?_ hr
    rintro v rfl hv
    exact .define r hv
  | defineProperty hc this args =>
    rcases defineProperty_cases args m with hm | ⟨r, s, h₀, h₂, hx⟩
    · exact withdraws_call hc hm
    · refine withdraws_define (changes_call hc hx) nofun ?_ hr
      exact fun v hk hv => .defineProperty hc h₀ hk h₂ hv
  | relink r target =>
    have hrelink := (changes_change (·.relink r target) m).bind_pure fun _ => Answer.done
    exact withdraws_relink hrelink nofun hr
  | setPrototypeOf hc this args =>
    rcases setPrototypeOf_cases args m with hm | ⟨r, next, hx⟩
    · exact withdraws_call hc hm
    · exact withdraws_relink (changes_call hc hx) nofun hr

theorem AsksLength.key_eq {target : Value} {w : Value}
    (h : (Operation.set target k v).AsksLength m r w) :
    k = .length := by
  cases h
  rfl

/-- An array of one element whose length is made read-only. -/
def closing : List Operation := [
  .createArray [.null],
  .define ⟨13⟩ .length { writable := some false }]

/-- A new element has no place past a read-only length, and the length has not grown either. -/
theorem extends_or_cutsShort_of_refused_closing :
    (Operation.set (.object ⟨13⟩) (.ofNat 5) .null).IsUpdate
      ((Machine.bare true).performAll closing).heap ∧
    (Operation.set (.object ⟨13⟩) (.ofNat 5) .null).exec.outcome
      ((Machine.bare true).performAll closing) = .error (.frozenWrite .length) ∧
    ((Operation.set (.object ⟨13⟩) (.ofNat 5) .null).exec.final
      ((Machine.bare true).performAll closing)).heap.cell ⟨13⟩ =
        ((Machine.bare true).performAll closing).heap.cell ⟨13⟩ := by
  have hu := IsUpdate.set (h := ((Machine.bare true).performAll closing).heap) (.object ⟨13⟩)
    (.ofNat 5) .null
  have hr : (Operation.set (.object ⟨13⟩) (.ofNat 5) .null).exec.outcome
      ((Machine.bare true).performAll closing) = .error (.frozenWrite .length) :=
    Answer.eq_error (by decide +kernel)
  refine ⟨hu, hr, ?_⟩
  rcases extends_or_cutsShort_of_refused hu (hr ▸ .failed _) with hext | ⟨r, v, b, hask, -⟩
  · exact hext.cell_eq ⟨13⟩ (by decide +kernel)
  · cases hask.key_eq

end Operation

end ScriptSandbox
