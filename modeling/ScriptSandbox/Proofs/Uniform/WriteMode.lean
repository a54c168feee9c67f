import ScriptSandbox.Operation
import ScriptSandbox.Proofs.Uniform.Builtin
import ScriptSandbox.Realm.Genesis

/-! # The two write modes

The mode of a realm decides how a rejected write is reported, and nothing else: side by side, a
silent and a strict realm make the same changes, and where the strict one fails with the rejection
the silent one answers false.
-/

namespace ScriptSandbox

namespace Machine

/-- The machines of a silent and of a strict realm over the same objects. -/
structure Mirrors (m m' : Machine) : Prop where
  heap : m'.heap = m.heap
  intrinsics : m'.realm.intrinsics = m.realm.intrinsics
  silent : m.realm.settings.strict = false
  strict : m'.realm.settings.strict = true

theorem isFrame_mirrors : IsFrame Mirrors where
  heap h := h.heap
  intrinsics h := h.intrinsics
  withHeap h _ := ⟨rfl, h.intrinsics, h.silent, h.strict⟩

/-- The machine after some operations, whether they fail or not. -/
def performAll (m : Machine) (ops : List Operation) : Machine :=
  ops.foldl (fun m op => op.exec.final m) m

end Machine

/-- The answers to an attempted write in silent and in strict code. -/
inductive Settled : Except Failure Bool → Except Failure Bool → Prop
  | accepted : Settled (.ok true) (.ok true)
  | rejected {f : Failure} (hf : f.isWriteRejection) : Settled (.ok false) (.error f)
  | failed {f : Failure} (hf : ¬f.isWriteRejection) : Settled (.error f) (.error f)

theorem settled_reject {f : Failure} (hf : f.isWriteRejection) :
    Settled (WriteMode.silent.reject f) (WriteMode.strict.reject f) := .rejected hf

theorem settled_settle (result : Except Failure Unit) :
    Settled (WriteMode.silent.settle result) (WriteMode.strict.settle result) := by
  cases result with
  | ok _ => exact .accepted
  | error f =>
    by_cases hf : f.isWriteRejection
    · simp only [WriteMode.settle, hf, if_true]
      exact settled_reject hf
    · simp only [WriteMode.settle, hf]
      exact .failed hf

namespace Exec

open Machine

variable {α : Type} {m m' : Machine}

/-- Attempts of the same write in silent and in strict code. -/
def Settles (x y : Exec Bool) : Prop :=
  ∀ m m', m.Mirrors m' →
    Settled (x.outcome m) (y.outcome m') ∧ (x.final m).Mirrors (y.final m')

theorem settles_failType (fault : TypeFault) : Settles (failType fault) (failType fault) :=
  fun _ _ h => ⟨.failed Bool.false_ne_true, h⟩

theorem settles_reject {f : Failure} (hf : f.isWriteRejection) :
    Settles (ofExcept (WriteMode.silent.reject f)) (ofExcept (WriteMode.strict.reject f)) :=
  fun _ _ h => ⟨settled_reject hf, h⟩

theorem outcome_change (g : Heap → Except Failure α × Heap) (m : Machine) :
    (change g).outcome m = (g m.heap).1 := by
  rw [outcome, change_apply]
  cases (g m.heap).1 <;> rfl

theorem outcome_bind_pure {β : Type} (x : Exec α) (g : α → β) (m : Machine) :
    (x >>= fun a => pure (g a)).outcome m = (x.outcome m).map g := by
  simp only [outcome, Bind.bind, EStateM.bind]
  cases x m <;> rfl

theorem settles_change (g : Heap → Except Failure Unit × Heap) :
    Settles (change fun h => (WriteMode.silent.settle (g h).1, (g h).2))
      (change fun h => (WriteMode.strict.settle (g h).1, (g h).2)) := by
  intro m m' h
  rw [outcome_change, outcome_change, final_change, final_change, h.heap]
  exact ⟨settled_settle _, isFrame_mirrors.withHeap h _⟩

/-- What comes before an attempted write must not fail, since it could do so with a rejection. -/
theorem Settles.bind {x : Exec α} {f g : α → Exec Bool} (hx : x.Uniform Mirrors)
    (hok : ∀ m, ∃ a m', x m = .ok a m') (hf : ∀ a, Settles (f a) (g a)) :
    Settles (x >>= f) (x >>= g) := by
  intro m m' h
  obtain ⟨a, m₁, hx₁⟩ := hok m
  have ha := hx m m' h
  rw [hx₁] at ha
  cases hx' : x m' with
  | error e m₂ =>
    rw [hx'] at ha
    cases ha
  | ok b m₂ =>
    rw [hx'] at ha
    cases ha with
    | ok _ h' =>
      rw [outcome, outcome, bind_of_ok hx₁, bind_of_ok hx', final_bind_of_ok hx₁,
        final_bind_of_ok hx']
      exact hf a m₁ m₂ h'

theorem look_succeeds (g : Heap → α) (m : Machine) : ∃ a m', look g m = .ok a m' :=
  ⟨_, _, look_apply g m⟩

theorem intrinsics_succeeds (m : Machine) : ∃ own m', intrinsics m = .ok own m' :=
  ⟨_, _, intrinsics_apply m⟩

theorem box_succeeds (v : Value) (m : Machine) : ∃ r m', box v m = .ok r m' := by
  cases v with
  | object r => exact ⟨r, m, rfl⟩
  | string _ | number _ | boolean _ | undefined | null => exact ⟨_, _, rfl⟩

/-- Writing in the mode of the realm. -/
theorem settles_writeMode {f : WriteMode → Exec Bool} (hf : Settles (f .silent) (f .strict)) :
    Settles (writeMode >>= f) (writeMode >>= f) := by
  intro m m' h
  have hm : m.realm.writeMode = .silent := by simp [Realm.writeMode, h.silent]
  have hm' : m'.realm.writeMode = .strict := by simp [Realm.writeMode, h.strict]
  rw [outcome, outcome, bind_of_ok (writeMode_apply m), bind_of_ok (writeMode_apply m'),
    final_bind_of_ok (writeMode_apply m), final_bind_of_ok (writeMode_apply m'), hm, hm']
  exact hf m m' h

theorem settles_setMember (target : Value) (k : Key) (v : Value) :
    Settles (setMember target k v) (setMember target k v) := by
  refine settles_writeMode ?_
  cases target with
  | undefined | null => exact settles_failType _
  | boolean _ | number _ | string _ => exact settles_reject rfl
  | object r =>
    refine .bind (uniform_look isFrame_mirrors _) (look_succeeds _) fun kind => ?_
    cases kind.hostPackage? with
    | some path => exact settles_reject rfl
    | none => exact settles_change (·.assign r k v)

theorem settles_deleteMember (target : Value) (k : Key) :
    Settles (deleteMember target k) (deleteMember target k) := by
  unfold deleteMember
  split
  · exact settles_failType _
  · refine .bind (uniform_box isFrame_mirrors target) (box_succeeds target) fun r => ?_
    exact settles_writeMode (settles_change (·.changeCell r (·.delete k)))

theorem settles_setGlobal (name : String) (v : Value) :
    Settles (setGlobal name v) (setGlobal name v) :=
  settles_writeMode <| .bind (uniform_intrinsics isFrame_mirrors) intrinsics_succeeds fun own =>
    settles_change (·.assign own.global (.ofString name) v)

end Exec

namespace Operation

open Exec Machine

/-- Whether an operation is an attempted write, which the mode of the realm reports. -/
def isWrite : Operation → Bool
  | set .. | delete .. | setGlobal .. => true
  | _ => false

/-- Whether an operation changes objects alone: it leaves host types and the realm itself as they
are, and calls no function but builtins that do the same. -/
def isPlain (h : Heap) : Operation → Bool
  | get .. | callMethod .. | construct .. | getGlobal .. | importPackage .. | importClass ..
  | resolveType .. | resolveClass .. | setStrict .. => false
  | call callee _ _ =>
    (callee.object?.bind fun r => (h.kind r).function?).all fun f =>
      match f.routine with
      | .builtin b => b.isPlain
      | .callback _ => false
  | _ => true

theorem exists_of_routineOf {callee : Value} {routine : Routine} {m m' : Machine}
    (h : routineOf callee m = .ok routine m') :
    ∃ f, callee.object?.bind (fun r => (m.heap.kind r).function?) = some f ∧
      f.routine = routine := by
  unfold routineOf at h
  rw [bind_of_ok (look_apply _ m)] at h
  cases hf : callee.object?.bind fun r => (m.heap.kind r).function? with
  | none =>
    rw [hf] at h
    cases h
  | some f =>
    rw [hf] at h
    cases h
    exact ⟨f, rfl, rfl⟩

/-- A call of a builtin that only changes objects. -/
theorem alike_call {m m' : Machine} (h : m.Mirrors m') {callee this : Value} {args : List Value}
    (hp : (call callee this args).isPlain m.heap) :
    Alike Mirrors (Exec.call callee this args m) (Exec.call callee this args m') := by
  refine (uniform_routineOf isFrame_mirrors callee m m' h).bind fun routine m₁ m₁' hr h₁ => ?_
  obtain ⟨f, hf, rfl⟩ := exists_of_routineOf hr
  simp only [isPlain, hf, Option.all_some] at hp
  cases hb : f.routine with
  | callback c =>
    rw [hb] at hp
    cases hp
  | builtin b =>
    rw [hb] at hp
    unfold run
    exact uniform_runBuiltin isFrame_mirrors hp this args _ _ h₁

/-- What changes objects alone, and is no attempted write, does the same in both modes. -/
theorem alike_exec {m m' : Machine} (h : m.Mirrors m') {op : Operation} (hp : op.isPlain m.heap)
    (hw : ¬op.isWrite) : Alike Mirrors (op.exec m) (op.exec m') := by
  have hR := isFrame_mirrors
  cases op with
  | walk target => exact (uniform_walkOver hR target).bind_pure _ m m' h
  | call callee this args => exact (alike_call h hp).bind fun v _ _ _ h' => uniform_pure _ _ _ h'
  | instanceOf v ctor => exact (uniform_instanceOf hR v ctor).bind_pure _ m m' h
  | createObject => exact (uniform_createObject hR).bind_pure _ m m' h
  | createWithPrototype target => exact (uniform_createWithPrototype hR target).bind_pure _ m m' h
  | createObjectFrom entries => exact (uniform_createObjectFrom hR entries).bind_pure _ m m' h
  | createArray elements => exact (uniform_createArray hR elements).bind_pure _ m m' h
  | createArguments elements => exact (uniform_createArguments hR elements).bind_pure _ m m' h
  | createFunction name routine arity =>
    exact (uniform_createFunction hR name routine arity).bind_pure _ m m' h
  | createPackage path => exact (uniform_createPackage hR path).bind_pure _ m m' h
  | createError kind message => exact (uniform_createError hR kind message).bind_pure _ m m' h
  | box v => exact (uniform_box hR v).bind_pure _ m m' h
  | toObject v => exact (uniform_toObject hR v).bind_pure _ m m' h
  | recover f => exact (uniform_caught hR f).bind_pure _ m m' h
  | assign | remove | define | relink => exact (uniform_change hR _).bind_pure _ m m' h
  | raise r l => exact (uniform_modifyCell hR r _).bind_pure _ m m' h
  | set | delete | setGlobal => exact absurd rfl hw
  | get | callMethod | construct | getGlobal | importPackage | importClass | resolveType
  | resolveClass | setStrict => cases hp

/-- An attempted write, before its answer is wrapped up. -/
theorem settles_exec {op : Operation} (hw : op.isWrite) :
    ∃ x : Exec Bool, Settles x x ∧ op.exec = do return .accepted (← x) := by
  cases op with
  | set target k v => exact ⟨_, settles_setMember target k v, rfl⟩
  | delete target k => exact ⟨_, settles_deleteMember target k, rfl⟩
  | setGlobal name v => exact ⟨_, settles_setGlobal name v, rfl⟩
  | _ => cases hw

/-- What an operation answers in silent and in strict code. -/
structure Reported (op : Operation) (silent strict : Except Failure Answer) : Prop where
  /-- A write is answered with false exactly where strict code fails with the rejection. -/
  rejected : op.isWrite →
    (silent = .ok (.accepted false) ↔ ∃ f, f.isWriteRejection ∧ strict = .error f)
  /-- In all other cases the answers are the same. -/
  otherwise : (op.isWrite → silent ≠ .ok (.accepted false)) → strict = silent

theorem reported_of_settled {op : Operation} (hw : op.isWrite) {a b : Except Failure Bool}
    (h : Settled a b) : op.Reported (a.map .accepted) (b.map .accepted) := by
  cases h with
  | accepted => exact ⟨fun _ => ⟨nofun, nofun⟩, fun _ => rfl⟩
  | rejected hf => exact ⟨fun _ => ⟨fun _ => ⟨_, hf, rfl⟩, fun _ => rfl⟩, fun h => absurd rfl (h hw)⟩
  | failed hf =>
    refine ⟨fun _ => ⟨nofun, ?_⟩, fun _ => rfl⟩
    rintro ⟨f, hf', ⟨⟩⟩
    exact absurd hf' hf

/-- One operation on both machines. -/
theorem mirrors_exec {m m' : Machine} (h : m.Mirrors m') {op : Operation}
    (hp : op.isPlain m.heap) :
    (op.exec.final m).Mirrors (op.exec.final m') ∧
      op.Reported (op.exec.outcome m) (op.exec.outcome m') := by
  by_cases hw : op.isWrite
  · obtain ⟨x, hx, he⟩ := settles_exec hw
    obtain ⟨hs, hm⟩ := hx m m' h
    rw [he, outcome_bind_pure, outcome_bind_pure, final_bind_still fun _ => still_pure _,
      final_bind_still fun _ => still_pure _]
    exact ⟨hm, reported_of_settled hw hs⟩
  · have ha := alike_exec h hp hw
    exact ⟨ha.final, fun h => absurd h hw, fun _ => ha.outcome_eq⟩

end Operation

namespace Machine

theorem performAll_concat (m : Machine) (ops : List Operation) (op : Operation) :
    m.performAll (ops ++ [op]) = op.exec.final (m.performAll ops) := by
  simp [performAll]

variable {m m' : Machine} {ops : List Operation}

theorem Mirrors.performAll (h : m.Mirrors m')
    (hops : ∀ n (hn : n < ops.length), ops[n].isPlain (m.performAll (ops.take n)).heap) {n : ℕ}
    (hn : n ≤ ops.length) : (m.performAll (ops.take n)).Mirrors (m'.performAll (ops.take n)) := by
  induction n with
  | zero => exact h
  | succ n ih =>
    rw [List.take_succ_eq_append_getElem hn, performAll_concat, performAll_concat]
    exact (Operation.mirrors_exec (ih (by omega)) (hops n hn)).1

/-- Operations that change objects alone leave the same objects in silent and in strict code, one
after the other, and are answered alike but for rejected writes. -/
theorem modes_agree (h : m.Mirrors m')
    (hops : ∀ n (hn : n < ops.length), ops[n].isPlain (m.performAll (ops.take n)).heap) {n : ℕ}
    (hn : n < ops.length) :
    (m'.performAll (ops.take (n + 1))).heap = (m.performAll (ops.take (n + 1))).heap ∧
    ops[n].Reported (ops[n].exec.outcome (m.performAll (ops.take n)))
      (ops[n].exec.outcome (m'.performAll (ops.take n))) :=
  ⟨(h.performAll hops hn).heap, (Operation.mirrors_exec (h.performAll hops hn.le) (hops n hn)).2⟩

end Machine

/-- The answer to an attempted write. -/
def Answer.accepted? : Answer → Option Bool
  | accepted b => some b
  | _ => none

theorem Answer.eq_accepted {result : Except Failure Answer} {b : Bool}
    (h : result.map accepted? = .ok (some b)) : result = .ok (.accepted b) := by
  cases result with
  | error f => cases h
  | ok a =>
    cases a with
    | accepted c =>
      cases h
      rfl
    | _ => cases h

theorem Answer.eq_error {result : Except Failure Answer} {f : Failure}
    (h : result.map accepted? = .error f) : result = .error f := by
  cases result with
  | error e =>
    cases h
    rfl
  | ok a => cases h

namespace Machine

/-- A machine of a realm without globals. -/
def bare (strict : Bool) : Machine where
  heap := (Intrinsics.allocate {}).2
  realm := {
    intrinsics := (Intrinsics.allocate {}).1
    settings := { strict }
    gate := { catalog := .empty } }
  policy := {}

/-- An array is cut down to an element that stays, and given a length that is none. Then the global
object is frozen, and rejects a new name. -/
def cutting : List Operation := [
  .createArray [.null, .null, .null],
  .define ⟨13⟩ (.ofNat 1) { configurable := some false },
  .set (.object ⟨13⟩) .length (.ofNat 0),
  .set (.object ⟨13⟩) .length .undefined,
  .createFunction "freeze" (.builtin .freeze) 1,
  .call (.object ⟨14⟩) .undefined [.object ⟨1⟩],
  .setGlobal "name" .null]

theorem modes_agree_cutting :
    (bare false).Mirrors (bare true) ∧
    (∀ n (hn : n < cutting.length),
      cutting[n].isPlain ((bare false).performAll (cutting.take n)).heap) ∧
    ((bare true).performAll (cutting.take 3)).heap =
      ((bare false).performAll (cutting.take 3)).heap ∧
    (∃ f, f.isWriteRejection ∧
      cutting[2].exec.outcome ((bare true).performAll (cutting.take 2)) = .error f) ∧
    cutting[3].exec.outcome ((bare true).performAll (cutting.take 3)) = .error .invalidLength ∧
    (∃ f, f.isWriteRejection ∧
      cutting[6].exec.outcome ((bare true).performAll (cutting.take 6)) = .error f) := by
  have hm : (bare false).Mirrors (bare true) := ⟨rfl, rfl, rfl, rfl⟩
  have hp : ∀ n (hn : n < cutting.length),
      cutting[n].isPlain ((bare false).performAll (cutting.take n)).heap := by decide +kernel
  have hagree := fun n (hn : n < cutting.length) => modes_agree hm hp hn
  have hlength : cutting[3].exec.outcome ((bare false).performAll (cutting.take 3)) =
      .error .invalidLength := Answer.eq_error (by decide +kernel)
  refine ⟨hm, hp, (hagree 2 (by decide)).1, ?_, ?_, ?_⟩
  · exact ((hagree 2 (by decide)).2.rejected rfl).1 (Answer.eq_accepted (by decide +kernel))
  · rw [← hlength]
    exact (hagree 3 (by decide)).2.otherwise fun _ => by simp [hlength]
  · exact ((hagree 6 (by decide)).2.rejected rfl).1 (Answer.eq_accepted (by decide +kernel))

end Machine

end ScriptSandbox
