import ScriptSandbox.Operation
import ScriptSandbox.Proofs.Machine.Boxing

/-! # Natives

The code that an embedding gives to functions and host classes is a tree: it is done, or it looks at
the machine, or it makes a request of the realm and goes on by what comes of that. All callbacks are
such natives. A native that calls another one is the tree with the other in its place, so calls and
constructions with natives for bodies are natives again.
-/

namespace ScriptSandbox

/-- What a native asks of its realm. -/
inductive Request where
  | operation (op : Operation)
  /-- A method comes onto an object that is there. -/
  | register (r : Ref) (method : Callable)

def Request.exec : Request → Exec Answer
  | operation op => op.exec
  | register r f => do
    Exec.registerMethod r f.name f.routine f.arity
    return .done

/-- The value that an answer comes down to. -/
def Answer.toValue : Answer → Value
  | accepted b => .boolean b
  | value v => v
  | _ => .undefined

/-- What a native does for one receiver and its arguments. -/
inductive Native where
  | done (result : Except Failure Value)
  | look (next : Machine → Native)
  | request (q : Request) (next : Except Failure Answer → Native)

namespace Native

def exec : Native → Exec Value
  | done result => Exec.ofExcept result
  | look next => fun m => (next m).exec m
  | request q next => fun m => (next (q.exec.outcome m)).exec (q.exec.final m)

/-- Goes on by the value that a native is done with, unless it fails. -/
def bind : Native → (Value → Native) → Native
  | done (.ok v), f => f v
  | done (.error e), _ => done (.error e)
  | look next, f => look fun m => (next m).bind f
  | request q next, f => request q fun a => (next a).bind f

/-- An operation, and its answer as a value. -/
def ask (op : Operation) : Native :=
  request (.operation op) fun a => done (a.map Answer.toValue)

/-- Looks at the text of a value. -/
def withText (v : Value) (next : String → Native) : Native :=
  look fun m => next (m.heap.text v)

/-- The native asks for operations only, whatever comes of them. -/
def Operates : Native → Prop
  | done _ => True
  | look next => ∀ m, (next m).Operates
  | request q next => (∃ op, q = .operation op) ∧ ∀ a, (next a).Operates

variable {n : Native} {f : Value → Native} {m : Machine}

theorem exec_bind (n : Native) (f : Value → Native) :
    (n.bind f).exec = n.exec >>= fun v => (f v).exec := by
  funext m
  induction n generalizing m with
  | done result => cases result <;> rfl
  | look next ih => exact ih m m
  | request q next ih => exact ih (q.exec.outcome m) (q.exec.final m)

theorem exec_ask (op : Operation) : (ask op).exec = op.exec >>= fun a => pure a.toValue := by
  funext m
  change (Exec.ofExcept ((op.exec.outcome m).map Answer.toValue)) (op.exec.final m) = _
  rw [Exec.outcome, Exec.final]
  cases h : op.exec m with
  | ok a m' =>
    rw [Exec.bind_of_ok h]
    rfl
  | error e m' =>
    rw [Exec.bind_of_error h]
    rfl

theorem Operates.bind (hn : n.Operates) (hf : ∀ v, (f v).Operates) : (n.bind f).Operates := by
  induction n with
  | done result =>
    cases result with
    | ok v => exact hf v
    | error e => trivial
  | look next ih => exact fun m => ih m (hn m)
  | request q next ih => exact ⟨hn.1, fun a => ih a (hn.2 a)⟩

theorem operates_ask (op : Operation) : (ask op).Operates := ⟨⟨op, rfl⟩, fun _ => trivial⟩

/-! ### Callbacks -/

open Exec in
/-- A callback as a native. -/
def ofCallback (c : Callback) (this : Value) (args : List Value) : Native :=
  match c with
  | .noop => done (.ok .undefined)
  | .null => done (.ok .null)
  | .receiver => done (.ok this)
  | .first => done (.ok (argument args 0))
  | .arguments => ask (.createArguments args)
  | .count => done (.ok (.ofNat args.length))
  | .initSize => (ask (.set this (.name "size") (.ofNat 0))).bind fun _ => done (.ok .undefined)
  | .storeArguments =>
    (ask (.createArray args)).bind fun list =>
      (ask (.set this (.name "args") list)).bind fun _ => done (.ok .undefined)
  | .newObject => ask .createObject
  | .classForName => withText (argument args 0) fun s => ask (.resolveType s)
  | .throwFirst => done (.error (.thrown (argument args 0)))
  | .throwInternal => done (.error (.internal "host failure"))
  | .callFirst =>
    match args with
    | [] => done (.error (.type (.notFunction Value.undefined.primitiveText)))
    | callee :: rest => ask (.call callee this rest)
  | .getGlobal => withText (argument args 0) fun s => ask (.getGlobal s)

theorem operates_ofCallback (c : Callback) (this : Value) (args : List Value) :
    (ofCallback c this args).Operates := by
  cases c with
  | noop | null | receiver | first | count | throwFirst | throwInternal => trivial
  | arguments | newObject => exact operates_ask _
  | initSize => exact (operates_ask _).bind fun _ => trivial
  | storeArguments =>
    exact (operates_ask _).bind fun _ => (operates_ask _).bind fun _ => trivial
  | classForName | getGlobal => exact fun _ => operates_ask _
  | callFirst =>
    cases args with
    | nil => trivial
    | cons callee rest => exact operates_ask _

theorem exec_done_ok (v : Value) : (done (.ok v)).exec = pure v := rfl

theorem exec_bind_const (op : Operation) (v : Value) :
    ((ask op).bind fun _ => done (.ok v)).exec = op.exec >>= fun _ => pure v := by
  simp only [exec_bind, exec_ask, exec_done_ok, bind_assoc, pure_bind]

theorem exec_withText (v : Value) (next : String → Native) :
    (withText v next).exec = Exec.text v >>= fun s => (next s).exec := rfl

theorem discard_bind {α β : Type} (x : Exec α) (y : Exec β) :
    (discard x >>= fun _ => y) = x >>= fun _ => y := by
  simp [discard, map_const]

/-- Running a callback is running its native. -/
theorem exec_ofCallback (c : Callback) (this : Value) (args : List Value) :
    (ofCallback c this args).exec = Exec.run (.callback c) this args := by
  cases c with
  | noop | null | receiver | first | count | throwFirst | throwInternal =>
    rw [Exec.run]
    rfl
  | arguments | newObject =>
    simp only [ofCallback, exec_ask, Operation.exec, Exec.run, bind_assoc, pure_bind,
      Answer.toValue]
  | initSize =>
    simp only [ofCallback, exec_bind_const, Exec.run, discard_bind, Operation.exec, bind_assoc,
      pure_bind]
  | storeArguments =>
    simp only [ofCallback, exec_bind, exec_ask, exec_done_ok, Exec.run, discard_bind,
      Operation.exec, bind_assoc, pure_bind, Answer.toValue]
  | classForName | getGlobal =>
    simp only [ofCallback, exec_withText, exec_ask, Operation.exec, Exec.run, bind_assoc,
      pure_bind, bind_pure, Answer.toValue]
  | callFirst =>
    cases args with
    | nil =>
      rw [Exec.run]
      rfl
    | cons callee rest =>
      simp only [ofCallback, exec_ask, Operation.exec, Exec.run, Exec.call, bind_assoc, pure_bind,
        Answer.toValue, bind_pure]

/-! ### Constructions -/

/-- Constructing with a function that has a native for its body. -/
def constructing (body : Value → Native) (ctor : Ref) : Native :=
  look fun m =>
    let target := m.heap.constructionTarget m.realm.intrinsics ctor
    (ask (.createWithPrototype (some target))).bind fun this =>
      (body this).bind fun result => done (.ok (if result.isObject then result else this))

/-- Constructing with a host class whose constructor is a native. The instance is made by a class
whose constructor does nothing. -/
def instantiating (body : Value → Native) (callee : Value) (args : List Value) : Native :=
  (ask (.construct callee args)).bind fun this => (body this).bind fun _ => done (.ok this)

theorem Operates.constructing {body : Value → Native} (hb : ∀ this, (body this).Operates)
    (ctor : Ref) : (constructing body ctor).Operates :=
  fun _ => (operates_ask _).bind fun this => (hb this).bind fun _ => trivial

theorem Operates.instantiating {body : Value → Native} (hb : ∀ this, (body this).Operates)
    (callee : Value) (args : List Value) : (instantiating body callee args).Operates :=
  (operates_ask _).bind fun this => (hb this).bind fun _ => trivial

/-- A plain object is made first, and the native runs on it. -/
theorem exec_constructing (body : Value → Native) (ctor : Ref) :
    (constructing body ctor).exec m = (do
      let result ← (body (.object ⟨m.heap.size⟩)).exec
      if result.isObject then return result else return .object ⟨m.heap.size⟩ : Exec Value)
      (m.withHeap (m.heap.alloc
        { prototype := some (m.heap.constructionTarget m.realm.intrinsics ctor) }).2) := by
  generalize htarget : m.heap.constructionTarget m.realm.intrinsics ctor = target
  have hexec : (constructing body ctor).exec m =
      ((ask (.createWithPrototype (some target))).bind fun this => (body this).bind fun result =>
        done (.ok (if result.isObject then result else this))).exec m := htarget ▸ rfl
  have hcreate : (ask (.createWithPrototype (some target))).exec m =
      .ok (.object ⟨m.heap.size⟩) (m.withHeap (m.heap.alloc { prototype := some target }).2) := by
    rw [exec_ask]
    rfl
  have hend : ∀ result this : Value, (done (.ok (if result.isObject then result else this))).exec =
      if result.isObject then pure result else pure this := by
    intro result this
    split <;> rfl
  rw [hexec, exec_bind, Exec.bind_of_ok hcreate, exec_bind]
  simp only [hend]

section Callback

variable {r : Ref} {g : Callable} {c : Callback}

theorem call_eq_exec (hk : m.heap.kind r = .function g) (hg : g.routine = .callback c)
    (this : Value) (args : List Value) :
    Exec.call (.object r) this args m = (ofCallback c this args).exec m := by
  rw [exec_ofCallback, ← hg]
  exact Exec.bind_of_ok (Exec.routineOf_of_function hk)

/-- A construction with a callback is the construction with its native. -/
theorem construct_eq_exec (hk : m.heap.kind r = .function g) (hg : g.routine = .callback c)
    (args : List Value) :
    Exec.construct (.object r) args m =
      (constructing (fun this => ofCallback c this args) r).exec m := by
  rw [Exec.construct_of_function hk, exec_constructing]
  generalize hm : m.withHeap (m.heap.alloc
    { prototype := some (m.heap.constructionTarget m.realm.intrinsics r) }).2 = m₁
  have hk₁ : m₁.heap.kind r = .function g := by
    rw [← hm]
    exact (Heap.kind_alloc rfl r).trans hk
  have hcall := call_eq_exec hk₁ hg (.object ⟨m.heap.size⟩) args
  cases hresult : (ofCallback c (.object ⟨m.heap.size⟩) args).exec m₁ with
  | ok v m₂ => rw [Exec.bind_of_ok (hcall.trans hresult), Exec.bind_of_ok hresult]
  | error e m₂ => rw [Exec.bind_of_error (hcall.trans hresult), Exec.bind_of_error hresult]

end Callback

/-- An instance is made first, and the native runs on it. -/
theorem exec_instantiating {r : Ref} {c : HostClass} (hk : m.heap.kind r = .hostType c)
    (hc : c.constructor = some .noop) (body : Value → Native) (args : List Value) :
    (instantiating body (.object r) args).exec m = (do
      let s ← Exec.alloc {
        prototype := some m.realm.intrinsics.objectPrototype, kind := .hostInstance c }
      discard (body (.object s)).exec
      return .object s : Exec Value) m := by
  generalize hcell : ({
    prototype := some m.realm.intrinsics.objectPrototype, kind := .hostInstance c } : Cell) = d
  have hconstruct : Exec.construct (.object r) args m =
      .ok (.object ⟨m.heap.size⟩) (m.withHeap (m.heap.alloc d).2) := by
    subst hcell
    unfold Exec.construct Exec.constructHost
    dsimp only
    rw [Exec.bind_of_ok (Exec.look_apply _ m), hk]
    dsimp only
    rw [hc]
    simp only [Exec.run]
    rfl
  have hask : (ask (.construct (.object r) args)).exec m =
      .ok (.object ⟨m.heap.size⟩) (m.withHeap (m.heap.alloc d).2) := by
    rw [exec_ask, Operation.exec, bind_assoc, Exec.bind_of_ok hconstruct]
    rfl
  have halloc : Exec.alloc d m = .ok ⟨m.heap.size⟩ (m.withHeap (m.heap.alloc d).2) := rfl
  rw [instantiating, exec_bind, Exec.bind_of_ok hask, Exec.bind_of_ok halloc, discard_bind,
    exec_bind]
  rfl

end Native

end ScriptSandbox
