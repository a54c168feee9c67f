import ScriptSandbox.Realm.Boxes
import ScriptSandbox.Realm.Errors
import ScriptSandbox.Realm.Interop
import ScriptSandbox.Realm.Sequences

/-! # Calls

Running a function with a receiver and arguments, and constructing objects. The one routine that
calls another function hands on one argument less, so calls end.
-/

namespace ScriptSandbox.Exec

def runBuiltin (b : Builtin) (this : Value) (args : List Value) : Exec Value :=
  match b with
  | .object => Reflection.object args
  | .keys => Reflection.keys args
  | .getOwnPropertyNames => Reflection.getOwnPropertyNames args
  | .getOwnPropertyDescriptor => Reflection.getOwnPropertyDescriptor args
  | .defineProperty => Reflection.defineProperty args
  | .create => Reflection.create args
  | .getPrototypeOf => Reflection.getPrototypeOf args
  | .setPrototypeOf => Reflection.setPrototypeOf args
  | .freeze => Reflection.raise .frozen args
  | .isFrozen => Reflection.hasLevel .frozen args
  | .seal => Reflection.raise .sealed args
  | .isSealed => Reflection.hasLevel .sealed args
  | .preventExtensions => Reflection.raise .nonExtensible args
  | .isExtensible => Reflection.isExtensible args
  | .hasOwnProperty => Reflection.hasOwnProperty this args
  | .toString => Reflection.toString this
  | .valueOf => Reflection.valueOf this
  | .array => Sequences.array args
  | .isArray => Sequences.isArray args
  | .push => Sequences.push this args
  | .string => Boxes.string this args
  | .stringValue => Boxes.stringValue this
  | .number => Boxes.number this args
  | .numberValue => Boxes.numberValue this
  | .boolean => Boxes.boolean this args
  | .booleanValue => Boxes.booleanValue this
  | .error kind => Errors.construct kind args
  | .errorText => Errors.toString this
  | .hostType => Interop.hostType args
  | .isHostType => Interop.isHostType args
  | .hostTypeName => Interop.hostTypeName args
  | .importPackage => Interop.importPackages args
  | .importClass => Interop.importClasses args

/-- What the function in a value runs. -/
def routineOf (callee : Value) : Exec Routine := do
  match ← look fun h => callee.object?.bind fun r => (h.kind r).function? with
  | some f => return f.routine
  | none => failType (.notFunction (← text callee))

/-- Runs a routine. -/
def run (routine : Routine) (this : Value) (args : List Value) : Exec Value :=
  match routine with
  | .builtin b => runBuiltin b this args
  | .callback c =>
    match c with
    | .noop => return .undefined
    | .null => return .null
    | .receiver => return this
    | .first => return argument args 0
    | .arguments => return .object (← createArguments args)
    | .count => return .ofNat args.length
    | .initSize => do
      discard (setMember this (.name "size") (.ofNat 0))
      return .undefined
    | .storeArguments => do
      let r ← createArray args
      discard (setMember this (.name "args") (.object r))
      return .undefined
    | .newObject => return .object (← createObject)
    | .classForName => do return .object (← resolveType (← text (argument args 0)))
    | .throwFirst => throw (.thrown (argument args 0))
    | .throwInternal => throw (.internal "host failure")
    | .callFirst =>
      match args with
      | [] => failType (.notFunction Value.undefined.primitiveText)
      | callee :: rest => do run (← routineOf callee) this rest
    | .getGlobal => do getGlobal (← text (argument args 0))
termination_by structural args

def call (callee this : Value) (args : List Value) : Exec Value := do
  run (← routineOf callee) this args

/-- Calls a member of a value with the value as receiver. -/
def callMethod (target : Value) (name : String) (args : List Value) : Exec Value := do
  let method ← getMember target (.ofString name)
  if ← look (·.isCallable method) then call method target args
  else failType (.notFunction ((← text target) ++ "." ++ name))

/-- Makes an instance of a host class. -/
def constructHost (c : HostClass) (args : List Value) : Exec Value := do
  match c.constructor with
  | none => failType (.noHostConstructor c.name)
  | some callback =>
    let r ← alloc { prototype := (← intrinsics).objectPrototype, kind := .hostInstance c }
    discard (run (.callback callback) (.object r) args)
    return .object r

/-- Constructs an object: an instance of a host type, or a plain object that a function is run on,
unless the function answers with an object of its own. -/
def construct (callee : Value) (args : List Value) : Exec Value := do
  match callee with
  | .object ctor =>
    match ← look (·.kind ctor) with
    | .hostType c => constructHost c args
    | .function _ =>
      let target ← match ← look (·.get ctor (.name "prototype")) with
        | .object r => pure r
        | _ => pure (← intrinsics).objectPrototype
      let this ← createWithPrototype (some target)
      let result ← call callee (.object this) args
      if result.isObject then return result else return .object this
    | _ => failType (.notConstructor (← text callee))
  | _ => failType (.notConstructor callee.primitiveText)

/-- Whether a value is an instance of what a constructor makes: of the same host type, or with the
prototype of the constructor on its chain. -/
def instanceOf (v ctor : Value) : Exec Bool := do
  match ctor with
  | .object c =>
    match ← look (·.kind c) with
    | .hostType expected =>
      match v with
      | .object r =>
        match ← look (·.kind r) with
        | .hostInstance actual => return actual.name = expected.name
        | _ => return false
      | _ => return false
    | .function _ =>
      match v with
      | .object r =>
        match ← look (·.get c (.name "prototype")) with
        | .object target => look (·.inherits r target)
        | _ => failType .instanceOfNoPrototype
      | _ => return false
    | _ => failType .instanceOfNonFunction
  | _ => failType .instanceOfNonFunction

end ScriptSandbox.Exec
