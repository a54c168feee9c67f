import ScriptSandbox.Realm.Invocation

/-! # Operations

What scripts, and the embedding on their behalf, ask of a realm. Putting a method on an object is no
operation: it goes past the checks that operations make.
-/

namespace ScriptSandbox

inductive Operation where
  -- members of values
  | get (target : Value) (k : Key)
  | set (target : Value) (k : Key) (v : Value)
  | delete (target : Value) (k : Key)
  | walk (target : Value)
  -- calls
  | call (callee this : Value) (args : List Value)
  | callMethod (target : Value) (name : String) (args : List Value)
  | construct (callee : Value) (args : List Value)
  | instanceOf (v ctor : Value)
  -- free names and host types
  | getGlobal (name : String)
  | setGlobal (name : String) (v : Value)
  | importPackage (name : String)
  | importClass (v : Value)
  | resolveType (name : String)
  | resolveClass (name : String)
  -- new objects
  | createObject
  | createWithPrototype (target : Option Ref)
  | createObjectFrom (entries : List (String × Value))
  | createArray (elements : List Value)
  | createArguments (elements : List Value)
  | createFunction (name : String) (routine : Routine) (arity : Nat)
  | createPackage (path : String)
  | createError (kind : ErrorKind) (message : String)
  | box (v : Value)
  | toObject (v : Value)
  | recover (f : Failure)
  -- objects by themselves, whatever the mode of the realm
  | assign (r : Ref) (k : Key) (v : Value) (mode : WriteMode)
  | remove (r : Ref) (k : Key) (mode : WriteMode)
  | define (r : Ref) (k : Key) (d : Descriptor)
  | relink (r : Ref) (target : Option Ref)
  | raise (r : Ref) (l : Level)
  -- the realm itself
  | setStrict (strict : Bool)

/-- What an operation answers. -/
inductive Answer where
  | done
  | accepted (b : Bool)
  | value (v : Value)
  | walk (w : KeyWalk)
  | hostClass (c : HostClass)

namespace Operation

open Exec

def exec : Operation → Exec Answer
  | get target k => return .value (← getMember target k)
  | set target k v => return .accepted (← setMember target k v)
  | delete target k => return .accepted (← deleteMember target k)
  | walk target => return .walk (← walkOver target)
  | call callee this args => return .value (← Exec.call callee this args)
  | callMethod target name args => return .value (← Exec.callMethod target name args)
  | construct callee args => return .value (← Exec.construct callee args)
  | instanceOf v ctor => return .accepted (← Exec.instanceOf v ctor)
  | getGlobal name => return .value (← Exec.getGlobal name)
  | setGlobal name v => return .accepted (← Exec.setGlobal name v)
  | importPackage name => do
    Exec.importPackage name
    return .done
  | importClass v => do
    Exec.importClass v
    return .done
  | resolveType name => return .value (.object (← Exec.resolveType name))
  | resolveClass name => return .hostClass (← Exec.resolveClass name)
  | createObject => return .value (.object (← Exec.createObject))
  | createWithPrototype target => return .value (.object (← Exec.createWithPrototype target))
  | createObjectFrom entries => return .value (.object (← Exec.createObjectFrom entries))
  | createArray elements => return .value (.object (← Exec.createArray elements))
  | createArguments elements => return .value (.object (← Exec.createArguments elements))
  | createFunction name routine arity =>
    return .value (.object (← Exec.createFunction name routine arity))
  | createPackage path => return .value (.object (← Exec.createPackage path))
  | createError kind message => return .value (.object (← Exec.createError kind message))
  | box v => return .value (.object (← Exec.box v))
  | toObject v => return .value (.object (← Exec.toObject v))
  | recover f => return .value (← caught f)
  | assign r k v mode => return .accepted (← change (·.set r k v mode))
  | remove r k mode => return .accepted (← change (·.delete r k mode))
  | define r k d => do
    change (·.define r k d)
    return .done
  | relink r target => do
    change (·.relink r target)
    return .done
  | raise r l => do
    modifyCell r (·.raise l)
    return .done
  | setStrict strict => do
    modifyRealm fun realm => { realm with settings := { realm.settings with strict } }
    return .done

end Operation

end ScriptSandbox
