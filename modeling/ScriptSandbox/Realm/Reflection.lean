import ScriptSandbox.Realm.Member

/-! # Reflection on objects

What the `Object` constructor and its methods do, and the methods that all objects inherit.
-/

namespace ScriptSandbox.Exec

/-- The argument at a place, undefined where there is none. -/
def argument (args : List Value) (i : Nat) : Value := args.getD i .undefined

def toKey (v : Value) : Exec Key := look (·.toKey v)

namespace Reflection

def object (args : List Value) : Exec Value := do
  let v := argument args 0
  if v.isNullish then return .object (← createObject) else return .object (← box v)

/-- An array of the texts of keys. -/
def arrayOfKeys (ks : List Key) : Exec Value :=
  return .object (← createArray (ks.map fun k => .string k.text))

def keys (args : List Value) : Exec Value := do
  let r ← toObject (argument args 0)
  arrayOfKeys (← look fun h => (h.cell r).properties.enumerableKeys)

def getOwnPropertyNames (args : List Value) : Exec Value := do
  let r ← toObject (argument args 0)
  arrayOfKeys (← look fun h => (h.cell r).properties.ownKeys)

/-- A property as an object with its value and its attributes. -/
def ofProperty (p : Property) : Exec Ref :=
  createObjectFrom [
    ("value", p.value),
    ("writable", .boolean p.writable),
    ("enumerable", .boolean p.enumerable),
    ("configurable", .boolean p.configurable)]

def getOwnPropertyDescriptor (args : List Value) : Exec Value := do
  let r ← toObject (argument args 0)
  let k ← toKey (argument args 1)
  match ← look (·.own? r k) with
  | some p => return .object (← ofProperty p)
  | none => return .undefined

/-- The descriptor that an object describes. Inherited fields count. -/
def descriptorOf (h : Heap) (r : Ref) : Descriptor :=
  let field := fun name => (h.find? r (.name name)).map (·.value)
  { value := field "value"
    writable := (field "writable").map Value.isTruthy
    enumerable := (field "enumerable").map Value.isTruthy
    configurable := (field "configurable").map Value.isTruthy }

def toDescriptor (v : Value) : Exec Descriptor := do
  match v with
  | .object r => look (descriptorOf · r)
  | _ => failType (.noDescriptor v.primitiveText)

def defineProperty (args : List Value) : Exec Value := do
  match argument args 0 with
  | .object r =>
    let k ← toKey (argument args 1)
    let d ← toDescriptor (argument args 2)
    change (·.define r k d)
    return .object r
  | _ => failType .definedOnNonObject

def toPrototype : Value → Exec (Option Ref)
  | .object r => return some r
  | .null => return none
  | v => failType (.noPrototype v.primitiveText)

/-- Defines the properties that the members of an object describe. -/
def defineAll (r source : Ref) : List Key → Exec Unit
  | [] => return
  | k :: ks => do
    let d ← toDescriptor (← look (·.get source k))
    change (·.define r k d)
    defineAll r source ks

def create (args : List Value) : Exec Value := do
  let r ← createWithPrototype (← toPrototype (argument args 0))
  let members := argument args 1
  if members.isNullish then return .object r
  let source ← box members
  defineAll r source (← look fun h => (h.cell source).properties.enumerableKeys)
  return .object r

def getPrototypeOf (args : List Value) : Exec Value := do
  let r ← toObject (argument args 0)
  return .ofRef? (← look (·.prototype r))

def setPrototypeOf (args : List Value) : Exec Value := do
  let target := argument args 0
  if target.isNullish then failType .prototypeOfNullish
  let next ← toPrototype (argument args 1)
  match target with
  | .object r => change (·.relink r next)
  | _ => pure ()
  return target

/-- Raises the level of the argument, if it is an object. -/
def raise (l : Level) (args : List Value) : Exec Value := do
  match argument args 0 with
  | .object r =>
    modifyCell r (·.raise l)
    return .object r
  | v => return v

/-- Whether the argument has a level. Primitives cannot change at all. -/
def hasLevel (l : Level) (args : List Value) : Exec Value := do
  match argument args 0 with
  | .object r => return .boolean (← look fun h => (h.cell r).hasLevel l)
  | _ => return .boolean true

def isExtensible (args : List Value) : Exec Value := do
  match argument args 0 with
  | .object r => return .boolean (← look fun h => (h.cell r).isExtensible)
  | _ => return .boolean false

def hasOwnProperty (this : Value) (args : List Value) : Exec Value := do
  let r ← toObject this
  let k ← toKey (argument args 0)
  return .boolean (← look fun h => (h.own? r k).isSome)

def kindTag : Kind → String
  | .array => "Array"
  | .arguments => "Arguments"
  | .function _ | .hostType _ => "Function"
  | .error => "Error"
  | .boolean _ => "Boolean"
  | .number _ => "Number"
  | .string _ => "String"
  | .ordinary | .hostInstance _ | .hostPackage _ => "Object"

def tag (h : Heap) : Value → String
  | .undefined => "Undefined"
  | .null => "Null"
  | .boolean _ => "Boolean"
  | .number _ => "Number"
  | .string _ => "String"
  | .object r => kindTag (h.kind r)

def toString (this : Value) : Exec Value :=
  return .string ("[object " ++ (← look (tag · this)) ++ "]")

def valueOf (this : Value) : Exec Value := return .object (← toObject this)

end Reflection

end ScriptSandbox.Exec
