import ScriptSandbox.Realm.Globals
import ScriptSandbox.Realm.Reflection

/-! # Functions for host types

What scripts call to get at host types and to import them.
-/

namespace ScriptSandbox.Exec.Interop

def hostType (args : List Value) : Exec Value := do
  match argument args 0 with
  | .string name => return .object (← resolveType name)
  | v => failType (.noTypeName (← text v))

def isHostType (args : List Value) : Exec Value := do
  return .boolean (← hostTypeOf? (argument args 0)).isSome

def hostTypeName (args : List Value) : Exec Value := do
  match ← hostTypeOf? (argument args 0) with
  | some c => return .string c.name
  | none => return .undefined

/-- The path of a package object, or a text taken for one. -/
def packagePath? (h : Heap) : Value → Option String
  | .string s => some s
  | .object r => (h.kind r).hostPackage?
  | _ => none

def importPackages : List Value → Exec Value
  | [] => return .undefined
  | v :: vs => do
    match ← look (packagePath? · v) with
    | some path => importPackage path
    | none => failType (.noPackage (← text v))
    importPackages vs

def importClasses : List Value → Exec Value
  | [] => return .undefined
  | v :: vs => do
    importClass v
    importClasses vs

end ScriptSandbox.Exec.Interop
