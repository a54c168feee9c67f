import ScriptSandbox.Realm.Member

/-! # Free names

A free name is a property of the global object, or else a host type in one of the imported packages.
-/

namespace ScriptSandbox.Exec

def setGlobal (name : String) (v : Value) : Exec Bool := do
  let mode ← writeMode
  let r := (← intrinsics).global
  change (·.set r (.ofString name) v mode)

/-- The first of some packages that has a type of the name. A name that is no type there, or cannot
be one, is looked for further on; a name that is closed ends the search. -/
def findImported (name : String) : List String → Exec Value
  | [] => throw (.reference name)
  | package :: rest => do
    let qualified := package ++ "." ++ name
    let m ← get
    match m.realm.gate.resolve m.policy qualified with
    | .error f =>
      if f.isNotFound ∨ f.isTypeFault then findImported name rest else throw f
    | .ok _ => return .object (← resolveType qualified)

def getGlobal (name : String) : Exec Value := do
  let r := (← intrinsics).global
  match ← look (·.find? r (.ofString name)) with
  | some p => return p.value
  | none => findImported name (← realm).imports

/-- Adds a package to look through, if it is not among them. -/
def importPackage (name : String) : Exec Unit := do
  ofExcept (TypeName.check name)
  modifyRealm fun realm =>
    if name ∈ realm.imports then realm else { realm with imports := realm.imports ++ [name] }

/-- Makes a host type known by its short name. -/
def importClass (v : Value) : Exec Unit := do
  match ← hostTypeOf? v with
  | none => failType (.notHostType (← text v))
  | some c => discard (setGlobal c.short v)

end ScriptSandbox.Exec
