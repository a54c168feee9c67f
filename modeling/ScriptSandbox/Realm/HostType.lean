import ScriptSandbox.Realm.Creation

/-! # Host types in a realm

A realm has one object for each host type that it has resolved. It is frozen from the start and
carries the static methods of its class.
-/

namespace ScriptSandbox.Exec

/-- The host class of a type object. -/
def hostTypeOf? (v : Value) : Exec (Option HostClass) :=
  look fun h => v.object?.bind fun r => (h.kind r).hostType?

/-- Puts static methods on an object; of two with one name the later stays. -/
def registerStatics (r : Ref) : List StaticMethod → Exec Unit
  | [] => return
  | m :: rest => do
    registerMethod r m.name (.callback m.callback) m.arity
    registerStatics r rest

/-- Makes the type object of a class. -/
def createTypeObject (c : HostClass) : Exec Ref := do
  let r ← alloc { prototype := (← intrinsics).functionPrototype, kind := .hostType c }
  registerStatics r c.statics
  modifyCell r (·.raise .frozen)
  return r

/-- The one type object of a class. -/
def typeObject (c : HostClass) : Exec Ref := do
  match (← realm).typeObjects.get? c.name with
  | some r => return r
  | none =>
    let r ← createTypeObject c
    modifyRealm fun realm => { realm with typeObjects := realm.typeObjects.insert c.name r }
    return r

/-- The class of a host type, if the policy lets it through. -/
def resolveClass (name : String) : Exec HostClass := do
  let m ← get
  let c ← ofExcept (m.realm.gate.resolve m.policy name)
  modifyRealm fun realm => { realm with gate := realm.gate.remember c }
  return c

def resolveType (name : String) : Exec Ref := do typeObject (← resolveClass name)

/-- Whether a key names something below a package. -/
def isMemberName (name : String) : Bool := TypeName.isValid name ∧ '.' ∉ name.toList

/-- What a package has under a key: a type, or the package of that path. Where only the default of
the policy closes a name, the name still serves as a package unless there is a type behind it. -/
def packageMember (path : String) : Key → Exec Value
  | .index _ => return .undefined
  | .name member => do
    if isMemberName member then
      let qualified := TypeName.member path member
      let m ← get
      if m.policy.check qualified = .denied .byDefault then
        if m.realm.gate.isRegistered qualified then throw (.accessDenied qualified)
        return .object (← createPackage qualified)
      match m.realm.gate.resolve m.policy qualified with
      | .error (.notFound _) => return .object (← createPackage qualified)
      | _ => return .object (← resolveType qualified)
    else return .undefined

end ScriptSandbox.Exec
