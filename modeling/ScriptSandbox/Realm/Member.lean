import ScriptSandbox.KeyWalk
import ScriptSandbox.Realm.HostType

/-! # Members of values

Reading, writing, deleting and enumerating the properties of any value. Primitives are read through
their box and never keep what is written to them; the members of packages are host types.
-/

namespace ScriptSandbox.Exec

/-- Reads a member of an object. -/
def getOf (r : Ref) (k : Key) : Exec Value := do
  match (← look (·.kind r)).hostPackage? with
  | some path => packageMember path k
  | none => look (·.get r k)

def getMember (target : Value) (k : Key) : Exec Value := do
  match target with
  | .undefined | .null => failType (.notReadable k target.primitiveText)
  | .object r => getOf r k
  | _ =>
    let r ← box target
    look (·.get r k)

/-- Writes a member, and answers whether it was accepted. -/
def setMember (target : Value) (k : Key) (v : Value) : Exec Bool := do
  let mode ← writeMode
  match target with
  | .undefined | .null => failType (.notAssignable k target.primitiveText)
  | .object r =>
    match (← look (·.kind r)).hostPackage? with
    | some _ => ofExcept (mode.reject (.frozenWrite k))
    | none => change (·.set r k v mode)
  | _ => ofExcept (mode.reject (.frozenWrite k))

def deleteMember (target : Value) (k : Key) : Exec Bool := do
  if target.isNullish then failType (.notDeletable k target.primitiveText)
  else
    let r ← box target
    let mode ← writeMode
    change (·.delete r k mode)

/-- A walk over the enumerable names of a value. -/
def walkOver (target : Value) : Exec KeyWalk := do
  if target.isNullish then return .empty
  else return .start (← box target)

end ScriptSandbox.Exec
