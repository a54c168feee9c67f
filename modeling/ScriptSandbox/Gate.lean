import ScriptSandbox.Failure
import ScriptSandbox.HostClass
import ScriptSandbox.Permission

/-! # The gate to host classes

Names of host types are resolved in a fixed order: the name is checked, the policy is asked, and
only then the class is looked up. Classes that were handed out once are remembered, but the policy
is asked every time.
-/

namespace ScriptSandbox

/-- Refuses what is no qualified name. -/
def TypeName.check (name : String) : Except Failure Unit :=
  if name = "" then .error (.type .emptyTypeName)
  else if isValid name then .ok ()
  else .error (.type (.invalidTypeName name))

structure Gate where
  catalog : Catalog
  /-- The classes that were handed out, by name. -/
  resolved : Catalog := .empty

namespace Gate

/-- The class of a name, without asking anyone. -/
def find? (g : Gate) (name : String) : Option HostClass :=
  match g.resolved.get? name with
  | some c => some c
  | none => g.catalog.get? name

def isRegistered (g : Gate) (name : String) : Bool := (g.find? name).isSome

/-- Remembers a class that is handed out. -/
def remember (g : Gate) (c : HostClass) : Gate :=
  if g.resolved.contains c.name then g else { g with resolved := g.resolved.insert c.name c }

/-- The class of a name under a policy. -/
def resolve (g : Gate) (p : Policy) (name : String) : Except Failure HostClass := do
  TypeName.check name
  if p.allows name then
    match g.find? name with
    | some c => .ok c
    | none => .error (.notFound name)
  else .error (.accessDenied name)

end Gate

end ScriptSandbox
