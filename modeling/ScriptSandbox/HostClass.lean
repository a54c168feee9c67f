import ScriptSandbox.OrderedMap
import ScriptSandbox.Routine
import ScriptSandbox.TypeName

/-! # Host classes

A host class offers static methods, and instances if it has a constructor. The catalog of an
embedding holds one class for a name.
-/

namespace ScriptSandbox

structure StaticMethod where
  name : String
  callback : Callback
  arity : Nat
deriving DecidableEq

structure HostClass where
  name : String
  /-- Runs with the new instance as its receiver. -/
  constructor : Option Callback := none
  statics : List StaticMethod := []
deriving DecidableEq

namespace HostClass

def short (c : HostClass) : String := TypeName.short c.name

def package (c : HostClass) : String := TypeName.package c.name

end HostClass

abbrev Catalog := OrderedMap String HostClass

namespace Catalog

/-- Adds a class in place of an earlier one of its name. -/
def register (catalog : Catalog) (c : HostClass) : Catalog := catalog.insert c.name c

def ofList (classes : List HostClass) : Catalog := classes.foldl register .empty

end Catalog

end ScriptSandbox
