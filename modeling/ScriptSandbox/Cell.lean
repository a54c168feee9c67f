import ScriptSandbox.HostClass
import ScriptSandbox.PropertyTable

/-! # Object cells

What the heap keeps for an object: the prototype it inherits from, how far it is closed to changes,
its own properties, and what kind of object it is.
-/

namespace ScriptSandbox

/-- How far an object is closed to changes; each level includes the ones before it. -/
inductive Level where
  | extensible
  | nonExtensible
  | sealed
  | frozen
deriving DecidableEq

namespace Level

def rank : Level → Nat
  | extensible => 0
  | nonExtensible => 1
  | sealed => 2
  | frozen => 3

instance : LE Level := ⟨fun a b => a.rank ≤ b.rank⟩

instance (a b : Level) : Decidable (a ≤ b) := inferInstanceAs (Decidable (a.rank ≤ b.rank))

end Level

/-- A function as its name, what it runs, and how many arguments it announces. -/
structure Callable where
  name : String
  routine : Routine
  arity : Nat
deriving DecidableEq

inductive Kind where
  | ordinary
  /-- An array, whose length follows its indices. -/
  | array
  /-- The arguments of a call. -/
  | arguments
  | boolean (b : Bool)
  | number (x : Number)
  /-- A boxed text; its units are own properties. -/
  | string (s : String)
  | error
  | function (f : Callable)
  /-- A host type that the policy has let through. -/
  | hostType (c : HostClass)
  /-- What the constructor of a host type has made. -/
  | hostInstance (c : HostClass)
  /-- A path in the namespace of host types. -/
  | hostPackage (path : String)
deriving DecidableEq

namespace Kind

/-- The primitive in a box. -/
def primitive? : Kind → Option Value
  | boolean b => some (.boolean b)
  | number x => some (.number x)
  | string s => some (.string s)
  | _ => none

def function? : Kind → Option Callable
  | function f => some f
  | _ => none

def hostType? : Kind → Option HostClass
  | hostType c => some c
  | _ => none

def hostPackage? : Kind → Option String
  | hostPackage path => some path
  | _ => none

end Kind

structure Cell where
  prototype : Option Ref := none
  level : Level := .extensible
  properties : PropertyTable := .empty
  kind : Kind := .ordinary
deriving Inhabited

namespace Cell

def isExtensible (c : Cell) : Bool := c.level = .extensible

def isArray (c : Cell) : Bool := c.kind = .array

/-- The own value of a name, if it is a text. -/
def ownString? (c : Cell) (name : String) : Option String :=
  (c.properties.get? (.name name)).bind (·.value.string?)

/-- A cell with one more own property, whatever was there. -/
def withProperty (c : Cell) (k : Key) (p : Property) : Cell :=
  { c with properties := c.properties.insert k p }

end Cell

end ScriptSandbox
