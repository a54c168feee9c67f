import ScriptSandbox.Number.Layout

/-! # Script values

A value is a primitive or a reference to an object, which stands for its cell in the heap.
-/

namespace ScriptSandbox

structure Ref where
  id : Nat
deriving DecidableEq, Inhabited

/-- A script value. The equality `=` of values is sameness: not-a-number is the same as itself, and
the two zeros are not the same. -/
inductive Value where
  | undefined
  | null
  | boolean (b : Bool)
  | number (x : Number)
  | string (s : String)
  | object (r : Ref)
deriving DecidableEq

namespace Value

instance : Inhabited Value := ⟨undefined⟩

def ofNat (n : Nat) : Value := .number (.ofNat n)

def isNullish : Value → Bool
  | undefined | null => true
  | _ => false

def isObject : Value → Bool
  | object _ => true
  | _ => false

def isString : Value → Bool
  | string _ => true
  | _ => false

def object? : Value → Option Ref
  | object r => some r
  | _ => none

def string? : Value → Option String
  | string s => some s
  | _ => none

def isTruthy : Value → Bool
  | undefined | null => false
  | boolean b => b
  | number x => x.isTruthy
  | string s => s ≠ ""
  | object _ => true

/-- Equality as scripts compare: sameness, but for numbers their numeric equality. -/
def equals : Value → Value → Bool
  | number x, number y => x.equals y
  | v, w => v = w

/-- An object, or null for no object. -/
def ofRef? : Option Ref → Value
  | some r => object r
  | none => null

end Value

end ScriptSandbox
