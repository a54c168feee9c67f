import ScriptSandbox.Realm.Reflection

/-! # Constructors of boxes

`String`, `Number` and `Boolean` convert their argument. Run as constructors they put the result in
a box, which they know by a receiver that was made for them.
-/

namespace ScriptSandbox.Exec.Boxes

/-- Whether a receiver is a plain object with the given prototype, as a construction makes it. -/
def isFresh (h : Heap) (this : Value) (target : Ref) : Bool :=
  this.object?.any fun r => h.kind r = .ordinary ∧ h.prototype r = some target

/-- The value, or its box in a construction. -/
def finish (this : Value) (target : Ref) (v : Value) : Exec Value := do
  if ← look (isFresh · this target) then return .object (← box v) else return v

def string (this : Value) (args : List Value) : Exec Value := do
  let s ← match args with
    | v :: _ => text v
    | [] => pure ""
  finish this (← intrinsics).stringPrototype (.string s)

def number (this : Value) (args : List Value) : Exec Value := do
  let x ← match args with
    | v :: _ => look (·.toNumber v)
    | [] => pure .zero
  finish this (← intrinsics).numberPrototype (.number x)

def boolean (this : Value) (args : List Value) : Exec Value := do
  finish this (← intrinsics).booleanPrototype (.boolean (argument args 0).isTruthy)

/-- The primitive that a receiver is or holds. -/
def primitiveOf? (h : Heap) : Value → Option Value
  | .undefined | .null => none
  | .object r => (h.kind r).primitive?
  | v => some v

def stringValue (this : Value) : Exec Value := do
  match ← look (primitiveOf? · this) with
  | some (.string s) => return .string s
  | _ => failType .noString

def numberValue (this : Value) : Exec Value := do
  match ← look (primitiveOf? · this) with
  | some (.number x) => return .number x
  | _ => failType .noNumber

def booleanValue (this : Value) : Exec Value := do
  match ← look (primitiveOf? · this) with
  | some (.boolean b) => return .boolean b
  | _ => failType .noBoolean

end ScriptSandbox.Exec.Boxes
