import ScriptSandbox.Realm.Reflection

/-! # Array functions

The `Array` constructor, the test for arrays, and appending.
-/

namespace ScriptSandbox.Exec.Sequences

/-- An array of the arguments; a single number is taken for a length. -/
def array (args : List Value) : Exec Value := do
  match args with
  | [.number x] =>
    match x.arrayLength? with
    | none => throw .invalidLength
    | some n =>
      let r ← createArray []
      let mode ← writeMode
      discard (change (·.set r .length (.ofNat n) mode))
      return .object r
  | _ => return .object (← createArray args)

def isArray (args : List Value) : Exec Value := do
  match argument args 0 with
  | .object r => return .boolean (← look fun h => (h.cell r).isArray)
  | _ => return .boolean false

/-- Writes values under the indices from a length on, and answers the length behind them, which
stops at the greatest one. -/
def append (r : Ref) : Nat → List Value → Exec Nat
  | n, [] => return n
  | n, v :: vs => do
    discard (change (·.set r (.ofNat n) v .strict))
    append r (min (n + 1) maxLength) vs

/-- Appends the arguments. A rejected write is a failure in every mode. -/
def push (this : Value) (args : List Value) : Exec Value := do
  let r ← toObject this
  let n ← look fun h => (h.toNumber (h.get r .length)).clamp32
  let n ← append r n args
  discard (change (·.set r .length (.ofNat n) .strict))
  return .ofNat n

end ScriptSandbox.Exec.Sequences
