import ScriptSandbox.Realm.Reflection

/-! # Error functions

The constructors of errors, and the text of an error by its own or inherited name and message.
-/

namespace ScriptSandbox.Exec.Errors

def construct (kind : ErrorKind) (args : List Value) : Exec Value := do
  let message ← match argument args 0 with
    | .undefined => pure ""
    | v => text v
  return .object (← createError kind message)

/-- The text of a member, with one for when it is undefined. -/
def memberText (r : Ref) (name missing : String) : Exec String := do
  match ← look (·.get r (.name name)) with
  | .undefined => return missing
  | v => text v

def toString (this : Value) : Exec Value := do
  match this with
  | .object r =>
    let name ← memberText r "name" "Error"
    let message ← memberText r "message" ""
    return .string (if message = "" then name else name ++ ": " ++ message)
  | _ => failType .noErrorObject

end ScriptSandbox.Exec.Errors
