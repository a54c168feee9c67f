import ScriptSandbox.Failure

/-! # Write modes

A rejected write is a failure in strict code. Elsewhere it is answered with false, and other
failures stay failures.
-/

namespace ScriptSandbox

inductive WriteMode where
  | silent
  | strict
deriving DecidableEq

namespace WriteMode

/-- The answer to a rejected write. -/
def reject (mode : WriteMode) (f : Failure) : Except Failure Bool :=
  match mode with
  | silent => .ok false
  | strict => .error f

/-- The answer to an attempted write. -/
def settle (mode : WriteMode) : Except Failure Unit → Except Failure Bool
  | .ok () => .ok true
  | .error f => if f.isWriteRejection then mode.reject f else .error f

end WriteMode

end ScriptSandbox
