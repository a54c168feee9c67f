import ScriptSandbox.Proofs.Machine.Admission
import ScriptSandbox.Proofs.Machine.Appending
import ScriptSandbox.Proofs.Machine.Description

/-! # Registering methods

A method is put on an object past all checks. Where the definition of the same property is accepted
the outcome is the same, but for the length of an array that the definition makes greater. Where it
is refused, the object has the method all the same.
-/

namespace ScriptSandbox

namespace Heap

variable {h : Heap} {r : Ref} {k : Key} {p q : Property} {n : Nat}

/-- Storing a property without a check. -/
def store (h : Heap) (r : Ref) (k : Key) (p : Property) : Heap :=
  h.put r ((h.cell r).withProperty k p)

end Heap

namespace Exec

variable {m : Machine} {r : Ref}

section Sample

end Sample

end Exec

end ScriptSandbox
