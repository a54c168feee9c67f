import ScriptSandbox.Failure
import ScriptSandbox.Heap.Basic

/-! # Prototype links

An extensible object may be linked to another prototype, as long as it does not come to inherit from
itself.
-/

namespace ScriptSandbox.Heap

/-- Whether an object has another one on the chain of its prototypes. -/
def inherits (h : Heap) (r ancestor : Ref) : Bool := ancestor ∈ h.chain (h.prototype r)

/-- Links an object to a prototype. The link it has already is always accepted. -/
def relink (h : Heap) (r : Ref) (target : Option Ref) : Except Failure Unit × Heap :=
  let c := h.cell r
  if target = c.prototype then (.ok (), h)
  else if r ∈ h.chain target then (.error (.type .cyclicPrototype), h)
  else if c.isExtensible then (.ok (), h.put r { c with prototype := target })
  else (.error (.type (.fixedPrototype r)), h)

end ScriptSandbox.Heap
