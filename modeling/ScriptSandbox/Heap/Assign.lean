import ScriptSandbox.Heap.Define
import ScriptSandbox.WriteMode

/-! # Assigning and deleting properties

An assignment changes an own property or creates one, unless the nearest property it would hide is
read-only. Deleting a property that is not there succeeds.
-/

namespace ScriptSandbox

/-- Removes an own property. -/
def Cell.delete (c : Cell) (k : Key) : Except Failure Unit × Cell :=
  if (c.properties.get? k).all Property.configurable then
    (.ok (), { c with properties := c.properties.erase k })
  else (.error (.notConfigurable k), c)

namespace Heap

/-- Writes to an own property of a cell, creating it where it is missing. -/
def assignIn (h : Heap) (c : Cell) (k : Key) (v : Value) : Except Failure Unit × Cell :=
  match c.properties.get? k with
  | none => h.add c k (.assigned v)
  | some p =>
    if ¬p.writable then (.error (.frozenWrite k), c)
    else if c.isArray ∧ k = .length then
      match h.arrayLength? v with
      | none => (.error .invalidLength, c)
      | some n => h.resize c n false
    else (.ok (), { c with properties := c.properties.modify k ({ · with value := v }) })

/-- Whether an inherited property keeps an assignment from creating an own one. -/
def isShielded (h : Heap) (r : Ref) (k : Key) : Bool :=
  (h.own? r k).isNone ∧ (h.findFrom (h.prototype r) k).any (¬·.writable)

/-- The assignment before the write mode has its say. -/
def assign (h : Heap) (r : Ref) (k : Key) (v : Value) : Except Failure Unit × Heap :=
  if h.isShielded r k then (.error (.frozenWrite k), h)
  else h.changeCell r (h.assignIn · k v)

def set (h : Heap) (r : Ref) (k : Key) (v : Value) (mode : WriteMode) :
    Except Failure Bool × Heap :=
  let (result, h) := h.assign r k v
  (mode.settle result, h)

def delete (h : Heap) (r : Ref) (k : Key) (mode : WriteMode) : Except Failure Bool × Heap :=
  let (result, h) := h.changeCell r (·.delete k)
  (mode.settle result, h)

end Heap

end ScriptSandbox
