import ScriptSandbox.Heap.Length

/-! # Defining properties

Definitions add a property to an extensible object or redefine one as far as its attributes allow.
For the length of an array they resize the array.
-/

namespace ScriptSandbox

/-- Changes an own property as far as it allows. -/
def Cell.redefine (c : Cell) (k : Key) (p : Property) (d : Descriptor) :
    Except Failure Unit × Cell :=
  if d.suits p then (.ok (), { c with properties := c.properties.modify k d.applyTo })
  else (.error (.notConfigurable k), c)

namespace Heap

/-- Runs a change of one cell on an object. A failed change may leave something behind. -/
def changeCell (h : Heap) (r : Ref) (f : Cell → Except Failure Unit × Cell) :
    Except Failure Unit × Heap :=
  let (result, c) := f (h.cell r)
  (result, h.put r c)

/-- Adds an own property that is not there. -/
def add (h : Heap) (c : Cell) (k : Key) (p : Property) : Except Failure Unit × Cell :=
  if c.isExtensible then
    match h.grow c k with
    | .ok c => (.ok (), c.withProperty k p)
    | .error f => (.error f, c)
  else (.error (.notExtensible k), c)

/-- Defines the length of an array. -/
def defineLength (h : Heap) (c : Cell) (d : Descriptor) : Except Failure Unit × Cell :=
  match c.properties.get? .length, d.value with
  | none, _ => (.error (.internal "array without length"), c)
  | some p, none => c.redefine .length p d
  | some p, some v =>
    match h.arrayLength? v with
    | none => (.error .invalidLength, c)
    | some n =>
      if { d with value := none }.suits p ∧ (p.writable ∨ n = h.storedLength c) then
        h.resize c n (d.writable = some false)
      else (.error (.notConfigurable .length), c)

/-- Defines an own property of a cell. -/
def defineIn (h : Heap) (c : Cell) (k : Key) (d : Descriptor) : Except Failure Unit × Cell :=
  if c.isArray ∧ k = .length then h.defineLength c d
  else
    match c.properties.get? k with
    | some p => c.redefine k p d
    | none => h.add c k d.toProperty

/-- Adds or redefines an own property. -/
def define (h : Heap) (r : Ref) (k : Key) (d : Descriptor) : Except Failure Unit × Heap :=
  h.changeCell r (h.defineIn · k d)

end Heap

end ScriptSandbox
