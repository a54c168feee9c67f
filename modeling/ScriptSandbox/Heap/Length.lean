import ScriptSandbox.Heap.Conversion

/-! # Lengths of arrays

The length of an array grows with its indices, and cutting it back removes the elements past it. An
element that is not configurable stays, and keeps the length above itself.
-/

namespace ScriptSandbox

/-- A number as the length of an array: a natural of at most 32 bits. -/
def Number.arrayLength? (x : Number) : Option Nat := x.toNat?.filter (· ≤ maxLength)

namespace Heap

def arrayLength? (h : Heap) (v : Value) : Option Nat := (h.toNumber v).arrayLength?

/-- The length that a cell records, `0` without one. That of an array that is its own length is
never answered, and the zero stands for it. -/
def storedLength (h : Heap) (c : Cell) : Nat :=
  match c.properties.get? .length with
  | some p => (h.toNumber p.value).clamp32
  | none => 0

end Heap

namespace Cell

/-- Whether the length may change. -/
def lengthWritable (c : Cell) : Bool := (c.properties.get? .length).all Property.writable

/-- Records a length, if there is one to record. -/
def recordLength (c : Cell) (n : Nat) : Cell :=
  { c with properties := c.properties.modify .length ({ · with value := .ofNat n }) }

/-- Makes the length read-only. -/
def closeLength (c : Cell) : Cell :=
  { c with properties := c.properties.modify .length ({ · with writable := false }) }

def isRemovable (c : Cell) (i : ArrayIndex) : Bool :=
  (c.properties.get? (.index i)).any Property.configurable

/-- Removes elements. -/
def removeAll (c : Cell) (is : List ArrayIndex) : Cell :=
  { c with properties := is.foldl (fun t i => t.erase (.index i)) c.properties }

/-- Cuts an array back to a length: the elements past it go, from the last one down to the first
that is not removable, which is answered. -/
def cut (c : Cell) (n : Nat) : Cell × Option ArrayIndex :=
  let past := c.properties.indicesFrom n
  let stuck := (past.dropWhile c.isRemovable).head?
  let length := match stuck with
    | some i => i.val + 1
    | none => n
  ((c.removeAll (past.takeWhile c.isRemovable)).recordLength length, stuck)

end Cell

namespace Heap

/-- Makes room in an array for a key that is an index. -/
def grow (h : Heap) (c : Cell) (k : Key) : Except Failure Cell :=
  match k.index? with
  | none => .ok c
  | some i =>
    if ¬c.isArray ∨ i.val < h.storedLength c then .ok c
    else if c.lengthWritable then .ok (c.recordLength (i.val + 1))
    else .error (.frozenWrite .length)

/-- Gives an array a length, and on request makes the length read-only. -/
def resize (h : Heap) (c : Cell) (n : Nat) (close : Bool) : Except Failure Unit × Cell :=
  let (c, stuck) := if n < h.storedLength c then c.cut n else (c.recordLength n, none)
  let c := if close then c.closeLength else c
  match stuck with
  | some i => (.error (.notConfigurable (.index i)), c)
  | none => (.ok (), c)

end Heap

end ScriptSandbox
