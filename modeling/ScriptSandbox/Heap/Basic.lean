import ScriptSandbox.Cell

/-! # The heap

Objects are cells in a heap, and references are places in it. An object inherits the properties of
the objects on its prototype chain, the nearest first.
-/

namespace ScriptSandbox

structure Heap where
  cells : Array Cell := #[]

namespace Heap

def size (h : Heap) : Nat := h.cells.size

def cell (h : Heap) (r : Ref) : Cell := h.cells.getD r.id {}

/-- Adds an object. -/
def alloc (h : Heap) (c : Cell) : Ref × Heap := (⟨h.size⟩, ⟨h.cells.push c⟩)

/-- Puts a cell in the place of an object. -/
def put (h : Heap) (r : Ref) (c : Cell) : Heap := ⟨h.cells.setIfInBounds r.id c⟩

@[simp] theorem size_put (h : Heap) (r : Ref) (c : Cell) : (h.put r c).size = h.size := by
  simp [size, put]

@[simp] theorem size_alloc (h : Heap) (c : Cell) : (h.alloc c).2.size = h.size + 1 := by
  simp [size, alloc]

theorem cell_put_self {h : Heap} {r : Ref} (hr : r.id < h.size) (c : Cell) :
    (h.put r c).cell r = c := by
  simp only [size] at hr
  simp [cell, put, Array.getD_eq_getD_getElem?, hr]

theorem cell_put_of_ne {r s : Ref} (hne : s ≠ r) (h : Heap) (c : Cell) :
    (h.put r c).cell s = h.cell s := by
  have : r.id ≠ s.id := fun e => hne (by cases r; cases s; simp_all)
  simp [cell, put, Array.getD_eq_getD_getElem?, Array.getElem?_setIfInBounds_ne this]

/-- A new object has the cell it was made with. -/
theorem cell_alloc_self (h : Heap) (c : Cell) : (h.alloc c).2.cell (h.alloc c).1 = c := by
  simp [cell, alloc, size, Array.getD_eq_getD_getElem?]

/-- A new object changes no other. -/
theorem cell_alloc_of_lt {h : Heap} {r : Ref} (hr : r.id < h.size) (c : Cell) :
    (h.alloc c).2.cell r = h.cell r := by
  simp only [size] at hr
  simp [cell, alloc, Array.getD_eq_getD_getElem?, Array.getElem?_push, Nat.ne_of_lt hr]

def kind (h : Heap) (r : Ref) : Kind := (h.cell r).kind

def prototype (h : Heap) (r : Ref) : Option Ref := (h.cell r).prototype

/-- At most so many objects along prototype links. -/
def walk (h : Heap) : Nat → Option Ref → List Ref
  | n + 1, some r => r :: h.walk n (h.prototype r)
  | _, _ => []

/-- An object with all it inherits from, the nearest first. A chain without a cycle meets every cell
at most once, so the size of the heap bounds it. -/
def chain (h : Heap) (start : Option Ref) : List Ref := h.walk h.size start

def own? (h : Heap) (r : Ref) (k : Key) : Option Property := (h.cell r).properties.get? k

/-- The nearest property of a key on a chain. -/
def findFrom (h : Heap) (start : Option Ref) (k : Key) : Option Property :=
  (h.chain start).findSome? (h.own? · k)

/-- The own or else the nearest inherited property. -/
def find? (h : Heap) (r : Ref) (k : Key) : Option Property := h.findFrom (some r) k

/-- The own or inherited value, undefined where there is none. -/
def get (h : Heap) (r : Ref) (k : Key) : Value :=
  match h.find? r k with
  | some p => p.value
  | none => .undefined

end Heap

end ScriptSandbox
