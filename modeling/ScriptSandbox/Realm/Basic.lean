import ScriptSandbox.Gate
import ScriptSandbox.Heap.Assign
import ScriptSandbox.Heap.Closing
import ScriptSandbox.Heap.Inherit
import ScriptSandbox.Settings

/-! # Realms

A realm is a global object with the objects that the engine itself uses, its settings, and its way
to host types. Its operations run on a machine: the heap, the realm, and the policy in force. A
failure keeps what was done before it.
-/

namespace ScriptSandbox

/-- The objects that the engine uses whatever becomes of the names scripts know them by. -/
structure Intrinsics where
  global : Ref
  objectPrototype : Ref
  functionPrototype : Ref
  arrayPrototype : Ref
  stringPrototype : Ref
  numberPrototype : Ref
  booleanPrototype : Ref
  errorPrototype : ErrorKind → Ref

structure Realm where
  intrinsics : Intrinsics
  settings : Settings
  gate : Gate
  /-- The packages to look through for free names, in the order of their import. -/
  imports : List String := []
  /-- The one object for each host type that was resolved. -/
  typeObjects : OrderedMap String Ref := .empty

def Realm.writeMode (r : Realm) : WriteMode := if r.settings.strict then .strict else .silent

structure Machine where
  heap : Heap
  realm : Realm
  policy : Policy

abbrev Exec := EStateM Failure Machine

namespace Exec

/-- Looks something up in the heap. -/
def look {α : Type} (f : Heap → α) : Exec α := return f (← get).heap

def realm : Exec Realm := return (← get).realm

def intrinsics : Exec Intrinsics := return (← get).realm.intrinsics

def writeMode : Exec WriteMode := return (← get).realm.writeMode

def modifyRealm (f : Realm → Realm) : Exec Unit :=
  modify fun m => { m with realm := f m.realm }

/-- Changes the policy in force. -/
def modifyPolicy (f : Policy → Policy) : Exec Unit :=
  modify fun m => { m with policy := f m.policy }

/-- Takes over a result. -/
def ofExcept {α : Type} : Except Failure α → Exec α
  | .ok a => pure a
  | .error f => throw f

/-- Runs a change of the heap, and takes over its result. -/
def change {α : Type} (f : Heap → Except Failure α × Heap) : Exec α := do
  let (result, h) := f (← get).heap
  modify fun m => { m with heap := h }
  ofExcept result

/-- Adds an object to the heap. -/
def alloc (c : Cell) : Exec Ref := do
  let (r, h) := (← get).heap.alloc c
  modify fun m => { m with heap := h }
  return r

/-- Replaces the cell of an object. -/
def modifyCell (r : Ref) (f : Cell → Cell) : Exec Unit :=
  modify fun m => { m with heap := m.heap.put r (f (m.heap.cell r)) }

def failType {α : Type} (fault : TypeFault) : Exec α := throw (.type fault)

/-- The text of a value. What is run goes on with the text that stands for the missing one if the
value has none. -/
def text (v : Value) : Exec String := look (·.text v)

end Exec

end ScriptSandbox
