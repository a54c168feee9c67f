import ScriptSandbox.Realm.Creation

/-! # New realms

A new realm has a global object with the constructors and functions that scripts start out with, and
a package object for each of its package roots.
-/

namespace ScriptSandbox

namespace Intrinsics

/-- The intrinsics of a realm whose objects come into the heap next. All inherit from the prototype
of objects, the prototypes of the particular errors through that of all errors. -/
def allocate (h : Heap) : Intrinsics × Heap :=
  let (objectPrototype, h) := h.alloc {}
  let plain : Cell := { prototype := some objectPrototype }
  let (global, h) := h.alloc plain
  let (functionPrototype, h) := h.alloc plain
  let (arrayPrototype, h) := h.alloc plain
  let (stringPrototype, h) := h.alloc plain
  let (numberPrototype, h) := h.alloc plain
  let (booleanPrototype, h) := h.alloc plain
  let (error, h) := h.alloc plain
  let derived : Cell := { prototype := some error }
  let (typeError, h) := h.alloc derived
  let (rangeError, h) := h.alloc derived
  let (referenceError, h) := h.alloc derived
  let (securityError, h) := h.alloc derived
  let (classNotFoundError, h) := h.alloc derived
  let errorPrototype : ErrorKind → Ref
    | .error => error
    | .typeError => typeError
    | .rangeError => rangeError
    | .referenceError => referenceError
    | .securityError => securityError
    | .classNotFoundError => classNotFoundError
  ({ global, objectPrototype, functionPrototype, arrayPrototype, stringPrototype,
     numberPrototype, booleanPrototype, errorPrototype }, h)

end Intrinsics

namespace Exec

/-- Makes a constructor global, and ties it and its prototype to each other. -/
def installConstructor (name : String) (b : Builtin) (target : Ref) : Exec Ref := do
  let ctor ← createFunction name (.builtin b) 1
  modifyCell ctor (·.withProperty (.name "prototype") ⟨.object target, false, false, false⟩)
  modifyCell target (·.withProperty (.name "constructor") (.hidden (.object ctor)))
  modifyCell (← intrinsics).global (·.withProperty (.ofString name) (.hidden (.object ctor)))
  return ctor

/-- Puts several functions on an object. -/
def registerAll (r : Ref) : List (String × Builtin × Nat) → Exec Unit
  | [] => return
  | (name, b, arity) :: rest => do
    registerMethod r name (.builtin b) arity
    registerAll r rest

def installObject : Exec Unit := do
  let target := (← intrinsics).objectPrototype
  registerAll target
    [("hasOwnProperty", .hasOwnProperty, 1), ("toString", .toString, 0), ("valueOf", .valueOf, 0)]
  let ctor ← installConstructor "Object" .object target
  registerAll ctor [
    ("keys", .keys, 1),
    ("getOwnPropertyNames", .getOwnPropertyNames, 1),
    ("getOwnPropertyDescriptor", .getOwnPropertyDescriptor, 2),
    ("defineProperty", .defineProperty, 3),
    ("create", .create, 2),
    ("getPrototypeOf", .getPrototypeOf, 1),
    ("setPrototypeOf", .setPrototypeOf, 2),
    ("freeze", .freeze, 1),
    ("isFrozen", .isFrozen, 1),
    ("seal", .seal, 1),
    ("isSealed", .isSealed, 1),
    ("preventExtensions", .preventExtensions, 1),
    ("isExtensible", .isExtensible, 1)]

def installArray : Exec Unit := do
  let target := (← intrinsics).arrayPrototype
  registerAll target [("push", .push, 1)]
  let ctor ← installConstructor "Array" .array target
  registerAll ctor [("isArray", .isArray, 1)]

def installBoxes : Exec Unit := do
  let own ← intrinsics
  registerAll own.stringPrototype [("toString", .stringValue, 0), ("valueOf", .stringValue, 0)]
  discard (installConstructor "String" .string own.stringPrototype)
  registerAll own.numberPrototype [("valueOf", .numberValue, 0)]
  discard (installConstructor "Number" .number own.numberPrototype)
  registerAll own.booleanPrototype [("valueOf", .booleanValue, 0)]
  discard (installConstructor "Boolean" .boolean own.booleanPrototype)

def installErrorKinds : List ErrorKind → Exec Unit
  | [] => return
  | kind :: rest => do
    let target := (← intrinsics).errorPrototype kind
    modifyCell target (·.withProperty (.name "name") (.hidden (.string kind.name)))
    modifyCell target (·.withProperty (.name "message") (.hidden (.string "")))
    discard (installConstructor kind.name (.error kind) target)
    installErrorKinds rest

def installErrors : Exec Unit := do
  installErrorKinds ErrorKind.all
  registerAll ((← intrinsics).errorPrototype .error) [("toString", .errorText, 0)]

/-- Makes package objects global under the names of their paths. -/
def installRoots : List String → Exec Unit
  | [] => return
  | root :: rest => do
    let r ← createPackage root
    modifyCell (← intrinsics).global (·.withProperty (.ofString root) (.hidden (.object r)))
    installRoots rest

def installInterop : Exec Unit := do
  let global := (← intrinsics).global
  let access ← createObject
  registerAll access
    [("type", .hostType, 1), ("isType", .isHostType, 1), ("typeName", .hostTypeName, 1)]
  let packages ← createPackage ""
  modifyCell global (·.withProperty (.name "Java") (.hidden (.object access)))
  modifyCell global (·.withProperty (.name "Packages") (.hidden (.object packages)))
  installRoots (← realm).settings.packageRoots
  registerAll global [("importPackage", .importPackage, 1), ("importClass", .importClass, 1)]

/-- Furnishes a new realm. -/
def install : Exec Unit := do
  installObject
  installArray
  installBoxes
  installErrors
  installInterop

end Exec

end ScriptSandbox
