import ScriptSandbox.Realm.Basic
import ScriptSandbox.Text.Units

/-! # Creating objects

The objects that a realm makes: plain ones, arrays, arguments, functions, packages, boxes and
errors.
-/

namespace ScriptSandbox.Exec

def createObject : Exec Ref := do alloc { prototype := (← intrinsics).objectPrototype }

/-- A plain object with a prototype of one's own choice. -/
def createWithPrototype (target : Option Ref) : Exec Ref := alloc { prototype := target }

/-- A plain object with properties as assignments create them. -/
def createObjectFrom (entries : List (String × Value)) : Exec Ref := do
  alloc {
    prototype := (← intrinsics).objectPrototype
    properties := PropertyTable.insertAll .empty
      (entries.map fun e => (.ofString e.1, .assigned e.2)) }

/-- Elements under the indices from zero on, counted with 32 bits, and behind them a length. -/
def elementTable (elements : List Property) (length : Property) : PropertyTable :=
  PropertyTable.insertAll .empty
    ((elements.zipIdx.map fun e => (Key.ofNat (e.2 % (maxLength + 1)), e.1)) ++ [(.length, length)])

def createArray (elements : List Value) : Exec Ref := do
  alloc {
    prototype := (← intrinsics).arrayPrototype
    properties := elementTable (elements.map .assigned) ⟨.ofNat elements.length, true, false, false⟩
    kind := .array }

def createArguments (elements : List Value) : Exec Ref := do
  alloc {
    prototype := (← intrinsics).objectPrototype
    properties := elementTable (elements.map .assigned) (.hidden (.ofNat elements.length))
    kind := .arguments }

def createFunction (name : String) (routine : Routine) (arity : Nat) : Exec Ref := do
  alloc {
    prototype := (← intrinsics).functionPrototype
    properties := PropertyTable.insertAll .empty [
      (.name "name", ⟨.string name, false, false, true⟩),
      (.length, ⟨.ofNat arity, false, false, true⟩)]
    kind := .function ⟨name, routine, arity⟩ }

/-- Puts a function on an object without a check: neither the level of the object nor a property
that is there is looked at, and the length of an array is not kept up. -/
def registerMethod (r : Ref) (name : String) (routine : Routine) (arity : Nat) : Exec Unit := do
  let f ← createFunction name routine arity
  modifyCell r (·.withProperty (.ofString name) (.hidden (.object f)))

/-- The object for a path of host names, empty for the root. -/
def createPackage (path : String) : Exec Ref := do
  alloc { prototype := (← intrinsics).objectPrototype, kind := .hostPackage path }

/-- A boxed text, with a read-only property for each of its units. -/
def boxString (s : String) : Exec Ref := do
  let units := Text.units s
  let unit := fun c : Char => (⟨.string (String.singleton c), false, true, false⟩ : Property)
  alloc {
    prototype := (← intrinsics).stringPrototype
    properties := elementTable (units.map unit) ⟨.ofNat units.length, false, false, false⟩
    kind := .string s }

/-- The box of a primitive. An object is its own box, and what cannot be boxed gives a plain
object. -/
def box : Value → Exec Ref
  | .object r => return r
  | .string s => boxString s
  | .number x => do alloc { prototype := (← intrinsics).numberPrototype, kind := .number x }
  | .boolean b => do alloc { prototype := (← intrinsics).booleanPrototype, kind := .boolean b }
  | .undefined | .null => createObject

/-- The object of a value, which undefined and null do not have. -/
def toObject (v : Value) : Exec Ref :=
  if v.isNullish then failType (.notConvertible v.primitiveText) else box v

/-- An error object. Its name is its own, and so is a message that is not empty. -/
def createError (kind : ErrorKind) (message : String) : Exec Ref := do
  let named := PropertyTable.insertAll .empty [(.name "name", .hidden (.string kind.name))]
  alloc {
    prototype := (← intrinsics).errorPrototype kind
    properties :=
      if message = "" then named else named.insert (.name "message") (.hidden (.string message))
    kind := .error }

/-- An error object for a failure, with the host type that the failure is about. -/
def createFailure (f : Failure) : Exec Ref := do
  let r ← createError f.kind (← look (·.message f))
  match f.typeName? with
  | some name => modifyCell r (·.withProperty (.name "typeName") (.hidden (.string name)))
  | none => pure ()
  return r

/-- The value that a failure becomes once it is caught. -/
def caught : Failure → Exec Value
  | .thrown v => return v
  | f => return .object (← createFailure f)

end ScriptSandbox.Exec
