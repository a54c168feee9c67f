import ScriptSandbox.Failure
import ScriptSandbox.Heap.Basic
import ScriptSandbox.Number.Literal

/-! # Conversions of values

The number, the text and the property key of a value. A box converts like the primitive in it; other
objects are no numbers and have a text that their kind decides. Conversions come to an end but for
one: an array or an arguments object that is its own length has no text.
-/

namespace ScriptSandbox

namespace Value

/-- The number of a value that is no object. -/
def primitiveNumber : Value → Number
  | undefined => .nan
  | null => .zero
  | boolean b => if b then .ofNat 1 else .zero
  | number x => x
  | string s => .ofText s
  | object _ => .nan

/-- The text of a value that is no object. -/
def primitiveText : Value → String
  | undefined => "undefined"
  | null => "null"
  | boolean b => if b then "true" else "false"
  | number x => x.text
  | string s => s
  | object _ => ""

end Value

/-- The text of an error, by its own name and message. -/
def Cell.errorText (c : Cell) : String :=
  let name := (c.ownString? "name").getD "Error"
  let message := (c.ownString? "message").getD ""
  if message = "" then name else name ++ ": " ++ message

namespace Heap

def toNumber (h : Heap) : Value → Number
  | .object r => ((h.kind r).primitive?.map Value.primitiveNumber).getD .nan
  | v => v.primitiveNumber

/-- An array or an arguments object whose length is that object itself. What asks for the length
holds the object, and the number of the length waits until nobody holds it: that never comes to an
end. -/
def MeasuresItself (h : Heap) (r : Ref) : Prop :=
  (h.kind r = .array ∨ h.kind r = .arguments) ∧
    (h.own? r .length).map Property.value = some (.object r)

instance (h : Heap) : DecidablePred h.MeasuresItself := fun _ => instDecidableAnd

/-- The length of an array, of arguments or of a boxed text, by its own property of that name. Where
the object is its own length nothing is ever answered, and the zero stands for that. -/
def length? (h : Heap) (r : Ref) : Option Nat :=
  match h.kind r with
  | .array | .arguments | .string _ =>
    (h.own? r .length).map fun p => (h.toNumber p.value).clamp32
  | _ => none

/-- An element inside the text of an array: missing and nullish ones are empty, and objects are not
looked into. -/
def elementText (h : Heap) (r : Ref) (i : Nat) : String :=
  match h.own? r (.ofNat i) with
  | none => ""
  | some p =>
    if p.value.isNullish then ""
    else if p.value.isObject then "[object]"
    else p.value.primitiveText

/-- The text of an object. The empty one stands for the text of an object that is its own length,
which has none. -/
def objectText (h : Heap) (r : Ref) : String :=
  match h.kind r with
  | .ordinary => "[object Object]"
  | .array | .arguments =>
    ",".intercalate ((List.range ((h.length? r).getD 0)).map (h.elementText r))
  | .boolean b => (Value.boolean b).primitiveText
  | .number x => x.text
  | .string s => s
  | .error => (h.cell r).errorText
  | .function f => "function " ++ f.name ++ "() \x7b [native code] \x7d"
  | .hostType c => "[JavaClass " ++ c.name ++ "]"
  | .hostInstance c => "[object " ++ c.short ++ "]"
  | .hostPackage path => "[JavaPackage " ++ path ++ "]"

def text (h : Heap) : Value → String
  | .object r => h.objectText r
  | v => v.primitiveText

/-- The text of a value, if the conversion comes to an end. -/
def text? (h : Heap) : Value → Option String
  | .object r => if h.MeasuresItself r then none else some (h.objectText r)
  | v => some v.primitiveText

/-- The text of a value in which strings stand between quotes. -/
def inspect (h : Heap) : Value → String
  | .string s => "\"" ++ s ++ "\""
  | v => h.text v

/-- The property key of a value. -/
def toKey (h : Heap) : Value → Key
  | .number x => .ofNumber x
  | v => .ofString (h.text v)

def isCallable (h : Heap) : Value → Bool
  | .object r => (h.kind r).function?.isSome
  | _ => false

def typeOf (h : Heap) : Value → String
  | .undefined => "undefined"
  | .null => "object"
  | .boolean _ => "boolean"
  | .number _ => "number"
  | .string _ => "string"
  | .object r => if h.isCallable (.object r) then "function" else "object"

def message (h : Heap) (f : Failure) : String := f.message h.text

def report (h : Heap) (f : Failure) : String := f.report h.text

end Heap

end ScriptSandbox
