import ScriptSandbox.Number.Layout
import ScriptSandbox.Number.Numeral

/-! # Property keys

A key is an array index or a name. A text that is the decimal numeral of an index always becomes
that index, so a key and its text determine each other.
-/

namespace ScriptSandbox

/-- The greatest array length; indices lie below it. -/
def maxLength : Nat := 4294967295

abbrev ArrayIndex := Fin maxLength

inductive Key where
  | index (i : ArrayIndex)
  | name (s : String)
deriving DecidableEq

namespace Key

def length : Key := .name "length"

def index? : Key → Option ArrayIndex
  | index i => some i
  | name _ => none

def text : Key → String
  | index i => i.val.repr
  | name s => s

/-- The key that a text names. -/
def ofString (s : String) : Key :=
  match Numeral.parse? s.toList with
  | some n => if h : n < maxLength ∧ n.repr = s then .index ⟨n, h.1⟩ else .name s
  | none => .name s

/-- The key of a natural: an index while there is one of that value. -/
def ofNat (n : Nat) : Key :=
  if h : n < maxLength then .index ⟨n, h⟩ else .name n.repr

/-- The key of a number, read off its value where that is an index. -/
def ofNumber (x : Number) : Key :=
  match x.toNat? with
  | some n => if h : n < maxLength then .index ⟨n, h⟩ else .name x.text
  | none => .name x.text

end Key

end ScriptSandbox
