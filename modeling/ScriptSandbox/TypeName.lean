import ScriptSandbox.Text.Alphanumeric

/-! # Names of host types

A qualified name is a list of segments joined by dots; a segment is a nonempty run of letters,
digits, `_` and `$`. The segment behind the last dot is the short name, what stands before it the
package.
-/

namespace ScriptSandbox.TypeName

def isNameChar (c : Char) : Bool := Text.isAlphanumeric c ∨ c = '_' ∨ c = '$'

def isSegment (cs : List Char) : Bool := cs ≠ [] ∧ cs.all isNameChar

/-- The pieces between dots, of which there is always one. -/
def segments : List Char → List (List Char)
  | [] => [[]]
  | c :: cs =>
    if c = '.' then [] :: segments cs
    else
      match segments cs with
      | [] => [[c]]
      | s :: rest => (c :: s) :: rest

/-- Whether every piece of a name is a segment. -/
def isValid (name : String) : Bool := (segments name.toList).all isSegment

/-- The part behind the last dot. -/
def short (name : String) : String :=
  String.ofList (name.toList.reverse.takeWhile (· ≠ '.')).reverse

/-- The part before the last dot, empty without one. -/
def package (name : String) : String :=
  String.ofList ((name.toList.reverse.dropWhile (· ≠ '.')).drop 1).reverse

/-- A member of a package; the package without a name has the members as they are. -/
def member (path name : String) : String :=
  if path = "" then name else path ++ "." ++ name

end ScriptSandbox.TypeName
