import ScriptSandbox.Json.Token

/-! # From tokens to JSON values

The arrays and objects that are still open lie on a stack, the innermost on top. A token is accepted
by what may stand next; a value that is complete goes into the innermost open one.
-/

namespace ScriptSandbox.Json

/-- An array or object that is not closed yet, its parts in reverse. -/
inductive Frame where
  | array (items : List Json)
  | object (members : List (List Nat × Json))
  /-- An object with a name that has no value yet. -/
  | member (members : List (List Nat × Json)) (name : List Nat)

/-- What may stand next. -/
inductive Expected where
  | value
  /-- The first item of an array, or its end. -/
  | firstItem
  /-- The first name of an object, or its end. -/
  | firstName
  | name
  | colon
  /-- A comma or the end of the innermost open array or object. -/
  | separator
  /-- Nothing more: the value is complete. -/
  | nothing (result : Json)

structure Parse where
  expected : Expected
  frames : List Frame

namespace Parse

def initial : Parse := ⟨.value, []⟩

/-- Puts a complete value where it belongs. -/
def deliver (j : Json) : List Frame → Option Parse
  | [] => some ⟨.nothing j, []⟩
  | .array items :: frames => some ⟨.separator, .array (j :: items) :: frames⟩
  | .member members name :: frames => some ⟨.separator, .object ((name, j) :: members) :: frames⟩
  | .object _ :: _ => none

/-- A token at the place of a value. -/
def value (frames : List Frame) : Token → Option Parse
  | .openArray => some ⟨.firstItem, .array [] :: frames⟩
  | .openObject => some ⟨.firstName, .object [] :: frames⟩
  | .scalar j => deliver j frames
  | _ => none

/-- A token at the place of a name. -/
def name : List Frame → Token → Option Parse
  | .object members :: frames, .scalar (.text points) =>
    some ⟨.colon, .member members points :: frames⟩
  | _, _ => none

/-- The end of an array or object, or a comma in it. -/
def separator : List Frame → Token → Option Parse
  | .array items :: frames, .closeArray => deliver (.array items.reverse) frames
  | .array items :: frames, .comma => some ⟨.value, .array items :: frames⟩
  | .object members :: frames, .closeObject => deliver (.object members.reverse) frames
  | .object members :: frames, .comma => some ⟨.name, .object members :: frames⟩
  | _, _ => none

def step (p : Parse) (t : Token) : Option Parse :=
  match p.expected, t with
  | .value, t => value p.frames t
  | .firstItem, .closeArray => separator p.frames .closeArray
  | .firstItem, t => value p.frames t
  | .firstName, .closeObject => separator p.frames .closeObject
  | .firstName, t => name p.frames t
  | .name, t => name p.frames t
  | .colon, .colon => some ⟨.value, p.frames⟩
  | .colon, _ => none
  | .separator, t => separator p.frames t
  | .nothing _, _ => none

def result? (p : Parse) : Option Json :=
  match p.expected with
  | .nothing j => some j
  | _ => none

end Parse

/-- The value that tokens write. -/
def ofTokens? (tokens : List Token) : Option Json :=
  (tokens.foldlM Parse.step Parse.initial).bind Parse.result?

/-- Reads a text that holds one value and nothing else. -/
def parse? (s : String) : Option Json := (Token.ofChars? s.toList).bind ofTokens?

end ScriptSandbox.Json
