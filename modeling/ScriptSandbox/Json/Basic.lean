/-! # JSON values

Objects keep their members in the written order, repeated names included. A text is kept as its code
points, since an escape can write half of a surrogate pair alone; only where both halves stand
together does it name characters.
-/

namespace ScriptSandbox

inductive Json where
  | null
  | bool (b : Bool)
  /-- A number as it is written. -/
  | number (digits : List Char)
  | text (points : List Nat)
  | array (items : List Json)
  | object (members : List (List Nat × Json))

namespace Json

def isHighHalf (n : Nat) : Bool := 0xD800 ≤ n ∧ n ≤ 0xDBFF

def isLowHalf (n : Nat) : Bool := 0xDC00 ≤ n ∧ n ≤ 0xDFFF

/-- The character of two halves. -/
def joinHalves (high low : Nat) : Char :=
  Char.ofNat (0x10000 + (high - 0xD800) * 0x400 + (low - 0xDC00))

/-- The characters that code points name, when every half has its other half next to it. -/
def charsOf? : List Nat → Option (List Char)
  | [] => some []
  | [n] => if isHighHalf n ∨ isLowHalf n then none else some [Char.ofNat n]
  | m :: n :: rest =>
    if isHighHalf m ∧ isLowHalf n then (charsOf? rest).map (joinHalves m n :: ·)
    else if isHighHalf m ∨ isLowHalf m then none
    else (charsOf? (n :: rest)).map (Char.ofNat m :: ·)

def stringOf? (points : List Nat) : Option String := (charsOf? points).map String.ofList

def pointsOf (s : String) : List Nat := s.toList.map Char.toNat

def ofString (s : String) : Json := .text (pointsOf s)

def bool? : Json → Option Bool
  | bool b => some b
  | _ => none

def string? : Json → Option String
  | text points => stringOf? points
  | _ => none

/-- The elements of an array, each read in the same way. -/
def list? {α : Type} (read : Json → Option α) : Json → Option (List α)
  | array items => items.mapM read
  | _ => none

/-- The members of a record whose fields have the given names: those of an object, where each known
name stands at most once and unknown ones are passed over, or the leading fields as an array. -/
def record? (names : List String) : Json → Option (List (String × Json))
  | array items => if items.length ≤ names.length then some (names.zip items) else none
  | object members => do
    let named ← members.mapM fun m => (stringOf? m.1).map (·, m.2)
    let known := named.filter (·.1 ∈ names)
    if (known.map Prod.fst).Nodup then some known else none
  | _ => none

/-- A field of a record, and a value for when it is left out. -/
def fieldOr {α : Type} (fields : List (String × Json)) (name : String) (read : Json → Option α)
    (missing : α) : Option α :=
  match fields.lookup name with
  | some j => read j
  | none => some missing

/-- A field that a record must have. -/
def field? {α : Type} (fields : List (String × Json)) (name : String) (read : Json → Option α) :
    Option α :=
  (fields.lookup name).bind read

end Json

end ScriptSandbox
