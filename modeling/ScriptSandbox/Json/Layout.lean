import ScriptSandbox.Json.Basic

/-! # Layout of JSON

Every item and every member has a line of its own, two blanks further in than the line that opens
the array or object. Empty arrays and objects are written on one line.
-/

namespace ScriptSandbox.Json

/-- The sixteen hexadecimal digits. -/
def hexDigit (n : Nat) : Char := Nat.digitChar (n % 16)

/-- An escape by the four digits of a code unit. -/
def unitEscape (n : Nat) : List Char :=
  ['\\', 'u', hexDigit (n / 0x1000), hexDigit (n / 0x100), hexDigit (n / 0x10), hexDigit n]

/-- A code point inside quotes. What is no control, quote, backslash or half stands for itself. -/
def writePoint (n : Nat) : List Char :=
  if n = 0x22 then ['\\', '"']
  else if n = 0x5C then ['\\', '\\']
  else if n = 0x08 then ['\\', 'b']
  else if n = 0x0C then ['\\', 'f']
  else if n = 0x0A then ['\\', 'n']
  else if n = 0x0D then ['\\', 'r']
  else if n = 0x09 then ['\\', 't']
  else if n < 0x20 ∨ isHighHalf n ∨ isLowHalf n then unitEscape n
  else [Char.ofNat n]

def writeText (points : List Nat) : List Char := '"' :: (points.flatMap writePoint ++ ['"'])

/-- The start of a line. -/
def newLine (depth : Nat) : List Char := '\n' :: List.replicate (2 * depth) ' '

mutual

/-- The value as it is written inside `depth` arrays and objects. -/
def write (depth : Nat) : Json → List Char
  | null => "null".toList
  | bool true => "true".toList
  | bool false => "false".toList
  | number digits => digits
  | text points => writeText points
  | array [] => ['[', ']']
  | array (j :: items) =>
    '[' :: (newLine (depth + 1) ++ write (depth + 1) j ++ writeItems (depth + 1) items ++
      newLine depth ++ [']'])
  | object [] => ['{', '}']
  | object (m :: members) =>
    '{' :: (newLine (depth + 1) ++ writeMember (depth + 1) m ++
      writeMembers (depth + 1) members ++ newLine depth ++ ['}'])

/-- The items behind the first one, each behind a comma. -/
def writeItems (depth : Nat) : List Json → List Char
  | [] => []
  | j :: items => ',' :: (newLine depth ++ write depth j ++ writeItems depth items)

def writeMember (depth : Nat) : List Nat × Json → List Char
  | (name, j) => writeText name ++ ':' :: ' ' :: write depth j

def writeMembers (depth : Nat) : List (List Nat × Json) → List Char
  | [] => []
  | m :: members => ',' :: (newLine depth ++ writeMember depth m ++ writeMembers depth members)

end

/-- The value on lines of its own. -/
def pretty (j : Json) : String := String.ofList (write 0 j)

end ScriptSandbox.Json
