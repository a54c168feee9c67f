import ScriptSandbox.Json.Basic

/-! # Tokens of JSON

A text is read character by character: each character completes tokens, and leaves the reader
between tokens, in a bare word or number, or at some place inside a quoted text.
-/

namespace ScriptSandbox.Json

inductive Token where
  | openArray
  | closeArray
  | openObject
  | closeObject
  | colon
  | comma
  /-- A value without parts. -/
  | scalar (j : Json)

namespace Token

def isSpace (c : Char) : Bool := c = ' ' ∨ c = '\t' ∨ c = '\n' ∨ c = '\r'

def mark? : Char → Option Token
  | '[' => some openArray
  | ']' => some closeArray
  | '{' => some openObject
  | '}' => some closeObject
  | ':' => some colon
  | ',' => some comma
  | _ => none

/-- What follows a nonempty run of digits. -/
def digits? (cs : List Char) : Option (List Char) :=
  match cs.span Char.isDigit with
  | ([], _) => none
  | (_, rest) => some rest

/-- What follows the whole part of a number, which has no leading zero. -/
def whole? : List Char → Option (List Char)
  | '0' :: rest => some rest
  | cs => digits? cs

/-- What follows a fraction, if there is one. -/
def fraction? : List Char → Option (List Char)
  | '.' :: cs => digits? cs
  | cs => some cs

/-- Whether an exponent, or nothing, is all that is left. -/
def isExponent : List Char → Bool
  | [] => true
  | mark :: cs =>
    let cs := match cs with
      | '+' :: cs => cs
      | '-' :: cs => cs
      | cs => cs
    (mark = 'e' ∨ mark = 'E') ∧ digits? cs = some []

def isNumber (cs : List Char) : Bool :=
  let unsigned := match cs with
    | '-' :: cs => cs
    | cs => cs
  match (whole? unsigned).bind fraction? with
  | some rest => isExponent rest
  | none => false

/-- The value of a bare run of characters. -/
def ofBare? (cs : List Char) : Option Token :=
  if cs = "null".toList then some (scalar .null)
  else if cs = "true".toList then some (scalar (.bool true))
  else if cs = "false".toList then some (scalar (.bool false))
  else if isNumber cs then some (scalar (.number cs))
  else none

/-- The code point of an escape of one character. -/
def escape? : Char → Option Nat
  | '"' => some 0x22
  | '\\' => some 0x5C
  | '/' => some 0x2F
  | 'b' => some 0x08
  | 'f' => some 0x0C
  | 'n' => some 0x0A
  | 'r' => some 0x0D
  | 't' => some 0x09
  | _ => none

def hexValue? (c : Char) : Option Nat :=
  if '0' ≤ c ∧ c ≤ '9' then some (c.toNat - '0'.toNat)
  else if 'a' ≤ c ∧ c ≤ 'f' then some (c.toNat - 'a'.toNat + 10)
  else if 'A' ≤ c ∧ c ≤ 'F' then some (c.toNat - 'A'.toNat + 10)
  else none

/-- Where the reader stands. What has been read of a token is kept in reverse. -/
inductive Place where
  | between
  | bare (run : List Char)
  | quoted (points : List Nat)
  /-- Behind a backslash. -/
  | escaped (points : List Nat)
  /-- Behind an escape for a code unit, with some of its four digits read. -/
  | unit (points : List Nat) (count value : Nat)

/-- The effect of a character between tokens. -/
def start (c : Char) : List Token × Place :=
  if isSpace c then ([], .between)
  else
    match mark? c with
    | some t => ([t], .between)
    | none => if c = '"' then ([], .quoted []) else ([], .bare [c])

def endsBare (c : Char) : Bool := isSpace c ∨ (mark? c).isSome ∨ c = '"'

/-- The tokens that a character completes, and the place behind it. -/
def step : Place → Char → Option (List Token × Place)
  | .between, c => some (start c)
  | .bare run, c =>
    if endsBare c then (ofBare? run.reverse).map fun t => (t :: (start c).1, (start c).2)
    else some ([], .bare (c :: run))
  | .quoted points, c =>
    if c = '"' then some ([scalar (.text points.reverse)], .between)
    else if c = '\\' then some ([], .escaped points)
    else if c.toNat < 0x20 then none
    else some ([], .quoted (c.toNat :: points))
  | .escaped points, c =>
    if c = 'u' then some ([], .unit points 0 0)
    else (escape? c).map fun n => ([], .quoted (n :: points))
  | .unit points count value, c =>
    (hexValue? c).map fun d =>
      if count = 3 then ([], .quoted ((16 * value + d) :: points))
      else ([], .unit points (count + 1) (16 * value + d))

/-- The tokens that the end of the text completes. -/
def finish : Place → Option (List Token)
  | .between => some []
  | .bare run => (ofBare? run.reverse).map ([·])
  | _ => none

/-- The tokens of a text that is read on from a place. -/
def readFrom : Place → List Char → Option (List Token)
  | place, [] => finish place
  | place, c :: cs => do
    let (tokens, next) ← step place c
    (tokens ++ ·) <$> readFrom next cs

def ofChars? (cs : List Char) : Option (List Token) := readFrom .between cs

end Token

end ScriptSandbox.Json
