import ScriptSandbox.Text.Combining
import ScriptSandbox.Text.Hidden

/-! # Quoted texts

A text between quotes, in which quotes, backslashes and characters that would not be seen, or would
attach to the one before, are written as escapes.
-/

namespace ScriptSandbox.Text

/-- The code point of a character in hexadecimal. -/
def codePointEscape (c : Char) : List Char :=
  '\\' :: 'u' :: '{' :: (Nat.toDigits 16 c.toNat ++ ['}'])

def escape (c : Char) : List Char :=
  if c = '"' then ['\\', '"']
  else if c = '\\' then ['\\', '\\']
  else if c = '\n' then ['\\', 'n']
  else if c = '\r' then ['\\', 'r']
  else if c = '\t' then ['\\', 't']
  else if c = '\x00' then ['\\', '0']
  else if isCombining c ∨ isHidden c then codePointEscape c
  else [c]

def quote (s : String) : String :=
  String.ofList ('"' :: (s.toList.flatMap escape ++ ['"']))

end ScriptSandbox.Text
