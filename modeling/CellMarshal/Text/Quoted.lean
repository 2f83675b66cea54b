import CellMarshal.Text.Plain

/-!
# Quoted text

`quote` writes a text between double quotes so that nothing in it is invisible: the quote and the
backslash are preceded by a backslash, four controls have a letter of their own, and every other
character that is not plain is written by its code point in braces.
-/

namespace CellMarshal.Text

/-- The lower-case hexadecimal digits of a number, without leading zeros. -/
def hexDigits (n : Nat) : List Char :=
  Nat.toDigits 16 n

/-- A character by its code point: backslash, `u`, and the hexadecimal digits in braces. -/
def codePoint (c : Char) : List Char :=
  ['\\', 'u', '\x7b'] ++ hexDigits c.toNat ++ ['\x7d']

/-- How one character is written inside a quoted text. -/
def escapeChar (c : Char) : List Char :=
  if c = '\x00' then ['\\', '0']
  else if c = '\t' then ['\\', 't']
  else if c = '\n' then ['\\', 'n']
  else if c = '\r' then ['\\', 'r']
  else if c = '"' then ['\\', '"']
  else if c = '\\' then ['\\', '\\']
  else if isPlain c then [c]
  else codePoint c

/-- The text between double quotes, every character escaped where it needs to be. -/
def quote (s : String) : String :=
  String.ofList ('"' :: s.toList.flatMap escapeChar ++ ['"'])

example : quote "a\"b\\c\x7f" = "\"a\\\"b\\\\c\\u\x7b7f\x7d\"" := by decide +kernel

end CellMarshal.Text
