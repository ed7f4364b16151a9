import PenScript.Text.Extending
import PenScript.Text.Unprintable

/-!
# Texts in double quotes

`quoted` writes a text so that every character of it shows: the quote, the backslash and the usual
controls have a backslash form, and a character that prints nothing or joins the one before it is
written by its code point.
-/

namespace PenScript.Text

/-- Whether the character shows on its own. -/
def isVisible (c : Char) : Bool :=
  let n := c.toNat
  if n < 0x80 then 0x20 ≤ n && n < 0x7f else !extending.contains n && !unprintable.contains n

/-- The code point of a character in hexadecimal, as an escape. -/
def codeEscape (c : Char) : List Char :=
  "\\u\x7b".toList ++ Nat.toDigits 16 c.toNat ++ "\x7d".toList

/-- A character as it stands between quotes. -/
def quotedChar (c : Char) : List Char :=
  if c = '\x00' then ['\\', '0']
  else if c = '\t' then ['\\', 't']
  else if c = '\r' then ['\\', 'r']
  else if c = '\n' then ['\\', 'n']
  else if c = '\\' || c = '\x22' then ['\\', c]
  else if isVisible c then [c]
  else codeEscape c

/-- The text in quotes. -/
def quoted (s : String) : String :=
  String.ofList ('\x22' :: s.toList.flatMap quotedChar ++ ['\x22'])

end PenScript.Text
