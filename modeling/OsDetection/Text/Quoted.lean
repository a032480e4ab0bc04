import OsDetection.Text.Printable

/-!
# Quoted text

Characters and texts taken from the input are quoted in messages so that none of them can be
mistaken or overlooked: usual escapes for the line-breaking controls and the backslash, a backslash
before the enclosing quotation mark only, and `\u` with the code point in braces for every other
character that is not printable.
-/

namespace OsDetection.Text

/-- The lower-case hexadecimal digits of a number, without leading zeros. -/
def hexDigits (n : Nat) : List Char :=
  Nat.toDigits 16 n

/-- A character by its code point: `\u` and the hexadecimal digits in braces. -/
def codePoint (c : Char) : List Char :=
  ['\\', 'u', '\x7b'] ++ hexDigits c.toNat ++ ['\x7d']

/-- How a character is written inside quotation marks `mark`. -/
def escape (mark c : Char) : List Char :=
  if c = '\x00' then ['\\', '0']
  else if c = '\t' then ['\\', 't']
  else if c = '\r' then ['\\', 'r']
  else if c = '\n' then ['\\', 'n']
  else if c = '\\' then ['\\', '\\']
  else if c = mark then ['\\', mark]
  else if isPrintable c then [c]
  else codePoint c

/-- A text between double quotation marks. -/
def quoted (text : String) : String :=
  String.ofList ('\"' :: text.toList.flatMap (escape '\"') ++ ['\"'])

/-- A character between single quotation marks. -/
def quotedChar (c : Char) : String :=
  String.ofList ('\'' :: escape '\'' c ++ ['\''])

end OsDetection.Text
