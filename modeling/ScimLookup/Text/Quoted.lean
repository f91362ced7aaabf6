import ScimLookup.Bytes.Percent
import ScimLookup.Text.Printable

/-!
# Quoted text

A text between quotation marks, for people to read. The quotation mark and the backslash stand
behind a backslash, some controls have letters, and every other character that is not printable is
given by its number in braces. Bytes are shown as the text that they are, where they are one.
-/

set_option autoImplicit false

namespace ScimLookup.Text

/-- The hexadecimal number of a character in braces. -/
def numbered (c : Char) : List Char :=
  ['\\', 'u', '\x7b'] ++ Nat.toDigits 16 c.toNat ++ ['\x7d']

/-- How a character is shown between quotation marks. -/
def showChar (c : Char) : List Char :=
  if c = '\x00' then ['\\', '0']
  else if c = '\t' then ['\\', 't']
  else if c = '\n' then ['\\', 'n']
  else if c = '\x0d' then ['\\', 'r']
  else if c = '\x22' ∨ c = '\\' then ['\\', c]
  else if isPrintable c then [c]
  else numbered c

/-- The text between quotation marks. -/
def quoted (s : String) : String :=
  .ofList ('\x22' :: (s.toList.flatMap showChar ++ ['\x22']))

/-- How a part of a byte sequence is shown: a character as in a text, except that the apostrophe
stands behind a backslash too, and a byte that belongs to no character by its two digits. -/
def showPart : Char ⊕ UInt8 → List Char
  | .inl c => if c = '\x27' then ['\\', c] else showChar c
  | .inr b => ['\\', 'x', Percent.hexDigit (b.toNat / 16), Percent.hexDigit (b.toNat % 16)]

/-- Bytes between quotation marks. -/
def quotedBytes (bs : Bytes) : String :=
  .ofList ('\x22' :: ((Utf8.parts bs).flatMap showPart ++ ['\x22']))

/-- Texts between quotation marks, in brackets. -/
def quotedList (ss : List String) : String :=
  "[" ++ ", ".intercalate (ss.map quoted) ++ "]"

end ScimLookup.Text
