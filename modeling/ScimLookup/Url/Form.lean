import ScimLookup.Bytes.Percent
import ScimLookup.Text.Pieces

/-!
# Form encoding

Lists of name-value pairs as `application/x-www-form-urlencoded` text. Letters, digits and `*-._`
stand for themselves, a space is written `+`, and every other character is escaped byte by byte.
Pairs are joined by `&`. Reading splits at `&`, skips empty pieces, splits each piece at its first
`=`, and undoes the escapes; bytes that are no UTF-8 read as U+FFFD.
-/

set_option autoImplicit false

namespace ScimLookup.Form

/-! ## Writing -/

/-- The characters that stand for themselves. -/
def isPlain (c : Char) : Bool :=
  c.isAlphanum || c == '*' || c == '-' || c == '.' || c == '_'

/-- The written form of one character. -/
def encodeChar (c : Char) : List Char :=
  if isPlain c then [c]
  else if c = ' ' then ['+']
  else (String.utf8EncodeChar c).flatMap Percent.escape

/-- The written form of a name or a value. -/
def encodeText (s : String) : List Char :=
  s.toList.flatMap encodeChar

/-- The written form of one pair. -/
def encodePair (p : String × String) : List Char :=
  encodeText p.1 ++ '=' :: encodeText p.2

/-- The written form of a list of pairs. -/
def encode : List (String × String) → List Char
  | [] => []
  | [p] => encodePair p
  | p :: ps => encodePair p ++ '&' :: encode ps

/-- The form text of a list of pairs. -/
def render (ps : List (String × String)) : String :=
  .ofList (encode ps)

/-! ## Reading -/

/-- A name or a value from its written form. -/
def decodeText (cs : List Char) : String :=
  let spaced := cs.map fun c => if c = '+' then ' ' else c
  Utf8.toString (Percent.decode (Utf8.encode spaced))

/-- A pair from its written form; without `=` the value is empty. -/
def decodePair (cs : List Char) : String × String :=
  (decodeText (cs.takeWhile (· ≠ '=')), decodeText ((cs.dropWhile (· ≠ '=')).drop 1))

/-- The pairs of a form text. -/
def decode (cs : List Char) : List (String × String) :=
  ((Text.pieces '&' cs).filter fun piece => !piece.isEmpty).map decodePair

end ScimLookup.Form
