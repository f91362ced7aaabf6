import ScimLookup.Bytes.Percent
import ScimLookup.Number.Decimal

/-!
# Reading positions

A YAML text is read character by character from a position that knows its line, its column and how
many bytes are behind it. Columns count characters. Blanks are spaces and tabs. Lines are ended by a
carriage return, a line feed or both, and by the three line ends beyond ASCII; those of the first
kinds and the next line character read as a line feed, the separators of lines and paragraphs as
themselves.
-/

set_option autoImplicit false

namespace ScimLookup.Yaml

/-! ## Characters -/

/-- A space or a tab. -/
def isBlank (c : Char) : Bool :=
  c == ' ' || c == '\t'

/-- The end of a line. -/
def isBreak (c : Char) : Bool :=
  c == '\n' || c == '\x0d' || c == '\u0085' || c == '\u2028' || c == '\u2029'

/-- A blank or the end of a line. -/
def isGap (c : Char) : Bool :=
  isBlank c || isBreak c

/-- A character of a name. -/
def isNameChar (c : Char) : Bool :=
  c.isAlphanum || c == '_' || c == '-'

/-- A character that opens and closes collections on one line. -/
def isBracket (c : Char) : Bool :=
  c == '[' || c == ']' || c == '\x7b' || c == '\x7d'

/-- A character that a text may hold at all. -/
def isAllowed (c : Char) : Bool :=
  let n := c.toNat
  n == 9 || n == 10 || n == 13 || decide (0x20 ≤ n ∧ n ≤ 0x7E) || n == 0x85 ||
    decide (0xA0 ≤ n ∧ n ≤ 0xFFFD) || decide (0x10000 ≤ n)

/-- The mark of the order of bytes, which may stand before a line. -/
def byteOrderMark : Char := '\ufeff'

/-! ## Positions -/

/-- A position in a text: what follows, and where that is. -/
structure Cursor where
  rest : List Char
  line : Nat
  column : Nat
  /-- The number of bytes before the position. -/
  index : Nat
deriving Repr

namespace Cursor

/-- The start of a text. -/
def start (cs : List Char) : Cursor := ⟨cs, 0, 0, 0⟩

/-- The next character. -/
def peek (c : Cursor) : Option Char :=
  c.rest.head?

/-- The character `n` behind the next one. -/
def peekAt (c : Cursor) (n : Nat) : Option Char :=
  c.rest[n]?

/-- The next character is the given one. -/
def sees (c : Cursor) (x : Char) : Bool :=
  c.peek == some x

/-- The next characters are the given ones. -/
def seesAll (c : Cursor) (xs : List Char) : Bool :=
  xs.isPrefixOf c.rest

/-- Nothing follows. -/
def atEnd (c : Cursor) : Bool :=
  c.rest.isEmpty

/-- A blank, the end of a line or the end of the text is `n` behind the next character. -/
def gapAt (c : Cursor) (n : Nat) : Bool :=
  match c.peekAt n with
  | none => true
  | some x => isGap x

/-- The end of a line or of the text follows. -/
def atLineEnd (c : Cursor) : Bool :=
  match c.peek with
  | none => true
  | some x => isBreak x

/-- The next character satisfies `p`. -/
def seesSome (c : Cursor) (p : Char → Bool) : Bool :=
  match c.peek with
  | none => false
  | some x => p x

/-- The position `n` characters on, on the same line. -/
def skip (c : Cursor) (n : Nat) : Cursor :=
  ⟨c.rest.drop n, c.line, c.column + n,
    (c.rest.take n).foldl (fun index x => index + x.utf8Size) c.index⟩

/-- The position behind the end of the line. -/
def skipBreak (c : Cursor) : Cursor :=
  match c.rest with
  | '\x0d' :: '\n' :: cs => ⟨cs, c.line + 1, 0, c.index + 2⟩
  | x :: cs => ⟨cs, c.line + 1, 0, c.index + x.utf8Size⟩
  | [] => c

/-- What the end of the line reads as. -/
def breakText (c : Cursor) : List Char :=
  match c.peek with
  | some x => if x == '\u2028' || x == '\u2029' then [x] else if isBreak x then ['\n'] else []
  | none => []

/-- The longest run of characters of `p`, which holds no end of a line, and the position behind. -/
def span (c : Cursor) (p : Char → Bool) : List Char × Cursor :=
  let run := c.rest.takeWhile p
  (run, c.skip run.length)

/-- The position behind blanks. -/
def skipBlanks (c : Cursor) : Cursor :=
  (c.span isBlank).2

/-- The position at the end of the line. -/
def skipLine (c : Cursor) : Cursor :=
  (c.span (!isBreak ·)).2

/-- The position behind blanks, a comment and the end of the line, where nothing else is. -/
def finishLine? (c : Cursor) : Option Cursor :=
  let c := c.skipBlanks
  let c := if c.sees '#' then c.skipLine else c
  if !c.atLineEnd then none else if c.atEnd then some c else some c.skipBreak

/-- A line of three dashes or dots starts here. -/
def atMarker (c : Cursor) (x : Char) : Bool :=
  c.column == 0 && c.seesAll [x, x, x] && c.gapAt 3

/-- A line that starts or ends a document starts here. -/
def atDocumentMarker (c : Cursor) : Bool :=
  c.atMarker '-' || c.atMarker '.'

end Cursor

end ScimLookup.Yaml
