import ScimLookup.Yaml.Scalar

/-!
# Tokens

A YAML text as a list of tokens. In blocks the structure is in the columns: a deeper column opens a
collection, a smaller one closes all that are deeper. What comes before a colon turns out to be a
key only at the colon, so the scanner keeps one possible key for each level of brackets, with the
place in the list where it began; a key must fit on one line and into 1024 bytes. A possible key
that stands where a new entry of the current block must begin has to turn out to be one.

A mark of the order of bytes may stand before any line. It has a column, so it shifts its line.
-/

set_option autoImplicit false

namespace ScimLookup.Yaml

/-- How a scalar is written, as far as its meaning depends on it. -/
inductive Style where
  | plain
  | literal
  | marked
deriving DecidableEq, Repr

/-- A tag, or a part of one. Its escapes may spell any bytes. -/
abbrev Tag := Bytes

/-- A token. -/
inductive Token where
  | version (major minor : Nat)
  | tagRule (handle : String) (lead : Tag)
  | documentStart
  | documentEnd
  | blockList
  | blockMap
  | blockEnd
  | flowList
  | flowListEnd
  | flowMap
  | flowMapEnd
  | entry
  | comma
  | key
  | value
  | alias (name : String)
  | anchor (name : String)
  | tag (handle : String) (suffix : Tag)
  | scalar (text : String) (style : Style)
deriving DecidableEq, Repr

/-! ## The scanner -/

/-- What may turn out to be a key: where it began, and whether it must be one. -/
structure PossibleKey where
  required : Bool
  /-- The number of tokens before it. -/
  place : Nat
  line : Nat
  column : Nat
  index : Nat

/-- The state of the scanner. -/
structure Scanner where
  cursor : Cursor
  /-- The tokens so far, the last one first. -/
  tokens : List Token
  /-- The column of the current block, if there is one. -/
  indent : Option Nat
  /-- The columns of the blocks around it. -/
  outer : List (Option Nat)
  /-- The possible key of the current level of brackets. -/
  possible : Option PossibleKey
  /-- The possible keys of the levels around it. -/
  levels : List (Option PossibleKey)
  /-- A key may begin here. -/
  keyAllowed : Bool

namespace Scanner

/-- The scanner at the start of a text. -/
def start (cs : List Char) : Scanner :=
  ⟨.start cs, [], none, [], none, [], true⟩

/-- Inside brackets. -/
def inFlow (s : Scanner) : Bool :=
  !s.levels.isEmpty

/-- Add a token. -/
def push (s : Scanner) (t : Token) : Scanner :=
  { s with tokens := t :: s.tokens }

/-- Put a token behind the first `place` ones. -/
def insertAt (s : Scanner) (place : Nat) (t : Token) : Scanner :=
  let n := s.tokens.length - place
  { s with tokens := s.tokens.take n ++ t :: s.tokens.drop n }

/-- Go on by `n` characters. -/
def skip (s : Scanner) (n : Nat) : Scanner :=
  { s with cursor := s.cursor.skip n }

/-! ### Possible keys -/

/-- The longest key. -/
def longestKey : Nat := 1024

/-- A possible key is too far back. -/
def isStale (c : Cursor) (k : PossibleKey) : Bool :=
  decide (k.line < c.line) || decide (k.index + longestKey < c.index)

/-- A possible key as it is at the cursor: gone if it is too far back and need not be one. -/
def refreshed (c : Cursor) : Option PossibleKey → Option (Option PossibleKey)
  | none => some none
  | some k => if isStale c k then if k.required then none else some none else some (some k)

/-- Give up the possible keys that are too far back. -/
def dropStale (s : Scanner) : Option Scanner := do
  let possible ← refreshed s.cursor s.possible
  let levels ← s.levels.mapM (refreshed s.cursor)
  some { s with possible, levels }

/-- Give up the possible key of the current level. -/
def dropKey (s : Scanner) : Option Scanner :=
  match s.possible with
  | some k => if k.required then none else some { s with possible := none }
  | none => some s

/-- A key may begin with the next token. -/
def saveKey (s : Scanner) : Option Scanner :=
  if s.keyAllowed then do
    let s ← s.dropKey
    let c := s.cursor
    some { s with possible := some {
      required := !s.inFlow && s.indent == some c.column
      place := s.tokens.length, line := c.line, column := c.column, index := c.index } }
  else some s

/-! ### Blocks -/

/-- The column is deeper than that of the current block. -/
def isDeeper (s : Scanner) (column : Nat) : Bool :=
  match s.indent with
  | none => true
  | some i => decide (i < column)

/-- Open a block at a column, unless the current one is as deep; its token goes to `place`. -/
def openBlock (s : Scanner) (column place : Nat) (t : Token) : Scanner :=
  if s.inFlow || !s.isDeeper column then s
  else { s.insertAt place t with indent := some column, outer := s.indent :: s.outer }

/-- Close the blocks deeper than a column; `none` stands left of all columns. -/
def closeBlocks (column : Option Nat) : List (Option Nat) → Scanner → Scanner
  | [], s => s
  | i :: outer, s =>
    let deeper := match s.indent, column with
      | some i, some c => decide (c < i)
      | some _, none => true
      | none, _ => false
    if deeper then closeBlocks column outer { s.push .blockEnd with indent := i, outer } else s

/-- Close the blocks deeper than a column, outside brackets. -/
def unwind (s : Scanner) (column : Option Nat) : Scanner :=
  if s.inFlow then s else closeBlocks column s.outer s

/-! ### Blanks and comments -/

/-- The position of the next token, and whether a line was ended before it. The first argument
bounds the number of steps. -/
def readAhead (flow : Bool) : Nat → Bool → Cursor → Bool × Cursor
  | 0, allowed, c => (allowed, c)
  | fuel + 1, allowed, c =>
    let c := if c.column == 0 && c.sees byteOrderMark then c.skip 1 else c
    let c := (c.span fun x => x == ' ' || ((flow || !allowed) && x == '\t')).2
    let c := if c.sees '#' then c.skipLine else c
    if c.seesSome isBreak then readAhead flow fuel (allowed || !flow) c.skipBreak
    else (allowed, c)

/-- Go on to the next token. -/
def advance (s : Scanner) : Scanner :=
  let (allowed, cursor) := readAhead s.inFlow (s.cursor.rest.length + 1) s.keyAllowed s.cursor
  { s with cursor, keyAllowed := allowed }

/-! ### Directives -/

/-- A number of a directive: at most nine digits. -/
def directiveNumber? (c : Cursor) : Option (Nat × Cursor) :=
  let (ds, c) := c.span Decimal.isDigit
  if ds.isEmpty || ds.length > 9 then none else some (Decimal.value ds, c)

/-- A character of a tag; some only in places where lists cannot follow. -/
def isTagChar (wide : Bool) (x : Char) : Bool :=
  isNameChar x || [';', '/', '?', ':', '@', '&', '=', '+', '$', '.', '%', '!', '~', '*', '\x27',
    '(', ')'].contains x || (wide && (x == ',' || x == '[' || x == ']'))

/-- How many bytes a character takes that begins with a byte. -/
def width? (b : UInt8) : Option Nat :=
  let n := b.toNat
  if n < 0x80 then some 1
  else if 0xC0 ≤ n ∧ n < 0xE0 then some 2
  else if 0xE0 ≤ n ∧ n < 0xF0 then some 3
  else if 0xF0 ≤ n ∧ n < 0xF8 then some 4
  else none

/-- One escaped byte. -/
def escapedByte? : List Char → Option (UInt8 × List Char)
  | '%' :: a :: b :: cs => do
    let a ← Percent.hexValue? a.toNat
    let b ← Percent.hexValue? b.toNat
    some (UInt8.ofNat (a * 16 + b), cs)
  | _ => none

/-- The further bytes of an escaped character. -/
def escapedTail? : Nat → List Char → Option Bytes
  | 0, _ => some []
  | n + 1, cs => do
    let (b, cs) ← escapedByte? cs
    if b.toNat / 64 = 2 then (escapedTail? n cs).map (b :: ·) else none

/-- An escaped character: its bytes. -/
def escapedChar? (cs : List Char) : Option Bytes := do
  let (b, cs) ← escapedByte? cs
  let n ← width? b
  (escapedTail? (n - 1) cs).map (b :: ·)

/-- The text of a tag, with its escapes undone. The first argument bounds the number of characters.
-/
def readTagText (wide : Bool) : Nat → Bytes → Cursor → Option (Bytes × Cursor)
  | 0, acc, c => some (acc, c)
  | fuel + 1, acc, c =>
    match c.peek with
    | none => some (acc, c)
    | some '%' => do
      let bytes ← escapedChar? c.rest
      readTagText wide fuel (acc ++ bytes) (c.skip (3 * bytes.length))
    | some x =>
      if isTagChar wide x then readTagText wide fuel (acc ++ String.utf8EncodeChar x) (c.skip 1)
      else some (acc, c)

/-- The text of a tag behind a text that is there already; it is not empty unless `optional`. A
zero byte ends it, wherever the text goes on. -/
def tagText? (wide optional : Bool) (lead : List Char) (c : Cursor) : Option (Tag × Cursor) := do
  let (bytes, c) ← readTagText wide c.rest.length [] c
  if bytes.isEmpty && !optional then none
  else some (Utf8.encode lead ++ bytes.takeWhile (· != 0), c)

/-- A handle: a mark of exclamation, a name, and perhaps a second mark. -/
def handle? (c : Cursor) : Option (List Char × Cursor) :=
  if c.sees '!' then
    let (name, c) := (c.skip 1).span isNameChar
    if c.sees '!' then some ('!' :: (name ++ ['!']), c.skip 1) else some ('!' :: name, c)
  else none

/-- A directive behind its sign. -/
def directive? (c : Cursor) : Option (Token × Cursor) := do
  let (name, c) := c.span isNameChar
  if name.isEmpty || !c.gapAt 0 then none
  else if name = ['Y', 'A', 'M', 'L'] then do
    let (major, c) ← directiveNumber? c.skipBlanks
    if c.sees '.' then do
      let (minor, c) ← directiveNumber? (c.skip 1)
      some (.version major minor, ← c.finishLine?)
    else none
  else if name = ['T', 'A', 'G'] then do
    let (handle, c) ← handle? c.skipBlanks
    if (handle.length > 1 && handle.getLast? ≠ some '!') || !c.seesSome isBlank then none
    else do
      let (lead, c) ← tagText? true false [] c.skipBlanks
      if c.gapAt 0 then some (.tagRule (.ofList handle) lead, ← c.finishLine?) else none
  else none

/-! ### Properties of nodes -/

/-- The name of an anchor or an alias behind its sign. -/
def anchorName? (c : Cursor) : Option (String × Cursor) :=
  let (name, c) := (c.skip 1).span isNameChar
  let ended := match c.peek with
    | none => true
    | some x => isGap x || ['?', ':', ',', ']', '\x7d', '%', '@', '\x60'].contains x
  if name.isEmpty || !ended then none else some (.ofList name, c)

/-- A tag without regard to what follows. -/
def bareTag? (c : Cursor) : Option (Token × Cursor) :=
  if c.peekAt 1 == some '<' then do
    let (suffix, c) ← tagText? true false [] (c.skip 2)
    if c.sees '>' then some (.tag "" suffix, c.skip 1) else none
  else do
    let (handle, c) ← handle? c
    if handle.length > 1 && handle.getLast? = some '!' then do
      let (suffix, c) ← tagText? false false [] c
      some (.tag (.ofList handle) suffix, c)
    else do
      let (suffix, c) ← tagText? false true (handle.drop 1) c
      some (if suffix.isEmpty then .tag "" (Utf8.ofString "!") else .tag "!" suffix, c)

/-- A tag, with a blank behind it, or a comma inside brackets. -/
def tag? (flow : Bool) (c : Cursor) : Option (Token × Cursor) := do
  let (t, c) ← bareTag? c
  if (flow && c.sees ',') || c.gapAt 0 then some (t, c) else none

/-! ### One token -/

/-- Read a token that ends all blocks, with `t` behind it. -/
def atMargin (s : Scanner) : Option Scanner := do
  let s ← (s.unwind none).dropKey
  some { s with keyAllowed := false }

/-- Read an opening bracket. -/
def openFlow (s : Scanner) (t : Token) : Option Scanner := do
  let s ← s.saveKey
  some { (s.push t).skip 1 with
    possible := none, levels := s.possible :: s.levels, keyAllowed := true }

/-- Read a closing bracket. -/
def closeFlow (s : Scanner) (t : Token) : Option Scanner := do
  let s ← s.dropKey
  let s := { (s.push t).skip 1 with keyAllowed := false }
  match s.levels with
  | possible :: levels => some { s with possible, levels }
  | [] => some s

/-- Read a comma. -/
def readComma (s : Scanner) : Option Scanner := do
  let s ← s.dropKey
  some { (s.push .comma).skip 1 with keyAllowed := true }

/-- Read the sign of an entry of a list. -/
def readEntry (s : Scanner) : Option Scanner := do
  if !s.inFlow && !s.keyAllowed then none
  else
    let s := s.openBlock s.cursor.column s.tokens.length .blockList
    let s ← s.dropKey
    some { (s.push .entry).skip 1 with keyAllowed := true }

/-- Read the sign of a key. -/
def readKey (s : Scanner) : Option Scanner := do
  if !s.inFlow && !s.keyAllowed then none
  else
    let s := s.openBlock s.cursor.column s.tokens.length .blockMap
    let s ← s.dropKey
    some { (s.push .key).skip 1 with keyAllowed := !s.inFlow }

/-- Read the sign of a value. What may have been a key was one. -/
def readValue (s : Scanner) : Option Scanner :=
  match s.possible with
  | some k =>
    let s := (s.insertAt k.place .key).openBlock k.column k.place .blockMap
    some { (s.push .value).skip 1 with possible := none, keyAllowed := false }
  | none =>
    if !s.inFlow && !s.keyAllowed then none
    else
      let s := s.openBlock s.cursor.column s.tokens.length .blockMap
      some { (s.push .value).skip 1 with keyAllowed := !s.inFlow }

/-- Read a token that a key may begin with. -/
def readPart (s : Scanner) (read : Cursor → Option (Token × Cursor)) : Option Scanner := do
  let s ← s.saveKey
  let (t, cursor) ← read s.cursor
  some { s.push t with cursor, keyAllowed := false }

/-- Read a scalar on lines of its own. -/
def readBlockScalar (s : Scanner) (folds : Bool) : Option Scanner := do
  let s ← s.dropKey
  let (text, cursor) ← blockScalar? folds s.indent s.cursor
  some { s.push (.scalar (.ofList text) (if folds then .marked else .literal)) with
    cursor, keyAllowed := true }

/-- Read a plain scalar. -/
def readPlainScalar (s : Scanner) : Option Scanner := do
  let s ← s.saveKey
  let margin := (s.indent.map (· + 1)).getD 0
  let (text, broken, cursor) ← plainScalar? s.inFlow margin s.cursor
  some { s.push (.scalar (.ofList text) .plain) with cursor, keyAllowed := broken }

/-- The characters with a meaning of their own at the start of a token. -/
def indicators : List Char :=
  ['#', '&', '*', '!', '|', '>', '\x27', '\x22', '%', '@', '\x60', ',']

/-- A plain scalar may start with this character. -/
def startsPlain (s : Scanner) (x : Char) : Bool :=
  if x == '-' then !(s.cursor.skip 1).seesSome isBlank
  else if x == '?' || x == ':' then !s.inFlow && !s.cursor.gapAt 1
  else !isGap x && !isBracket x && !indicators.contains x

/-- Read a token that starts with a character. -/
def readToken (s : Scanner) (x : Char) : Option Scanner :=
  let c := s.cursor
  if c.column == 0 && x == '%' then do
    let s ← s.atMargin
    let (t, cursor) ← directive? (s.cursor.skip 1)
    some { s.push t with cursor }
  else if c.atMarker '-' then s.atMargin.map fun s => (s.push .documentStart).skip 3
  else if c.atMarker '.' then s.atMargin.map fun s => (s.push .documentEnd).skip 3
  else if x == '[' then s.openFlow .flowList
  else if x == '\x7b' then s.openFlow .flowMap
  else if x == ']' then s.closeFlow .flowListEnd
  else if x == '\x7d' then s.closeFlow .flowMapEnd
  else if x == ',' then s.readComma
  else if x == '-' && c.gapAt 1 then s.readEntry
  else if x == '?' && (s.inFlow || c.gapAt 1) then s.readKey
  else if x == ':' && (s.inFlow || c.gapAt 1) then s.readValue
  else if x == '*' then s.readPart fun c => (anchorName? c).map fun (n, c) => (.alias n, c)
  else if x == '&' then s.readPart fun c => (anchorName? c).map fun (n, c) => (.anchor n, c)
  else if x == '!' then s.readPart (tag? s.inFlow)
  else if x == '|' && !s.inFlow then s.readBlockScalar false
  else if x == '>' && !s.inFlow then s.readBlockScalar true
  else if x == '\x27' || x == '\x22' then s.readPart fun c =>
    (quotedScalar? x c).map fun (t, c) => (.scalar (.ofList t) .marked, c)
  else if s.startsPlain x then s.readPlainScalar
  else none

/-! ### All tokens -/

/-- End the text: all blocks end, and no key is owed. -/
def finish (s : Scanner) : Option (List Token) := do
  let s ← (s.unwind none).dropKey
  some s.tokens.reverse

/-- Read tokens to the end of the text. The first argument bounds their number. -/
def run : Nat → Scanner → Option (List Token)
  | 0, _ => none
  | fuel + 1, s => do
    let s ← s.advance.dropStale
    let s := s.unwind (some s.cursor.column)
    match s.cursor.peek with
    | none => s.finish
    | some x => do
      let s ← s.readToken x
      run fuel s

end Scanner

/-- The tokens of a text. -/
def tokens? (cs : List Char) : Option (List Token) :=
  if cs.all isAllowed then Scanner.run (cs.length + 2) (.start cs) else none

end ScimLookup.Yaml
