import ScimLookup.Yaml.Cursor

/-!
# Texts of scalars

How a scalar is written decides what of it is text. In a plain or quoted scalar a gap of blanks and
ends of lines is folded: blanks on one line stay, one end of a line becomes a space, and of more the
first is dropped. A scalar under a bar keeps its lines; one under an angle folds them unless a line
starts with a blank. The indentation of its lines is that of the first line with text, or stands in
its head, which also says what becomes of the ends of lines behind the text.
-/

set_option autoImplicit false

namespace ScimLookup.Yaml

/-! ## Gaps -/

/-- A gap inside a scalar: blanks on one line, or the first end of a line and those after it. -/
inductive Gap where
  | blanks (cs : List Char)
  | breaks (first more : List Char)

/-- The text that a gap is folded to. -/
def Gap.folded : Gap → List Char
  | .blanks cs => cs
  | .breaks ['\n'] [] => [' ']
  | .breaks ['\n'] more => more
  | .breaks first more => first ++ more

/-- There is an end of a line in the gap. -/
def Gap.isBroken : Gap → Bool
  | .blanks _ => false
  | .breaks _ _ => true

/-- A gap from here on, after the part `g`. At the start of a line, a tab left of `margin` is not
allowed. The first argument bounds the number of characters. -/
def readGap (margin : Nat) : Nat → Gap → Cursor → Option (Gap × Cursor)
  | 0, g, c => some (g, c)
  | fuel + 1, g, c =>
    match c.peek with
    | none => some (g, c)
    | some x =>
      if isBlank x then
        match g with
        | .blanks cs => readGap margin fuel (.blanks (cs ++ [x])) (c.skip 1)
        | .breaks .. =>
          if x == '\t' && decide (c.column < margin) then none
          else readGap margin fuel g (c.skip 1)
      else if isBreak x then
        match g with
        | .blanks _ => readGap margin fuel (.breaks c.breakText []) c.skipBreak
        | .breaks first more =>
          readGap margin fuel (.breaks first (more ++ c.breakText)) c.skipBreak
      else some (g, c)

/-! ## Quoted scalars -/

/-- The character that a letter behind a backslash stands for. -/
def escapeLetter? (x : Char) : Option Char :=
  [('0', '\x00'), ('a', '\x07'), ('b', '\x08'), ('t', '\t'), ('\t', '\t'), ('n', '\n'),
    ('v', '\x0b'), ('f', '\x0c'), ('r', '\x0d'), ('e', '\x1b'), (' ', ' '), ('\x22', '\x22'),
    ('/', '/'), ('\\', '\\'), ('N', '\u0085'), ('_', '\u00a0'), ('L', '\u2028'),
    ('P', '\u2029')].lookup x

/-- How many digits follow a letter behind a backslash. -/
def escapeDigits? (x : Char) : Option Nat :=
  [('x', 2), ('u', 4), ('U', 8)].lookup x

/-- The value of hexadecimal digits. -/
def hexValue? (cs : List Char) : Option Nat :=
  cs.foldlM (fun acc c => (Percent.hexValue? c.toNat).map fun d => acc * 16 + d) 0

/-- An escape behind its backslash: the character, and the position behind it. -/
def readEscape? (c : Cursor) : Option (Char × Cursor) := do
  let x ← c.peek
  match escapeLetter? x with
  | some y => some (y, c.skip 1)
  | none =>
    let n ← escapeDigits? x
    let digits := (c.rest.drop 1).take n
    let v ← hexValue? digits
    if digits.length < n || (0xD800 ≤ v && v ≤ 0xDFFF) || v > 0x10FFFF then none
    else some (Char.ofNat v, c.skip (n + 1))

/-- The text between gaps of a quoted scalar, up to a gap, the closing mark or an escaped end of a
line; the flag tells the last. The first argument bounds the number of characters. -/
def readQuotedRun (mark : Char) : Nat → List Char → Cursor → Option (List Char × Bool × Cursor)
  | 0, acc, c => some (acc, false, c)
  | fuel + 1, acc, c =>
    match c.peek with
    | none => some (acc, false, c)
    | some x =>
      if isGap x then some (acc, false, c)
      else if x == '\x27' && mark == x && c.peekAt 1 == some x then
        readQuotedRun mark fuel (acc ++ [x]) (c.skip 2)
      else if x == mark then some (acc, false, c)
      else if x == '\\' && mark == '\x22' then
        if (c.skip 1).seesSome isBreak then some (acc, true, (c.skip 1).skipBreak)
        else do
          let (y, c) ← readEscape? (c.skip 1)
          readQuotedRun mark fuel (acc ++ [y]) c
      else readQuotedRun mark fuel (acc ++ [x]) (c.skip 1)

/-- A quoted scalar behind its opening mark, after the text `acc`. -/
def readQuoted (mark : Char) : Nat → List Char → Cursor → Option (List Char × Cursor)
  | 0, _, _ => none
  | fuel + 1, acc, c =>
    if c.atDocumentMarker || c.atEnd then none
    else do
      let (run, escaped, c) ← readQuotedRun mark c.rest.length [] c
      if c.sees mark && !escaped then some (acc ++ run, c.skip 1)
      else
        let (gap, c) ← readGap 0 c.rest.length (if escaped then .breaks [] [] else .blanks []) c
        readQuoted mark fuel (acc ++ run ++ gap.folded) c

/-- A quoted scalar. -/
def quotedScalar? (mark : Char) (c : Cursor) : Option (List Char × Cursor) :=
  readQuoted mark (c.rest.length + 1) [] (c.skip 1)

/-! ## Plain scalars -/

/-- The text between gaps of a plain scalar, inside brackets or not. -/
def readPlainRun (flow : Bool) : Nat → List Char → Cursor → Option (List Char × Cursor)
  | 0, acc, c => some (acc, c)
  | fuel + 1, acc, c =>
    match c.peek with
    | none => some (acc, c)
    | some x =>
      if isGap x then some (acc, c)
      else if flow && x == ':' &&
          (c.skip 1).seesSome (fun y => y == ',' || y == '?' || isBracket y) then none
      else if (x == ':' && c.gapAt 1) || (flow && (x == ',' || isBracket x)) then some (acc, c)
      else readPlainRun flow fuel (acc ++ [x]) (c.skip 1)

/-- A plain scalar after the text `acc` and the gap `gap`: the text, whether the last gap has the
end of a line, and the position behind. -/
def readPlain (flow : Bool) (margin : Nat) :
    Nat → List Char → Gap → Cursor → Option (List Char × Bool × Cursor)
  | 0, acc, gap, c => some (acc, gap.isBroken, c)
  | fuel + 1, acc, gap, c =>
    if c.atDocumentMarker || c.sees '#' then some (acc, gap.isBroken, c)
    else do
      let (run, c) ← readPlainRun flow c.rest.length [] c
      let (acc, gap) := if run.isEmpty then (acc, gap) else (acc ++ gap.folded ++ run, .blanks [])
      if !c.seesSome isGap then some (acc, gap.isBroken, c)
      else
        let (gap, c) ← readGap margin c.rest.length gap c
        if !flow && decide (c.column < margin) then some (acc, gap.isBroken, c)
        else readPlain flow margin fuel acc gap c

/-- A plain scalar. -/
def plainScalar? (flow : Bool) (margin : Nat) (c : Cursor) : Option (List Char × Bool × Cursor) :=
  readPlain flow margin (c.rest.length + 1) [] (.blanks []) c

/-! ## Scalars on lines of their own -/

/-- What becomes of the ends of lines behind the text. -/
inductive Chomp where
  | strip
  | clip
  | keep
deriving DecidableEq

/-- The sign of a treatment. -/
def chomp? (c : Cursor) : Option Chomp :=
  match c.peek with
  | some '+' => some .keep
  | some '-' => some .strip
  | _ => none

/-- The digit of an indentation: absent, or one to nine. -/
def indentDigit? (c : Cursor) : Option (Option Nat × Cursor) :=
  match c.peek with
  | some x =>
    if Decimal.isDigit x then
      if x == '0' then none else some (some (Decimal.digitValue x), c.skip 1)
    else some (none, c)
  | none => some (none, c)

/-- The head of a scalar behind its bar or angle: the treatment and the indentation, in any order.
-/
def blockHead? (c : Cursor) : Option (Chomp × Option Nat × Cursor) := do
  match chomp? c with
  | some chomp =>
    let (digit, c) ← indentDigit? (c.skip 1)
    some (chomp, digit, ← c.finishLine?)
  | none =>
    let (digit, c) ← indentDigit? c
    match digit, chomp? c with
    | some _, some chomp => some (chomp, digit, ← (c.skip 1).finishLine?)
    | _, _ => some (.clip, digit, ← c.finishLine?)

/-- The empty lines before a line with text, where the indentation is `indent` or not known yet; the
deepest indentation that was seen. A tab in the indentation is not allowed. -/
def readEmptyLines (indent : Option Nat) :
    Nat → Nat → List Char → Cursor → Option (Nat × List Char × Cursor)
  | 0, deepest, acc, c => some (deepest, acc, c)
  | fuel + 1, deepest, acc, c =>
    let spaces := (c.rest.takeWhile (· == ' ')).length
    let n := match indent with
      | some i => min spaces (i - c.column)
      | none => spaces
    let c := c.skip n
    let deepest := max deepest c.column
    let short := match indent with
      | some i => decide (c.column < i)
      | none => true
    if short && c.sees '\t' then none
    else if c.seesSome isBreak then
      readEmptyLines indent fuel deepest (acc ++ c.breakText) c.skipBreak
    else some (deepest, acc, c)

/-- The lines of a scalar at the indentation. -/
def readLines (folds : Bool) (chomp : Chomp) (indent : Nat) :
    Nat → List Char → List Char → Bool → List Char → Cursor → Option (List Char × Cursor)
  | 0, _, _, _, _, _ => none
  | fuel + 1, acc, lead, leadBlank, empties, c =>
    if c.column == indent && !c.atEnd then do
      let blank := c.seesSome isBlank
      let acc :=
        if folds && lead.head? == some '\n' && !leadBlank && !blank then
          if empties.isEmpty then acc ++ [' '] else acc
        else acc ++ lead
      let (text, c) := c.span (!isBreak ·)
      let lead := c.breakText
      let c := if c.atEnd then c else c.skipBreak
      let acc := acc ++ empties ++ text
      let (_, empties, c) ← readEmptyLines (some indent) c.rest.length 0 [] c
      readLines folds chomp indent fuel acc lead blank empties c
    else
      let acc := if chomp == .strip then acc else acc ++ lead
      some (if chomp == .keep then acc ++ empties else acc, c)

/-- A scalar on lines of its own, below a block at the column `parent` if there is one. -/
def blockScalar? (folds : Bool) (parent : Option Nat) (c : Cursor) :
    Option (List Char × Cursor) := do
  let (chomp, digit, c) ← blockHead? (c.skip 1)
  let least := (parent.map (· + 1)).getD 0
  let given := digit.map fun n => (parent.getD 0) + n
  let (deepest, empties, c) ← readEmptyLines given (c.rest.length + 1) 0 [] c
  let indent := given.getD (max deepest (max least 1))
  readLines folds chomp indent (c.rest.length + 2) [] [] false empties c

end ScimLookup.Yaml
