import ScimLookup.Bytes.Percent
import ScimLookup.Number.Decimal

/-!
# JSON values and their text

Values with whole numbers only, which is all that the messages hold. The members of an object keep
their order. A value has two written forms: a compact one without white space, and one laid out on
lines, two spaces per level, in which empty arrays and objects stay closed.

In a string the quotation mark, the backslash and the control characters below U+0020 are escaped,
those with a letter of their own by it and the others by four hexadecimal digits in lower case.
-/

set_option autoImplicit false

namespace ScimLookup.Json

/-- A JSON value. -/
inductive Value where
  | null
  | bool (b : Bool)
  | number (n : Int)
  | string (s : String)
  | array (items : List Value)
  | object (members : List (String × Value))
deriving Repr, Inhabited

/-! ## Strings -/

/-- The lower-case hexadecimal digit of a value below 16. -/
def hexDigit (n : Nat) : Char :=
  if n < 10 then Char.ofNat (48 + n) else Char.ofNat (87 + n)

/-- The letter that escapes a character. -/
def escapeLetter? (c : Char) : Option Char :=
  if c = '\x22' then some '\x22'
  else if c = '\\' then some '\\'
  else if c = '\x08' then some 'b'
  else if c = '\x0c' then some 'f'
  else if c = '\n' then some 'n'
  else if c = '\x0d' then some 'r'
  else if c = '\t' then some 't'
  else none

/-- The written form of a character inside a string. -/
def writeChar (c : Char) : List Char :=
  match escapeLetter? c with
  | some letter => ['\\', letter]
  | none =>
    if c.toNat < 0x20 then
      ['\\', 'u', '0', '0', hexDigit (c.toNat / 16), hexDigit (c.toNat % 16)]
    else [c]

/-- The written form of a string. -/
def writeString (s : String) : List Char :=
  '\x22' :: (s.toList.flatMap writeChar ++ ['\x22'])

namespace Value

/-- The word for a truth value. -/
def boolWord : Bool → List Char
  | true => ['t', 'r', 'u', 'e']
  | false => ['f', 'a', 'l', 's', 'e']

/-! ## Compact form -/

mutual

/-- The value without white space. -/
def written : Value → List Char
  | .null => ['n', 'u', 'l', 'l']
  | .bool b => boolWord b
  | .number n => Decimal.ofInt n
  | .string s => writeString s
  | .array items => '[' :: (writtenItems items ++ [']'])
  | .object members => '\x7b' :: (writtenMembers members ++ ['\x7d'])

/-- The items of an array, separated by commas. -/
def writtenItems : List Value → List Char
  | [] => []
  | [v] => written v
  | v :: vs => written v ++ ',' :: writtenItems vs

/-- The members of an object, separated by commas. -/
def writtenMembers : List (String × Value) → List Char
  | [] => []
  | [m] => writtenMember m
  | m :: ms => writtenMember m ++ ',' :: writtenMembers ms

/-- One member of an object. -/
def writtenMember : String × Value → List Char
  | (name, v) => writeString name ++ ':' :: written v

end

/-- The compact text of a value. -/
def compact (v : Value) : String :=
  .ofList (written v)

/-! ## Form on lines -/

/-- The start of a line at a level. -/
def newLine (level : Nat) : List Char :=
  '\n' :: List.replicate (2 * level) ' '

mutual

/-- The value on lines, when its own line is at `level`. -/
def laidOut (level : Nat) : Value → List Char
  | .null => ['n', 'u', 'l', 'l']
  | .bool b => boolWord b
  | .number n => Decimal.ofInt n
  | .string s => writeString s
  | .array [] => ['[', ']']
  | .array (v :: vs) =>
    '[' :: (laidOutItem (level + 1) v ++ laidOutItems (level + 1) vs ++ newLine level ++ [']'])
  | .object [] => ['\x7b', '\x7d']
  | .object (m :: ms) =>
    '\x7b' ::
      (laidOutMember (level + 1) m ++ laidOutMembers (level + 1) ms ++ newLine level ++ ['\x7d'])

/-- One item of an array, on a line of its own. -/
def laidOutItem (level : Nat) (v : Value) : List Char :=
  newLine level ++ laidOut level v

/-- The further items of an array. -/
def laidOutItems (level : Nat) : List Value → List Char
  | [] => []
  | v :: vs => ',' :: (laidOutItem level v ++ laidOutItems level vs)

/-- One member of an object, on a line of its own. -/
def laidOutMember (level : Nat) : String × Value → List Char
  | (name, v) => newLine level ++ (writeString name ++ ':' :: ' ' :: laidOut level v)

/-- The further members of an object. -/
def laidOutMembers (level : Nat) : List (String × Value) → List Char
  | [] => []
  | m :: ms => ',' :: (laidOutMember level m ++ laidOutMembers level ms)

end

/-- The text of a value on lines. -/
def pretty (v : Value) : String :=
  .ofList (laidOut 0 v)

end Value

end ScimLookup.Json
