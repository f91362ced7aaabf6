import ScimLookup.Bytes.Utf8
import ScimLookup.Text.Blank

/-!
# Headers

Names and values of HTTP headers. A name is a token and is kept in lower case. A value is any text
without control characters other than the tab. Headers that are set twice keep the place of the
first and the value of the last.
-/

set_option autoImplicit false

namespace ScimLookup

/-- Headers in the order in which they are sent, the names in lower case. -/
abbrev Headers := List (String × String)

namespace Header

/-- A character of a token. -/
def isTokenChar (c : Char) : Bool :=
  c.isAlphanum || c == '!' || c == '#' || c == '$' || c == '%' || c == '&' || c == '\x27' ||
    c == '*' || c == '+' || c == '-' || c == '.' || c == '^' || c == '_' || c == '\x60' ||
    c == '|' || c == '~'

/-- The longest name. -/
def longestName : Nat := 65535

/-- A name in lower case, if it is one. -/
def name? (s : String) : Option String :=
  if s.isEmpty || s.utf8ByteSize > longestName then none
  else if s.toList.all isTokenChar then some (Text.lower s)
  else none

/-- A character that a value may hold. -/
def isValueChar (c : Char) : Bool :=
  c == '\t' || (decide (0x20 ≤ c.toNat) && c != '\x7f')

/-- A text that can be a value. -/
def isValue (s : String) : Bool :=
  s.toList.all isValueChar

/-- Set a header in a list. -/
def set (name value : String) : Headers → Headers
  | [] => [(name, value)]
  | h :: hs => if h.1 = name then (name, value) :: hs else h :: set name value hs

/-- Take a header out of a list. -/
def remove (name : String) (hs : Headers) : Headers :=
  hs.filter (·.1 != name)

/-- The values under a name. -/
def values (name : String) (hs : Headers) : List String :=
  (hs.filter (·.1 == name)).map (·.2)

end Header

end ScimLookup
