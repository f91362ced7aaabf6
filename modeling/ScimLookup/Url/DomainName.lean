import ScimLookup.Text.Composition
import ScimLookup.Text.Direction
import ScimLookup.Text.Joining
import ScimLookup.Url.NameForm
import ScimLookup.Url.Punycode

/-!
# Domain names

Names of hosts in their ASCII form. Each character is brought to its form in names, and the whole is
composed and cut into labels at its dots. A label with characters beyond ASCII is then written in
Punycode behind `xn--`. A label that already begins with `xn--` must be such a form, of a label
whose characters are in their forms and composed.

No label begins with a combining mark. Invisible joiners stand only where they make a difference:
behind a sign that takes a vowel away, and the one that keeps letters apart also between letters
that would join. Where some label runs from right to left, every label must keep to one direction.
-/

set_option autoImplicit false

namespace ScimLookup.DomainName

open Text (Direction)

/-! ## Joiners -/

/-- The invisible character that keeps letters apart. -/
def nonJoiner : Char := '\u200c'

/-- The invisible character that joins letters. -/
def joiner : Char := '\u200d'

/-- A sign that takes the vowel of its letter away. -/
def isVirama (c : Char) : Bool :=
  Text.markClass c == 9

/-- The first character that is not joined through satisfies `p`. -/
def meets (p : Char → Bool) (cs : List Char) : Bool :=
  (cs.find? (!Text.isJoinedThrough ·)).any p

/-- A joiner may stand behind characters, the last of which comes first, and before others. -/
def joinerFits (before : List Char) (c : Char) (after : List Char) : Bool :=
  before.head?.any isVirama ||
    (c == nonJoiner && meets Text.joinsForward before && meets Text.joinsBackward after)

/-- All joiners behind characters, the last of which comes first, stand where they may. -/
def joinersFit (before : List Char) : List Char → Bool
  | [] => true
  | c :: cs =>
    ((c != nonJoiner && c != joiner) || joinerFits before c cs) && joinersFit (c :: before) cs

/-! ## Directions -/

/-- A character that makes its label run from right to left. -/
def isRightward (c : Char) : Bool :=
  Text.rightRanges.holds c || Text.arabicNumberRanges.holds c

/-- A label with these directions keeps to one of them. Marks at the end do not count as the last
character, and numbers of two kinds do not go together. -/
def keepsDirection : List Direction → Bool
  | [] => true
  | first :: rest =>
    let last := ((first :: rest).reverse.find? (· ≠ .mark)).getD first
    match first with
    | .left => rest.all (fun d => d ≠ .right && d ≠ .arabicNumber) && last ≠ .neutral
    | .right => rest.all (· ≠ .left) && last ≠ .neutral &&
        !(rest.contains .arabicNumber && rest.contains .europeanNumber)
    | _ => false

/-! ## Labels -/

/-- A label: its ASCII form, and its characters. -/
structure Label where
  ascii : List Char
  characters : List Char

/-- The characters of a text in their forms, and composed. -/
def inForm? (cs : List Char) : Option (List Char) :=
  (cs.mapM form?).map fun forms => Text.composed forms.flatten

/-- The longest label with characters beyond ASCII. -/
def longestLabel : Nat := 1000

/-- The longest Punycode of a label. -/
def longestPunycode : Nat := 2000

/-- The characters of a label may stand as they do. -/
def isSound (cs : List Char) : Bool :=
  !cs.head?.any Text.isMark && joinersFit [] cs &&
    (cs.all Punycode.isAscii || decide (cs.length ≤ longestLabel))

/-- The mark of a label in Punycode. -/
def mark : List Char := ['x', 'n', '-', '-']

/-- The characters of a label in Punycode, some of which are beyond ASCII. -/
def unmarked? (cs : List Char) : Option (List Char) := do
  let decoded ←
    if cs.all Punycode.isAscii && cs.length ≤ longestPunycode then Punycode.decode? cs else none
  if decoded.all Punycode.isAscii || inForm? decoded ≠ some decoded then none else some decoded

/-- The label that characters in their forms are. -/
def label? (cs : List Char) : Option Label := do
  let characters ← if mark.isPrefixOf cs then unmarked? (cs.drop mark.length) else some cs
  if !isSound characters then none
  else if cs.all Punycode.isAscii then some ⟨cs, characters⟩
  else some ⟨mark ++ Punycode.encode cs, characters⟩

/-! ## Names -/

/-- The ASCII characters that a name may not hold. -/
def isForbidden (c : Char) : Bool :=
  decide (c.toNat ≤ 0x20) || c == '\x7f' || c == '%' || c == '#' || c == '/' || c == ':' ||
    c == '<' || c == '>' || c == '?' || c == '@' || c == '[' || c == '\\' || c == ']' ||
    c == '^' || c == '|'

/-- The labels can be told apart when they are shown. -/
def keepDirections (labels : List Label) : Bool :=
  !labels.any (·.characters.any isRightward) ||
    labels.all fun l => keepsDirection (l.characters.map Text.direction)

/-- The ASCII form of a name, if it is one. -/
def ascii? (name : List Char) : Option (List Char) := do
  let labels ← (Text.pieces '.' (← inForm? name)).mapM label?
  let out := Text.joined '.' (labels.map (·.ascii))
  if !keepDirections labels || out.any isForbidden then none else some out

end ScimLookup.DomainName
