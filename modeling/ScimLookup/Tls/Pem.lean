import ScimLookup.Bytes.Base64

/-!
# Sections of armoured text

Certificates and keys are carried as base64 between a line that opens a section by its label and a
line that closes it. Text outside sections is ignored, and so is a section with an unknown label. A
section that is not closed, an opening line that does not end in five dashes, and a known section
whose content is no base64 are faults.
-/

set_option autoImplicit false

namespace ScimLookup.Pem

/-- How a key is laid out: beside the name of its method (PKCS #8), as the secret and the point of a
curve (SEC 1), or as the numbers of an RSA key (PKCS #1). -/
inductive KeyForm where
  | named
  | curve
  | factors
deriving DecidableEq, Repr

/-- What a section holds. -/
inductive Kind where
  | certificate
  | key (form : KeyForm)
  | other
deriving DecidableEq, Repr

/-- A section: what it holds, and its content. -/
structure Section where
  kind : Kind
  content : Bytes
deriving DecidableEq, Repr

/-- The bytes of a word. -/
def word (s : String) : Bytes :=
  Utf8.ofString s

/-- The known labels. -/
def kinds : List (String × Kind) := [
  ("CERTIFICATE", .certificate), ("PRIVATE KEY", .key .named), ("EC PRIVATE KEY", .key .curve),
  ("RSA PRIVATE KEY", .key .factors), ("PUBLIC KEY", .other), ("X509 CRL", .other),
  ("CERTIFICATE REQUEST", .other), ("ECHCONFIG", .other)]

/-- What a label says, if it is known. -/
def kind? (label : Bytes) : Option Kind :=
  (kinds.find? fun k => word k.1 == label).map (·.2)

/-- The end of a line. -/
def isLineEnd (b : UInt8) : Bool :=
  b == 0x0A || b == 0x0D

/-- The lines of a text. -/
def lines : Bytes → List Bytes
  | [] => [[]]
  | b :: bs =>
    match lines bs with
    | [] => [[b]]
    | l :: ls => if isLineEnd b then [] :: l :: ls else (b :: l) :: ls

/-- How a line opens a section. -/
def opening : Bytes := word "-----BEGIN "

/-- The line that closes the section of a label. -/
def closing (label : Bytes) : Bytes :=
  word "-----END " ++ label ++ word "-----"

/-- A dash. -/
def isDash (b : UInt8) : Bool :=
  b == 0x2D

/-- The label of an opening line, which ends in five dashes. Blanks between and behind them do not
count. -/
def label? (line : Bytes) : Option Bytes :=
  let rev := line.reverse
  let tail := rev.takeWhile fun b => isDash b || b == 0x20
  let blanks := (tail.reverse.takeWhile (!isDash ·)).length
  if (tail.filter isDash).length = 5 then
    some ((line.take (line.length - tail.length + blanks)).drop opening.length)
  else none

/-- White space in a content. -/
def isBlank (b : UInt8) : Bool :=
  b == 0x20 || (0x09 ≤ b && b ≤ 0x0D)

/-- The content of a section from its characters. -/
def content? (bs : Bytes) : Option Bytes :=
  Base64.decodeLoose? ((bs.filter (!isBlank ·)).map fun b => Char.ofNat b.toNat)

/-- The sections of some lines, after an open section with the content collected so far. -/
def sectionsFrom? (current : Option Bytes) (collected : Bytes) : List Bytes → Option (List Section)
  | [] => if current.isSome then none else some []
  | line :: rest =>
    if opening.isPrefixOf line then do
      let label ← label? line
      sectionsFrom? (some label) collected rest
    else
      match current with
      | none => sectionsFrom? none collected rest
      | some label =>
        if (closing label).isPrefixOf line then
          match kind? label with
          | none => sectionsFrom? none [] rest
          | some kind => do
            let content ← content? collected
            let more ← sectionsFrom? none [] rest
            some (⟨kind, content⟩ :: more)
        else sectionsFrom? current (collected ++ line) rest

/-- The sections of a text. -/
def sections? (bs : Bytes) : Option (List Section) :=
  sectionsFrom? none [] (lines bs)

end ScimLookup.Pem
