import ScimLookup.Bytes.Percent
import ScimLookup.Number.Decimal
import ScimLookup.Url.DomainName

/-!
# Hosts

The host of an address: a domain name, or a number of 32 or 128 bits. A domain name whose last label
is a number is read as four bytes, with the usual liberties: the base of each part shows from its
front, and missing parts are filled from the last. Brackets enclose eight 16-bit pieces; one run of
zeros may be left out, and the last two pieces may be written as four bytes.
-/

set_option autoImplicit false

namespace ScimLookup

/-- A host. -/
inductive Host where
  | name (text : String)
  | four (address : Nat)
  | eight (pieces : List Nat)
deriving DecidableEq, Repr

namespace Host

/-! ## Four bytes -/

/-- The value of digits to a base up to 16. -/
def valueIn (base : Nat) (cs : List Char) : Option Nat :=
  cs.foldlM (fun acc c => do
    let d ← Percent.hexValue? c.toNat
    if d < base then some (acc * base + d) else none) 0

/-- The value of one part: hexadecimal behind `0x`, octal behind `0`, else decimal. -/
def partValue? : List Char → Option Nat
  | [] => none
  | '0' :: 'x' :: cs => valueIn 16 cs
  | '0' :: 'X' :: cs => valueIn 16 cs
  | '0' :: c :: cs => valueIn 8 (c :: cs)
  | cs => valueIn 10 cs

/-- The parts of a name, without an empty one behind a last dot. -/
def parts (cs : List Char) : List (List Char) :=
  let ps := Text.pieces '.' cs
  match ps.reverse with
  | [] :: front => front.reverse
  | _ => ps

/-- The last part is a number. -/
def endsInNumber (cs : List Char) : Bool :=
  match (parts cs).getLast? with
  | some p => (!p.isEmpty && p.all Decimal.isDigit) || (partValue? p).isSome
  | none => false

/-- The number that a name ending in a number stands for. -/
def four? (cs : List Char) : Option Nat := do
  let ns ← (parts cs).mapM partValue?
  let last ← ns.getLast?
  let front := ns.dropLast
  if front.length > 3 || front.any (· > 255) || last ≥ Nat.pow 256 (4 - front.length) then none
  else some (front.zipIdx.foldl (fun acc (n, i) => acc + n * Nat.pow 256 (3 - i)) last)

/-! ## Eight pieces -/

/-- A piece of at most four hexadecimal digits. -/
def piece? (cs : List Char) : Option Nat :=
  if cs.isEmpty || cs.length > 4 then none else valueIn 16 cs

/-- A byte in plain decimal. -/
def byte? (cs : List Char) : Option Nat :=
  if cs.isEmpty || !cs.all Decimal.isDigit || (cs.length > 1 && cs.head? == some '0') then none
  else
    let n := Decimal.value cs
    if n ≤ 255 then some n else none

/-- The pieces between colons; the last may be four bytes where `closing` says so. -/
def pieces? (closing : Bool) (cs : List Char) : Option (List Nat) :=
  if cs.isEmpty then some []
  else
    let ps := Text.pieces ':' cs
    match ps.getLast? with
    | some last =>
      if closing && last.contains '.' then do
        let front ← ps.dropLast.mapM piece?
        match ← (Text.pieces '.' last).mapM byte? with
        | [a, b, c, d] => some (front ++ [a * 256 + b, c * 256 + d])
        | _ => none
      else ps.mapM piece?
    | none => none

/-- The text before the first double colon, and what follows it. -/
def splitDouble : List Char → Option (List Char × List Char)
  | ':' :: ':' :: cs => some ([], cs)
  | c :: cs => (splitDouble cs).map fun (l, r) => (c :: l, r)
  | [] => none

/-- The pieces that the text in brackets stands for. -/
def eight? (cs : List Char) : Option (List Nat) :=
  match splitDouble cs with
  | some (l, r) => do
    let front ← pieces? false l
    let back ← pieces? true r
    if front.length + back.length > 7 then none
    else some (front ++ List.replicate (8 - front.length - back.length) 0 ++ back)
  | none => do
    let ps ← pieces? true cs
    if ps.length = 8 then some ps else none

/-! ## Written form -/

/-- The lower-case hexadecimal digits of a piece. -/
def pieceText (n : Nat) : List Char :=
  Nat.toDigits 16 n

/-- How many zeros stand at the front. -/
def zeros (ps : List Nat) : Nat :=
  (ps.takeWhile (· = 0)).length

/-- Where the first longest run of zeros starts and how long it is. -/
def longestZeros (ps : List Nat) : Nat × Nat :=
  (List.range ps.length).foldl (fun (i, n) j =>
    let m := zeros (ps.drop j)
    if m > n then (j, m) else (i, n)) (0, 0)

/-- Pieces joined by colons. -/
def joined : List Nat → List Char
  | [] => []
  | [p] => pieceText p
  | p :: ps => pieceText p ++ ':' :: joined ps

/-- The written form. A run of two zeros or more is left out, the first of the longest. -/
def text : Host → String
  | .name t => t
  | .four n =>
    .ofList (Text.joined '.' ([n / 0x1000000, n / 0x10000 % 256, n / 256 % 256, n % 256].map
      Decimal.digits))
  | .eight ps =>
    let (i, n) := longestZeros ps
    let inner := if n < 2 then joined ps
      else joined (ps.take i) ++ ':' :: ':' :: joined (ps.drop (i + n))
    .ofList ('[' :: (inner ++ [']']))

/-! ## Reading -/

/-- The host in brackets. -/
def bracketed? (cs : List Char) : Option Host :=
  match cs.getLast? with
  | some ']' => (eight? cs.dropLast).map .eight
  | _ => none

/-- The host of an address whose scheme names servers. -/
def ofServer? : List Char → Option Host
  | '[' :: cs => bracketed? cs
  | cs => do
    let decoded := Utf8.decode (Percent.decode (Utf8.encode cs))
    let name ← DomainName.ascii? decoded
    if name.isEmpty then none
    else if endsInNumber name then (four? name).map .four
    else some (.name (.ofList name))

/-- The characters that no host may hold. -/
def isForbidden (c : Char) : Bool :=
  c == '\x00' || c == '\t' || c == '\n' || c == '\x0d' || c == ' ' || c == '#' || c == '/' ||
    c == ':' || c == '<' || c == '>' || c == '?' || c == '@' || c == '[' || c == '\\' ||
    c == ']' || c == '^' || c == '|'

/-- A character outside printable ASCII. -/
def isControl (c : Char) : Bool :=
  decide (c.toNat < 0x20 ∨ 0x7E < c.toNat)

/-- The host of an address of any other scheme: none if it is empty. -/
def ofOther? : List Char → Option (Option Host)
  | [] => some none
  | '[' :: cs => (bracketed? cs).map some
  | cs =>
    if cs.any isForbidden then none
    else some (some (.name (.ofList (Percent.encode isControl cs))))

end Host

end ScimLookup
