import ScimLookup.Bytes.Percent
import ScimLookup.Number.Decimal
import ScimLookup.Number.Double

/-!
# JSON documents

Bytes as a tree, read from left to right. Reading a document never fails: where the bytes stop
making sense the tree holds the fault, and nothing follows it. So a document that is wanted as a
value of some type, and one that is only skipped, are two walks over the same tree, and each reports
the first fault that it meets.

The two walks do not ask the same of every part. A string that is skipped may name lone surrogates
and hold bytes that are no UTF-8, and a number that is skipped may have any size; a string or number
that is read may not.
-/

set_option autoImplicit false

namespace ScimLookup.Json

/-- What is wrong with a document: it is not JSON, it ends too early, or it is JSON so far but not
of the wanted type. -/
inductive Fault where
  | malformed
  | truncated
  | mismatch
deriving DecidableEq, Repr

/-- A number as far as messages care: a whole number of at most 64 bits, or any other. -/
inductive Number where
  | whole (n : Int)
  | other
deriving DecidableEq, Repr

/-- A numeral: what it reads as, and the fault that stops a walk past it. -/
structure Numeral where
  /-- The number, if it can be read. -/
  value : Except Fault Number
  /-- The fault met by skipping. -/
  skipped : Option Fault

/-- A string: what it reads as, and the fault that stops a walk past it. -/
structure Quoted where
  /-- The text, if it can be read. -/
  text : Except Fault String
  /-- The fault met by skipping. -/
  skipped : Option Fault

/-- A document. -/
inductive Doc where
  /-- No value starts here. -/
  | missing (f : Fault)
  /-- A word that starts like `null`, `true` or `false` and goes wrong. -/
  | misspelt (f : Fault)
  | null
  | bool (b : Bool)
  | number (n : Numeral)
  | string (q : Quoted)
  /-- The items, and the fault that keeps the array from being closed. -/
  | array (items : List Doc) (fault : Option Fault)
  /-- Names and values, and the fault that keeps the object from being closed. -/
  | object (members : List (Doc × Doc)) (fault : Option Fault)

/-! ## White space -/

/-- The white space of JSON. -/
def isBlank (b : UInt8) : Bool :=
  b == 0x20 || b == 0x09 || b == 0x0A || b == 0x0D

/-- What follows white space. -/
def skipBlank (bs : Bytes) : Bytes :=
  bs.dropWhile isBlank

/-! ## Numerals -/

/-- A digit. -/
def isDigit (b : UInt8) : Bool :=
  decide (0x30 ≤ b.toNat ∧ b.toNat ≤ 0x39)

/-- The largest number of 64 bits. -/
def maxWord : Nat := 0xFFFFFFFFFFFFFFFF

/-- The leading digits that fit into 64 bits, as a number, and how many digits are left out. -/
def leading : Nat → List UInt8 → Nat × Nat
  | n, [] => (n, 0)
  | n, d :: ds =>
    let m := n * 10 + (d.toNat - 0x30)
    if m ≤ maxWord then leading m ds else (n, ds.length + 1)

/-- The value of a sequence of digits. -/
def digitsValue (ds : List UInt8) : Nat :=
  ds.foldl (fun acc d => acc * 10 + (d.toNat - 0x30)) 0

/-- A number with a fraction, an exponent or too many digits is in range when the leading digits,
scaled in floating point, stay finite. -/
def inRange (whole fraction : List UInt8) (exponent : Int) : Bool :=
  let (n, left) := leading 0 whole
  let (m, taken) : Nat × Int :=
    let (m, out) := leading n fraction
    (m, (fraction.length : Int) - out)
  let e := exponent + left - taken
  if m = 0 || e < 0 then true
  else if e > 308 then false
  else !((Double.ofRatio false m 1).mul (Double.ofRatio false (Nat.pow 10 e.toNat) 1)).isInfinite

/-- A whole numeral: a number of 64 bits, signed if negative, else one beyond them. -/
def wholeNumber (negative : Bool) (ds : List UInt8) : Except Fault Number :=
  let n := digitsValue ds
  if negative then
    if n = 0 then .ok .other
    else if n ≤ 0x8000000000000000 then .ok (.whole (-(n : Int)))
    else if inRange ds [] 0 then .ok .other else .error .malformed
  else if n ≤ maxWord then .ok (.whole n)
  else if inRange ds [] 0 then .ok .other else .error .malformed

/-- A numeral whose digits are wanted and do not come. -/
def Numeral.cut (rest : Bytes) : Numeral :=
  ⟨.error (if rest.isEmpty then .truncated else .malformed), some .malformed⟩

/-- What may follow the digits of a fraction: an exponent or nothing. -/
def readExponent (plain : Except Fault Number) (whole fraction : List UInt8) :
    Bytes → Numeral × Bytes
  | [] => (⟨plain, none⟩, [])
  | b :: bs =>
    if b == 0x65 || b == 0x45 then
      let (negative, bs) : Bool × Bytes :=
        match bs with
        | 0x2B :: bs => (false, bs)
        | 0x2D :: bs => (true, bs)
        | bs => (false, bs)
      let ds := bs.takeWhile isDigit
      let rest := bs.dropWhile isDigit
      if ds.isEmpty then (.cut rest, rest)
      else
        let e : Int := digitsValue ds
        let e := if negative then -e else e
        (⟨if inRange whole fraction e then .ok .other else .error .malformed, none⟩, rest)
    else (⟨plain, none⟩, b :: bs)

/-- What may follow the whole digits: a fraction, an exponent or nothing. -/
def readFraction (negative : Bool) (whole : List UInt8) : Bytes → Numeral × Bytes
  | 0x2E :: bs =>
    let ds := bs.takeWhile isDigit
    let rest := bs.dropWhile isDigit
    if ds.isEmpty then (.cut rest, rest)
    else
      let plain := if inRange whole ds 0 then .ok .other else .error .malformed
      readExponent plain whole ds rest
  | bs => readExponent (wholeNumber negative whole) whole [] bs

/-- A numeral behind its sign. No zero stands before another digit. -/
def readUnsigned (negative : Bool) (bs : Bytes) : Numeral × Bytes :=
  let ds := bs.takeWhile isDigit
  let rest := bs.dropWhile isDigit
  match ds with
  | [] => (.cut rest, rest)
  | 0x30 :: _ :: _ => (⟨.error .malformed, some .malformed⟩, rest)
  | ds => readFraction negative ds rest

/-- A numeral. -/
def readNumeral : Bytes → Numeral × Bytes
  | 0x2D :: bs => readUnsigned true bs
  | bs => readUnsigned false bs

/-! ## Strings -/

/-- A part of a string as it is written: a byte, an escaped byte, or a 16-bit unit by its number. -/
inductive Piece where
  | byte (b : UInt8)
  | escaped (b : UInt8)
  | unit (n : Nat)
deriving DecidableEq, Repr

/-- The byte that an escape letter stands for. -/
def escapeByte? (b : UInt8) : Option UInt8 :=
  if b == 0x22 || b == 0x5C || b == 0x2F then some b
  else if b == 0x62 then some 0x08
  else if b == 0x66 then some 0x0C
  else if b == 0x6E then some 0x0A
  else if b == 0x72 then some 0x0D
  else if b == 0x74 then some 0x09
  else none

/-- The value of four hexadecimal digits. -/
def unitValue? (a b c d : UInt8) : Option Nat := do
  let a ← Percent.hexValue? a.toNat
  let b ← Percent.hexValue? b.toNat
  let c ← Percent.hexValue? c.toNat
  let d ← Percent.hexValue? d.toNat
  some (((a * 16 + b) * 16 + c) * 16 + d)

/-- The pieces of a string up to its closing mark, and what follows it. -/
def readPieces : Bytes → List Piece × Except Fault Bytes
  | [] => ([], .error .truncated)
  | 0x22 :: bs => ([], .ok bs)
  | 0x5C :: 0x75 :: a :: b :: c :: d :: bs =>
    match unitValue? a b c d with
    | some n =>
      let (ps, rest) := readPieces bs
      (.unit n :: ps, rest)
    | none => ([], .error .malformed)
  | 0x5C :: 0x75 :: _ => ([], .error .truncated)
  | 0x5C :: e :: bs =>
    match escapeByte? e with
    | some b =>
      let (ps, rest) := readPieces bs
      (.escaped b :: ps, rest)
    | none => ([], .error .malformed)
  | [0x5C] => ([], .error .truncated)
  | b :: bs =>
    if b.toNat < 0x20 then ([], .error .malformed)
    else
      let (ps, rest) := readPieces bs
      (.byte b :: ps, rest)

/-- The first half of a pair of units. -/
def isHigh (n : Nat) : Bool :=
  decide (0xD800 ≤ n ∧ n ≤ 0xDBFF)

/-- The second half of a pair of units. -/
def isLow (n : Nat) : Bool :=
  decide (0xDC00 ≤ n ∧ n ≤ 0xDFFF)

/-- The bytes of the pieces of a string, which ends by `fault` or well. Units beyond one character
come in pairs. -/
def pieceBytes (fault : Option Fault) : List Piece → Except Fault Bytes
  | [] =>
    match fault with
    | some f => .error f
    | none => .ok []
  | .byte b :: ps => return b :: (← pieceBytes fault ps)
  | .escaped b :: ps => return b :: (← pieceBytes fault ps)
  | [.unit n] =>
    if isHigh n then .error (fault.getD .malformed)
    else if isLow n then .error .malformed
    else do return String.utf8EncodeChar (Char.ofNat n) ++ (← pieceBytes fault [])
  | .unit n :: .unit m :: ps =>
    if isHigh n then
      if isLow m then do
        let c := Char.ofNat (0x10000 + (n - 0xD800) * 0x400 + (m - 0xDC00))
        return String.utf8EncodeChar c ++ (← pieceBytes fault ps)
      else .error .malformed
    else if isLow n then .error .malformed
    else do return String.utf8EncodeChar (Char.ofNat n) ++ (← pieceBytes fault (.unit m :: ps))
  | .unit n :: p :: ps =>
    if isHigh n || isLow n then .error .malformed
    else do return String.utf8EncodeChar (Char.ofNat n) ++ (← pieceBytes fault (p :: ps))

/-- The text of the pieces of a string, which ends by `fault` or well. -/
def pieceText (fault : Option Fault) (ps : List Piece) : Except Fault String := do
  match Utf8.toString? (← pieceBytes fault ps) with
  | some s => return s
  | none => throw .malformed

/-- A string behind its opening mark, and what follows it. -/
def readQuoted (bs : Bytes) : Quoted × Bytes :=
  match readPieces bs with
  | (ps, .ok rest) => (⟨pieceText none ps, none⟩, rest)
  | (ps, .error f) => (⟨pieceText (some f) ps, some f⟩, [])

/-! ## Documents -/

/-- The rest of a word: what follows it, or the fault. -/
def readWord : List UInt8 → Bytes → Except Fault Bytes
  | [], bs => .ok bs
  | _ :: _, [] => .error .truncated
  | w :: ws, b :: bs => if w == b then readWord ws bs else .error .malformed

/-- A word read as a document. -/
def wordDoc (d : Doc) (ws : List UInt8) (bs : Bytes) : Doc × Option Bytes :=
  match readWord ws bs with
  | .ok rest => (d, some rest)
  | .error f => (.misspelt f, none)

/-- What follows a walk that met no fault. -/
def restAfter (fault : Option Fault) (rest : Bytes) : Option Bytes :=
  if fault.isNone then some rest else none

mutual

/-- A document at the front of the bytes, and what follows it unless a fault stands in between. The
first argument bounds the number of steps. -/
def readDoc : Nat → Bytes → Doc × Option Bytes
  | 0, _ => (.missing .truncated, none)
  | fuel + 1, bs =>
    match skipBlank bs with
    | [] => (.missing .truncated, none)
    | 0x6E :: bs => wordDoc .null [0x75, 0x6C, 0x6C] bs
    | 0x74 :: bs => wordDoc (.bool true) [0x72, 0x75, 0x65] bs
    | 0x66 :: bs => wordDoc (.bool false) [0x61, 0x6C, 0x73, 0x65] bs
    | 0x22 :: bs =>
      let (q, rest) := readQuoted bs
      (.string q, restAfter q.skipped rest)
    | 0x5B :: bs =>
      match skipBlank bs with
      | [] => (.array [] (some .truncated), none)
      | 0x5D :: bs => (.array [] none, some bs)
      | bs =>
        let (ds, fault, rest) := readItems fuel bs
        (.array ds fault, rest)
    | 0x7B :: bs =>
      match skipBlank bs with
      | [] => (.object [] (some .truncated), none)
      | 0x7D :: bs => (.object [] none, some bs)
      | bs =>
        let (ms, fault, rest) := readMembers fuel bs
        (.object ms fault, rest)
    | b :: bs =>
      if b == 0x2D || isDigit b then
        let (n, rest) := readNumeral (b :: bs)
        (.number n, restAfter n.skipped rest)
      else (.missing .malformed, none)

/-- The items of an array from one that must come. -/
def readItems : Nat → Bytes → List Doc × Option Fault × Option Bytes
  | 0, _ => ([], some .truncated, none)
  | fuel + 1, bs =>
    match readDoc fuel bs with
    | (d, none) => ([d], none, none)
    | (d, some bs) =>
      match skipBlank bs with
      | [] => ([d], some .truncated, none)
      | 0x2C :: bs =>
        let (ds, fault, rest) := readItems fuel bs
        (d :: ds, fault, rest)
      | 0x5D :: bs => ([d], none, some bs)
      | _ => ([d], some .malformed, none)

/-- The members of an object from one that must come. -/
def readMembers : Nat → Bytes → List (Doc × Doc) × Option Fault × Option Bytes
  | 0, _ => ([], some .truncated, none)
  | fuel + 1, bs =>
    match readDoc fuel bs with
    | (.string q, some bs) =>
      match skipBlank bs with
      | 0x3A :: bs =>
        match readDoc fuel bs with
        | (d, none) => ([(.string q, d)], none, none)
        | (d, some bs) =>
          match skipBlank bs with
          | [] => ([(.string q, d)], some .truncated, none)
          | 0x2C :: bs =>
            let (ms, fault, rest) := readMembers fuel bs
            ((.string q, d) :: ms, fault, rest)
          | 0x7D :: bs => ([(.string q, d)], none, some bs)
          | _ => ([(.string q, d)], some .malformed, none)
      | [] => ([(.string q, .missing .truncated)], none, none)
      | _ => ([(.string q, .missing .malformed)], none, none)
    | (d, _) => ([(d, .missing .malformed)], none, none)

end

/-- A whole document: the value at its front, and whether nothing but white space follows. -/
structure Document where
  /-- The value at the front. -/
  value : Doc
  /-- Nothing but white space follows. -/
  complete : Bool

/-- The document that bytes hold. -/
def Document.ofBytes (bs : Bytes) : Document :=
  match readDoc (2 * bs.length + 2) bs with
  | (d, some rest) => ⟨d, (skipBlank rest).isEmpty⟩
  | (d, none) => ⟨d, false⟩

/-! ## Skipping -/

/-- Report a fault, if there is one. -/
def raise : Option Fault → Except Fault Unit
  | some f => .error f
  | none => .ok ()

/-- Pass a name. -/
def skipName : Doc → Except Fault Unit
  | .string q => raise q.skipped
  | .missing f => .error f
  | _ => .error .malformed

mutual

/-- Pass a document of any type. -/
def Doc.skip : Doc → Except Fault Unit
  | .missing f => .error f
  | .misspelt f => .error f
  | .null => .ok ()
  | .bool _ => .ok ()
  | .number n => raise n.skipped
  | .string q => raise q.skipped
  | .array items fault => do
    skipItems items
    raise fault
  | .object members fault => do
    skipMembers members
    raise fault

/-- Pass the items of an array. -/
def skipItems : List Doc → Except Fault Unit
  | [] => .ok ()
  | d :: ds => do
    d.skip
    skipItems ds

/-- Pass the members of an object. -/
def skipMembers : List (Doc × Doc) → Except Fault Unit
  | [] => .ok ()
  | m :: ms => do
    skipMember m
    skipMembers ms

/-- Pass one member. -/
def skipMember : Doc × Doc → Except Fault Unit
  | (name, d) => do
    skipName name
    d.skip

end

end ScimLookup.Json
