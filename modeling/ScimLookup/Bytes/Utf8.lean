/-!
# Text as bytes

UTF-8 in both directions. Reading runs a machine over the bytes, one byte at a time: it is either
between characters or inside one, where it knows how many bytes are still owed and which range the
next one must fall in. Each character that comes to its end is reported, and so is each damaged
stretch: the longest run of bytes that begins some character and is cut short, or a single byte that
begins none. A damaged stretch reads as U+FFFD when reading may not fail.
-/

set_option autoImplicit false

namespace ScimLookup

/-- A sequence of bytes. -/
abbrev Bytes := List UInt8

namespace Utf8

/-! ## Writing -/

/-- The bytes of a sequence of characters. -/
def encode (cs : List Char) : Bytes :=
  cs.flatMap String.utf8EncodeChar

/-- The bytes of a text. -/
def ofString (s : String) : Bytes :=
  encode s.toList

/-! ## The reading machine -/

/-- Where the machine stands: between characters, or inside one with `owed + 1` bytes to come, the
next of them from `low` to `high`, and the bits read so far. -/
inductive State where
  | between
  | inside (owed : Nat) (low high : Nat) (bits : Nat)
deriving DecidableEq, Repr

/-- What a byte says that opens a character. -/
def opening (b : Nat) : Option Char × State :=
  if b < 0x80 then (some (Char.ofNat b), .between)
  else if b < 0xC2 then (none, .between)
  else if b < 0xE0 then (none, .inside 0 0x80 0xBF (b - 0xC0))
  else if b == 0xE0 then (none, .inside 1 0xA0 0xBF 0)
  else if b == 0xED then (none, .inside 1 0x80 0x9F 0xD)
  else if b < 0xF0 then (none, .inside 1 0x80 0xBF (b - 0xE0))
  else if b == 0xF0 then (none, .inside 2 0x90 0xBF 0)
  else if b < 0xF4 then (none, .inside 2 0x80 0xBF (b - 0xF0))
  else if b == 0xF4 then (none, .inside 2 0x80 0x8F 4)
  else (none, .between)

/-- A byte read between characters: a character, a damaged byte (`none`) or the start of a longer
character. -/
def open1 (b : UInt8) : List (Option Char) × State :=
  match opening b.toNat with
  | (some c, s) => ([some c], s)
  | (none, .between) => ([none], .between)
  | (none, s) => ([], s)

/-- One byte: what it completes, and where the machine stands after it. -/
def step : State → UInt8 → List (Option Char) × State
  | .between, b => open1 b
  | .inside owed low high bits, b =>
    if low ≤ b.toNat ∧ b.toNat ≤ high then
      let bits := bits * 64 + (b.toNat - 0x80)
      match owed with
      | 0 => ([some (Char.ofNat bits)], .between)
      | n + 1 => ([], .inside n 0x80 0xBF bits)
    else
      let (out, s) := open1 b
      (none :: out, s)

/-- The characters and the damaged stretches of a byte sequence, in order. -/
def run : State → Bytes → List (Option Char)
  | .between, [] => []
  | .inside .., [] => [none]
  | s, b :: bs =>
    let (out, s') := step s b
    out ++ run s' bs

/-! ## Reading -/

/-- The text of well-formed bytes. -/
def decode? (bs : Bytes) : Option (List Char) :=
  (run .between bs).mapM id

/-- The text of any bytes, with U+FFFD for each damaged stretch. -/
def decode (bs : Bytes) : List Char :=
  (run .between bs).map fun c => c.getD (Char.ofNat 0xFFFD)

/-- The string of well-formed bytes. -/
def toString? (bs : Bytes) : Option String :=
  (decode? bs).map String.ofList

/-- The string of any bytes, with U+FFFD for each damaged stretch. -/
def toString (bs : Bytes) : String :=
  .ofList (decode bs)

/-- The character at the front, if the first bytes are one. -/
def first? (bs : Bytes) : Option Char :=
  [1, 2, 3, 4].findSome? fun n =>
    match decode? (bs.take n) with
    | some [c] => some c
    | _ => none

/-- The characters of a byte sequence, and each byte that belongs to none, in order. -/
def parts : Bytes → List (Char ⊕ UInt8)
  | [] => []
  | b :: bs =>
    match first? (b :: bs) with
    | some c => .inl c :: parts (bs.drop (c.utf8Size - 1))
    | none => .inr b :: parts bs
termination_by bs => bs.length

end Utf8

end ScimLookup
