import ScimLookup.Bytes.Utf8

/-!
# Base64

The standard alphabet with padding. Three bytes are four digits of six bits; a last group of one or
two bytes is filled up with `=`. Strict reading accepts exactly the written forms: the length is a
multiple of four, the padding is complete, and the bits that padding leaves over are zero. Loose
reading asks for no padding and lets those bits be, but a padding that is there must be complete.
-/

set_option autoImplicit false

namespace ScimLookup.Base64

/-- The digit of a value below 64. -/
def digit (n : Nat) : Char :=
  if n < 26 then Char.ofNat (65 + n)
  else if n < 52 then Char.ofNat (71 + n)
  else if n < 62 then Char.ofNat (n - 4)
  else if n = 62 then '+'
  else '/'

/-- The value of a digit. -/
def value? (c : Char) : Option Nat :=
  let n := c.toNat
  if 65 ≤ n ∧ n ≤ 90 then some (n - 65)
  else if 97 ≤ n ∧ n ≤ 122 then some (n - 71)
  else if 48 ≤ n ∧ n ≤ 57 then some (n + 4)
  else if c = '+' then some 62
  else if c = '/' then some 63
  else none

/-- The digits of a byte sequence. -/
def encode : Bytes → List Char
  | [] => []
  | [a] => [digit (a.toNat / 4), digit (a.toNat % 4 * 16), '=', '=']
  | [a, b] =>
    [digit (a.toNat / 4), digit (a.toNat % 4 * 16 + b.toNat / 16), digit (b.toNat % 16 * 4), '=']
  | a :: b :: c :: rest =>
    digit (a.toNat / 4) :: digit (a.toNat % 4 * 16 + b.toNat / 16) ::
      digit (b.toNat % 16 * 4 + c.toNat / 64) :: digit (c.toNat % 64) :: encode rest

/-- One byte from two digits, and the bits left over. -/
def oneByte (p q : Char) : Option (Bytes × Nat) := do
  let p ← value? p
  let q ← value? q
  some ([UInt8.ofNat (p * 4 + q / 16)], q % 16)

/-- Two bytes from three digits, and the bits left over. -/
def twoBytes (p q r : Char) : Option (Bytes × Nat) := do
  let p ← value? p
  let q ← value? q
  let r ← value? r
  some ([UInt8.ofNat (p * 4 + q / 16), UInt8.ofNat (q % 16 * 16 + r / 4)], r % 4)

/-- Three bytes from a full group. -/
def threeBytes (p q r s : Char) : Option Bytes := do
  let p ← value? p
  let q ← value? q
  let r ← value? r
  let s ← value? s
  some [UInt8.ofNat (p * 4 + q / 16), UInt8.ofNat (q % 16 * 16 + r / 4),
    UInt8.ofNat (r % 4 * 64 + s)]

/-- The bytes, if no bit that is left over is set. -/
def exact : Option (Bytes × Nat) → Option Bytes
  | some (bs, 0) => some bs
  | _ => none

/-- The bytes of a digit sequence in its written form. -/
def decode? : List Char → Option Bytes
  | [] => some []
  | [p, q, '=', '='] => exact (oneByte p q)
  | [p, q, r, '='] => exact (twoBytes p q r)
  | p :: q :: r :: s :: rest => do
    let front ← threeBytes p q r s
    let back ← decode? rest
    some (front ++ back)
  | _ => none

/-- The bytes of a digit sequence, whose last group may lack its padding. Bits that are left over do
not count. -/
def decodeLoose? : List Char → Option Bytes
  | [] => some []
  | [p, q] => (oneByte p q).map (·.1)
  | [p, q, r] => (twoBytes p q r).map (·.1)
  | [p, q, '=', '='] => (oneByte p q).map (·.1)
  | [p, q, r, '='] => (twoBytes p q r).map (·.1)
  | p :: q :: r :: s :: rest => do
    let front ← threeBytes p q r s
    let back ← decodeLoose? rest
    some (front ++ back)
  | _ => none

/-- The base64 text of a byte sequence. -/
def ofBytes (bs : Bytes) : String :=
  .ofList (encode bs)

/-- The bytes of a base64 text. -/
def toBytes? (s : String) : Option Bytes :=
  decode? s.toList

end ScimLookup.Base64
