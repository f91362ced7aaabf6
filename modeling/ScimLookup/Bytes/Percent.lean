import ScimLookup.Bytes.Utf8

/-!
# Percent escapes

A byte written as `%` and two upper-case hexadecimal digits. Which characters are written so is the
choice of each format; reading accepts digits of either case and leaves a `%` without two digits as
it stands.
-/

set_option autoImplicit false

namespace ScimLookup.Percent

/-- The upper-case hexadecimal digit of a value below 16. -/
def hexDigit (n : Nat) : Char :=
  if n < 10 then Char.ofNat (48 + n) else Char.ofNat (55 + n)

/-- The value of a hexadecimal digit of either case. -/
def hexValue? (n : Nat) : Option Nat :=
  if 48 ≤ n ∧ n ≤ 57 then some (n - 48)
  else if 65 ≤ n ∧ n ≤ 70 then some (n - 55)
  else if 97 ≤ n ∧ n ≤ 102 then some (n - 87)
  else none

/-- The escape of one byte. -/
def escape (b : UInt8) : List Char :=
  ['%', hexDigit (b.toNat / 16), hexDigit (b.toNat % 16)]

/-- The characters of a text, with those of `p` escaped byte by byte. -/
def encode (p : Char → Bool) (cs : List Char) : List Char :=
  cs.flatMap fun c => if p c then (String.utf8EncodeChar c).flatMap escape else [c]

/-- The bytes that two hexadecimal digits after a `%` stand for. -/
def pair? (hi lo : UInt8) : Option UInt8 := do
  let hi ← hexValue? hi.toNat
  let lo ← hexValue? lo.toNat
  some (UInt8.ofNat (hi * 16 + lo))

/-- The bytes of a text with escapes. -/
def decode : Bytes → Bytes
  | 0x25 :: hi :: lo :: rest =>
    match pair? hi lo with
    | some b => b :: decode rest
    | none => 0x25 :: decode (hi :: lo :: rest)
  | b :: rest => b :: decode rest
  | [] => []

end ScimLookup.Percent
