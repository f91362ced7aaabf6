/-!
# Punycode

Labels with characters beyond ASCII as ASCII: first the ASCII characters, then for each further
character in ascending order its distance from the one before, in variable-length digits to the base
36 whose thresholds adapt. A label has one such form only.
-/

set_option autoImplicit false

namespace ScimLookup.Punycode

/-! ## Digits -/

/-- The digit of a value below 36. -/
def digit (d : Nat) : Char :=
  if d < 26 then Char.ofNat (97 + d) else Char.ofNat (22 + d)

/-- The value of a digit. -/
def digitValue? (c : Char) : Option Nat :=
  let n := c.toNat
  if 97 ≤ n ∧ n ≤ 122 then some (n - 97)
  else if 48 ≤ n ∧ n ≤ 57 then some (n - 22)
  else none

/-- The threshold of the digit at position `k`, counted in steps of 36. -/
def threshold (k bias : Nat) : Nat :=
  if k ≤ bias then 1 else if bias + 26 ≤ k then 26 else k - bias

/-- Bring a distance down to the range of the bias. -/
def shrink (delta k : Nat) : Nat × Nat :=
  if 455 < delta then shrink (delta / 35) (k + 36) else (delta, k)
termination_by delta
decreasing_by omega

/-- The bias after a distance. -/
def adapt (delta count : Nat) (first : Bool) : Nat :=
  let d := if first then delta / 700 else delta / 2
  let (d, k) := shrink (d + d / count) 0
  k + 36 * d / (d + 38)

/-! ## Writing -/

/-- The digits of a distance. -/
def distanceDigits (bias k q : Nat) : List Char :=
  let t := threshold k bias
  if q < t ∨ 26 < t ∨ t = 0 then [digit q]
  else digit (t + (q - t) % (36 - t)) :: distanceDigits bias (k + 36) ((q - t) / (36 - t))
termination_by q
decreasing_by
  have : (q - threshold k bias) / (36 - threshold k bias) ≤ q - threshold k bias :=
    Nat.div_le_self _ _
  omega

/-- The state of writing: what is written, the distance run up, the bias, and how many characters
are done. -/
structure Writing where
  out : List Char
  delta : Nat
  bias : Nat
  done : Nat

/-- Pass a character while those equal to `m` are written. -/
def writeStep (basic m : Nat) (s : Writing) (c : Char) : Writing :=
  if c.toNat < m then { s with delta := s.delta + 1 }
  else if c.toNat = m then
    ⟨s.out ++ distanceDigits s.bias 36 s.delta, 0, adapt s.delta (s.done + 1) (s.done = basic),
      s.done + 1⟩
  else s

/-- Write the characters beyond ASCII, given in ascending order without repetition. -/
def writeAll (label : List Char) (basic : Nat) : List Nat → Nat → Writing → List Char
  | [], _, s => s.out
  | m :: ms, n, s =>
    let s := { s with delta := s.delta + (m - n) * (s.done + 1) }
    let s := label.foldl (writeStep basic m) s
    writeAll label basic ms (m + 1) { s with delta := s.delta + 1 }

/-- An ASCII character. -/
def isAscii (c : Char) : Bool :=
  decide (c.toNat < 128)

/-- Put a number in its place, once. -/
def insertOnce (n : Nat) : List Nat → List Nat
  | [] => [n]
  | m :: ms => if n < m then n :: m :: ms else if n = m then m :: ms else m :: insertOnce n ms

/-- The form of a label. -/
def encode (label : List Char) : List Char :=
  let basic := label.filter isAscii
  let front := if basic.isEmpty then [] else basic ++ ['-']
  let others := (label.filter (!isAscii ·)).foldl (fun ns c => insertOnce c.toNat ns) []
  writeAll label basic.length others 128 ⟨front, 0, 72, basic.length⟩

/-! ## Reading -/

/-- Read the digits of a distance onto `sum`: the sum and the rest. Numbers have 32 bits. -/
def readDistance (bias : Nat) : Nat → Nat → Nat → List Char → Option (Nat × List Char)
  | _, _, _, [] => none
  | k, weight, sum, c :: cs => do
    let d ← digitValue? c
    let t := threshold k bias
    let sum := sum + d * weight
    if sum ≥ 0x100000000 then none
    else if d < t then some (sum, cs)
    else if weight * (36 - t) ≥ 0x100000000 then none
    else readDistance bias (k + 36) (weight * (36 - t)) sum cs

/-- Put the characters beyond ASCII into their places, counting from the place `i` and the character
`n` on. The first argument bounds the steps. -/
def readAll (first : Bool) : Nat → Nat → Nat → Nat → List Char → List Char → Option (List Char)
  | _, _, _, _, out, [] => some out
  | 0, _, _, _, _, _ :: _ => none
  | fuel + 1, n, i, bias, out, cs => do
    let (place, cs) ← readDistance bias 36 1 i cs
    let count := out.length + 1
    let n := n + place / count
    let spot := place % count
    if n.isValidChar then
      let out := out.take spot ++ Char.ofNat n :: out.drop spot
      readAll false fuel n (spot + 1) (adapt (place - i) count first) out cs
    else none

/-- The label with a form. A dash at the front ends no ASCII characters. -/
def decode? (cs : List Char) : Option (List Char) :=
  let rev := cs.reverse
  let tail := (rev.takeWhile (· ≠ '-')).reverse
  let basic := ((rev.dropWhile (· ≠ '-')).drop 1).reverse
  readAll true cs.length 128 0 72 basic (if basic.isEmpty then cs else tail)

end ScimLookup.Punycode
