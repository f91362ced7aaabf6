/-!
# Binary floating point, exactly

The numbers of the 64-bit binary format as data: 53 significant bits, exponents from -1074 to 971.
A quotient of natural numbers is rounded to the nearest of them, a tie to the even significand; what
is too large becomes infinite. Nothing here is approximate: a finite number is its significand times
a power of two.
-/

set_option autoImplicit false

namespace ScimLookup

/-- A number of the 64-bit binary format: `significand * 2 ^ exponent`, or none at all. -/
inductive Double where
  | nan
  | infinite (negative : Bool)
  | finite (negative : Bool) (significand : Nat) (exponent : Int)
deriving DecidableEq, Repr

namespace Double

/-- The numerator of `m * 2 ^ e`. -/
def scaleUp (m : Nat) (e : Int) : Nat :=
  m * Nat.pow 2 e.toNat

/-- A quotient rounded to the nearest natural number, a tie to the even one. -/
def roundQuotient (num den : Nat) : Nat :=
  let q := num / den
  let twice := 2 * (num % den)
  if twice < den then q
  else if den < twice then q + 1
  else q + q % 2

/-- The exponent that leaves 53 bits of a positive quotient, or the least exponent there is. -/
def exponentFor (num den : Nat) : Int :=
  let guess : Int := (Nat.log2 num : Int) - (Nat.log2 den : Int) - 53
  let fits (e : Int) : Bool := scaleUp num (-e) < 0x20000000000000 * scaleUp den e
  max (if fits guess then guess else guess + 1) (-1074)

/-- The nearest number to a quotient of natural numbers. -/
def ofRatio (negative : Bool) (num den : Nat) : Double :=
  if num = 0 then .finite negative 0 (-1074)
  else
    let e := exponentFor num den
    let m := roundQuotient (scaleUp num (-e)) (scaleUp den e)
    let (m, e) := if m = 0x20000000000000 then (0x10000000000000, e + 1) else (m, e)
    if e > 971 then .infinite negative else .finite negative m e

/-- The nearest number to `digits * 10 ^ exponent`. Far outside the range nothing is computed. -/
def ofDecimal (negative : Bool) (digits : Nat) (exponent : Int) : Double :=
  let size : Int := (Nat.log2 digits : Int) / 4 + exponent
  let top : Int := (Nat.log2 digits : Int) / 3 + exponent
  if digits = 0 then .finite negative 0 (-1074)
  else if size > 310 then .infinite negative
  else if top < -330 then .finite negative 0 (-1074)
  else ofRatio negative (digits * Nat.pow 10 exponent.toNat) (Nat.pow 10 (-exponent).toNat)

/-- Larger than every finite number, in either direction. -/
def isInfinite : Double → Bool
  | .infinite _ => true
  | _ => false

/-- The product of two numbers, rounded. -/
def mul : Double → Double → Double
  | .finite s m e, .finite t n f =>
    ofRatio (s != t) (scaleUp m e * scaleUp n f) (scaleUp 1 (-e) * scaleUp 1 (-f))
  | .infinite s, .finite t n _ => if n = 0 then .nan else .infinite (s != t)
  | .finite s m _, .infinite t => if m = 0 then .nan else .infinite (s != t)
  | .infinite s, .infinite t => .infinite (s != t)
  | .nan, _ => .nan
  | _, .nan => .nan

/-- Equality of values: no value is equal to `nan`, and the two zeros are equal. -/
def same : Double → Double → Bool
  | .finite s m e, .finite t n f => (m == 0 && n == 0) || (s == t && m == n && e == f)
  | .infinite s, .infinite t => s == t
  | _, _ => false

end Double

end ScimLookup
