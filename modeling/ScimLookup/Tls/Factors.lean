import ScimLookup.Tls.Curve
import ScimLookup.Tls.Element

/-!
# Keys from factors

An RSA key is a modulus that is the product of two primes, a public exponent and a secret one.
Beside them its encoding (PKCS #1) has the two primes, what is left of the secret exponent for each
of them, and the inverse of the second prime. That the numbers fit together is checked; that the
primes are prime is not.
-/

set_option autoImplicit false

namespace ScimLookup

/-- The numbers of an RSA key. -/
structure FactorKey where
  modulus : Nat
  exponent : Nat
  secret : Nat
  first : Nat
  second : Nat
  firstSecret : Nat
  secondSecret : Nat
  inverse : Nat
deriving DecidableEq, Repr

namespace FactorKey

/-! ## Reading -/

/-- The number of a content, which must not be negative and takes no byte too many. -/
def natural? : Bytes → Option Nat
  | [] => none
  | [b] => if b < 0x80 then some b.toNat else none
  | b :: c :: bs =>
    if b < 0x80 ∧ (b ≠ 0 ∨ 0x80 ≤ c) then some (Curve.number (b :: c :: bs)) else none

/-- The number of an element. -/
def ofElement? : Element → Option Nat
  | ⟨.integer, content⟩ => natural? content
  | _ => none

/-- The key of some bytes. -/
def ofBytes? (bs : Bytes) : Option FactorKey := do
  match ← (← Element.sequence? bs).mapM ofElement? with
  | [0, n, e, d, p, q, dp, dq, i] => some ⟨n, e, d, p, q, dp, dq, i⟩
  | _ => none

/-! ## Checking -/

/-- A number has so many bits. -/
def hasBits (bits n : Nat) : Bool :=
  n.log2 + 1 == bits

/-- The sizes of the primes in bits. -/
def sizes : List Nat := [1024, 1536, 2048]

/-- The primes are of one size, and the modulus is their product. -/
def hasFactors (k : FactorKey) : Bool :=
  sizes.any (fun bits => hasBits bits k.first && hasBits bits k.second) &&
    k.modulus == k.first * k.second && k.modulus % 2 == 1

/-- The public exponent is one that can be used. -/
def hasExponent (k : FactorKey) : Bool :=
  k.exponent % 2 == 1 && decide (65537 ≤ k.exponent ∧ k.exponent < 1 <<< 33)

/-- The secret exponent and what is left of it are odd and have the right size. -/
def hasSecrets (k : FactorKey) : Bool :=
  [k.secret, k.firstSecret, k.secondSecret].all (· % 2 == 1) &&
    decide (k.first < k.secret ∧ k.secret < k.modulus ∧ k.firstSecret < k.first ∧
      k.secondSecret < k.second)

/-- The inverse is one. -/
def hasInverse (k : FactorKey) : Bool :=
  decide (k.inverse < k.first) && k.inverse * k.second % k.first == 1

/-- The numbers fit together. -/
def isSound (k : FactorKey) : Bool :=
  k.hasFactors && k.hasExponent && k.hasSecrets && k.hasInverse

/-! ## Writing -/

/-- The bytes of a number, the highest first, without zeros in front. -/
def digits (n : Nat) : Bytes :=
  if n = 0 then [] else digits (n / 256) ++ [UInt8.ofNat n]

/-- An element with a tag. -/
def tagged (tag : UInt8) (content : Bytes) : Bytes :=
  let n := content.length
  let length :=
    if n < 0x80 then [n] else if n < 0x100 then [0x81, n] else [0x82, n / 256, n % 256]
  tag :: length.map UInt8.ofNat ++ content

/-- A number as an element: a byte of zeros stands in front where the highest bit would be set. -/
def integer (n : Nat) : Bytes :=
  tagged 0x02 (match digits n with
    | [] => [0]
    | b :: bs => if b < 0x80 then b :: bs else 0 :: b :: bs)

/-- The public half: the modulus and the public exponent. -/
def shown (k : FactorKey) : Bytes :=
  tagged 0x30 (integer k.modulus ++ integer k.exponent)

end FactorKey

end ScimLookup
