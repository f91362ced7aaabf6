import ScimLookup.Bytes.Sha512

/-!
# The twisted curve

The solutions of `-x² + y² = 1 + d x² y²` among the residues of the prime `2²⁵⁵ - 19`, as Ed25519
has them. A point is kept by four residues: `(x, y, z, t)` stands for the solution `(x/z, y/z)`, and
`t` for `xy/z`, so that adding takes no division and one rule serves for all points. A seed leads to
a number by way of its digest, and the number to the multiple of the base point that it counts.
-/

set_option autoImplicit false

namespace ScimLookup

/-- A point by four residues. -/
structure EdwardsPoint where
  x : Int
  y : Int
  z : Int
  t : Int
deriving DecidableEq, Repr

namespace EdwardsPoint

/-- The prime. -/
def prime : Nat := (1 <<< 255) - 19

/-- The constant `d`, which is `-121665/121666`. -/
def constant : Int :=
  0x52036CEE2B6FFE738CC740797779E89800700A4D4141D8AB75EB4DCA135978A3

/-- The residue of a number. -/
def residue (n : Int) : Int :=
  n % prime

/-! ## Adding -/

/-- The point that a solution is. -/
def ofSolution (x y : Int) : EdwardsPoint :=
  ⟨x, y, 1, residue (x * y)⟩

/-- The neutral point. -/
def neutral : EdwardsPoint := ofSolution 0 1

/-- The base point. -/
def base : EdwardsPoint :=
  ofSolution 0x216936D3CD6E53FEC0A4E231FDD6DC5C692CC7609525A7B2C9562D608F25D51A
    0x6666666666666666666666666666666666666666666666666666666666666658

/-- The sum of two points. -/
def add (p q : EdwardsPoint) : EdwardsPoint :=
  let a := residue ((p.y - p.x) * (q.y - q.x))
  let b := residue ((p.y + p.x) * (q.y + q.x))
  let c := residue (2 * constant * p.t * q.t)
  let d := residue (2 * p.z * q.z)
  ⟨residue ((b - a) * (d - c)), residue ((d + c) * (b + a)), residue ((d - c) * (d + c)),
    residue ((b - a) * (b + a))⟩

/-- A multiple of a point: twice the half, and the point once more if the number is odd. -/
def multiple (p : EdwardsPoint) (n : Nat) : EdwardsPoint :=
  if n = 0 then neutral
  else
    let half := p.multiple (n / 2)
    let twice := half.add half
    if n % 2 = 1 then twice.add p else twice
termination_by n

/-! ## Encoding -/

/-- The residue of a power. -/
def power (b : Int) (n : Nat) : Int :=
  if n = 0 then 1
  else
    let half := power b (n / 2)
    let twice := residue (half * half)
    if n % 2 = 1 then residue (twice * b) else twice
termination_by n

/-- The number of a run of bytes, the lowest first. -/
def number (bs : Bytes) : Nat :=
  bs.foldr (fun b n => n * 256 + b.toNat) 0

/-- The bytes of a number, the lowest first. -/
def bytes (count n : Nat) : Bytes :=
  (List.range count).map fun i => UInt8.ofNat (n >>> (8 * i))

/-- How a point is shown: `y`, and in the highest bit whether `x` is odd. -/
def shown (p : EdwardsPoint) : Bytes :=
  -- Dividing by `z` is multiplying by the power of it that is one short of the first.
  let inverse := power p.z (prime - 2)
  let x := residue (p.x * inverse)
  let y := residue (p.y * inverse)
  bytes 32 (y.toNat + ((x.toNat % 2) <<< 255))

/-- The number that a seed leads to: its lowest three bits are cleared, and the highest is the one
for 2²⁵⁴. -/
def secret (seed : Bytes) : Nat :=
  let n := number ((Sha512.digest seed).take 32)
  let highest := 1 <<< 254
  n % highest - n % 8 + highest

/-- The point that a seed leads to, as it is shown. -/
def ofSeed (seed : Bytes) : Bytes :=
  (base.multiple (secret seed)).shown

-- The seed of zeros is a known one.
example : (ofSeed (List.replicate 32 0)).take 4 = [0x3B, 0x6A, 0x27, 0xBC] := by
  decide +kernel

end EdwardsPoint

end ScimLookup
