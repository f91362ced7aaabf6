import ScimLookup.Bytes.Utf8

/-!
# Curves

A key is a number, its secret, and a point of a curve: the multiple of the curve's base point that
the secret counts. A curve consists of the solutions of `y² = x³ - 3x + b` among the residues of a
prime and one point that is none, the neutral one. Points are kept by three residues, so that adding
them takes no division: `(x, y, z)` stands for the solution `(x/z², y/z³)`, and for the neutral
point if `z` is zero.
-/

set_option autoImplicit false

namespace ScimLookup

/-- A curve. The constant `b` follows from the base point and takes no part in adding. -/
structure Curve where
  /-- The encoded name. -/
  name : Bytes
  /-- How many bytes a residue takes. -/
  size : Nat
  prime : Nat
  /-- How many multiples the base point has. -/
  order : Nat
  baseX : Nat
  baseY : Nat
deriving DecidableEq, Repr

/-- A point by three residues. -/
structure CurvePoint where
  x : Int
  y : Int
  z : Int
deriving DecidableEq, Repr

namespace Curve

/-- The curve P-256. -/
def p256 : Curve where
  name := [0x06, 0x08, 0x2A, 0x86, 0x48, 0xCE, 0x3D, 0x03, 0x01, 0x07]
  size := 32
  prime := 0xFFFFFFFF00000001000000000000000000000000FFFFFFFFFFFFFFFFFFFFFFFF
  order := 0xFFFFFFFF00000000FFFFFFFFFFFFFFFFBCE6FAADA7179E84F3B9CAC2FC632551
  baseX := 0x6B17D1F2E12C4247F8BCE6E563A440F277037D812DEB33A0F4A13945D898C296
  baseY := 0x4FE342E2FE1A7F9B8EE7EB4A7C0F9E162BCE33576B315ECECBB6406837BF51F5

/-- The curve P-384. -/
def p384 : Curve where
  name := [0x06, 0x05, 0x2B, 0x81, 0x04, 0x00, 0x22]
  size := 48
  prime :=
    0xFFFFFFFFFFFFFFFFFFFFFFFFFFFFFFFFFFFFFFFFFFFFFFFFFFFFFFFFFFFFFFFEFFFFFFFF0000000000000000FFFFFFFF
  order :=
    0xFFFFFFFFFFFFFFFFFFFFFFFFFFFFFFFFFFFFFFFFFFFFFFFFC7634D81F4372DDF581A0DB248B0A77AECEC196ACCC52973
  baseX :=
    0xAA87CA22BE8B05378EB1C71EF320AD746E1D3B628BA79B9859F741E082542A385502F25DBF55296C3A545E3872760AB7
  baseY :=
    0x3617DE4A96262C6F5D9E98BF9292DC29F8F41DBD289A147CE9DA3113B5F0B8C00A60B1CE1D7E819D7A431D7C90EA0E5F

/-! ## Adding -/

/-- The residue of a number. -/
def residue (c : Curve) (n : Int) : Int :=
  n % c.prime

/-- The neutral point. -/
def neutral : CurvePoint := ⟨1, 1, 0⟩

/-- The base point. -/
def base (c : Curve) : CurvePoint := ⟨c.baseX, c.baseY, 1⟩

/-- A point added to itself. -/
def double (c : Curve) (p : CurvePoint) : CurvePoint :=
  let yy := c.residue (p.y * p.y)
  let zz := c.residue (p.z * p.z)
  let s := c.residue (4 * p.x * yy)
  let m := c.residue (3 * (p.x - zz) * (p.x + zz))
  let x := c.residue (m * m - 2 * s)
  ⟨x, c.residue (m * (s - x) - 8 * yy * yy), c.residue (2 * p.y * p.z)⟩

/-- The sum of two points. -/
def add (c : Curve) (p q : CurvePoint) : CurvePoint :=
  if p.z = 0 then q
  else if q.z = 0 then p
  else
    let pz := c.residue (p.z * p.z)
    let qz := c.residue (q.z * q.z)
    let u := c.residue (p.x * qz)
    let s := c.residue (p.y * q.z * qz)
    let h := c.residue (q.x * pz - u)
    let r := c.residue (q.y * p.z * pz - s)
    if h = 0 ∧ r = 0 then c.double p
    else
      let hh := c.residue (h * h)
      let x := c.residue (r * r - h * hh - 2 * u * hh)
      ⟨x, c.residue (r * (u * hh - x) - s * h * hh), c.residue (h * p.z * q.z)⟩

/-- A multiple of a point: twice the half, and the point once more if the number is odd. -/
def multiple (c : Curve) (p : CurvePoint) (n : Nat) : CurvePoint :=
  if n = 0 then neutral
  else
    let twice := c.double (c.multiple p (n / 2))
    if n % 2 = 1 then c.add twice p else twice
termination_by n

/-- The point stands for the solution of these two residues. -/
def isAt (c : Curve) (p : CurvePoint) (x y : Nat) : Bool :=
  decide (x < c.prime) && decide (y < c.prime) && p.z != 0 &&
    p.x == c.residue (x * p.z * p.z) && p.y == c.residue (y * p.z * p.z * p.z)

/-! ## Encoding -/

/-- The number of a run of bytes, the highest first. -/
def number (bs : Bytes) : Nat :=
  bs.foldl (fun n b => n * 256 + b.toNat) 0

/-- The bytes show the multiple of the base point that a secret counts: after the byte 4 its two
residues. -/
def isShown (c : Curve) (secret : Nat) : Bytes → Bool
  | 0x04 :: bs =>
    bs.length == 2 * c.size &&
      c.isAt (c.multiple c.base secret) (number (bs.take c.size)) (number (bs.drop c.size))
  | _ => false

/-- The secret of some bytes: a number from one up to the order of the curve, which is none. -/
def secret? (c : Curve) (bs : Bytes) : Option Nat :=
  let n := number bs
  if bs.length = c.size ∧ 0 < n ∧ n < c.order then some n else none

end Curve

end ScimLookup
