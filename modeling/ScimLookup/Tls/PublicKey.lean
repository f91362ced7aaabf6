import ScimLookup.Tls.Curve
import ScimLookup.Tls.Edwards
import ScimLookup.Tls.Factors

/-!
# Public keys

A public key names its method and shows its bits. Certificates carry it, and from a private key it
is worked out: for a secret of a curve it is the point that the secret leads to, which stands beside
it; for a seed it is the point that the seed leads to; for a key from factors it is the modulus and
the public exponent.
-/

set_option autoImplicit false

namespace ScimLookup

/-- The public half of a key: the name of its method and its bits, as they are encoded. -/
structure PublicKey where
  method : Bytes
  bits : Bytes
deriving DecidableEq, Repr

/-- A private key that names its method, with its public half if that stands beside it. -/
structure NamedKey where
  method : Bytes
  content : Bytes
  shown : Option Bytes
deriving DecidableEq, Repr

/-- The named key of some bytes. Attributes behind it do not count. -/
def NamedKey.ofBytes? (bs : Bytes) : Option NamedKey := do
  match ← Element.sequence? bs with
  | [⟨.integer, [0]⟩, ⟨.sequence, method⟩, ⟨.octets, content⟩]
  | [⟨.integer, [0]⟩, ⟨.sequence, method⟩, ⟨.octets, content⟩, ⟨.field 0, _⟩] =>
    some ⟨method, content, none⟩
  | [⟨.integer, [1]⟩, ⟨.sequence, method⟩, ⟨.octets, content⟩, ⟨.field 1, shown⟩]
  | [⟨.integer, [1]⟩, ⟨.sequence, method⟩, ⟨.octets, content⟩, ⟨.field 0, _⟩, ⟨.field 1, shown⟩] =>
    some ⟨method, content, some (← Element.wholeBits? shown)⟩
  | _ => none

namespace PublicKey

/-- The public key of a certificate. -/
def ofBytes? (bs : Bytes) : Option PublicKey := do
  match ← Element.all? bs with
  | [⟨.sequence, method⟩, ⟨.bits, 0 :: bits⟩] => some ⟨method, bits⟩
  | _ => none

/-! ## Keys on curves -/

/-- The curves for keys that can sign. -/
def curves : List Curve := [.p256, .p384]

/-- The name of keys on curves. -/
def curveMethod : Bytes := [0x06, 0x07, 0x2A, 0x86, 0x48, 0xCE, 0x3D, 0x02, 0x01]

/-- How a key on a curve names its method. -/
def methodOf (c : Curve) : Bytes :=
  curveMethod ++ c.name

/-- The key on a curve for a secret, if the point shown is the one it leads to. -/
def ofSecret? (c : Curve) (secret point : Bytes) : Option PublicKey := do
  let n ← c.secret? secret
  let bits ← Element.wholeBits? point
  if c.isShown n bits then some ⟨methodOf c, bits⟩ else none

/-- The public half of a private key on a curve: its secret, its curve if it is named, and its
point. -/
def ofCurveKey? (c : Curve) (bs : Bytes) : Option PublicKey := do
  match ← Element.sequence? bs with
  | [⟨.integer, [1]⟩, ⟨.octets, secret⟩, ⟨.field 1, point⟩] => ofSecret? c secret point
  | [⟨.integer, [1]⟩, ⟨.octets, secret⟩, ⟨.field 0, name⟩, ⟨.field 1, point⟩] =>
    if name = c.name then ofSecret? c secret point else none
  | _ => none

/-! ## Keys from seeds and from factors -/

/-- The name of keys from seeds. -/
def seedMethod : Bytes := [0x06, 0x03, 0x2B, 0x65, 0x70]

/-- How many bytes a seed takes. -/
def seedSize : Nat := 32

/-- The public half of a private key that is a seed. If it stands beside the seed, it must be the
one that the seed leads to. -/
def ofSeed? (content : Bytes) (shown : Option Bytes) : Option PublicKey := do
  match ← Element.all? content with
  | [⟨.octets, seed⟩] =>
    let bits := EdwardsPoint.ofSeed seed
    if seed.length = seedSize ∧ shown.getD bits = bits then some ⟨seedMethod, bits⟩ else none
  | _ => none

/-- The name of keys from factors. -/
def factorMethod : Bytes :=
  [0x06, 0x09, 0x2A, 0x86, 0x48, 0x86, 0xF7, 0x0D, 0x01, 0x01, 0x01, 0x05, 0x00]

/-- The public half of a private key from factors that fit together. -/
def ofFactors? (bs : Bytes) : Option PublicKey := do
  let k ← FactorKey.ofBytes? bs
  if k.isSound then some ⟨factorMethod, k.shown⟩ else none

/-! ## Named keys -/

/-- The public half of a private key that names its method. Only a seed may have its public half
beside it. -/
def ofNamedKey? (bs : Bytes) : Option PublicKey := do
  let k ← NamedKey.ofBytes? bs
  if k.method = seedMethod then ofSeed? k.content k.shown
  else if k.shown.isSome then none
  else if k.method = factorMethod then ofFactors? k.content
  else (curves.find? fun c => methodOf c = k.method).bind fun c => ofCurveKey? c k.content

end PublicKey

end ScimLookup
