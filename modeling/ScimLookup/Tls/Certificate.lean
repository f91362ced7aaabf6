import ScimLookup.Tls.Element

/-!
# Certificates

A certificate is what is signed, how it is signed, and the signature. What is signed names the third
version, a number, the method of signing once more, who signed, for how long, for whom, and for
which public key; extensions may follow. An extension that a reader must know is one of six, none of
these comes twice, and each of them but the first holds a sequence.

Signatures and times are not looked at: whoever sets up a connection trusts its own certificate and
its own roots. A root may also be of the first version, which has neither a version nor extensions.
-/

set_option autoImplicit false

namespace ScimLookup

/-! ## Extensions -/

/-- An extension: its name, whether a reader must know it, and its value. -/
structure CertificateExtension where
  name : Bytes
  critical : Bool
  value : Bytes
deriving DecidableEq, Repr

namespace CertificateExtension

/-- The extension of some bytes. -/
def ofBytes? (bs : Bytes) : Option CertificateExtension := do
  match ← Element.all? bs with
  | [⟨.name, name⟩, ⟨.octets, value⟩] => some ⟨name, false, value⟩
  | [⟨.name, name⟩, ⟨.boolean, [0x00]⟩, ⟨.octets, value⟩] => some ⟨name, false, value⟩
  | [⟨.name, name⟩, ⟨.boolean, [0xFF]⟩, ⟨.octets, value⟩] => some ⟨name, true, value⟩
  | _ => none

/-- What a key may be used for. -/
def keyUsage : Bytes := [0x55, 0x1D, 0x0F]

/-- The known extensions: use of the key, further names, limits of authority, limits of names, where
revocations are, and purposes. -/
def known : List Bytes :=
  [keyUsage, [0x55, 0x1D, 0x11], [0x55, 0x1D, 0x13], [0x55, 0x1D, 0x1E], [0x55, 0x1D, 0x1F],
    [0x55, 0x1D, 0x25]]

/-- The extension is known. -/
def isKnown (e : CertificateExtension) : Bool :=
  known.contains e.name

/-- The content is one sequence. -/
def isSequence (bs : Bytes) : Bool :=
  match Element.all? bs with
  | some [⟨.sequence, _⟩] => true
  | _ => false

/-- The extension can be read, or needs not be. -/
def isFit (e : CertificateExtension) : Bool :=
  if e.isKnown then e.name == keyUsage || isSequence e.value else !e.critical

/-- Each extension is fit, and no known one comes twice. -/
def areFit (es : List CertificateExtension) : Bool :=
  es.all isFit && decide ((es.filter isKnown).map (·.name)).Nodup

/-- The extension of an element. -/
def ofElement? : Element → Option CertificateExtension
  | ⟨.sequence, content⟩ => ofBytes? content
  | _ => none

/-- The extensions at the end of what is signed. -/
def ofTail? : List Element → Option (List CertificateExtension)
  | [] => some []
  | [⟨.field 3, content⟩] => do (← Element.sequence? content).mapM ofElement?
  | _ => none

end CertificateExtension

/-! ## Certificates -/

/-- A certificate: the public key that it vouches for, and its extensions. -/
structure Certificate where
  key : Bytes
  extensions : List CertificateExtension
deriving DecidableEq, Repr

namespace Certificate

/-- The third version. -/
def thirdVersion : Bytes := [0x02, 0x01, 0x02]

/-- The certificate of what is signed by a method. -/
def ofSigned? (method : Bytes) : List Element → Option Certificate
  | ⟨.field 0, version⟩ :: ⟨.integer, _⟩ :: ⟨.sequence, named⟩ :: ⟨.sequence, _⟩ ::
      ⟨.sequence, _⟩ :: ⟨.sequence, _⟩ :: ⟨.sequence, key⟩ :: tail =>
    if version = thirdVersion ∧ named = method then do
      let extensions ← CertificateExtension.ofTail? tail
      if CertificateExtension.areFit extensions then some ⟨key, extensions⟩ else none
    else none
  | _ => none

/-- What is signed, and the method of signing. -/
def signed? (bs : Bytes) : Option (List Element × Bytes) := do
  match ← Element.sequence? bs with
  | [⟨.sequence, signed⟩, ⟨.sequence, method⟩, ⟨.bits, 0 :: _⟩] =>
    some (← Element.all? signed, method)
  | _ => none

/-- The certificate of some bytes. -/
def ofBytes? (bs : Bytes) : Option Certificate := do
  let (signed, method) ← signed? bs
  ofSigned? method signed

/-- What is signed has the shape of the first version. -/
def isFirstVersion : List Element → Bool
  | [⟨.integer, _⟩, ⟨.sequence, _⟩, ⟨.sequence, _⟩, ⟨.sequence, _⟩, ⟨.sequence, _⟩,
      ⟨.sequence, _⟩] => true
  | _ => false

/-- The bytes are a certificate that can be a root. -/
def isRoot (bs : Bytes) : Bool :=
  match signed? bs with
  | some (signed, method) => isFirstVersion signed || (ofSigned? method signed).isSome
  | none => false

end Certificate

end ScimLookup
