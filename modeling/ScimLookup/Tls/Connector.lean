import ScimLookup.Tls.Certificate
import ScimLookup.Tls.Identity
import ScimLookup.Tls.PublicKey

/-!
# Connectors

Encrypted connections are set up by a library that the program calls. Which identities and which
roots it can work with is its own affair, so it is given as two functions, and what depends on it is
a function of them.

The standard connector takes an identity whose key can sign and whose certificate vouches for the
public half of that key. Keys that can sign are those on the curves P-256 and P-384, those from a
seed (Ed25519) and those from factors (RSA).
-/

set_option autoImplicit false

namespace ScimLookup

/-- What sets connections up. -/
structure Connector where
  /-- A connection can be set up with the identity. -/
  takesIdentity : Identity → Bool
  /-- A server can be trusted by the root. -/
  takesRoot : Bytes → Bool

/-- Connections can be set up with the identity, if there is one, and with all of the roots. -/
def Connector.takes (t : Connector) (identity : Option Identity) (roots : List Bytes) : Bool :=
  (identity.map t.takesIdentity).getD true && roots.all t.takesRoot

/-! ## The standard connector -/

/-- The public half of a key that can sign. -/
def PrivateKey.publicKey? (k : PrivateKey) : Option PublicKey :=
  match k.form with
  | .named => PublicKey.ofNamedKey? k.content
  | .curve => PublicKey.curves.findSome? fun c => PublicKey.ofCurveKey? c k.content
  | .factors => PublicKey.ofFactors? k.content

/-- The certificate shown is for the key. -/
def Identity.isMatched (i : Identity) : Bool :=
  match Certificate.ofBytes? i.certificate, i.key.publicKey? with
  | some certificate, some key => PublicKey.ofBytes? certificate.key == some key
  | _, _ => false

/-- The connector that looks at certificates and keys itself. -/
def Connector.standard : Connector where
  takesIdentity := Identity.isMatched
  takesRoot := Certificate.isRoot

end ScimLookup
