import ScimLookup.Tls.Pem

/-!
# Identities

A client proves who it is by a certificate and its key, and trusts a server by a root certificate.
Both come as armoured text. Whether a text holds the right sections is told at once; whether the
sections hold what they say is told only when a connection is set up.
-/

set_option autoImplicit false

namespace ScimLookup

/-- A private key: its layout and its content. -/
structure PrivateKey where
  form : Pem.KeyForm
  content : Bytes
deriving DecidableEq, Repr

/-- A certificate and its key, as armoured text. -/
structure ClientCertificate where
  certificate : Bytes
  key : Bytes
deriving DecidableEq, Repr

/-- The identity that a certificate and a key make: the certificate shown, those that vouch for it,
and the key. -/
structure Identity where
  certificate : Bytes
  issuers : List Bytes
  key : PrivateKey
deriving DecidableEq, Repr

/-- The certificates among some sections. -/
def certificatesOf (ss : List Pem.Section) : List Bytes :=
  ss.filterMap fun s => if s.kind = .certificate then some s.content else none

/-- The keys among some sections. -/
def keysOf (ss : List Pem.Section) : List PrivateKey :=
  ss.filterMap fun s =>
    match s.kind with
    | .key form => some ⟨form, s.content⟩
    | _ => none

/-- The identity: at least one certificate and one key, and nothing else. The first certificate and
the last key count. -/
def ClientCertificate.identity? (c : ClientCertificate) : Option Identity := do
  let ss ← Pem.sections? (c.key ++ 0x0A :: c.certificate)
  if ss.any (·.kind == .other) then none
  else
    match certificatesOf ss, (keysOf ss).getLast? with
    | certificate :: issuers, some key => some ⟨certificate, issuers, key⟩
    | _, _ => none

/-- The root certificates of a text. -/
def rootCertificates? (pem : Bytes) : Option (List Bytes) :=
  (Pem.sections? pem).map certificatesOf

end ScimLookup
