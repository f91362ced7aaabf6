import ScimLookup.Bytes.Base64
import ScimLookup.Scim.Error
import ScimLookup.Text.Blank
import ScimLookup.Text.Quoted
import ScimLookup.Tls.Identity

/-!
# Credentials

A client proves who it is in one of three ways: by its id and a secret with every request, by a
certificate when it connects, or by an access token that it gets for its id and secret. Secrets and
keys do not appear in the summary of credentials.
-/

set_option autoImplicit false

namespace ScimLookup

/-! ## Certificates -/

namespace ClientCertificate

/-- Read a certificate and its key from files. -/
def ofFiles (s : Surroundings) (certificate key : String) :
    Except ClientError ClientCertificate := do
  let read (path : String) : Except ClientError Bytes :=
    (s.file path).mapError fun fault => .certificate (.unreadable path fault)
  return ⟨← read certificate, ← read key⟩

/-- The identity, or the error of a certificate and a key that make none. -/
def identity (c : ClientCertificate) : Except ClientError Identity :=
  match c.identity? with
  | some i => .ok i
  | none => .error (.certificate .notAnIdentity)

end ClientCertificate

/-- The mark in place of what is not shown. -/
def redacted : String := "\x22[REDACTED]\x22"

/-- A summary: a name and fields with their values. -/
def summaryOf (name : String) (fields : List (String × String)) : String :=
  name ++ " \x7b " ++ ", ".intercalate (fields.map fun f => f.1 ++ ": " ++ f.2) ++ " \x7d"

/-- A summary that shows the size of the certificate only. -/
def ClientCertificate.summary (c : ClientCertificate) : String :=
  summaryOf "ClientCertificate"
    [("cert_pem", Decimal.text c.certificate.length ++ " bytes"), ("key_pem", redacted)]

/-! ## Credentials -/

/-- How a client proves who it is. -/
inductive Credentials where
  | basic (clientId clientSecret : String)
  | mtls (clientId : String) (certificate : ClientCertificate)
  | oauth2 (clientId clientSecret tokenEndpoint : String) (scopes : List String)
deriving DecidableEq, Repr

namespace Credentials

/-- Who the client is. -/
def clientId : Credentials → String
  | .basic id _ => id
  | .mtls id _ => id
  | .oauth2 id _ _ _ => id

/-- The credentials for an id and either a secret or a certificate. An empty secret is none. -/
def ofParts (clientId : String) (secret : Option String) (certificate : Option ClientCertificate) :
    Except ClientError Credentials :=
  if Text.isBlank clientId then .error .clientIdRequired
  else
    match secret.filter (!·.isEmpty), certificate with
    | some s, none => .ok (.basic clientId s)
    | none, some c => .ok (.mtls clientId c)
    | some _, some _ => .error .ambiguousAuth
    | none, none => .error .authParamsMissing

/-- Everything that the way of proof needs is there. -/
def validate (c : Credentials) : Except ClientError Unit :=
  if Text.isBlank c.clientId then .error .clientIdRequired
  else
    match c with
    | .basic _ secret => if secret.isEmpty then .error .authParamsMissing else .ok ()
    | .mtls _ _ => .ok ()
    | .oauth2 _ secret endpoint _ =>
      if secret.isEmpty then .error .authParamsMissing
      else if Text.isBlank endpoint then .error .tokenEndpointMissing
      else .ok ()

/-- The identity for connections, where a certificate proves who the client is. -/
def identity : Credentials → Except ClientError (Option Identity)
  | .mtls _ c => c.identity.map some
  | _ => .ok none

/-- A summary without secrets. -/
def summary : Credentials → String
  | .basic id _ =>
    summaryOf "Basic" [("client_id", Text.quoted id), ("client_secret", redacted)]
  | .mtls id c =>
    summaryOf "Mtls" [("client_id", Text.quoted id), ("certificate", c.summary)]
  | .oauth2 id _ endpoint scopes =>
    summaryOf "OAuth2" [("client_id", Text.quoted id), ("client_secret", redacted),
      ("token_endpoint", Text.quoted endpoint), ("scopes", Text.quotedList scopes)]

end Credentials

/-- The header value for a name and a password: their text around a colon, in base64. -/
def basicAuthorization (name password : String) : String :=
  "Basic " ++ Base64.ofBytes (Utf8.ofString (name ++ ":" ++ password))

end ScimLookup
