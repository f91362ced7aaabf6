import ScimLookup.Http.Status
import ScimLookup.Json.Document
import ScimLookup.Surroundings.Basic

/-!
# What can go wrong with a lookup

Every error is a cause; its wording and the exit code that it leads to are functions of the cause. A
request that fails is reported under the lookup that made it. What is wrong inside a JSON text is
kept as a cause and not put into words: the wording says `<json>` in its place.
-/

set_option autoImplicit false

namespace ScimLookup

/-- The lookups of a client. -/
inductive Operation where
  | getUser
  | listUsers
  | getGroup
  | listGroups
deriving DecidableEq, Repr

/-- The name of a lookup. -/
def Operation.text : Operation → String
  | .getUser => "get_user"
  | .listUsers => "list_users"
  | .getGroup => "get_group"
  | .listGroups => "list_groups"

/-! ## Requests -/

/-- Why a request has no answer that can be used. Requests are named by their address. -/
inductive TransportFault where
  /-- The request cannot be built; the address is known if it could be read. -/
  | builder (url : Option String)
  /-- The request was not sent, or the connection ended before the answer. -/
  | send (url : String)
  /-- No answer came in time. -/
  | timeout (url : String)
  /-- The connection ended inside the body of the answer. -/
  | body
deriving DecidableEq, Repr

/-- The words for a fault. -/
def TransportFault.message : TransportFault → String
  | .builder none => "builder error"
  | .builder (some url) => "builder error for url (" ++ url ++ ")"
  | .send url => "error sending request for url (" ++ url ++ ")"
  | .timeout url => "error sending request for url (" ++ url ++ ")"
  | .body => "error decoding response body"

/-- The words in place of what is wrong inside a JSON text. -/
def unreadableJson : String := "<json>"

/-- Why no access token could be had. -/
inductive TokenFault where
  | notSent (fault : TransportFault)
  | unread (fault : TransportFault)
  | refused (status : Status) (body : String)
  | undecodable (fault : Json.Fault)
deriving DecidableEq, Repr

/-- The words for a fault. -/
def TokenFault.message : TokenFault → String
  | .notSent fault => "token request failed: " ++ fault.message
  | .unread fault => "failed to read token response: " ++ fault.message
  | .refused status body => "token endpoint returned " ++ status.text ++ ": " ++ body
  | .undecodable _ => "failed to parse token response: " ++ unreadableJson

/-- Why a request failed. -/
inductive RequestError where
  /-- A search has no filter. -/
  | noFilter
  /-- The request could not be built or sent, or its answer could not be read. -/
  | transport (fault : TransportFault)
  /-- The answer has another status than the expected one. -/
  | unexpectedStatus (status : Status) (body : String)
  /-- The body of the answer is not the document that was asked for. -/
  | invalidResponse (fault : Json.Fault)
  /-- No access token could be had. -/
  | auth (fault : TokenFault)
deriving DecidableEq, Repr

namespace RequestError

/-- The words for an error. -/
def message : RequestError → String
  | .noFilter => "filter not provided"
  | .transport fault => "failed to make request: " ++ fault.message
  | .unexpectedStatus status body =>
    "invalid response from SCIM: unexpected status code " ++ status.text ++ ": " ++ body
  | .invalidResponse _ => "invalid response from SCIM: " ++ unreadableJson
  | .auth fault => "authentication failed: " ++ fault.message

/-- The status of the answer, where that is what is wrong. -/
def status? : RequestError → Option Status
  | .unexpectedStatus status _ => some status
  | _ => none

/-- The exit code that an error leads to: 2 where the credentials were refused, 3 where the server
was not reached, 5 where it failed, else 4. -/
def exitCode : RequestError → Nat
  | .transport _ => 3
  | .auth _ => 2
  | .unexpectedStatus status _ =>
    if status.code = 401 ∨ status.code = 403 then 2 else if status.code ≥ 500 then 5 else 4
  | .noFilter => 4
  | .invalidResponse _ => 4

end RequestError

/-! ## Clients -/

/-- What is wrong with a certificate and its key. -/
inductive CertificateFault where
  | unreadable (path : String) (fault : FileFault)
  | notAnIdentity
deriving DecidableEq, Repr

/-- The words for a fault. -/
def CertificateFault.message : CertificateFault → String
  | .unreadable path fault => "cannot read " ++ path ++ ": " ++ fault.message
  | .notAnIdentity => "builder error"

/-- What is wrong with a header that is to be sent along. -/
inductive HeaderFault where
  | name
  | reserved
  | value
deriving DecidableEq, Repr

/-- The words for a fault. -/
def HeaderFault.message : HeaderFault → String
  | .name => "invalid HTTP header name"
  | .reserved => "header is set by the client"
  | .value => "failed to parse header value"

/-- What keeps a connection from being set up at all. -/
inductive SetupFault where
  | damagedRoot
  | noRoot
  | notACertificate
deriving DecidableEq, Repr

/-- The words for a fault. -/
def SetupFault.message : SetupFault → String
  | .damagedRoot => "invalid root CA: builder error"
  | .noRoot => "invalid root CA: no certificates found"
  | .notACertificate => "builder error"

/-- Why a client cannot be made, or why one of its lookups failed. -/
inductive ClientError where
  | failed (operation : Operation) (cause : RequestError)
  | clientIdRequired
  | authParamsMissing
  | ambiguousAuth
  | tokenEndpointMissing
  | certificate (fault : CertificateFault)
  | invalidHeader (name : String) (fault : HeaderFault)
  | setup (fault : SetupFault)
deriving DecidableEq, Repr

namespace ClientError

/-- What a failed lookup was about. -/
def subject : Operation → String
  | .getUser => "error getting SCIM user: "
  | .listUsers => "error listing SCIM users: "
  | .getGroup => "error getting SCIM group: "
  | .listGroups => "error listing SCIM groups: "

/-- The words for an error. -/
def message : ClientError → String
  | .failed operation cause => subject operation ++ cause.message
  | .clientIdRequired => "client ID is required"
  | .authParamsMissing => "must provide client secret or TLS config"
  | .ambiguousAuth => "must provide either a client secret or a client certificate, not both"
  | .tokenEndpointMissing => "invalid credentials: OAuth2 token endpoint is required"
  | .certificate fault => "failed to parse client certificate x509 pair: " ++ fault.message
  | .invalidHeader name fault => "invalid header '" ++ name ++ "': " ++ fault.message
  | .setup fault => "failed to create the http client: " ++ fault.message

/-- The lookup that failed. -/
def operation? : ClientError → Option Operation
  | .failed operation _ => some operation
  | _ => none

/-- Why the lookup failed. -/
def cause? : ClientError → Option RequestError
  | .failed _ cause => some cause
  | _ => none

/-- The server says that there is nothing of the name. -/
def isNotFound (e : ClientError) : Bool :=
  (e.cause?.bind RequestError.status?) == some Status.notFound

/-- The exit code that an error leads to: that of the request, or 1 where there was none. -/
def exitCode (e : ClientError) : Nat :=
  match e.cause? with
  | some cause => cause.exitCode
  | none => 1

end ClientError

end ScimLookup
