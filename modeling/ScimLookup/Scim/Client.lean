import ScimLookup.Http.Exchange
import ScimLookup.Scim.Credentials
import ScimLookup.Scim.ListRequest

/-!
# Clients

A client looks up users and groups at one server. Each lookup is one request, which carries the
credentials: a header for an id and a secret, a pair in the query where a certificate proves who the
client is, or the access token. A token is used until half a minute before its time is over; then,
or when the server has refused one, the next lookup gets a new one first.

A client can be aimed at another server and given further headers, except those that it sets itself.
All clients made so from one client share its token.
-/

set_option autoImplicit false

namespace ScimLookup

open Json

/-- What a client is made from. -/
structure ClientConfig where
  host : String
  credentials : Credentials
  /-- How long to wait for an answer, in seconds. -/
  timeout : Nat
  /-- Armoured text of further roots that are trusted. -/
  roots : Option Bytes
deriving DecidableEq, Repr

/-- A client. -/
structure Client where
  /-- The address below which the collections are, without a slash at its end. -/
  baseUrl : String
  credentials : Credentials
  /-- How long to wait for an answer, in seconds, unless that is up to whoever set the connection
  up. -/
  timeout : Option Nat
  /-- How the client calls itself. -/
  agent : Option String
  /-- Headers that are sent along. -/
  headers : Headers
deriving DecidableEq, Repr

/-- Where else to send a request, and what to send along. -/
structure Target where
  host : Option String
  headers : List (String × String)
deriving DecidableEq, Repr

namespace Client

/-! ## Making clients -/

/-- An address without slashes at its end. -/
def trimSlashes (host : String) : String :=
  Text.trimEnd (· == '/') host

/-- A client over connections that were set up elsewhere. It checks nothing and does not say who it
is, and how long to wait is not up to it. -/
def plain (host : String) (credentials : Credentials) : Client :=
  ⟨trimSlashes host, credentials, none, none, []⟩

/-- How clients call themselves. -/
def agentName : String := "idm-scim-client/0.1.0"

/-- The roots are certificates, if they can be told apart. -/
def checkRoots (pem : Bytes) : Except ClientError (List Bytes) :=
  match rootCertificates? pem with
  | none => .error (.setup .damagedRoot)
  | some [] => .error (.setup .noRoot)
  | some roots => .ok roots

/-- A client for a configuration, over connections that a connector sets up. The host is not looked
at. -/
def ofConfig (config : ClientConfig) (connector : Connector := .standard) :
    Except ClientError Client := do
  -- What is missing is said before the certificates are looked at.
  config.credentials.validate
  let identity ← config.credentials.identity
  let roots ← match config.roots with
    | some pem => checkRoots pem
    | none => pure []
  if connector.takes identity roots then
    return { plain config.host config.credentials with
      timeout := some config.timeout
      agent := some agentName }
  else throw (.setup .notACertificate)

/-- The headers that a client sets itself. -/
def reserved : List String := ["accept", "authorization", "content-type", "host"]

/-- Put a header among those that are sent along. -/
def addHeader (hs : Headers) (h : String × String) : Except ClientError Headers :=
  match Header.name? h.1 with
  | none => .error (.invalidHeader h.1 .name)
  | some name =>
    if name ∈ reserved then .error (.invalidHeader h.1 .reserved)
    else if Header.isValue h.2 then .ok (Header.set name h.2 hs)
    else .error (.invalidHeader h.1 .value)

/-- The client aimed at a target. -/
def aimedAt (c : Client) (t : Target) : Except ClientError Client := do
  let headers ← t.headers.foldlM addHeader c.headers
  return { c with
    baseUrl := (t.host.map trimSlashes).getD c.baseUrl
    headers }

/-! ## Requests -/

/-- A request in the making: the address and the headers that are settled. -/
structure Draft where
  url : Url
  headers : Headers

/-- Start a request: user and password of the address become a header. -/
def draft? (address : String) : Option Draft := do
  let url ← Url.parse? address
  if url.host.isNone then some ⟨url, []⟩
  else
    match url.credentials? with
    | some (user, password) =>
      some ⟨url.withoutUser, [("authorization", basicAuthorization user (password.getD ""))]⟩
    | none => some ⟨url, []⟩

/-- Set a header unless it is there. -/
def defaultHeader (name value : String) (hs : Headers) : Headers :=
  if hs.any (·.1 == name) then hs else hs ++ [(name, value)]

/-- Give a request the headers that every request of the client has. -/
def withDefaults (c : Client) (hs : Headers) : Headers :=
  let hs := defaultHeader "accept" "*/*" hs
  match c.agent with
  | some name => defaultHeader "user-agent" name hs
  | none => hs

/-- Send a draft. An address that cannot be sent to stops it. That an answer is late is told by the
connection, which alone knows how long to wait, if it waits for an end at all. -/
def dispatch (c : Client) (method : Method) (d : Draft) (body : String) :
    Exchange (Except TransportFault Answer) := do
  if d.url.isSendable then
    match ← Exchange.request ⟨method, d.url, c.withDefaults d.headers, body⟩ with
    | .answer a => return .ok a
    | .lost => return .error (.send d.url.text)
    | .late => return .error (.timeout d.url.text)
  else return .error (.builder (some d.url.text))

/-! ## Tokens -/

/-- What an answer with a token says. -/
structure TokenGrant where
  accessToken : String
  expiresIn : Option UInt64
deriving DecidableEq, Repr

namespace TokenGrant

/-- The fields of a grant. -/
def record : Record TokenGrant :=
  TokenGrant.mk <$> .required "access_token" Reader.text
    <*> .optional "expires_in" Reader.word64

end TokenGrant

/-- How long before its time is over a token is no longer used, in seconds. -/
def tokenMargin : Nat := 30

/-- The pairs that ask for a token. -/
def grantForm (scopes : List String) : List (String × String) :=
  ("grant_type", "client_credentials") ::
    (if scopes.isEmpty then [] else [("scope", " ".intercalate scopes)])

/-- The grant in an answer. -/
def readGrant (a : Answer) : Except TokenFault TokenGrant :=
  match a.body with
  | none => .error (.unread .body)
  | some bytes =>
    -- The grant is read from the text, so bytes that are no UTF-8 count as U+FFFD.
    let text := Utf8.toString bytes
    if a.status.isSuccess then
      (TokenGrant.record.reader.ofBytes (Utf8.ofString text)).mapError .undecodable
    else .error (.refused a.status text)

/-- Ask for a token. -/
def requestGrant (c : Client) (id secret endpoint : String) (scopes : List String) :
    Exchange (Except TokenFault TokenGrant) := do
  match draft? endpoint with
  | none => return .error (.notSent (.builder none))
  | some d =>
    if d.url.host.isNone then return .error (.notSent (.builder (some d.url.text)))
    else
      let headers := d.headers ++ [("authorization", basicAuthorization id secret),
        ("content-type", "application/x-www-form-urlencoded")]
      match ← c.dispatch .post ⟨d.url, headers⟩ (Form.render (grantForm scopes)) with
      | .error fault => return .error (.notSent fault)
      | .ok a => return readGrant a

/-- Remember a token that was granted. -/
def keepGrant (g : TokenGrant) : Exchange String :=
  match g.expiresIn with
  | none => do
    Exchange.setToken (some ⟨g.accessToken, none⟩)
    return g.accessToken
  | some seconds => do
    -- A time shorter than the margin counts as none, and one beyond the clock cannot be kept.
    let expiry := (← Exchange.clock) + (seconds.toNat - tokenMargin) * second
    if expiry < endOfTime then
      Exchange.setToken (some ⟨g.accessToken, some expiry⟩)
      return g.accessToken
    else Exchange.brokenOff

/-- The remembered token, if it can still be used. -/
def usableToken : Exchange (Option String) := do
  match ← Exchange.token with
  | none => return none
  | some t =>
    match t.expiry with
    | none => return some t.text
    | some _ => return if t.isExpired (← Exchange.clock) then none else some t.text

/-- A token to send: the remembered one, or a new one. -/
def bearerToken (c : Client) (id secret endpoint : String) (scopes : List String) :
    Exchange (Except TokenFault String) := do
  match ← usableToken with
  | some text => return .ok text
  | none =>
    match ← c.requestGrant id secret endpoint scopes with
    | .error fault => return .error fault
    | .ok grant => return .ok (← keepGrant grant)

/-! ## Lookups -/

/-- The media type of requests and answers. -/
def mediaType : String := "application/scim+json"

/-- The query parameter for the client where a certificate proves who it is. -/
def clientIdParameter : String := "client_id"

/-- The headers of a lookup before the credentials come in. -/
def lookupHeaders (c : Client) (method : Method) (own : Headers) : Headers :=
  own ++ c.headers ++ [("accept", mediaType)] ++
    (match method with
    | .post => [("content-type", mediaType)]
    | .get => [])

/-- A draft of a lookup with the credentials, or the fault of one that cannot be built. -/
def authorize (d : Draft) : Credentials → Option String → Except TransportFault Draft
  | .basic id secret, _ =>
    .ok { d with headers := d.headers ++ [("authorization", basicAuthorization id secret)] }
  | .mtls id _, _ => .ok { d with url := d.url.addPair (clientIdParameter, id) }
  | .oauth2 .., some token =>
    if Header.isValue token then
      .ok { d with headers := d.headers ++ [("authorization", "Bearer " ++ token)] }
    else .error (.builder none)
  | .oauth2 .., none => .ok d

/-- The draft of a lookup at an address. -/
def lookupDraft (c : Client) (method : Method) (address : String) (token : Option String) :
    Except TransportFault Draft :=
  match draft? address with
  | none => .error (.builder none)
  | some d =>
    if d.url.host.isNone then .error (.builder (some d.url.text))
    else authorize ⟨d.url, c.lookupHeaders method d.headers⟩ c.credentials token

/-- The text of a body, or words for one that cannot be read. -/
def bodyText (a : Answer) : String :=
  match a.body with
  | some bytes => Utf8.toString bytes
  | none => "<no body>"

/-- The document in an answer, which must have the expected status. -/
def decode {α : Type} (r : Reader α) (expected : Status) (a : Answer) : Except RequestError α :=
  if a.status = expected then
    match a.body with
    | some bytes => (r.ofBytes bytes).mapError .invalidResponse
    | none => .error (.transport .body)
  else .error (.unexpectedStatus a.status (bodyText a))

/-- The token that a request carries, where tokens are used. -/
def tokenFor (c : Client) : Exchange (Except TokenFault (Option String)) :=
  match c.credentials with
  | .oauth2 id secret endpoint scopes => do
    return (← c.bearerToken id secret endpoint scopes).map some
  | _ => return .ok none

/-- Forget the token. -/
def forgetToken : Exchange Unit :=
  Exchange.setToken none

/-- Forget the token if the server refuses the credentials. -/
def observe (s : Status) : Exchange Unit :=
  if s = Status.unauthorized then forgetToken else return ()

/-- Send the request of a lookup and read the answer. -/
def exchange {α : Type} (c : Client) (r : Reader α) (method : Method) (address body : String) :
    Exchange (Except RequestError α) := do
  match ← c.tokenFor with
  | .error fault => return .error (.auth fault)
  | .ok token =>
    match c.lookupDraft method address token with
    | .error fault => return .error (.transport fault)
    | .ok d =>
      match ← c.dispatch method d body with
      | .error fault => return .error (.transport fault)
      | .ok a =>
        observe a.status
        return decode r Status.ok a

/-- Report a failure under the lookup. -/
def under {α : Type} (operation : Operation) (result : Except RequestError α) :
    Except ClientError α :=
  result.mapError (.failed operation)

/-- Look up one resource. -/
def getOne {α : Type} (c : Client) (operation : Operation) (r : Reader α)
    (collection : Collection) (id : String) : Exchange (Except ClientError α) := do
  return under operation (← c.exchange r .get (c.baseUrl ++ collection.path ++ "/" ++ id) "")

/-- The address of a list request and its body. -/
def listParts (c : Client) (collection : Collection) (request : ListRequest) :
    Method × String × String :=
  let address := c.baseUrl ++ request.path collection.path
  match request with
  | .query pairs =>
    let query := Form.render pairs
    (.get, if query.isEmpty then address else address ++ "?" ++ query, "")
  | .search _ => (.post, address, request.payload)

/-- List resources. -/
def list {α : Type} (c : Client) (operation : Operation) (r : Reader α)
    (collection : Collection) (method : ListMethod) (filter : Filter) (page : Page) :
    Exchange (Except ClientError (Listing α)) := do
  match ListRequest.build method filter page with
  | .error cause => return .error (.failed operation cause)
  | .ok request =>
    let (method, address, body) := c.listParts collection request
    return under operation (← c.exchange (Listing.record r).reader method address body)

/-- Look up a user by id. -/
def getUser (c : Client) (id : String) : Exchange (Except ClientError User) :=
  c.getOne .getUser User.record.reader .users id

/-- Look up a group by id. -/
def getGroup (c : Client) (id : String) : Exchange (Except ClientError Group) :=
  c.getOne .getGroup Group.record.reader .groups id

/-- List users. -/
def listUsers (c : Client) (method : ListMethod) (filter : Filter) (page : Page) :
    Exchange (Except ClientError (Listing User)) :=
  c.list .listUsers User.record.reader .users method filter page

/-- List groups. -/
def listGroups (c : Client) (method : ListMethod) (filter : Filter) (page : Page) :
    Exchange (Except ClientError (Listing Group)) :=
  c.list .listGroups Group.record.reader .groups method filter page

end Client

end ScimLookup
