import ScimLookup.Command.Error
import ScimLookup.Command.Grammar
import ScimLookup.Scim.Client

/-!
# Lookups from the command line

One command looks up a user or a group by id, or lists users or groups, with a client that is made
from the options. The host, the id of the client and its secret may come from variables; an option
goes before its variable. A certificate and its key are given together or not at all.
-/

set_option autoImplicit false

namespace ScimLookup.Command

/-! ## What is looked up -/

/-- How many resources are listed where nothing is said. -/
def standardCount : UInt32 := 100

/-- How long to wait where nothing is said, in seconds. -/
def standardTimeout : Nat := 30

/-- The attribute that a name is compared with. -/
def nameAttribute : String := "displayName"

/-- A lookup with everything that it needs. -/
structure Lookup where
  action : Operation
  host : String
  clientId : String
  secret : Option String
  /-- The paths of the certificate and of its key. -/
  certificate : Option (String × String)
  byPost : Bool
  id : Option String
  cursor : Option String
  count : UInt32
  displayName : Option String
  timeout : Nat
  /-- The result is wanted as JSON. -/
  json : Bool
deriving DecidableEq, Repr

namespace Lookup

/-- The lookup that a word names. -/
def action? (s : String) : Option Operation :=
  [("get-user", .getUser), ("list-users", .listUsers), ("get-group", .getGroup),
    ("list-groups", .listGroups)].lookup s

/-! ## Reading -/

/-- What the options have said so far. -/
structure Draft where
  action : Option Operation := none
  host : Option String := none
  clientId : Option String := none
  secret : Option String := none
  certificate : Option String := none
  key : Option String := none
  byPost : Bool := false
  id : Option String := none
  cursor : Option String := none
  count : Option UInt32 := none
  displayName : Option String := none
  timeout : Option Nat := none
  json : Bool := false

/-- What each option means. -/
def option : String → Option (Effect Draft)
  | "action" =>
    some (.value fun d s => do return { d with action := ← once d.action (← action? s) })
  | "host" => some (.value fun d s => do return { d with host := ← once d.host s })
  | "client-id" => some (.value fun d s => do return { d with clientId := ← once d.clientId s })
  | "client-secret" => some (.value fun d s => do return { d with secret := ← once d.secret s })
  | "cert-path" =>
    some (.value fun d s => do return { d with certificate := ← once d.certificate (← path? s) })
  | "key-path" => some (.value fun d s => do return { d with key := ← once d.key (← path? s) })
  | "use-http-post" => some (.flag fun d => do return { d with byPost := ← onceTrue d.byPost })
  | "id" => some (.value fun d s => do return { d with id := ← once d.id s })
  | "cursor" => some (.value fun d s => do return { d with cursor := ← once d.cursor s })
  | "count" =>
    some (.value fun d s => do return { d with count := ← once d.count (← count? s) })
  | "display-name" =>
    some (.value fun d s => do return { d with displayName := ← once d.displayName s })
  | "timeout-secs" =>
    some (.value fun d s => do
      return { d with timeout := ← once d.timeout (← natural? 0xFFFFFFFFFFFFFFFF s) })
  | "json" => some (.flag fun d => do return { d with json := ← onceTrue d.json })
  | _ => none

/-- The grammar of the command under a name. -/
def grammar (name : String) : Grammar Draft where
  name := name
  option := option
  operand _ _ := none
  commands := []

/-- Two things that are given together or not at all. -/
def both? {α β : Type} : Option α → Option β → Option (Option (α × β))
  | some a, some b => some (some (a, b))
  | none, none => some none
  | _, _ => none

/-- The variable of the host. -/
def hostVariable : String := "IDM_SCIM_HOST"

/-- The variable of the id of the client. -/
def clientIdVariable : String := "IDM_SCIM_CLIENT_ID"

/-- The variable of the secret. -/
def secretVariable : String := "IDM_SCIM_CLIENT_SECRET"

/-- What an option says, or else its variable, if there is one. A variable that stands in for an
option must have a text. -/
def orVariable? (env : String → Except VariableFault String) (given : Option String)
    (name : String) : Option (Option String) :=
  match given with
  | some text => some (some text)
  | none =>
    match env name with
    | .ok text => some (some text)
    | .error .missing => some none
    | .error (.notText _) => none

/-- The lookup of a draft, if nothing that it needs is missing. -/
def ofDraft? (env : String → Except VariableFault String) (d : Draft) : Option Lookup := do
  let host ← orVariable? env d.host hostVariable
  let clientId ← orVariable? env d.clientId clientIdVariable
  let secret ← orVariable? env d.secret secretVariable
  return {
    action := ← d.action
    host := ← host
    clientId := ← clientId
    secret
    certificate := ← both? d.certificate d.key
    byPost := d.byPost
    id := d.id
    cursor := d.cursor
    count := d.count.getD standardCount
    displayName := d.displayName
    timeout := d.timeout.getD standardTimeout
    json := d.json }

/-! ## Running -/

/-- The client of a lookup. -/
def client (l : Lookup) (s : Surroundings) : Except ClientError Client := do
  -- Files that cannot be read are reported before credentials that do not fit together.
  let certificate ← match l.certificate with
    | some (certificate, key) => some <$> ClientCertificate.ofFiles s certificate key
    | none => pure none
  let credentials ← Credentials.ofParts l.clientId l.secret certificate
  Client.ofConfig ⟨l.host, credentials, l.timeout, none⟩ s.connector

/-- An empty text selects nothing. -/
def given (s : Option String) : Option String :=
  s.filter (!·.isEmpty)

/-- The filter of a list. -/
def filter (l : Lookup) : Filter :=
  match given l.displayName with
  | some name => .equals nameAttribute name
  | none => .absent

/-- The page of a list. -/
def page (l : Lookup) : Page :=
  ⟨given l.cursor, some l.count⟩

/-- The id that is looked up. -/
def requiredId (l : Lookup) : Except CommandError String :=
  match l.id.filter (!Text.isBlank ·) with
  | some id => .ok id
  | none => .error .idRequired

/-- A line of output. -/
def line (s : String) : String :=
  s ++ "\n"

/-- What is printed of a user. -/
def userLine (u : User) : String :=
  line u.userName

/-- What is printed of a group. -/
def groupLine (g : Group) : String :=
  line (g.displayName.getD "")

/-- What is printed of a list. -/
def listLines {α : Type} (title : String) (item : α → String) (l : Listing α) : String :=
  line title ++ String.join (l.resources.map item)

/-- The output for a result: its JSON form where that is wanted. -/
def output {α : Type} (l : Lookup) (json : α → Json.Value) (plain : α → String) (a : α) : String :=
  if l.json then line (json a).pretty else plain a

/-- Look up one resource by the id, which must be given. -/
def one {α : Type} (l : Lookup) (look : String → Exchange (Except ClientError α))
    (json : α → Json.Value) (plain : α → String) : Exchange (Except CommandError String) := do
  match l.requiredId with
  | .error e => return .error e
  | .ok id => return ((← look id).mapError .client).map (l.output json plain)

/-- List resources. -/
def many {α : Type} (l : Lookup)
    (look : ListMethod → Filter → Page → Exchange (Except ClientError (Listing α)))
    (json : α → Json.Value) (plain : Listing α → String) :
    Exchange (Except CommandError String) := do
  let found ← look (.ofPost l.byPost) l.filter l.page
  return (found.mapError .client).map (l.output (Listing.toJson json) plain)

/-- Run a lookup: what it prints. -/
def run (l : Lookup) (s : Surroundings) : Exchange (Except CommandError String) :=
  match l.client s with
  | .error e => return .error (.client e)
  | .ok c =>
    match l.action with
    | .getUser => l.one c.getUser User.toJson fun u => "Found User: " ++ userLine u
    | .listUsers => l.many c.listUsers User.toJson (listLines "Found Users:" userLine)
    | .getGroup => l.one c.getGroup Group.toJson fun g => "Found Group: " ++ groupLine g
    | .listGroups => l.many c.listGroups Group.toJson (listLines "Found Groups:" groupLine)

end Lookup

end ScimLookup.Command
