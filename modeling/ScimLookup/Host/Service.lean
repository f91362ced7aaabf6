import ScimLookup.Host.Error
import ScimLookup.Host.Membership
import ScimLookup.Host.Message
import ScimLookup.Settings.Configuration

/-!
# The service of the host

The service answers the host's questions once a configuration was applied. A configuration that
cannot be applied leaves the service as it was; one that can puts a new client in place, which
remembers no token.

Before a question goes to the server its name or id must not be blank, the context must have the
keys that the configuration uses, and the headers taken from it must be sendable, in this order.
-/

set_option autoImplicit false

namespace ScimLookup

/-- What a configured service answers with. -/
structure Serving where
  client : Client
  params : Params
  context : Option ContextConfig
  membership : Membership
deriving DecidableEq, Repr

namespace Serving

/-- What a configuration makes. -/
def ofYaml (s : Surroundings) (yaml : String) : Except ConfigError Serving := do
  let c ← Configuration.ofYaml yaml
  let client ← c.client s
  let params ← Params.resolve s c.params
  return ⟨client, params, c.context, .ofParams params⟩

/-- The text under a key of the context, which must be there. -/
def contextText (context : Context) (key : String) : Except ServiceError String :=
  match context.get? key with
  | some text => .ok text
  | none => .error (.missingContextField key)

/-- The headers that the context gives. -/
def contextHeaders (context : Context) (fields : List (String × String)) :
    Except ServiceError (List (String × String)) :=
  fields.mapM fun f => return (f.1, ← contextText context f.2)

/-- The host that the context gives, unless the configured one stays. -/
def contextHost (config : ContextConfig) (context : Context) :
    Except ServiceError (Option String) :=
  if config.hostField.isEmpty then .ok none
  else (contextText context config.hostField).map fun host => some (host ++ config.basePath)

/-- Where the context aims the client. -/
def target (config : ContextConfig) (context : Context) : Except ServiceError Target := do
  let host ← contextHost config context
  let headers ← contextHeaders context config.headerFields.entries
  return ⟨host, headers⟩

/-- The client for a question with a context. -/
def clientFor (s : Serving) (question : Question) (context : Context) :
    Except ServiceError Client :=
  match s.context with
  | none => .ok s.client
  | some config => do
    let target ← target config context
    (s.client.aimedAt target).mapError (.lookup question)

end Serving

/-- The service: what it answers with, once it is configured. -/
structure Service where
  serving : Option Serving
deriving DecidableEq, Repr

namespace Service

/-- A service without a configuration. -/
def unconfigured : Service := ⟨none⟩

/-- A configuration was applied. -/
def isConfigured (s : Service) : Bool :=
  s.serving.isSome

/-- Apply a configuration: the result, and the service afterwards. -/
def configure (s : Service) (around : Surroundings) (yaml : String) :
    Exchange (Except ServiceError Unit × Service) :=
  match Serving.ofYaml around yaml with
  | .error e => return (.error (.configure e), s)
  | .ok serving => do
    -- A token of the client before must not be sent by the new one.
    Exchange.setToken none
    return (.ok (), ⟨some serving⟩)

/-- What the service answers with, if it is configured. -/
def ready (s : Service) : Except ServiceError Serving :=
  match s.serving with
  | some serving => .ok serving
  | none => .error .notConfigured

/-- A name or an id that is not blank. -/
def nonBlank (s : String) : Except ServiceError Unit :=
  if Text.isBlank s then .error .noId else .ok ()

/-- Report a failed lookup under the question. -/
def under {α : Type} (question : Question) (r : Except ClientError α) : Except ServiceError α :=
  r.mapError (.lookup question)

/-- The checks before a question about a name or an id goes to the server. -/
def prepare (s : Service) (question : Question) (subject : Option String) (context : Context) :
    Except ServiceError (Serving × Client) := do
  let serving ← s.ready
  match subject with
  | some text => nonBlank text
  | none => pure ()
  let client ← serving.clientFor question context
  return (serving, client)

/-- The one group of a list. -/
def single (name : String) : List Group → Except ServiceError GetGroupResponse
  | [group] => .ok ⟨.ofGroup group⟩
  | [] => .error (.groupNotFound name)
  | _ => .error (.multipleGroups name)

/-- The groups that a filter selects. -/
def groupsWhere (question : Question) (serving : Serving) (client : Client) (filter : Filter) :
    Exchange (Except ServiceError (List Group)) := do
  let list ← client.listGroups serving.params.listMethod filter .unbounded
  return under question (list.map (·.resources))

/-- Which group has this name? -/
def getGroup (s : Service) (r : GetGroupRequest) :
    Exchange (Except ServiceError GetGroupResponse) := do
  match s.prepare .getGroup (some r.groupName) r.context with
  | .error e => return .error e
  | .ok (serving, client) =>
    let filter := Filter.equals serving.params.groupAttribute r.groupName
    return (← groupsWhere .getGroup serving client filter).bind (single r.groupName)

/-- Which groups are there? -/
def getAllGroups (s : Service) (r : GetAllGroupsRequest) :
    Exchange (Except ServiceError GetAllGroupsResponse) := do
  match s.prepare .getAllGroups none r.context with
  | .error e => return .error e
  | .ok (serving, client) =>
    let groups ← groupsWhere .getAllGroups serving client .everything
    return groups.map fun gs => ⟨gs.map .ofGroup⟩

/-- Who is in this group? -/
def getUsersForGroup (s : Service) (r : GetUsersForGroupRequest) :
    Exchange (Except ServiceError GetUsersForGroupResponse) := do
  match s.prepare .getUsersForGroup (some r.groupId) r.context with
  | .error e => return .error e
  | .ok (serving, client) =>
    let users ← serving.membership.usersForGroup client r.groupId
    return under .getUsersForGroup (users.map fun us => ⟨us.map .ofUser⟩)

/-- Which groups is this user in? -/
def getGroupsForUser (s : Service) (r : GetGroupsForUserRequest) :
    Exchange (Except ServiceError GetGroupsForUserResponse) := do
  match s.prepare .getGroupsForUser (some r.userId) r.context with
  | .error e => return .error e
  | .ok (serving, client) =>
    let filter := Filter.equals serving.params.userAttribute r.userId
    let groups ← groupsWhere .getGroupsForUser serving client filter
    return groups.map fun gs => ⟨gs.map .ofGroup⟩

end Service

end ScimLookup
