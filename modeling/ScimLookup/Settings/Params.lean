import ScimLookup.Scim.ListRequest
import ScimLookup.Settings.Source

/-!
# Parameters of resolution

The names of the attributes that are compared, how lists are asked for, and how the members of a
group are found. Each parameter may be left out or be blank, and then has its default. A value may
be written as a JSON string.
-/

set_option autoImplicit false

namespace ScimLookup

/-- The parameters as they are given. -/
structure ParamSources where
  groupAttribute : Option Source
  userAttribute : Option Source
  groupMembersAttribute : Option Source
  listMethod : Option Source
  allowSearchUsersByGroup : Option Source
deriving Repr

/-- No parameter is given. -/
def ParamSources.none : ParamSources := ⟨.none, .none, .none, .none, .none⟩

/-- The parameters. -/
structure Params where
  /-- The attribute that is compared with the name of a group. -/
  groupAttribute : String
  /-- The attribute of groups that is compared with the id of a user. -/
  userAttribute : String
  /-- The attribute of users that is compared with the id of a group. -/
  groupMembersAttribute : String
  listMethod : ListMethod
  /-- The members of a group are found by one search for users. -/
  searchesUsers : Bool
deriving DecidableEq, Repr

namespace Params

/-- The parameters where none are given. -/
def standard : Params := ⟨"displayName", "groups.display", "groups.value", .get, true⟩

/-- The value of a parameter without white space around it, and out of its quotation marks if it is
a JSON string. -/
def unquoted (name raw : String) : Except ConfigError String :=
  let trimmed := Text.trim raw
  if trimmed.toList.head? == some '\x22' then
    match Json.Reader.text.ofBytes (Utf8.ofString trimmed) with
    | .ok s => .ok s
    | .error _ => .error (.invalidParam name raw)
  else .ok trimmed

/-- The value of a parameter, if it is given and not empty. -/
def given (s : Surroundings) (name : String) : Option Source → Except ConfigError (Option String)
  | none => .ok none
  | some source => do
    let value ← unquoted name (← source.load s name)
    return if value.isEmpty then none else some value

/-- The truth value of a parameter. -/
def truth (name value : String) : Except ConfigError Bool :=
  if Text.eqIgnoringCase value "true" then .ok true
  else if Text.eqIgnoringCase value "false" then .ok false
  else .error (.invalidParam name value)

/-- The list method of a parameter. -/
def readMethod (name value : String) : Except ConfigError ListMethod :=
  match ListMethod.ofText? value with
  | some m => .ok m
  | none => .error (.invalidParam name value)

/-- A parameter read by `read`, or its default. -/
def orElse {α : Type} (read : String → Except ConfigError α) (standard : α) :
    Option String → Except ConfigError α
  | some value => read value
  | none => .ok standard

/-- The parameters that are given, with defaults for the others. -/
def resolve (s : Surroundings) (p : ParamSources) : Except ConfigError Params := do
  let listMethod ← orElse (readMethod "params.listMethod") standard.listMethod
    (← given s "params.listMethod" p.listMethod)
  let searchesUsers ← orElse (truth "params.allowSearchUsersByGroup") standard.searchesUsers
    (← given s "params.allowSearchUsersByGroup" p.allowSearchUsersByGroup)
  let groupAttribute ← given s "params.groupAttribute" p.groupAttribute
  let userAttribute ← given s "params.userAttribute" p.userAttribute
  let groupMembersAttribute ← given s "params.groupMembersAttribute" p.groupMembersAttribute
  return {
    groupAttribute := groupAttribute.getD standard.groupAttribute
    userAttribute := userAttribute.getD standard.userAttribute
    groupMembersAttribute := groupMembersAttribute.getD standard.groupMembersAttribute
    listMethod, searchesUsers }

end Params

end ScimLookup
