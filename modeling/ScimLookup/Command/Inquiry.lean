import ScimLookup.Command.Error
import ScimLookup.Command.Grammar
import ScimLookup.Host.Service

/-!
# Inquiries from the command line

One command puts a question of the host to a service that is configured from a file. The caller's
context is given entry by entry as `KEY=VALUE`: the text is cut at the first equals sign, and the
key loses the white space around it and must not be blank, while the value stays as it is. What is
found is printed as a table or as JSON.
-/

set_option autoImplicit false

namespace ScimLookup.Command

/-! ## Entries of the context -/

/-- An entry of the context. -/
def entry? (s : String) : Option (String × String) := do
  let (key, value) ← cutAt? '=' s.toList
  if Text.isBlank key then none else some (Text.trim key, value)

/-- The complaint about a text that is no entry. -/
def entryComplaint (s : String) : String :=
  "expected KEY=VALUE, got '" ++ s ++ "'"

/-! ## What is asked -/

/-- A question of the host. -/
inductive Subject where
  /-- The group of a name. -/
  | group (name : String)
  | allGroups
  /-- The users in the group of an id. -/
  | usersOf (groupId : String)
  /-- The groups of the user of an id. -/
  | groupsOf (userId : String)
deriving DecidableEq, Repr

/-- A question with everything that it needs. -/
structure Inquiry where
  /-- The path of the configuration. -/
  config : String
  context : List (String × String)
  /-- The result is wanted as JSON. -/
  json : Bool
  subject : Subject
deriving DecidableEq, Repr

namespace Inquiry

/-! ## Reading -/

/-- What the options have said so far. -/
structure Draft where
  config : Option String := none
  context : List (String × String) := []
  json : Bool := false

/-- What each option means. -/
def option : String → Option (Effect Draft)
  | "config" => some (.value fun d s => do return { d with config := ← once d.config (← path? s) })
  | "auth-context" =>
    some (.value fun d s => do return { d with context := d.context ++ [← entry? s] })
  | "json" => some (.flag fun d => do return { d with json := ← onceTrue d.json })
  | _ => none

/-- The commands that name a question about something. -/
def subjects : List (String × (String → Subject)) :=
  [("get-group", .group), ("users-for-group", .usersOf), ("groups-for-user", .groupsOf)]

/-- The command that asks for all groups. -/
def allGroupsWord : String := "all-groups"

/-- The commands below: those that name a question, and the one that explains them. -/
def commands : List String := allGroupsWord :: subjects.map (·.1) ++ [helpWord]

/-- The grammar of the command under a name. -/
def grammar (name : String) : Grammar Draft where
  name := name
  option := option
  operand _ _ := none
  commands := commands

/-- The grammar of a question about one thing. -/
def subjectGrammar (name : String) : Grammar (Option String) where
  name := name
  option _ := none
  operand := once
  commands := []

/-- The grammar of a question about nothing in particular. -/
def bareGrammar (name : String) : Grammar Unit where
  name := name
  option _ := none
  operand _ _ := none
  commands := []

/-- Read the words of a command below: how talkative the program is to be, and the question if it is
complete. -/
def readSubject (above word : String) (words : List String) :
    Except Halt (Nat × Option Subject) :=
  let name := above ++ "-" ++ word
  match subjects.lookup word with
  | some make => do
    let p ← (subjectGrammar name).readLast ⟨0, none⟩ words
    return (p.verbosity, p.draft.map make)
  | none =>
    if word = helpWord then .error (explain (fun _ => []) commands words)
    else do
      let p ← (bareGrammar name).readLast ⟨0, ()⟩ words
      return (p.verbosity, some .allGroups)

/-- The variable of the path of the configuration. -/
def configVariable : String := "IDM_SCIM_PLUGIN_CONFIG"

/-- The path of the configuration that a variable gives. A path needs not be a text: where it is
none, U+FFFD stands in it. -/
def variablePath? (env : String → Except VariableFault String) : Option String :=
  match env configVariable with
  | .ok text => path? text
  | .error .missing => none
  | .error (.notText value) => some (Utf8.toString value)

/-- The inquiry of a draft, if nothing that it needs is missing. -/
def ofDraft? (env : String → Except VariableFault String) (d : Draft) (subject : Subject) :
    Option Inquiry := do
  let config ← d.config <|> variablePath? env
  return ⟨config, d.context, d.json, subject⟩

/-! ## Printing -/

/-- A text filled up with spaces to a width. -/
def padded (width : Nat) (s : String) : String :=
  s ++ String.ofList (List.replicate (width - s.length) ' ')

/-- A row of a table: cells with the widths of their columns. -/
def row (cells : List (Nat × String)) : String :=
  " ".intercalate (cells.map fun c => padded c.1 c.2) ++ "\n"

/-- A rule below the head of a table. -/
def rule (width : Nat) : String :=
  String.ofList (List.replicate width '-') ++ "\n"

/-- A row about a group. -/
def groupRow (id name : String) : String :=
  row [(38, id), (30, name)]

/-- A table of groups. -/
def groupTable (gs : List HostGroup) : String :=
  groupRow "ID" "NAME" ++ rule 69 ++ String.join (gs.map fun g => groupRow g.id g.name)

/-- A row about a user. -/
def userRow (id name email : String) : String :=
  row [(38, id), (25, name), (30, email)]

/-- A table of users. -/
def userTable (us : List HostUser) : String :=
  userRow "ID" "NAME" "EMAIL" ++ rule 95 ++
    String.join (us.map fun u => userRow u.id u.name u.email)

/-- What is found. -/
inductive Finding where
  | group (g : HostGroup)
  | groups (gs : List HostGroup)
  | users (us : List HostUser)
deriving DecidableEq, Repr

namespace Finding

/-- The JSON form. -/
def toJson : Finding → Json.Value
  | .group g => g.toJson
  | .groups gs => .array (gs.map HostGroup.toJson)
  | .users us => .array (us.map HostUser.toJson)

/-- The table of what is found, or words for nothing. -/
def table : Finding → String
  | .group g => groupTable [g]
  | .groups [] => "No groups found.\n"
  | .groups gs => groupTable gs
  | .users [] => "No users found.\n"
  | .users us => userTable us

end Finding

/-! ## Running -/

/-- Put a question to a service. -/
def ask (service : Service) (context : Context) : Subject → Exchange (Except ServiceError Finding)
  | .group name => do
    return (← service.getGroup ⟨name, context⟩).map fun r => .group r.group
  | .allGroups => do
    return (← service.getAllGroups ⟨context⟩).map fun r => .groups r.groups
  | .usersOf groupId => do
    return (← service.getUsersForGroup ⟨groupId, context⟩).map fun r => .users r.users
  | .groupsOf userId => do
    return (← service.getGroupsForUser ⟨userId, context⟩).map fun r => .groups r.groups

/-- Configure a service and put the question to it. -/
def find (i : Inquiry) (s : Surroundings) (yaml : String) :
    Exchange (Except ServiceError Finding) := do
  match ← Service.unconfigured.configure s yaml with
  | (.error e, _) => return .error e
  | (.ok _, service) => ask service (.ofEntries i.context) i.subject

/-- What is printed of a finding. -/
def output (i : Inquiry) (f : Finding) : String :=
  if i.json then f.toJson.pretty ++ "\n" else f.table

/-- Run an inquiry: what it prints. -/
def run (i : Inquiry) (s : Surroundings) : Exchange (Except CommandError String) :=
  match s.text i.config with
  | .error fault => return .error (.unreadableConfig i.config fault)
  | .ok yaml => do return ((← i.find s yaml).mapError .service).map i.output

end Inquiry

end ScimLookup.Command
