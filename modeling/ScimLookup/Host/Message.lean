import ScimLookup.Scim.Resource

/-!
# Messages of the host

The host application asks questions about groups and users and gets groups and users back, cut down
to what it shows. Each question carries the caller's context: a map from keys to texts, in which the
last entry under a key counts. Every message has a JSON form that reads back.
-/

set_option autoImplicit false

namespace ScimLookup

open Json

/-! ## Context -/

/-- What the caller of a question is known by: texts under keys. -/
structure Context where
  entries : List (String × String)
  /-- No key stands twice. -/
  distinct : entries.Pairwise (·.1 ≠ ·.1)
deriving DecidableEq, Repr

namespace Context

/-- No entries. -/
def empty : Context := ⟨[], .nil⟩

/-- The text under a key. -/
def get? (c : Context) (key : String) : Option String :=
  c.entries.lookup key

/-- Put a text under a key, in place of the one that is there. -/
def insert (c : Context) (e : String × String) : Context where
  entries := c.entries.filter (·.1 != e.1) ++ [e]
  distinct := by
    refine List.pairwise_append.2 ⟨c.distinct.filter _, List.pairwise_singleton _ _, ?_⟩
    intro f hf g hg
    -- Only entries with other keys are kept, and the one that is added is `e`.
    rw [List.mem_singleton.1 hg]
    simpa using (List.mem_filter.1 hf).2

/-- The context of a list of entries, the later ones over the earlier ones. -/
def ofEntries (es : List (String × String)) : Context :=
  es.foldl insert empty

/-- The JSON form is an object of strings. -/
def reader : Reader Context := fun d =>
  (Reader.entries Reader.text d).map ofEntries

/-- The JSON form. -/
def toJson (c : Context) : Value :=
  .object (c.entries.map fun e => (e.1, .string e.2))

/-- The field that every question has for the context. -/
def field : Record Context :=
  .defaulted "authContext" reader empty

end Context

/-! ## Groups and users as the host sees them -/

/-- A group as the host sees it. -/
structure HostGroup where
  id : String
  name : String
deriving DecidableEq, Repr

namespace HostGroup

/-- The fields. -/
def record : Record HostGroup :=
  HostGroup.mk <$> .required "id" Reader.text <*> .required "name" Reader.text

/-- The JSON form. -/
def toJson (g : HostGroup) : Value :=
  .object [("id", .string g.id), ("name", .string g.name)]

/-- A group without a display name has an empty name. -/
def ofGroup (g : Group) : HostGroup :=
  ⟨g.id, g.displayName.getD ""⟩

end HostGroup

/-- A user as the host sees it. -/
structure HostUser where
  id : String
  name : String
  email : String
deriving DecidableEq, Repr

namespace HostUser

/-- The fields. -/
def record : Record HostUser :=
  HostUser.mk <$> .required "id" Reader.text <*> .required "name" Reader.text
    <*> .required "email" Reader.text

/-- The JSON form. -/
def toJson (u : HostUser) : Value :=
  .object [("id", .string u.id), ("name", .string u.name), ("email", .string u.email)]

/-- A user is called by the display name, or by the user name where that is empty or not there. -/
def ofUser (u : User) : HostUser :=
  let shown := u.displayName.getD ""
  ⟨u.id, if shown.isEmpty then u.userName else shown, u.primaryEmail⟩

end HostUser

/-! ## Questions and answers -/

/-- A configuration to apply. -/
structure ConfigureRequest where
  yaml : String
deriving DecidableEq, Repr

namespace ConfigureRequest

/-- The fields. -/
def record : Record ConfigureRequest :=
  ConfigureRequest.mk <$> .required "yamlConfiguration" Reader.text

/-- The JSON form. -/
def toJson (r : ConfigureRequest) : Value :=
  .object [("yamlConfiguration", .string r.yaml)]

end ConfigureRequest

/-- The configuration is applied. -/
structure ConfigureResponse where
deriving DecidableEq, Repr

namespace ConfigureResponse

/-- No fields. -/
def record : Record ConfigureResponse :=
  .pure ⟨⟩

/-- The JSON form. -/
def toJson (_ : ConfigureResponse) : Value :=
  .object []

end ConfigureResponse

/-- Which group has this name? -/
structure GetGroupRequest where
  groupName : String
  context : Context
deriving DecidableEq, Repr

namespace GetGroupRequest

/-- The fields. -/
def record : Record GetGroupRequest :=
  GetGroupRequest.mk <$> .required "groupName" Reader.text <*> Context.field

/-- The JSON form. -/
def toJson (r : GetGroupRequest) : Value :=
  .object [("groupName", .string r.groupName), ("authContext", r.context.toJson)]

end GetGroupRequest

/-- The group of the name. -/
structure GetGroupResponse where
  group : HostGroup
deriving DecidableEq, Repr

namespace GetGroupResponse

/-- The fields. -/
def record : Record GetGroupResponse :=
  GetGroupResponse.mk <$> .required "group" HostGroup.record.reader

/-- The JSON form. -/
def toJson (r : GetGroupResponse) : Value :=
  .object [("group", r.group.toJson)]

end GetGroupResponse

/-- Which groups are there? -/
structure GetAllGroupsRequest where
  context : Context
deriving DecidableEq, Repr

namespace GetAllGroupsRequest

/-- The fields. -/
def record : Record GetAllGroupsRequest :=
  GetAllGroupsRequest.mk <$> Context.field

/-- The JSON form. -/
def toJson (r : GetAllGroupsRequest) : Value :=
  .object [("authContext", r.context.toJson)]

end GetAllGroupsRequest

/-- All groups. -/
structure GetAllGroupsResponse where
  groups : List HostGroup
deriving DecidableEq, Repr

namespace GetAllGroupsResponse

/-- The fields. -/
def record : Record GetAllGroupsResponse :=
  GetAllGroupsResponse.mk <$> .required "groups" (Reader.list HostGroup.record.reader)

/-- The JSON form. -/
def toJson (r : GetAllGroupsResponse) : Value :=
  .object [("groups", .array (r.groups.map HostGroup.toJson))]

end GetAllGroupsResponse

/-- Who is in this group? -/
structure GetUsersForGroupRequest where
  groupId : String
  context : Context
deriving DecidableEq, Repr

namespace GetUsersForGroupRequest

/-- The fields. -/
def record : Record GetUsersForGroupRequest :=
  GetUsersForGroupRequest.mk <$> .required "groupId" Reader.text <*> Context.field

/-- The JSON form. -/
def toJson (r : GetUsersForGroupRequest) : Value :=
  .object [("groupId", .string r.groupId), ("authContext", r.context.toJson)]

end GetUsersForGroupRequest

/-- The users of the group. -/
structure GetUsersForGroupResponse where
  users : List HostUser
deriving DecidableEq, Repr

namespace GetUsersForGroupResponse

/-- The fields. -/
def record : Record GetUsersForGroupResponse :=
  GetUsersForGroupResponse.mk <$> .required "users" (Reader.list HostUser.record.reader)

/-- The JSON form. -/
def toJson (r : GetUsersForGroupResponse) : Value :=
  .object [("users", .array (r.users.map HostUser.toJson))]

end GetUsersForGroupResponse

/-- Which groups is this user in? -/
structure GetGroupsForUserRequest where
  userId : String
  context : Context
deriving DecidableEq, Repr

namespace GetGroupsForUserRequest

/-- The fields. -/
def record : Record GetGroupsForUserRequest :=
  GetGroupsForUserRequest.mk <$> .required "userId" Reader.text <*> Context.field

/-- The JSON form. -/
def toJson (r : GetGroupsForUserRequest) : Value :=
  .object [("userId", .string r.userId), ("authContext", r.context.toJson)]

end GetGroupsForUserRequest

/-- The groups of the user. -/
structure GetGroupsForUserResponse where
  groups : List HostGroup
deriving DecidableEq, Repr

namespace GetGroupsForUserResponse

/-- The fields. -/
def record : Record GetGroupsForUserResponse :=
  GetGroupsForUserResponse.mk <$> .required "groups" (Reader.list HostGroup.record.reader)

/-- The JSON form. -/
def toJson (r : GetGroupsForUserResponse) : Value :=
  .object [("groups", .array (r.groups.map HostGroup.toJson))]

end GetGroupsForUserResponse

end ScimLookup
