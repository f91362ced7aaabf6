import ScimLookup.Json.Reader
import ScimLookup.Json.Value

/-!
# Resources

Users, groups and lists of them, as far as lookups need them, with their JSON form in both
directions. Reading ignores attributes that are not modelled here and fills in what is left out;
writing leaves out optional attributes that are not there.
-/

set_option autoImplicit false

namespace ScimLookup

open Json

/-! ## Members of JSON objects -/

/-- A member that is there if its value is. -/
def optionalMember (name : String) (s : Option String) : List (String × Value) :=
  match s with
  | some s => [(name, .string s)]
  | none => []

/-- A member for a number that is there if the number is. -/
def optionalNumber (name : String) (n : Option Int) : List (String × Value) :=
  match n with
  | some n => [(name, .number n)]
  | none => []

/-- A list of strings. -/
def textArray (ss : List String) : Value :=
  .array (ss.map .string)

/-! ## Entries -/

/-- One of several values of an attribute: an address, a group of a user, a member of a group. -/
structure Entry where
  /-- This value comes first among its like. -/
  primary : Bool
  /-- A label for people. -/
  display : Option String
  /-- The value: an address, or the id of the resource that is meant. -/
  value : String
deriving DecidableEq, Repr

namespace Entry

/-- The fields of an entry. -/
def record : Record Entry :=
  Entry.mk <$> .defaulted "primary" Reader.bool false
    <*> .optional "display" Reader.text
    <*> .defaulted "value" Reader.text ""

/-- The JSON form. -/
def toJson (e : Entry) : Value :=
  .object ((if e.primary then [("primary", .bool true)] else []) ++
    optionalMember "display" e.display ++ [("value", .string e.value)])

end Entry

/-! ## Metadata -/

/-- What a server says about a resource. -/
structure Meta where
  resourceType : Option String
  created : Option String
  lastModified : Option String
  location : Option String
  version : Option String
deriving DecidableEq, Repr

namespace Meta

/-- The fields of metadata. -/
def record : Record Meta :=
  Meta.mk <$> .optional "resourceType" Reader.text
    <*> .optional "created" Reader.text
    <*> .optional "lastModified" Reader.text
    <*> .optional "location" Reader.text
    <*> .optional "version" Reader.text

/-- The JSON form. -/
def toJson (m : Meta) : Value :=
  .object (optionalMember "resourceType" m.resourceType ++ optionalMember "created" m.created ++
    optionalMember "lastModified" m.lastModified ++ optionalMember "location" m.location ++
    optionalMember "version" m.version)

/-- A member for metadata that is there if the metadata is. -/
def member (m : Option Meta) : List (String × Value) :=
  match m with
  | some m => [("meta", m.toJson)]
  | none => []

end Meta

/-! ## Users -/

/-- A user. -/
structure User where
  id : String
  externalId : Option String
  schemas : List String
  userName : String
  displayName : Option String
  active : Bool
  emails : List Entry
  groups : List Entry
  userType : Option String
  metadata : Option Meta
deriving DecidableEq, Repr

namespace User

/-- The fields of a user. -/
def record : Record User :=
  User.mk <$> .required "id" Reader.text
    <*> .optional "externalId" Reader.text
    <*> .defaulted "schemas" (Reader.list Reader.text) []
    <*> .defaulted "userName" Reader.text ""
    <*> .optional "displayName" Reader.text
    <*> .defaulted "active" Reader.bool false
    <*> .defaulted "emails" (Reader.list Entry.record.reader) []
    <*> .defaulted "groups" (Reader.list Entry.record.reader) []
    <*> .optional "userType" Reader.text
    <*> .optional "meta" Meta.record.reader

/-- The JSON form. -/
def toJson (u : User) : Value :=
  .object ([("id", .string u.id)] ++ optionalMember "externalId" u.externalId ++
    [("schemas", textArray u.schemas), ("userName", .string u.userName)] ++
    optionalMember "displayName" u.displayName ++
    [("active", .bool u.active), ("emails", .array (u.emails.map Entry.toJson)),
      ("groups", .array (u.groups.map Entry.toJson))] ++
    optionalMember "userType" u.userType ++ Meta.member u.metadata)

/-- The primary address: the first that says so, else the first of all, else none. -/
def primaryEmail (u : User) : String :=
  match u.emails.find? (·.primary) <|> u.emails.head? with
  | some e => e.value
  | none => ""

end User

/-! ## Groups -/

/-- A group. The values of its members are ids of users. -/
structure Group where
  id : String
  externalId : Option String
  schemas : List String
  displayName : Option String
  members : List Entry
  metadata : Option Meta
deriving DecidableEq, Repr

namespace Group

/-- The fields of a group. -/
def record : Record Group :=
  Group.mk <$> .required "id" Reader.text
    <*> .optional "externalId" Reader.text
    <*> .defaulted "schemas" (Reader.list Reader.text) []
    <*> .optional "displayName" Reader.text
    <*> .defaulted "members" (Reader.list Entry.record.reader) []
    <*> .optional "meta" Meta.record.reader

/-- The JSON form. A group without members does not mention them. -/
def toJson (g : Group) : Value :=
  .object ([("id", .string g.id)] ++ optionalMember "externalId" g.externalId ++
    [("schemas", textArray g.schemas)] ++ optionalMember "displayName" g.displayName ++
    (if g.members.isEmpty then [] else [("members", .array (g.members.map Entry.toJson))]) ++
    Meta.member g.metadata)

end Group

/-! ## Lists of resources -/

/-- The answer to a list request. What it says about further pages is kept and not followed. -/
structure Listing (α : Type) where
  schemas : List String
  totalResults : Option Int64
  startIndex : Option Int64
  itemsPerPage : Option Int64
  nextCursor : Option String
  resources : List α
deriving DecidableEq, Repr

namespace Listing

variable {α : Type}

/-- The fields of a list. -/
def record (r : Reader α) : Record (Listing α) :=
  Listing.mk <$> .defaulted "schemas" (Reader.list Reader.text) []
    <*> .optional "totalResults" Reader.signed64
    <*> .optional "startIndex" Reader.signed64
    <*> .optional "itemsPerPage" Reader.signed64
    <*> .optional "nextCursor" Reader.text
    <*> .defaulted "Resources" (Reader.list r) []

/-- A member for a count. -/
def count (name : String) (n : Option Int64) : List (String × Value) :=
  optionalNumber name (n.map Int64.toInt)

/-- The JSON form. -/
def toJson (item : α → Value) (l : Listing α) : Value :=
  .object ([("schemas", textArray l.schemas)] ++ count "totalResults" l.totalResults ++
    count "startIndex" l.startIndex ++ count "itemsPerPage" l.itemsPerPage ++
    optionalMember "nextCursor" l.nextCursor ++ [("Resources", .array (l.resources.map item))])

end Listing

end ScimLookup
