import ScimLookup.Scim.Client
import ScimLookup.Settings.Params

/-!
# Members of a group

Two ways to the members of a group. Where users can be searched by the groups they are in, one
search gives them all. Otherwise the group is looked up, and then each of its members in turn; the
first lookup that fails ends this.
-/

set_option autoImplicit false

namespace ScimLookup

/-- How the members of a group are found. -/
inductive Membership where
  /-- Search the users whose attribute has the id of the group. -/
  | search (path : String) (method : ListMethod)
  /-- Look up the group and then each member. -/
  | traversal
deriving DecidableEq, Repr

namespace Membership

/-- The way that the parameters choose. -/
def ofParams (p : Params) : Membership :=
  if p.searchesUsers then .search p.groupMembersAttribute p.listMethod else .traversal

/-- The name of a way. -/
def text : Membership → String
  | .search _ _ => "direct_search"
  | .traversal => "membership_traversal"

/-- Look up users by their ids, one after the other, up to the first that fails. -/
def lookUpAll (c : Client) : List String → Exchange (Except ClientError (List User))
  | [] => return .ok []
  | id :: ids => do
    match ← c.getUser id with
    | .error e => return .error e
    | .ok user =>
      match ← lookUpAll c ids with
      | .error e => return .error e
      | .ok users => return .ok (user :: users)

/-- The users in a group, in the order in which the server names them. -/
def usersForGroup (c : Client) (groupId : String) :
    Membership → Exchange (Except ClientError (List User))
  | .search path method => do
    return (← c.listUsers method (.equals path groupId) .unbounded).map (·.resources)
  | .traversal => do
    match ← c.getGroup groupId with
    | .error e => return .error e
    | .ok group => lookUpAll c (group.members.map (·.value))

end Membership

end ScimLookup
