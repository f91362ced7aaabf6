import ScimLookup.Proofs.Host.Reconfiguration
import ScimLookup.Proofs.Host.Traversal
import ScimLookup.Proofs.Scim.Errand

/-!
# How questions are resolved

Each question of the host is resolved in the same way (`Resolution.perform`): the checks come first,
and only a question that passes them goes on an errand. What differs from one question to another is
what the checks look at and which errand it is. The equations below say this of each question, and so
every fact about all of them has to be proved once only.
-/

set_option autoImplicit false

namespace ScimLookup

open Exchange

/-! ## Members of a group -/

namespace Membership

/-- The errand to look up users by their ids. -/
def usersErrand : List String → Errand (List User)
  | [] => .done []
  | id :: ids => .look (.user id) fun user => (usersErrand ids).map ((user : User) :: ·)

/-- The errand to find the users in a group. -/
def errand (groupId : String) : Membership → Errand (List User)
  | .search path method =>
    .look (.users method (.equals path groupId) .unbounded) fun users =>
      .done (users : Listing User).resources
  | .traversal =>
    .look (.group groupId) fun group => usersErrand ((group : Group).members.map (·.value))

theorem lookUpAll_eq (c : Client) (ids : List String) :
    lookUpAll c ids = (usersErrand ids).run c := by
  induction ids with
  | nil => rfl
  | cons id ids ih =>
      rw [lookUpAll_cons, usersErrand, Errand.run, ih]
      refine congrArg (Exchange.bind _) (funext fun result => ?_)
      cases result with
      | error e => rfl
      | ok user => exact (Errand.run_map (user :: ·) (usersErrand ids)).symm

/-- The users in a group are found by an errand. -/
theorem usersForGroup_eq (c : Client) (groupId : String) (membership : Membership) :
    membership.usersForGroup c groupId = (membership.errand groupId).run c := by
  cases membership with
  | search path method =>
      rw [usersForGroup, errand, Errand.run]
      refine congrArg (Exchange.bind _) (funext fun result => ?_)
      cases result with
      | error e => rfl
      | ok users => rfl
  | traversal =>
      rw [usersForGroup, errand, Errand.run]
      refine congrArg (Exchange.bind _) (funext fun result => ?_)
      cases result with
      | error e => rfl
      | ok group => exact lookUpAll_eq c _

end Membership

/-! ## Resolutions -/

/-- Not exactly one group has the name. -/
inductive ServiceError.IsMiscount : ServiceError → Prop
  | none (name : String) : IsMiscount (.groupNotFound name)
  | several (name : String) : IsMiscount (.multipleGroups name)

/-- How a question is resolved: what the checks look at, the errand that it goes on when it has
passed them, and how an answer is read from what comes of that. -/
structure Resolution (α : Type) where
  question : Question
  /-- The name or id that the question is about. -/
  subject : Option String
  context : Context
  Finding : Type
  errand : Serving → Errand Finding
  read : Finding → Except ServiceError α
  /-- What is found has no answer in it only where not exactly one group has the name. -/
  isMiscount_of_read : ∀ found e, read found = .error e → e.IsMiscount

namespace Resolution

variable {α β : Type}

/-- Resolve a question: check it, go on its errand, and read the answer. -/
def perform (s : Service) (r : Resolution α) : Exchange (Except ServiceError α) :=
  match s.prepare r.question r.subject r.context with
  | .error e => pure (.error e)
  | .ok (serving, client) =>
    (r.errand serving).run client >>= fun found =>
      pure ((Service.under r.question found).bind r.read)

/-- Put the answer into another form. -/
def map (f : α → β) (r : Resolution α) : Resolution β where
  question := r.question
  subject := r.subject
  context := r.context
  Finding := r.Finding
  errand := r.errand
  read found := (r.read found).map f
  isMiscount_of_read found e h := by
    cases hread : r.read found with
    | error e' =>
        rw [hread] at h
        cases h
        exact r.isMiscount_of_read found _ hread
    | ok a =>
        rw [hread] at h
        cases h

theorem perform_map (f : α → β) (r : Resolution α) (s : Service) :
    (r.map f).perform s = r.perform s >>= fun answer => pure (answer.map f) := by
  rw [perform, perform]
  cases hready : s.prepare r.question r.subject r.context with
  | error e =>
      simp only [map, hready]
      rfl
  | ok ready =>
      simp only [map, hready, map_map]
      refine congrArg (Exchange.bind _) (funext fun found => ?_)
      cases found with
      | error e => rfl
      | ok a => rfl

/-- A question that is answered from the groups that a filter selects. -/
def ofGroups (question : Question) (subject : Option String) (context : Context)
    (filter : Serving → Filter) (read : List Group → Except ServiceError α)
    (isMiscount_of_read : ∀ groups e, read groups = .error e → e.IsMiscount) : Resolution α where
  question := question
  subject := subject
  context := context
  Finding := List Group
  errand serving :=
    .look (.groups serving.params.listMethod (filter serving) .unbounded) fun groups =>
      .done (groups : Listing Group).resources
  read := read
  isMiscount_of_read := isMiscount_of_read

/-- The groups that a filter selects are found by an errand of one lookup. -/
theorem groupsWhere_eq (question : Question) (serving : Serving) (client : Client)
    (filter : Filter) :
    Service.groupsWhere question serving client filter =
      (Errand.look (.groups serving.params.listMethod filter .unbounded) fun groups =>
        .done (groups : Listing Group).resources).run client >>= fun found =>
          pure (Service.under question found) := by
  rw [Service.groupsWhere, Errand.run, bind_bind]
  refine congrArg (Exchange.bind _) (funext fun list => ?_)
  cases list with
  | error e => rfl
  | ok groups => rfl

/-- A question about groups asks for those that its filter selects. -/
theorem perform_ofGroups (question : Question) (subject : Option String) (context : Context)
    (filter : Serving → Filter) (read : List Group → Except ServiceError α)
    (isMiscount_of_read : ∀ groups e, read groups = .error e → e.IsMiscount) (s : Service) :
    (ofGroups question subject context filter read isMiscount_of_read).perform s =
      match s.prepare question subject context with
      | .error e => pure (.error e)
      | .ok (serving, client) =>
        Service.groupsWhere question serving client (filter serving) >>= fun groups =>
          pure (groups.bind read) := by
  cases hready : s.prepare question subject context with
  | error e => simp only [perform, ofGroups, hready]
  | ok ready => simp only [perform, ofGroups, hready, groupsWhere_eq, map_map]

theorem isMiscount_of_single {name : String} {groups : List Group} {e : ServiceError}
    (h : Service.single name groups = .error e) : e.IsMiscount := by
  match groups with
  | [] =>
      cases h
      exact .none name
  | [group] => cases h
  | group :: group' :: rest =>
      cases h
      exact .several name

/-- Which group has this name? -/
def ofGetGroup (r : GetGroupRequest) : Resolution GetGroupResponse :=
  ofGroups .getGroup (some r.groupName) r.context
    (fun serving => .equals serving.params.groupAttribute r.groupName) (Service.single r.groupName)
    fun _ _ => isMiscount_of_single

/-- Which groups are there? -/
def ofGetAllGroups (r : GetAllGroupsRequest) : Resolution GetAllGroupsResponse :=
  ofGroups .getAllGroups none r.context (fun _ => .everything)
    (fun groups => .ok ⟨groups.map .ofGroup⟩) fun _ _ h => nomatch h

/-- Which groups is this user in? -/
def ofGetGroupsForUser (r : GetGroupsForUserRequest) : Resolution GetGroupsForUserResponse :=
  ofGroups .getGroupsForUser (some r.userId) r.context
    (fun serving => .equals serving.params.userAttribute r.userId)
    (fun groups => .ok ⟨groups.map .ofGroup⟩) fun _ _ h => nomatch h

/-- Who is in this group? -/
def ofGetUsersForGroup (r : GetUsersForGroupRequest) : Resolution GetUsersForGroupResponse where
  question := .getUsersForGroup
  subject := some r.groupId
  context := r.context
  Finding := List User
  errand serving := serving.membership.errand r.groupId
  read users := .ok ⟨users.map .ofUser⟩
  isMiscount_of_read _ _ h := nomatch h

end Resolution

/-! ## The questions -/

namespace Service

variable (s : Service)

theorem getGroup_eq (r : GetGroupRequest) :
    s.getGroup r = (Resolution.ofGetGroup r).perform s := by
  unfold getGroup Resolution.ofGetGroup
  refine Eq.trans ?_ (Resolution.perform_ofGroups _ _ _ _ _ _ s).symm
  generalize s.prepare .getGroup (some r.groupName) r.context = ready
  rfl

theorem getAllGroups_eq (r : GetAllGroupsRequest) :
    s.getAllGroups r = (Resolution.ofGetAllGroups r).perform s := by
  unfold getAllGroups Resolution.ofGetAllGroups
  refine Eq.trans ?_ (Resolution.perform_ofGroups _ _ _ _ _ _ s).symm
  generalize s.prepare .getAllGroups none r.context = ready
  rfl

theorem getGroupsForUser_eq (r : GetGroupsForUserRequest) :
    s.getGroupsForUser r = (Resolution.ofGetGroupsForUser r).perform s := by
  unfold getGroupsForUser Resolution.ofGetGroupsForUser
  refine Eq.trans ?_ (Resolution.perform_ofGroups _ _ _ _ _ _ s).symm
  generalize s.prepare .getGroupsForUser (some r.userId) r.context = ready
  rfl

theorem getUsersForGroup_eq (r : GetUsersForGroupRequest) :
    s.getUsersForGroup r = (Resolution.ofGetUsersForGroup r).perform s := by
  rw [getUsersForGroup, Resolution.perform, Resolution.ofGetUsersForGroup]
  simp only [Membership.usersForGroup_eq]
  cases s.prepare .getUsersForGroup (some r.groupId) r.context with
  | error e => rfl
  | ok ready =>
      refine congrArg (Exchange.bind _) (funext fun found => ?_)
      cases found with
      | error e => rfl
      | ok users => rfl

end Service

namespace HostCommand

/-- How a command is resolved, if it is a question. -/
def resolution? : HostCommand → Option (Resolution HostResponse)
  | .configure .. => none
  | .getGroup r => some ((Resolution.ofGetGroup r).map .group)
  | .getAllGroups r => some ((Resolution.ofGetAllGroups r).map .groups)
  | .getUsersForGroup r => some ((Resolution.ofGetUsersForGroup r).map .members)
  | .getGroupsForUser r => some ((Resolution.ofGetGroupsForUser r).map .memberships)

/-- **A question is resolved, and leaves the service as it is.** -/
theorem perform_eq {command : HostCommand} {r : Resolution HostResponse}
    (h : command.resolution? = some r) (s : Service) :
    command.perform s = r.perform s >>= fun answer => pure (answer, s) := by
  cases command with
  | configure around yaml => cases h
  | getGroup request =>
      cases h
      rw [perform, Service.getGroup_eq, Resolution.perform_map, map_map]
  | getAllGroups request =>
      cases h
      rw [perform, Service.getAllGroups_eq, Resolution.perform_map, map_map]
  | getUsersForGroup request =>
      cases h
      rw [perform, Service.getUsersForGroup_eq, Resolution.perform_map, map_map]
  | getGroupsForUser request =>
      cases h
      rw [perform, Service.getGroupsForUser_eq, Resolution.perform_map, map_map]

end HostCommand

end ScimLookup
