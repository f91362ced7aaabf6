import ScimLookup.Proofs.Host.Resolution
import ScimLookup.Proofs.Json.Variation

/-!
# Questions that one list answers

The group of a name, the groups of a user, all groups and, where users are searched for, the users
in a group: the server is asked for one list each time (`Client.AnswersFromList`), and what comes
back is cut down to what the host is shown (`HostGroup.Shows`, `HostUser.Shows`).

The main result (`Service.one_list_answers`) says which list this is, that the request for it is the
only lookup and is sent as soon as it can be, and what the host is told of the resources in the
answer: all of them in their order, or the only one where it asked for a name. What the answer says
about further pages does not matter.
-/

set_option autoImplicit false

namespace ScimLookup

open Exchange Json

/-! ## The one request -/

namespace Client

variable {α γ : Type} {c : Client} {r : Reader γ}

/-- An exchange that looks up one thing and makes its result from what is found. -/
structure AnswersFrom (c : Client) (parts : Method × String × String) (r : Reader γ)
    (answer : γ → Except ServiceError α) (e : Exchange (Except ServiceError α)) : Prop where
  /-- No other lookup is sent. -/
  once : ∀ w, (e.journal w).lookupTraffic.length ≤ 1
  /-- The lookup is sent exactly if the client has a token and the request can be built. -/
  sent_iff : ∀ w q, (∃ reply, (e.journal w).lookupTraffic = [(q, reply)]) ↔
    ∃ token, c.HasToken w (e.journal w) token ∧ c.requestOf parts token = .ok q
  /-- What is found makes the result. -/
  told : ∀ w q bytes v, (e.journal w).lookupTraffic = [(q, .answer ⟨.ok, some bytes⟩)] →
    r.ofBytes bytes = .ok v → (e.run w).1 = some (answer v)

/-- An exchange that asks for one list, the whole of it, and makes its result from the resources. -/
def AnswersFromList {β : Type} (c : Client) (collection : Collection) (item : Reader β)
    (method : ListMethod) (filter : Filter) (answer : List β → Except ServiceError α)
    (e : Exchange (Except ServiceError α)) : Prop :=
  ∃ request, ListRequest.build method filter .unbounded = .ok request ∧
    c.AnswersFrom (c.listParts collection request) (Listing.record item).reader
      (fun list => answer list.resources) e

end Client

namespace Call

open Client

variable {α : Type} {c : Client} {call : Call} {operation : Operation}
  {parts : Method × String × String}

/-- **What is made from a lookup is made from the one thing that is found.** -/
theorem answersFrom (hop : call.operation? = some operation) (hparts : call.parts? c = some parts)
    (f : Except ClientError call.Result → Except ServiceError α) :
    c.AnswersFrom parts call.reader (fun v => f (.ok v))
      (call.ask c >>= fun found => pure (f found)) := by
  -- Putting the result into another form does nothing of its own.
  have hruns : ∀ w, Runs (call.ask c >>= fun found => pure (f found)) w
      (((call.ask c).run w).1.map f) ((call.ask c).journal w) ((call.ask c).run w).2 :=
    fun w => runs_map_iff.2 ⟨_, runs_self (call.ask c) w, rfl⟩
  have hsettled := isSettled_of_lookup hop c
  refine
    { once := ?_
      sent_iff := ?_
      told := ?_ }
  · intro w
    rw [(hruns w).journal_eq]
    exact (hsettled w).once.2
  · intro w
    rw [(hruns w).journal_eq]
    exact sent_iff hop hparts w
  · intro w q bytes v hsent hread
    rw [(hruns w).journal_eq] at hsent
    rw [(hruns w).run_eq, ((hsettled w).ends_iff (.ok v)).2 (.found hsent hread)]
    rfl

end Call

/-! ## The request for a list -/

namespace ListRequest

/-- There is a request for a list if there is a filter. -/
theorem exists_build {filter : Filter} (h : filter.isAbsent = false) (method : ListMethod)
    (page : Page) :
    ∃ request, build? method filter page = some request ∧
      build method filter page = .ok request := by
  cases method with
  | get => exact ⟨_, rfl, rfl⟩
  | post =>
      have hbuild : build? .post filter page =
          some (.search ⟨[SearchRequest.schema], some filter.text, page.count, page.cursor⟩) := by
        simp [build?, criteria?, h]
      exact ⟨_, hbuild, by rw [build, hbuild]⟩

end ListRequest

/-! ## What comes back -/

namespace Client

variable {α : Type} {filter : Filter}

/-- A result that is made from a list of groups. -/
theorem answersFromList_groups (c : Client) (method : ListMethod)
    (hfilter : filter.isAbsent = false)
    {f : Except ClientError (Listing Group) → Except ServiceError α}
    {answer : List Group → Except ServiceError α}
    (hf : ∀ list, f (.ok list) = answer list.resources) :
    c.AnswersFromList .groups Group.record.reader method filter answer
      (c.listGroups method filter .unbounded >>= fun found => pure (f found)) := by
  obtain ⟨request, hrequest, hbuilt⟩ := ListRequest.exists_build hfilter method .unbounded
  have hparts : (Call.listGroups method filter .unbounded).parts? c =
      some (c.listParts .groups request) := by
    rw [Call.parts?, Call.listParts?, hrequest, Option.map_some]
  refine ⟨request, hbuilt, ?_⟩
  rw [← funext hf]
  exact Call.answersFrom rfl hparts f

/-- A result that is made from a list of users. -/
theorem answersFromList_users (c : Client) (method : ListMethod)
    (hfilter : filter.isAbsent = false)
    {f : Except ClientError (Listing User) → Except ServiceError α}
    {answer : List User → Except ServiceError α}
    (hf : ∀ list, f (.ok list) = answer list.resources) :
    c.AnswersFromList .users User.record.reader method filter answer
      (c.listUsers method filter .unbounded >>= fun found => pure (f found)) := by
  obtain ⟨request, hrequest, hbuilt⟩ := ListRequest.exists_build hfilter method .unbounded
  have hparts : (Call.listUsers method filter .unbounded).parts? c =
      some (c.listParts .users request) := by
    rw [Call.parts?, Call.listParts?, hrequest, Option.map_some]
  refine ⟨request, hbuilt, ?_⟩
  rw [← funext hf]
  exact Call.answersFrom rfl hparts f

end Client

/-- A question about groups is answered from one list of groups. -/
theorem Resolution.answersFromList_ofGroups {α : Type} {question : Question}
    {subject : Option String} {context : Context} {read : List Group → Except ServiceError α}
    {hread : ∀ groups e, read groups = .error e → e.IsMiscount} {s : Service} {serving : Serving}
    {client : Client} (hready : s.prepare question subject context = .ok (serving, client))
    (filter : Serving → Filter) (hfilter : (filter serving).isAbsent = false) :
    client.AnswersFromList .groups Group.record.reader serving.params.listMethod (filter serving)
      read ((ofGroups question subject context filter read hread).perform s) := by
  rw [perform_ofGroups, hready]
  simp only [Service.groupsWhere, map_map]
  exact client.answersFromList_groups _ hfilter fun list => rfl

/-! ## What the host is shown -/

/-- The host is shown a group: its id, and its name if it has one. -/
structure HostGroup.Shows (shown : HostGroup) (g : Group) : Prop where
  id_eq : shown.id = g.id
  named : ∀ name, g.displayName = some name → shown.name = name
  unnamed : g.displayName = none → shown.name = ""

/-- The host is shown a user: the id, one of the two names, and one address. -/
structure HostUser.Shows (shown : HostUser) (u : User) : Prop where
  id_eq : shown.id = u.id
  /-- The name to display comes first. -/
  named : ∀ name, u.displayName = some name → name ≠ "" → shown.name = name
  /-- Without one it is the user name. -/
  unnamed : u.displayName = none ∨ u.displayName = some "" → shown.name = u.userName
  /-- The address is the first that is flagged. -/
  flagged : ∀ before e after, u.emails = before ++ e :: after → e.primary = true →
    (∀ e' ∈ before, e'.primary = false) → shown.email = e.value
  /-- Where none is flagged it is the first of all. -/
  unflagged : ∀ e after, u.emails = e :: after → (∀ e' ∈ u.emails, e'.primary = false) →
    shown.email = e.value
  /-- There may be no address. -/
  unaddressed : u.emails = [] → shown.email = ""

theorem HostGroup.shows_ofGroup (g : Group) : (ofGroup g).Shows g where
  id_eq := rfl
  named name hname := by rw [ofGroup, hname, Option.getD_some]
  unnamed hname := by rw [ofGroup, hname, Option.getD_none]

/-- The first address that is flagged is the primary one. -/
theorem User.primaryEmail_of_flagged {u : User} {before after : List Entry} {e : Entry}
    (hemails : u.emails = before ++ e :: after) (he : e.primary = true)
    (hbefore : ∀ e' ∈ before, e'.primary = false) : u.primaryEmail = e.value := by
  have hnone : before.find? (·.primary) = none := by simpa using hbefore
  have hfound : u.emails.find? (·.primary) = some e := by
    rw [hemails, List.find?_append, hnone, Option.none_or, List.find?_cons_of_pos he]
  rw [primaryEmail, hfound]
  rfl

/-- Without a flag the first address is the primary one. -/
theorem User.primaryEmail_of_unflagged {u : User} {e : Entry} {after : List Entry}
    (hemails : u.emails = e :: after) (hnone : ∀ e' ∈ u.emails, e'.primary = false) :
    u.primaryEmail = e.value := by
  have hfound : u.emails.find? (·.primary) = none := by simpa using hnone
  rw [primaryEmail, hfound, hemails]
  rfl

theorem HostUser.shows_ofUser (u : User) : (ofUser u).Shows u where
  id_eq := rfl
  named name hname hne := by simp [ofUser, hname, hne]
  unnamed hname := by
    rcases hname with hname | hname
    · simp [ofUser, hname]
    · simp [ofUser, hname]
  flagged before e after hemails he hbefore := User.primaryEmail_of_flagged hemails he hbefore
  unflagged e after hemails hnone := User.primaryEmail_of_unflagged hemails hnone
  unaddressed hemails := by rw [ofUser, User.primaryEmail, hemails]; rfl

/-! ## The questions -/

namespace Service

/-- One group answers a question about a name; none or several are an error with the name. -/
theorem single_cases (name : String) (groups : List Group) :
    (∀ g, groups = [g] → single name groups = .ok ⟨.ofGroup g⟩) ∧
      (groups = [] → single name groups = .error (.groupNotFound name)) ∧
      (1 < groups.length → single name groups = .error (.multipleGroups name)) := by
  match groups with
  | [] => simp [single]
  | [g] => simp [single]
  | g :: g' :: rest => simp [single]

theorem answersFromList_getUsersForGroup {s : Service} {serving : Serving} {client : Client}
    {r : GetUsersForGroupRequest}
    (hready : s.prepare .getUsersForGroup (some r.groupId) r.context = .ok (serving, client))
    {path : String} {method : ListMethod} (hsearch : serving.membership = .search path method) :
    client.AnswersFromList .users User.record.reader method (.equals path r.groupId)
      (fun users => .ok ⟨users.map .ofUser⟩) (s.getUsersForGroup r) := by
  rw [getUsersForGroup, hready]
  simp only [hsearch, Membership.usersForGroup, map_map]
  exact client.answersFromList_users _ rfl fun list => rfl

/-- **A question that one list answers puts one request for it to the server.** Once a question has
passed the checks, the request is the one for the whole list of the groups, or of the users, that
the filter of the question selects, in the method of the parameters; and nothing else is looked up.
Of the resources in the answer the host is told what belongs to the question: for a name the only
group, or that there is none or several; else all of them, in their order. Users are searched for by
every serving that a configuration makes whose parameters say so. -/
theorem one_list_answers (s : Service) (serving : Serving) (client : Client) :
    (∀ r : GetGroupRequest,
      s.prepare .getGroup (some r.groupName) r.context = .ok (serving, client) →
      client.AnswersFromList .groups Group.record.reader serving.params.listMethod
        (.equals serving.params.groupAttribute r.groupName) (single r.groupName) (s.getGroup r)) ∧
    (∀ r : GetGroupsForUserRequest,
      s.prepare .getGroupsForUser (some r.userId) r.context = .ok (serving, client) →
      client.AnswersFromList .groups Group.record.reader serving.params.listMethod
        (.equals serving.params.userAttribute r.userId) (fun gs => .ok ⟨gs.map .ofGroup⟩)
        (s.getGroupsForUser r)) ∧
    (∀ r : GetAllGroupsRequest,
      s.prepare .getAllGroups none r.context = .ok (serving, client) →
      client.AnswersFromList .groups Group.record.reader serving.params.listMethod .everything
        (fun gs => .ok ⟨gs.map .ofGroup⟩) (s.getAllGroups r)) ∧
    (∀ r : GetUsersForGroupRequest,
      s.prepare .getUsersForGroup (some r.groupId) r.context = .ok (serving, client) →
      serving.membership = .ofParams serving.params → serving.params.searchesUsers = true →
      client.AnswersFromList .users User.record.reader serving.params.listMethod
        (.equals serving.params.groupMembersAttribute r.groupId) (fun us => .ok ⟨us.map .ofUser⟩)
        (s.getUsersForGroup r)) ∧
    (∀ around yaml, Serving.ofYaml around yaml = .ok serving →
      serving.membership = .ofParams serving.params) ∧
    (∀ name groups, (∀ g, groups = [g] → single name groups = .ok ⟨.ofGroup g⟩) ∧
      (groups = [] → single name groups = .error (.groupNotFound name)) ∧
      (1 < groups.length → single name groups = .error (.multipleGroups name))) ∧
    (∀ g, (HostGroup.ofGroup g).Shows g) ∧ ∀ u, (HostUser.ofUser u).Shows u := by
  refine ⟨?_, ?_, ?_, ?_, fun around yaml h => Serving.membership_of_ofYaml h, single_cases,
    HostGroup.shows_ofGroup, HostUser.shows_ofUser⟩
  · intro r hready
    rw [getGroup_eq]
    exact Resolution.answersFromList_ofGroups hready
      (fun serving => .equals serving.params.groupAttribute r.groupName) rfl
  · intro r hready
    rw [getGroupsForUser_eq]
    exact Resolution.answersFromList_ofGroups hready
      (fun serving => .equals serving.params.userAttribute r.userId) rfl
  · intro r hready
    rw [getAllGroups_eq]
    exact Resolution.answersFromList_ofGroups hready (fun _ => .everything) rfl
  · intro r hready hmembership hsearches
    -- The way to the members is the one that the parameters choose.
    have hsearch : serving.membership =
        .search serving.params.groupMembersAttribute serving.params.listMethod := by
      rw [hmembership, Membership.ofParams, if_pos hsearches]
    exact answersFromList_getUsersForGroup hready hsearch

/-- Two groups have the name, whatever the list says about its length; the same list answers the
other questions about groups, and a list of two users the one about members. -/
theorem one_list_answers_two :
    let c := Client.plain "http://[::1]/scim" (.basic "id" "secret")
    let s : Serving := ⟨c, .standard, none, .ofParams .standard⟩
    let group := fun id => Value.object [("id", .string id), ("displayName", .string " staff ")]
    let groups := Value.object [("totalResults", .number 1),
      ("Resources", .array [group "g", group "h"])]
    let address := fun (text : String) (primary : Bool) =>
      Value.object [("value", .string text), ("primary", .bool primary)]
    let users := Value.object [("nextCursor", .string "more"), ("Resources", .array [
      .object [("id", .string "a"), ("userName", .string "ann"), ("displayName", .string ""),
        ("emails", .array [address "1" false, address "2" true, address "3" true])],
      .object [("id", .string "b"), ("displayName", .string "Bob"),
        ("emails", .array [address "4" false, address "5" false])]])]
    let world := fun v : Value => { World.fresh (fun _ => true) (fun _ => 0) with
      replies := [.answer ⟨.ok, some (Utf8.encode v.written)⟩] }
    (((⟨some s⟩ : Service).getGroup ⟨" staff ", .empty⟩).run (world groups)).1 =
        some (.error (.multipleGroups " staff ")) ∧
      (((⟨some s⟩ : Service).getGroupsForUser ⟨"u", .empty⟩).run (world groups)).1 =
        some (.ok ⟨[⟨"g", " staff "⟩, ⟨"h", " staff "⟩]⟩) ∧
      (((⟨some s⟩ : Service).getAllGroups ⟨.empty⟩).run (world groups)).1 =
        some (.ok ⟨[⟨"g", " staff "⟩, ⟨"h", " staff "⟩]⟩) ∧
      (((⟨some s⟩ : Service).getUsersForGroup ⟨"g", .empty⟩).run (world users)).1 =
        some (.ok ⟨[⟨"a", "ann", "2"⟩, ⟨"b", "Bob", "4"⟩]⟩) := by
  intro c s group groups address users world
  have htold : ∀ {α γ : Type} {parts : Method × String × String} {r : Reader γ}
      {answer : γ → Except ServiceError α} {e : Exchange (Except ServiceError α)} {v : Value}
      {x : γ}, c.AnswersFrom parts r answer e →
      (e.journal (world v)).lookupTraffic.map Prod.snd =
        [.answer ⟨.ok, some (Utf8.encode v.written)⟩] →
      r (Doc.ofValue v) = .ok x → (e.run (world v)).1 = some (answer x) := by
    intro α γ parts r answer e v x hanswers hsent hread
    obtain ⟨⟨q, reply⟩, hq, hreply⟩ := List.map_eq_singleton_iff.1 hsent
    cases hreply
    exact hanswers.told _ q _ x hq ((r.ofBytes_of_spells (Value.spells_written v)).trans hread)
  obtain ⟨hgroup, hgroupsOf, hall, husers, -⟩ := one_list_answers ⟨some s⟩ s c
  let staff := fun id : String => Group.mk id none [] (some " staff ") [] none
  have hgroups : (Listing.record Group.record.reader).reader (Doc.ofValue groups) =
      .ok ⟨[], some 1, none, none, none, [staff "g", staff "h"]⟩ := by decide +kernel
  refine ⟨?_, ?_, ?_, ?_⟩
  · obtain ⟨request, -, hanswers⟩ := hgroup ⟨" staff ", .empty⟩ rfl
    exact (htold hanswers (by decide +kernel) hgroups).trans rfl
  · obtain ⟨request, -, hanswers⟩ := hgroupsOf ⟨"u", .empty⟩ rfl
    exact (htold hanswers (by decide +kernel) hgroups).trans rfl
  · obtain ⟨request, -, hanswers⟩ := hall ⟨.empty⟩ rfl
    exact (htold hanswers (by decide +kernel) hgroups).trans rfl
  · obtain ⟨request, -, hanswers⟩ := husers ⟨"g", .empty⟩ rfl rfl rfl
    exact (htold hanswers (by decide +kernel) rfl).trans rfl

end Service

end ScimLookup
