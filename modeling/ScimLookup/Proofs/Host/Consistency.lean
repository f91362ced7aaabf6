import ScimLookup.Proofs.Host.Resolution
import ScimLookup.Proofs.Json.Written
import ScimLookup.Proofs.Scim.ListedItems

/-!
# Two ways to the same members

The users in a group are found by one search or by a lookup of the group and of each of its members
(`Serving.withSearch`). A server is consistent about a group if the resources in its answer to the
search (`Client.AnswersSearch`) are the documents that it gives for the members, one by one
(`Client.AnswersTraversal`).

The main result (`memberships_agree`) says that the host is told the same in both ways if the server
is consistent: the same users, in the same order and as many of them, whatever the documents look
like; and where a check stops the question it is the same error.
-/

set_option autoImplicit false

namespace ScimLookup

open Exchange Json

/-! ## Answered lookups -/

namespace Call

/-- The lookup of a call that is begun in the world `w` is answered with the document `d`. -/
def IsAnswered (c : Client) (call : Call) (w : World) (d : Doc) : Prop :=
  ∃ bytes, ((call.ask c).journal w).lookupTraffic.map Prod.snd = [.answer ⟨.ok, some bytes⟩] ∧
    Document.ofBytes bytes = ⟨d, true⟩

variable {c : Client} {call : Call} {operation : Operation} {w : World} {d : Doc}

/-- A lookup that is answered finds what can be read from the document. -/
theorem IsAnswered.run_eq (h : call.IsAnswered c w d) (hop : call.operation? = some operation)
    {v : call.Result} (hread : call.reader d = .ok v) :
    ((call.ask c).run w).1 = some (.ok v) := by
  obtain ⟨bytes, hsent, hdoc⟩ := h
  obtain ⟨⟨q, reply⟩, hsent, hreply⟩ := List.map_eq_singleton_iff.1 hsent
  cases hreply
  have hbytes : call.reader.ofBytes bytes = .ok v := by
    rw [Reader.ofBytes, hdoc]
    show (call.reader d >>= fun a => .ok a) = .ok v
    rw [hread]
    rfl
  exact ((isSettled_of_lookup hop c w).ends_iff (.ok v)).2 (.found hsent hbytes)

end Call

/-! ## Consistent servers -/

namespace Client

/-- Lookups of users, one after the other, are answered with one document each. -/
inductive AnswersEach (c : Client) : List String → List Doc → World → Prop
  | nil {w : World} : AnswersEach c [] [] w
  | cons {id : String} {ids : List String} {d : Doc} {docs : List Doc} {w : World} :
      (Call.getUser id).IsAnswered c w d → AnswersEach c ids docs ((c.getUser id).run w).2 →
      AnswersEach c (id :: ids) (d :: docs) w

/-- The search for the users in a group is answered with a list of the documents. -/
def AnswersSearch (c : Client) (p : Params) (groupId : String) (docs : List Doc) (w : World) :
    Prop :=
  ∃ d l, (Call.listUsers p.listMethod (.equals p.groupMembersAttribute groupId)
      .unbounded).IsAnswered c w d ∧
    (Listing.record Reader.doc).reader d = .ok l ∧ l.resources = docs

/-- The lookup of a group is answered with a group, and those of its members with the documents. -/
def AnswersTraversal (c : Client) (groupId : String) (docs : List Doc) (w : World) : Prop :=
  ∃ d group, (Call.getGroup groupId).IsAnswered c w d ∧ Group.record.reader d = .ok group ∧
    c.AnswersEach (group.members.map (·.value)) docs ((c.getGroup groupId).run w).2

variable {c : Client} {groupId : String} {docs : List Doc} {users : List User} {w : World}

/-- A search that is answered finds the users, each read from its own document. -/
theorem AnswersSearch.run_eq {p : Params} (h : c.AnswersSearch p groupId docs w)
    (husers : docs.mapM User.record.reader = .ok users) :
    (((Membership.search p.groupMembersAttribute p.listMethod).usersForGroup c groupId).run w).1 =
      some (.ok users) := by
  obtain ⟨d, l, hanswered, hlist, rfl⟩ := h
  -- The list was read with its items as they are, and each of them can be read as a user.
  have hread : (Listing.record User.record.reader).reader d = .ok (l.withItems users) :=
    Listing.reader_of_items hlist husers
  have hfound := hanswered.run_eq rfl hread
  have hruns : Exchange.Runs
      ((Membership.search p.groupMembersAttribute p.listMethod).usersForGroup c groupId) w
      (some (.ok users)) _ _ :=
    runs_map_iff.2 ⟨_, runs_of_fst_run hfound, rfl⟩
  rw [hruns.run_eq]

/-- Users that are answered for one by one are all found. -/
theorem AnswersEach.findsAll {ids : List String} (h : c.AnswersEach ids docs w)
    (husers : docs.mapM User.record.reader = .ok users) :
    ∃ j w', Membership.FindsAll c ids w users j w' := by
  -- By induction on the answers; the world moves on with every lookup.
  induction h generalizing users with
  | nil =>
      cases husers
      exact ⟨_, _, .nil⟩
  | @cons id ids d docs w hanswered _ ih =>
      rw [List.mapM_cons] at husers
      obtain ⟨user, huser, husers⟩ := ok_of_bind husers
      obtain ⟨rest, hrest, husers⟩ := ok_of_bind husers
      cases husers
      obtain ⟨j, w', hall⟩ := ih hrest
      have hfound := hanswered.run_eq rfl huser
      exact ⟨_, _, .cons (runs_of_fst_run hfound) hall⟩

/-- A traversal that is answered finds the users, each read from its own document. -/
theorem AnswersTraversal.run_eq (h : c.AnswersTraversal groupId docs w)
    (husers : docs.mapM User.record.reader = .ok users) :
    ((Membership.traversal.usersForGroup c groupId).run w).1 = some (.ok users) := by
  obtain ⟨d, group, hanswered, hgroup, hmembers⟩ := h
  have hfound := hanswered.run_eq rfl hgroup
  obtain ⟨j, w', hall⟩ := hmembers.findsAll husers
  have hlooked : ((Call.getGroup groupId).ask c).Runs w (some (.ok group)) _ _ :=
    runs_of_fst_run hfound
  have hcourse := Membership.TraversalCourse.found hlooked (.found hall)
  rw [(Membership.runs_traversal_iff.2 hcourse).run_eq]

end Client

/-! ## What the host is told -/

namespace Serving

/-- The same serving, but for whether it searches for the users in a group. -/
def withSearch (s : Serving) (allowed : Bool) : Serving :=
  { s with
    params := { s.params with searchesUsers := allowed }
    membership := .ofParams { s.params with searchesUsers := allowed } }

/-- A serving that a configuration makes searches where its parameter says so. -/
theorem withSearch_of_ofYaml {around : Surroundings} {yaml : String} {s : Serving}
    (h : ofYaml around yaml = .ok s) : s.withSearch s.params.searchesUsers = s := by
  rw [withSearch, ← membership_of_ofYaml h]

end Serving

namespace Service

/-- The checks before a question do not look at how members are found. -/
theorem prepare_withSearch (s : Serving) (allowed : Bool) (question : Question)
    (subject : Option String) (context : Context) :
    (⟨some (s.withSearch allowed)⟩ : Service).prepare question subject context =
      ((⟨some s⟩ : Service).prepare question subject context).map fun x =>
        (s.withSearch allowed, x.2) := by
  have hclient : (s.withSearch allowed).clientFor question context = s.clientFor question context :=
    rfl
  cases subject with
  | none =>
      show ((s.withSearch allowed).clientFor question context >>= _) =
        (s.clientFor question context >>= _).map _
      rw [hclient]
      cases s.clientFor question context with
      | error e => rfl
      | ok c => rfl
  | some text =>
      show (nonBlank text >>= fun _ => (s.withSearch allowed).clientFor question context >>= _) =
        (nonBlank text >>= fun _ => s.clientFor question context >>= _).map _
      rw [hclient]
      cases nonBlank text with
      | error e => rfl
      | ok u =>
          cases s.clientFor question context with
          | error e => rfl
          | ok c => rfl

/-- The host is told of the users that are found, or of the check that stopped the question. -/
theorem getUsersForGroup_run {s : Serving} {r : GetUsersForGroupRequest} {allowed : Bool}
    {users : List User} {w : World}
    (hfound : ∀ c, (⟨some s⟩ : Service).prepare .getUsersForGroup (some r.groupId) r.context =
        .ok (s, c) →
      (((s.withSearch allowed).membership.usersForGroup c r.groupId).run w).1 = some (.ok users)) :
    (((⟨some (s.withSearch allowed)⟩ : Service).getUsersForGroup r).run w).1 =
      some (((⟨some s⟩ : Service).prepare .getUsersForGroup (some r.groupId) r.context).map
        fun _ => ⟨users.map .ofUser⟩) := by
  have hready := prepare_withSearch s allowed .getUsersForGroup (some r.groupId) r.context
  -- The same check stops both servings, and after the checks both have the same client.
  cases hprepare : (⟨some s⟩ : Service).prepare .getUsersForGroup (some r.groupId) r.context with
  | error e =>
      rw [hprepare] at hready
      rw [getUsersForGroup, hready]
      rfl
  | ok ready =>
      obtain ⟨s', c⟩ := ready
      obtain ⟨hsame, -⟩ := prepare_ok hprepare
      cases hsame
      rw [hprepare] at hready
      have hruns := (runs_getUsersForGroup_iff hready).2
        ⟨_, runs_self ((s.withSearch allowed).membership.usersForGroup c r.groupId) w, rfl⟩
      rw [hruns.run_eq, hfound c hprepare]
      rfl

end Service

/-- **Both ways to the members of a group agree on a consistent server.** The documents are any
resources that can be read as users, any number of them. In one world the server answers the search
for the users in the group with a list of these documents; in the other it answers the lookup of the
group with a group, and those of its members with the documents. Then the host is told the same by
two servings that differ only in whether they search. -/
theorem memberships_agree (s : Serving) (r : GetUsersForGroupRequest) {docs : List Doc}
    {users : List User} (husers : docs.mapM User.record.reader = .ok users) {w₁ w₂ : World}
    (hserver : ∀ c, (⟨some s⟩ : Service).prepare .getUsersForGroup (some r.groupId) r.context =
        .ok (s, c) →
      c.AnswersSearch s.params r.groupId docs w₁ ∧ c.AnswersTraversal r.groupId docs w₂) :
    let told := ((⟨some s⟩ : Service).prepare .getUsersForGroup (some r.groupId) r.context).map
      fun _ => GetUsersForGroupResponse.mk (users.map .ofUser)
    (((⟨some (s.withSearch true)⟩ : Service).getUsersForGroup r).run w₁).1 = some told ∧
      (((⟨some (s.withSearch false)⟩ : Service).getUsersForGroup r).run w₂).1 = some told := by
  refine ⟨Service.getUsersForGroup_run ?_, Service.getUsersForGroup_run ?_⟩
  · intro c hready
    exact (hserver c hready).1.run_eq husers
  · intro c hready
    exact (hserver c hready).2.run_eq husers

/-- A group with one member twice, whose resources have names and addresses in different places. -/
theorem memberships_agree_twice :
    let c := Client.plain "http://[::1]/scim" (.basic "id" "secret")
    let s : Serving := ⟨c, .standard, none, .traversal⟩
    let ann := Value.object [("id", .string "a"), ("displayName", .string "Ann"),
      ("emails", .array [.object [("value", .string "a@b")]])]
    let bob := Value.object [("emails", .array []), ("userName", .string "bob"), ("x", .null),
      ("id", .string "b")]
    let member := fun id => Value.object [("value", .string id)]
    let group := Value.object [("id", .string "g"),
      ("members", .array [member "a", member "b", member "a"])]
    let list := Value.object [("nextCursor", .string "more"), ("Resources", .array [ann, bob, ann])]
    let answers := fun vs : List Value =>
      { World.fresh (fun _ => true) (fun _ => 0) with
        replies := vs.map fun v => .answer ⟨.ok, some (Utf8.encode v.written)⟩ }
    let told : GetUsersForGroupResponse :=
      ⟨[⟨"a", "Ann", "a@b"⟩, ⟨"b", "bob", ""⟩, ⟨"a", "Ann", "a@b"⟩]⟩
    (((⟨some (s.withSearch true)⟩ : Service).getUsersForGroup ⟨"g", .empty⟩).run
        (answers [list])).1 = some (.ok told) ∧
      (((⟨some (s.withSearch false)⟩ : Service).getUsersForGroup ⟨"g", .empty⟩).run
        (answers [group, ann, bob, ann])).1 = some (.ok told) := by
  intro c s ann bob member group list answers told
  have hdoc : ∀ v : Value, Document.ofBytes (Utf8.encode v.written) = ⟨Doc.ofValue v, true⟩ :=
    fun v => Document.ofBytes_of_spells (Value.spells_written v)
  have hanswered : ∀ {call : Call} {v : Value} {w : World},
      ((call.ask c).journal w).lookupTraffic.map Prod.snd =
        [.answer ⟨.ok, some (Utf8.encode v.written)⟩] → call.IsAnswered c w (Doc.ofValue v) :=
    fun hsent => ⟨_, hsent, hdoc _⟩
  let ann' : User := ⟨"a", none, [], "", some "Ann", false, [⟨false, none, "a@b"⟩], [], none, none⟩
  let bob' : User := ⟨"b", none, [], "bob", none, false, [], [], none, none⟩
  have husers : ([ann, bob, ann].map Doc.ofValue).mapM User.record.reader =
      .ok [ann', bob', ann'] := rfl
  refine memberships_agree s ⟨"g", .empty⟩ husers ?_
  · intro c' hready
    cases hready
    let read : Listing Doc := ⟨[], none, none, none, some "more", [ann, bob, ann].map Doc.ofValue⟩
    refine ⟨⟨Doc.ofValue list, read, hanswered (by decide +kernel), rfl, rfl⟩,
      ⟨Doc.ofValue group, _, hanswered (by decide +kernel), rfl, ?_⟩⟩
    exact .cons (hanswered (by decide +kernel)) (.cons (hanswered (by decide +kernel))
      (.cons (hanswered (by decide +kernel)) .nil))

end ScimLookup
