import Mathlib.Control.Monad.Basic
import ScimLookup.Host.Service
import ScimLookup.Proofs.Http.Journal
import ScimLookup.Proofs.Json.Record

/-!
# The members of a group, one by one

Where users cannot be searched by their groups, the group is looked up and then each of its members.
The courses that this can take are told by the lookups alone: first the group (`TraversalCourse`),
then the members in order, each in the world that the lookup before has left, up to the first that
is not found (`MembersCourse`). Nothing else happens on the way, since the journal is made of the
journals of these lookups and nothing in between.

The main result (`getUsersForGroup_traversal`) says that these are all the courses there are, that
the members stand in the order in which the server names them, and what the host is told.
-/

set_option autoImplicit false

namespace ScimLookup

namespace Membership

open Exchange

variable {c : Client} {w w₁ w' : World} {j js : Journal}

/-! ## Courses -/

/-- Looking up ids one after the other finds a user for each. -/
inductive FindsAll (c : Client) : List String → World → List User → Journal → World → Prop
  | nil {w : World} : FindsAll c [] w [] [] w
  | cons {id : String} {ids : List String} {user : User} {users : List User} {w w₁ w' : World}
      {j js : Journal} :
      (c.getUser id).Runs w (some (.ok user)) j w₁ → FindsAll c ids w₁ users js w' →
      FindsAll c (id :: ids) w (user :: users) (j ++ js) w'

/-- The ways in which ids are looked up: how it ends, what happens, and the world that is left. -/
inductive MembersCourse (c : Client) (ids : List String) (w : World) :
    Outcome (Except ClientError (List User)) → Journal → World → Prop
  /-- All are found. -/
  | found {users : List User} {j : Journal} {w' : World} :
      FindsAll c ids w users j w' → MembersCourse c ids w (some (.ok users)) j w'
  /-- The lookup of one fails, and the further ones are not looked up. -/
  | failed {before after : List String} {id : String} {users : List User} {cause : RequestError}
      {j js : Journal} {w₁ w' : World} :
      ids = before ++ id :: after → FindsAll c before w users j w₁ →
      (c.getUser id).Runs w₁ (some (.error (.failed .getUser cause))) js w' →
      MembersCourse c ids w (some (.error (.failed .getUser cause))) (j ++ js) w'
  /-- The lookup of one breaks off. -/
  | brokenOff {before after : List String} {id : String} {users : List User} {j js : Journal}
      {w₁ w' : World} :
      ids = before ++ id :: after → FindsAll c before w users j w₁ →
      (c.getUser id).Runs w₁ none js w' → MembersCourse c ids w none (j ++ js) w'

/-- The ways in which the members of a group are looked up. -/
inductive TraversalCourse (c : Client) (groupId : String) (w : World) :
    Outcome (Except ClientError (List User)) → Journal → World → Prop
  /-- The group is found, and its members are looked up. -/
  | found {group : Group} {o : Outcome (Except ClientError (List User))} {j js : Journal}
      {w₁ w' : World} :
      (c.getGroup groupId).Runs w (some (.ok group)) j w₁ →
      MembersCourse c (group.members.map (·.value)) w₁ o js w' →
      TraversalCourse c groupId w o (j ++ js) w'
  /-- The lookup of the group fails. -/
  | failed {cause : RequestError} {j : Journal} {w' : World} :
      (c.getGroup groupId).Runs w (some (.error (.failed .getGroup cause))) j w' →
      TraversalCourse c groupId w (some (.error (.failed .getGroup cause))) j w'
  /-- The lookup of the group breaks off. -/
  | brokenOff {j : Journal} {w' : World} :
      (c.getGroup groupId).Runs w none j w' → TraversalCourse c groupId w none j w'

theorem FindsAll.length_eq {ids : List String} {users : List User}
    (h : FindsAll c ids w users j w') : users.length = ids.length := by
  induction h with
  | nil => rfl
  | cons hrun hrest ih => rw [List.length_cons, List.length_cons, ih]

/-! ## Runs -/

/-- A lookup of one resource fails under its name. -/
theorem failed_of_getOne {α : Type} {operation : Operation} {r : Json.Reader α}
    {collection : Collection} {id : String} {e : ClientError}
    (h : (c.getOne operation r collection id).Runs w (some (.error e)) j w') :
    ∃ cause, e = .failed operation cause := by
  obtain ⟨o, -, ho⟩ := runs_map_iff.1 h
  obtain ⟨result, rfl, hresult⟩ := Option.map_eq_some_iff.1 ho.symm
  cases result with
  | error cause =>
      cases hresult
      exact ⟨cause, rfl⟩
  | ok a => cases hresult

/-- One id is looked up, and the others if it is found. -/
theorem lookUpAll_cons (c : Client) (id : String) (ids : List String) :
    lookUpAll c (id :: ids) = c.getUser id >>= fun result =>
      match result with
      | .error e => pure (.error e)
      | .ok user => lookUpAll c ids >>= fun found => pure (found.map (user :: ·)) := by
  rw [lookUpAll]
  refine congrArg (Exchange.bind _) (funext fun result => ?_)
  cases result with
  | error e => rfl
  | ok user =>
      refine congrArg (Exchange.bind _) (funext fun found => ?_)
      cases found with
      | error e => rfl
      | ok users => rfl

/-- Ids that are found are followed by the others. -/
theorem FindsAll.runs_append {before after : List String} {users : List User}
    {o : Outcome (Except ClientError (List User))} (h : FindsAll c before w users j w₁)
    (hrest : (lookUpAll c after).Runs w₁ o js w') :
    (lookUpAll c (before ++ after)).Runs w (o.map (·.map (users ++ ·))) (j ++ js) w' := by
  -- Each lookup before adds its user in front of what is found behind, however that ends.
  induction h with
  | nil =>
      have hsame : (o.map (·.map ([] ++ ·))) = o := by
        rcases o with _ | (e | us)
        · rfl
        · rfl
        · rfl
      rw [hsame]
      exact hrest
  | @cons id ids user users w w₂ w₁ j₁ j₂ hrun hfinds ih =>
      have hmap : o.map (·.map (user :: users ++ ·)) =
          (o.map (·.map (users ++ ·))).map (·.map (user :: ·)) := by
        rcases o with _ | (e | us)
        · rfl
        · rfl
        · rfl
      rw [List.cons_append, lookUpAll_cons, List.append_assoc, hmap]
      refine runs_bind_iff.2 (Or.inl ⟨_, j₁, w₂, j₂ ++ js, hrun, ?_, rfl⟩)
      exact runs_map_iff.2 ⟨_, ih hrest, rfl⟩

/-- One more id that is found comes before the others. -/
theorem MembersCourse.cons {id : String} {ids : List String} {user : User}
    {o : Outcome (Except ClientError (List User))}
    (hrun : (c.getUser id).Runs w (some (.ok user)) j w₁) (h : MembersCourse c ids w₁ o js w') :
    MembersCourse c (id :: ids) w (o.map (·.map (user :: ·))) (j ++ js) w' := by
  cases h with
  | found hall => exact .found (.cons hrun hall)
  | failed heq hbefore hfails =>
      subst heq
      rw [← List.append_assoc]
      exact .failed (List.cons_append ..).symm (.cons hrun hbefore) hfails
  | brokenOff heq hbefore hbreaks =>
      subst heq
      rw [← List.append_assoc]
      exact .brokenOff (List.cons_append ..).symm (.cons hrun hbefore) hbreaks

/-- Looking up ids goes one of the courses. -/
theorem course_of_lookUpAll {ids : List String} {o : Outcome (Except ClientError (List User))}
    (h : (lookUpAll c ids).Runs w o j w') : MembersCourse c ids w o j w' := by
  induction ids generalizing w o j with
  | nil =>
      obtain ⟨rfl, rfl, rfl⟩ := runs_pure_iff.1 h
      exact .found .nil
  | cons id ids ih =>
      rw [lookUpAll_cons] at h
      -- A failure of the first lookup ends it; else its user comes before the course of the others.
      rcases runs_bind_iff.1 h with ⟨result, j₁, w₁, j₂, hrun, hnext, rfl⟩ | ⟨rfl, hrun⟩
      · cases result with
        | error e =>
            obtain ⟨cause, rfl⟩ := failed_of_getOne hrun
            obtain ⟨rfl, rfl, rfl⟩ := runs_pure_iff.1 hnext
            rw [List.append_nil]
            exact .failed (List.nil_append _).symm .nil hrun
        | ok user =>
            obtain ⟨o', hids, rfl⟩ := runs_map_iff.1 hnext
            exact (ih hids).cons hrun
      · exact .brokenOff (List.nil_append _).symm .nil hrun

/-- Each of the courses is a way to look up the ids. -/
theorem MembersCourse.runs {ids : List String} {o : Outcome (Except ClientError (List User))}
    (h : MembersCourse c ids w o j w') : (lookUpAll c ids).Runs w o j w' := by
  cases h with
  | found hall =>
      -- Behind the last id nothing is looked up any more.
      have hnil : (lookUpAll c []).Runs w' (some (.ok [])) [] w' :=
        runs_pure_iff.2 ⟨rfl, rfl, rfl⟩
      simpa [Except.map] using hall.runs_append hnil
  | @failed before after id users cause j₁ js w₁ w' heq hbefore hfails =>
      -- The ids behind the failure take no part: the lookups end with it.
      have hrest : (lookUpAll c (id :: after)).Runs w₁ (some (.error (.failed .getUser cause)))
          (js ++ []) w' := by
        rw [lookUpAll_cons]
        exact runs_bind_iff.2 (Or.inl ⟨_, js, w', [], hfails,
          runs_pure_iff.2 ⟨rfl, rfl, rfl⟩, rfl⟩)
      rw [List.append_nil] at hrest
      rw [heq]
      exact hbefore.runs_append hrest
  | @brokenOff before after id users j₁ js w₁ w' heq hbefore hbreaks =>
      have hrest : (lookUpAll c (id :: after)).Runs w₁ none js w' := by
        rw [lookUpAll_cons]
        exact runs_bind_iff.2 (Or.inr ⟨rfl, hbreaks⟩)
      rw [heq]
      exact hbefore.runs_append hrest

/-- **The members of a group are looked up behind the group, in order, up to the first that is not
found.** -/
theorem runs_traversal_iff {groupId : String} {o : Outcome (Except ClientError (List User))} :
    (traversal.usersForGroup c groupId).Runs w o j w' ↔ TraversalCourse c groupId w o j w' := by
  rw [usersForGroup]
  constructor
  · intro h
    rcases runs_bind_iff.1 h with ⟨result, j₁, w₁, j₂, hrun, hnext, rfl⟩ | ⟨rfl, hrun⟩
    · cases result with
      | error e =>
          obtain ⟨cause, rfl⟩ := failed_of_getOne hrun
          obtain ⟨rfl, rfl, rfl⟩ := runs_pure_iff.1 hnext
          rw [List.append_nil]
          exact .failed hrun
      | ok group => exact .found hrun (course_of_lookUpAll hnext)
    · exact .brokenOff hrun
  · intro h
    cases h with
    | found hrun hmembers =>
        exact runs_bind_iff.2 (Or.inl ⟨_, _, _, _, hrun, hmembers.runs, rfl⟩)
    | failed hrun =>
        exact runs_bind_iff.2 (Or.inl ⟨_, _, _, [], hrun, runs_pure_iff.2 ⟨rfl, rfl, rfl⟩,
          (List.append_nil j).symm⟩)
    | brokenOff hrun => exact runs_bind_iff.2 (Or.inr ⟨rfl, hrun⟩)

end Membership

/-! ## Members in an answer -/

namespace Group

open Json

/-- The documents of the members in the document of a group, which has its fields by name or, as an
array, in order. -/
def memberDocs : Doc → List Doc
  | .object members _ =>
    match Record.findMember "members" members with
    | some (.array items _) => items
    | _ => []
  | .array items _ =>
    match Record.findItem "members" record.fields items with
    | some (.array items _) => items
    | _ => []
  | _ => []

/-- The members that a group is built from are those under their name. -/
theorem members_of_build {shape : Shape} {find : String → Option Doc} {g : Group}
    (h : record.build shape find = .ok g) :
    (match find "members" with
      | some (.array items _) => items
      | _ => []).mapM Entry.record.reader = .ok g.members := by
  -- The fields are taken off from the last one on; the members are the last but one.
  obtain ⟨f₁, metadata, h₁, -, rfl⟩ := Record.seq_build_ok h
  obtain ⟨f₂, members, h₂, hmembers, rfl⟩ := Record.seq_build_ok h₁
  obtain ⟨f₃, displayName, h₃, -, rfl⟩ := Record.seq_build_ok h₂
  obtain ⟨f₄, schemas, h₄, -, rfl⟩ := Record.seq_build_ok h₃
  obtain ⟨f₅, externalId, h₅, -, rfl⟩ := Record.seq_build_ok h₄
  obtain ⟨f₆, id, h₆, -, rfl⟩ := Record.seq_build_ok h₅
  cases h₆
  simp only [Record.defaulted, Record.field] at hmembers
  cases hfind : find "members" with
  | none =>
      rw [hfind] at hmembers
      cases hmembers
      rfl
  | some d =>
      rw [hfind] at hmembers
      obtain ⟨items, fault, rfl, hitems⟩ := Reader.list_ok hmembers
      exact hitems

/-- **The members of a group stand in the order of the document**, each read from its own part. -/
theorem members_of_reader {d : Doc} {g : Group} (h : record.reader d = .ok g) :
    (memberDocs d).mapM Entry.record.reader = .ok g.members := by
  unfold Record.reader at h
  split at h
  · obtain ⟨-, -, h⟩ := ok_of_bind h
    obtain ⟨-, -, h⟩ := ok_of_bind h
    exact members_of_build h
  · obtain ⟨-, -, h⟩ := ok_of_bind h
    exact members_of_build h
  · cases h

end Group

/-! ## What the host is told -/

namespace Service

open Exchange

/-- What the host is told about the members of a group that were looked up. -/
def toldMembers : Except ClientError (List User) → Except ServiceError GetUsersForGroupResponse
  | .ok users => .ok ⟨users.map .ofUser⟩
  | .error e => .error (.lookup .getUsersForGroup e)

/-- The host is told of the users that were found, one by one, or of the failure. -/
theorem runs_getUsersForGroup_iff {s : Service} {r : GetUsersForGroupRequest} {serving : Serving}
    {client : Client}
    (hready : s.prepare .getUsersForGroup (some r.groupId) r.context = .ok (serving, client))
    {w w' : World} {j : Journal} {o : Outcome (Except ServiceError GetUsersForGroupResponse)} :
    (s.getUsersForGroup r).Runs w o j w' ↔
      ∃ o', (serving.membership.usersForGroup client r.groupId).Runs w o' j w' ∧
        o = o'.map toldMembers := by
  have htold : ∀ users : Except ClientError (List User),
      under .getUsersForGroup (users.map fun us => ⟨us.map .ofUser⟩) = toldMembers users := by
    intro users
    cases users with
    | error e => rfl
    | ok us => rfl
  rw [getUsersForGroup]
  rw [hready]
  simp only [htold]
  exact runs_map_iff

end Service

/-- **The members of a group, one by one.** The traversal goes exactly the courses that are told by
its lookups; the members stand in the order of the document that the server sent; where all are
found there are as many users; and the host is told of each of them in turn, or of the first
failure. -/
theorem getUsersForGroup_traversal :
    (∀ (c : Client) (groupId : String) (w : World) (o : Outcome (Except ClientError (List User)))
      (j : Journal) (w' : World), (Membership.traversal.usersForGroup c groupId).Runs w o j w' ↔
        Membership.TraversalCourse c groupId w o j w') ∧
    (∀ (d : Json.Doc) (g : Group), Group.record.reader d = .ok g →
      (Group.memberDocs d).mapM Entry.record.reader = .ok g.members) ∧
    (∀ (c : Client) (ids : List String) (w : World) (users : List User) (j : Journal) (w' : World),
      Membership.FindsAll c ids w users j w' → users.length = ids.length) ∧
    ∀ (s : Service) (r : GetUsersForGroupRequest) (serving : Serving) (client : Client),
      s.prepare .getUsersForGroup (some r.groupId) r.context = .ok (serving, client) →
      ∀ (w : World) (o : Outcome (Except ServiceError GetUsersForGroupResponse)) (j : Journal)
        (w' : World), (s.getUsersForGroup r).Runs w o j w' ↔
          ∃ o', (serving.membership.usersForGroup client r.groupId).Runs w o' j w' ∧
            o = o'.map Service.toldMembers := by
  refine ⟨?_, ?_, ?_, ?_⟩
  · intro c groupId w o j w'
    exact Membership.runs_traversal_iff
  · intro d g h
    exact Group.members_of_reader h
  · intro c ids w users j w' h
    exact h.length_eq
  · intro s r serving client hready w o j w'
    exact Service.runs_getUsersForGroup_iff hready

/-- A group with one member twice, on a server that knows all of its members and on one that does
not know the second. There the member behind it is not looked up, and the host is told of no
user. -/
theorem getUsersForGroup_traversal_twice :
    let c := Client.plain "http://[::1]/scim" (.basic "id" "secret")
    let s : Service := ⟨some ⟨c, .standard, none, .traversal⟩⟩
    let member := fun id => Json.Value.object [("value", .string id)]
    let group := Json.Value.object [("id", .string "g"),
      ("members", .array [member "a", member "b", member "a"])]
    let found := fun v : Json.Value => Reply.answer ⟨.ok, some (Utf8.encode v.written)⟩
    let ann := found (.object [("id", .string "a"), ("displayName", .string "Ann")])
    let bob := found (.object [("id", .string "b"), ("userName", .string "bob")])
    let unknown := Reply.answer ⟨.notFound, some []⟩
    let world := fun replies : List Reply =>
      { World.fresh (fun _ => true) (fun _ => 0) with replies }
    let ann' : User := ⟨"a", none, [], "", some "Ann", false, [], [], none, none⟩
    let bob' : User := ⟨"b", none, [], "bob", none, false, [], [], none, none⟩
    let failure := ClientError.failed .getUser (.unexpectedStatus .notFound "")
    let addresses := fun j : Journal => j.traffic.map (·.1.url.text)
    let users := [ann', bob', ann']
    (Group.memberDocs (Json.Document.ofBytes (Utf8.encode group.written)).value).mapM
        Entry.record.reader = .ok [⟨false, none, "a"⟩, ⟨false, none, "b"⟩, ⟨false, none, "a"⟩] ∧
      (∃ j w', Membership.FindsAll c ["a", "b", "a"] (world [ann, bob, ann]) users j w' ∧
        users.length = 3) ∧
      (∃ j w',
        Membership.TraversalCourse c "g" (world [found group, ann, bob, ann])
          (some (.ok users)) j w' ∧
        (s.getUsersForGroup ⟨"g", .empty⟩).Runs (world [found group, ann, bob, ann])
          (some (.ok ⟨[⟨"a", "Ann", ""⟩, ⟨"b", "bob", ""⟩, ⟨"a", "Ann", ""⟩]⟩)) j w' ∧
        addresses j = ["http://[::1]/scim/Groups/g", "http://[::1]/scim/Users/a",
          "http://[::1]/scim/Users/b", "http://[::1]/scim/Users/a"]) ∧
      ∃ j w',
        Membership.TraversalCourse c "g" (world [found group, ann, unknown, ann])
          (some (.error failure)) j w' ∧
        (s.getUsersForGroup ⟨"g", .empty⟩).Runs (world [found group, ann, unknown, ann])
          (some (.error (.lookup .getUsersForGroup failure))) j w' ∧
        addresses j = ["http://[::1]/scim/Groups/g", "http://[::1]/scim/Users/a",
          "http://[::1]/scim/Users/b"] := by
  intro c s member group found ann bob unknown world ann' bob' failure addresses users
  obtain ⟨hcourse, hmembers, hlength, htold⟩ := getUsersForGroup_traversal
  -- One run of the traversal is both the course and what the host is told.
  have hgoes : ∀ (w : World) (o : Outcome (Except ClientError (List User))),
      ((Membership.traversal.usersForGroup c "g").run w).1 = o →
      Membership.TraversalCourse c "g" w o ((Membership.traversal.usersForGroup c "g").journal w)
          ((Membership.traversal.usersForGroup c "g").run w).2 ∧
        (s.getUsersForGroup ⟨"g", .empty⟩).Runs w (o.map Service.toldMembers)
          ((Membership.traversal.usersForGroup c "g").journal w)
          ((Membership.traversal.usersForGroup c "g").run w).2 := by
    intro w o hends
    have hruns := Exchange.runs_of_fst_run hends
    exact ⟨(hcourse c "g" w _ _ _).1 hruns,
      (htold s ⟨"g", .empty⟩ ⟨c, .standard, none, .traversal⟩ c rfl w _ _ _).2 ⟨_, hruns, rfl⟩⟩
  have hgroup : Group.record.reader (Json.Document.ofBytes (Utf8.encode group.written)).value =
      .ok ⟨"g", none, [], none, [⟨false, none, "a"⟩, ⟨false, none, "b"⟩, ⟨false, none, "a"⟩],
        none⟩ := by
    decide +kernel
  have hdocs := hmembers _ _ hgroup
  refine ⟨hdocs, ?_, ?_, ?_⟩
  · have hall : Membership.FindsAll c ["a", "b", "a"] (world [ann, bob, ann]) users _ _ :=
      .cons (Exchange.runs_of_fst_run (by decide +kernel))
        (.cons (Exchange.runs_of_fst_run (by decide +kernel))
          (.cons (Exchange.runs_of_fst_run (by decide +kernel)) .nil))
    exact ⟨_, _, hall, hlength _ _ _ _ _ _ hall⟩
  · obtain ⟨hknown, hhost⟩ := hgoes (world [found group, ann, bob, ann]) (some (.ok users))
      (by decide +kernel)
    exact ⟨_, _, hknown, hhost, by decide +kernel⟩
  · obtain ⟨hunknown, hhost⟩ := hgoes (world [found group, ann, unknown, ann])
      (some (.error failure)) (by decide +kernel)
    exact ⟨_, _, hunknown, hhost, by decide +kernel⟩

end ScimLookup
