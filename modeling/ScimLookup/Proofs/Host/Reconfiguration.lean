import ScimLookup.Host.Service
import ScimLookup.Proofs.Scim.Provenance

/-!
# Configuring a service again and again

A deployment is a service in a world. The host gives it commands in any order: texts to configure it
with, each in surroundings of its own, and the four questions (`HostCommand`). A configuration can fail
at many stages, and each of its failures is the same command as far as the deployment goes: it
changes nothing.

The main result (`servesLast_after`) says of a deployment after any commands that it serves what the
last configuration that succeeded has built (`lastBuilt`), what a further command of each kind does
to it, and that the tokens that are sent after a configuration was applied have all been granted
after it. The questions are alike in what matters here (`HostCommand.nonempty_plan`): each is refused
before the server is asked, or asks by lookups and then reads what it got.
-/

set_option autoImplicit false

namespace ScimLookup

/-! ## Commands -/

/-- What the host tells a service to do. -/
inductive HostCommand where
  | configure (around : Surroundings) (yaml : String)
  | getGroup (r : GetGroupRequest)
  | getAllGroups (r : GetAllGroupsRequest)
  | getUsersForGroup (r : GetUsersForGroupRequest)
  | getGroupsForUser (r : GetGroupsForUserRequest)

/-- What the host is told. -/
inductive HostResponse where
  | configured
  | group (r : GetGroupResponse)
  | groups (r : GetAllGroupsResponse)
  | members (r : GetUsersForGroupResponse)
  | memberships (r : GetGroupsForUserResponse)
deriving DecidableEq

namespace HostCommand

/-- What a service does on a command: the result, and the service afterwards. -/
def perform (s : Service) : HostCommand → Exchange (Except ServiceError HostResponse × Service)
  | .configure around yaml => do
    let (result, s') ← s.configure around yaml
    return (result.map fun _ => .configured, s')
  | .getGroup r => do return ((← s.getGroup r).map .group, s)
  | .getAllGroups r => do return ((← s.getAllGroups r).map .groups, s)
  | .getUsersForGroup r => do return ((← s.getUsersForGroup r).map .members, s)
  | .getGroupsForUser r => do return ((← s.getGroupsForUser r).map .memberships, s)

/-- The question that a command asks. -/
def question? : HostCommand → Option Question
  | .configure .. => none
  | .getGroup _ => some .getGroup
  | .getAllGroups _ => some .getAllGroups
  | .getUsersForGroup _ => some .getUsersForGroup
  | .getGroupsForUser _ => some .getGroupsForUser

/-- What a command builds, if it is a configuration that can be applied. -/
def built? : HostCommand → Option Serving
  | .configure around yaml => (Serving.ofYaml around yaml).toOption
  | _ => none

end HostCommand

/-- What the last configuration that succeeded has built. -/
def lastBuilt (past : List HostCommand) : Option Serving :=
  (past.filterMap HostCommand.built?).getLast?

theorem lastBuilt_append (past : List HostCommand) (command : HostCommand) :
    lastBuilt (past ++ [command]) = command.built?.or (lastBuilt past) := by
  rw [lastBuilt, List.filterMap_append, List.getLast?_append]
  cases h : command.built? with
  | none => simp [h, lastBuilt]
  | some serving => simp [h]

/-! ## Deployments -/

/-- A service in a world. -/
structure Deployment where
  service : Service
  world : World

namespace Deployment

/-- A service that was not configured yet. -/
def start (w : World) : Deployment := ⟨.unconfigured, w⟩

/-- How a command ends. -/
def result (d : Deployment) (command : HostCommand) : Outcome (Except ServiceError HostResponse) :=
  ((command.perform d.service).run d.world).1.map Prod.fst

/-- What happens on a command. -/
def journal (d : Deployment) (command : HostCommand) : Journal :=
  (command.perform d.service).journal d.world

/-- The deployment after a command. One that breaks off leaves the service as it was. -/
def next (d : Deployment) (command : HostCommand) : Deployment :=
  match (command.perform d.service).run d.world with
  | (some (_, s), w) => ⟨s, w⟩
  | (none, w) => ⟨d.service, w⟩

/-- The deployment after commands. -/
def after (d : Deployment) : List HostCommand → Deployment
  | [] => d
  | command :: rest => (d.next command).after rest

/-- What happens on commands. -/
def journalOf (d : Deployment) : List HostCommand → Journal
  | [] => []
  | command :: rest => d.journal command ++ (d.next command).journalOf rest

/-- The deployment serves what was built last, and goes on to do so. -/
structure ServesLast (d : Deployment) (past : List HostCommand) : Prop where
  /-- It serves what the last configuration that succeeded has built. -/
  serving_eq : d.service.serving = lastBuilt past
  /-- A configuration that fails leaves everything as it was and asks nobody. -/
  unharmed : ∀ around yaml e, Serving.ofYaml around yaml = .error e →
    d.result (.configure around yaml) = some (.error (.configure e)) ∧
      d.next (.configure around yaml) = d ∧ d.journal (.configure around yaml) = []
  /-- A configuration that succeeds is served from then on, with no token remembered. -/
  renewed : ∀ around yaml serving, Serving.ofYaml around yaml = .ok serving →
    d.result (.configure around yaml) = some (.ok .configured) ∧
      d.next (.configure around yaml) = ⟨⟨some serving⟩, { d.world with cache := none }⟩
  /-- Whatever is done after that, no token is sent but those that were granted after it. -/
  sourced : ∀ around yaml serving, Serving.ofYaml around yaml = .ok serving →
    ∀ later, ((d.next (.configure around yaml)).journalOf later).IsSourced []
  /-- A question leaves what is served as it was. -/
  asked : ∀ command, command.question? ≠ none → (d.next command).service = d.service
  /-- A question is refused for want of a configuration exactly when none succeeded, -/
  refused_iff : ∀ command, command.question? ≠ none →
    (d.result command = some (.error .notConfigured) ↔ lastBuilt past = none)
  /-- and then nobody is asked. -/
  silent : ∀ command, command.question? ≠ none → lastBuilt past = none → d.journal command = []

end Deployment

/-! ## Results that do not want a configuration -/

namespace Service

/-- What is read from a failed lookup is that failure. -/
theorem under_ne {α : Type} (question : Question) (r : Except ClientError α) :
    under question r ≠ .error .notConfigured := by
  cases r with
  | error e =>
      intro h
      cases h
  | ok a =>
      intro h
      cases h

theorem bind_ne {α β : Type} {f : α → Except ServiceError β} {r : Except ServiceError α}
    (hf : ∀ a, f a ≠ .error .notConfigured) (h : r ≠ .error .notConfigured) :
    r.bind f ≠ .error .notConfigured := by
  cases r with
  | error e => simpa [Except.bind] using h
  | ok a => exact hf a

theorem map_ne {α β : Type} {f : α → β} {r : Except ServiceError α}
    (h : r ≠ .error .notConfigured) : r.map f ≠ .error .notConfigured := by
  cases r with
  | error e => simpa [Except.map] using h
  | ok a =>
      intro hmap
      cases hmap

theorem single_ne (name : String) (groups : List Group) :
    single name groups ≠ .error .notConfigured := by
  rcases groups with _ | ⟨group, _ | ⟨group', groups⟩⟩
  · simp [single]
  · simp [single]
  · simp [single]

end Service

/-! ## Questions -/

namespace HostCommand

open Exchange Service

/-- A question: the checks that can refuse it, the lookups by which it is asked, and how an answer
is read from what these find. -/
structure Plan (command : HostCommand) where
  question : Question
  subject : Option String
  context : Context
  Finding : Type
  ask : Serving → Client → Exchange Finding
  read : Serving → Finding → Except ServiceError HostResponse
  perform_eq : ∀ s : Service, command.perform s =
    match s.prepare question subject context with
    | .error e => pure (.error e, s)
    | .ok (serving, client) => ask serving client >>= fun b => pure (read serving b, s)
  keepsSources : ∀ serving client, Client.IsTidy client.headers →
    (ask serving client).KeepsSources
  read_ne : ∀ serving b, read serving b ≠ .error .notConfigured

theorem keepsSources_lookUpAll {c : Client} (htidy : Client.IsTidy c.headers) (ids : List String) :
    (Membership.lookUpAll c ids).KeepsSources := by
  induction ids with
  | nil => exact .pure _
  | cons id ids ih =>
      refine (Client.keepsSources_getOne htidy _ _ _ _).bind ?_
      intro user
      cases user with
      | error e => exact .pure _
      | ok user =>
          refine ih.bind ?_
          intro users
          cases users with
          | error e => exact .pure _
          | ok users => exact .pure _

theorem keepsSources_usersForGroup {c : Client} (htidy : Client.IsTidy c.headers)
    (membership : Membership) (groupId : String) :
    (membership.usersForGroup c groupId).KeepsSources := by
  cases membership with
  | search path method => exact (Client.keepsSources_list htidy _ _ _ _ _ _).map _
  | traversal =>
      refine (Client.keepsSources_getOne htidy _ _ _ _).bind ?_
      intro group
      cases group with
      | error e => exact .pure _
      | ok group => exact keepsSources_lookUpAll htidy _

/-- The plan of a question that is answered from a list of groups. -/
def groupsPlan {α : Type} {command : HostCommand} (question : Question) (subject : Option String)
    (context : Context) (filter : Serving → Filter)
    (finish : Except ServiceError (List Group) → Except ServiceError α) (wrap : α → HostResponse)
    (perform_eq : ∀ s : Service, command.perform s =
      (match s.prepare question subject context with
      | .error e => pure (.error e)
      | .ok (serving, client) =>
        Service.groupsWhere question serving client (filter serving) >>= fun groups =>
          pure (finish groups)) >>= fun result => pure (result.map wrap, s))
    (finish_ne : ∀ groups, groups ≠ .error .notConfigured → finish groups ≠ .error .notConfigured) :
    Plan command where
  question := question
  subject := subject
  context := context
  Finding := Except ClientError (Listing Group)
  ask serving client := client.listGroups serving.params.listMethod (filter serving) .unbounded
  read _ list := (finish (Service.under question (list.map (·.resources)))).map wrap
  perform_eq s := by
    rw [perform_eq]
    cases s.prepare question subject context with
    | error e => rfl
    | ok ready => simp only [Service.groupsWhere, map_map]
  keepsSources _ _ htidy := Client.keepsSources_list htidy _ _ _ _ _ _
  read_ne _ _ := map_ne (finish_ne _ (under_ne _ _))

/-- The plan of the question who is in a group. -/
def membersPlan (r : GetUsersForGroupRequest) : Plan (.getUsersForGroup r) where
  question := .getUsersForGroup
  subject := some r.groupId
  context := r.context
  Finding := Except ClientError (List User)
  ask serving client := serving.membership.usersForGroup client r.groupId
  read _ users :=
    (Service.under .getUsersForGroup (users.map fun us => ⟨us.map .ofUser⟩)).map .members
  perform_eq s := by
    show (s.getUsersForGroup r >>= fun result => pure (result.map HostResponse.members, s)) = _
    rw [Service.getUsersForGroup]
    cases s.prepare .getUsersForGroup (some r.groupId) r.context with
    | error e => rfl
    | ok ready => simp only [map_map]
  keepsSources serving _ htidy := keepsSources_usersForGroup htidy serving.membership r.groupId
  read_ne _ _ := map_ne (under_ne _ _)

/-- **Every question has a plan.** -/
theorem nonempty_plan {command : HostCommand} (h : command.question? ≠ none) :
    Nonempty (Plan command) := by
  cases command with
  | configure around yaml => exact absurd rfl h
  | getGroup r =>
      exact ⟨groupsPlan .getGroup (some r.groupName) r.context
        (fun serving => .equals serving.params.groupAttribute r.groupName)
        (·.bind (Service.single r.groupName)) .group (fun s => rfl)
        (fun groups hne => bind_ne (single_ne r.groupName) hne)⟩
  | getAllGroups r =>
      exact ⟨groupsPlan .getAllGroups none r.context (fun _ => .everything)
        (·.map fun groups => ⟨groups.map .ofGroup⟩) .groups (fun s => rfl)
        (fun groups hne => map_ne hne)⟩
  | getUsersForGroup r =>
      exact ⟨membersPlan r⟩
  | getGroupsForUser r =>
      exact ⟨groupsPlan .getGroupsForUser (some r.userId) r.context
        (fun serving => .equals serving.params.userAttribute r.userId)
        (·.map fun groups => ⟨groups.map .ofGroup⟩) .memberships (fun s => rfl)
        (fun groups hne => map_ne hne)⟩

end HostCommand

/-! ## Before the server is asked -/

namespace Serving

variable {serving : Serving} {client : Client}

/-- A configuration is made into a client that was just made. -/
theorem isNew_of_ofYaml {around : Surroundings} {yaml : String}
    (h : ofYaml around yaml = .ok serving) : serving.client.IsNew := by
  rw [ofYaml] at h
  obtain ⟨c, -, h⟩ := ok_of_bind h
  obtain ⟨made, hmade, h⟩ := ok_of_bind h
  obtain ⟨params, -, h⟩ := ok_of_bind h
  cases h
  obtain ⟨config, -, hclient⟩ := ok_of_bind hmade
  cases hofConfig : Client.ofConfig config around.connector with
  | error e =>
      rw [hofConfig] at hclient
      cases hclient
  | ok c' =>
      rw [hofConfig] at hclient
      cases hclient
      exact .ofConfig hofConfig

/-- A configuration is made into the way to the members of a group that its parameters choose. -/
theorem membership_of_ofYaml {around : Surroundings} {yaml : String}
    (h : ofYaml around yaml = .ok serving) : serving.membership = .ofParams serving.params := by
  rw [ofYaml] at h
  obtain ⟨config, -, h⟩ := ok_of_bind h
  obtain ⟨client, -, h⟩ := ok_of_bind h
  obtain ⟨params, -, h⟩ := ok_of_bind h
  cases h
  rfl

/-- The context aims the client elsewhere, if it does anything to it. -/
theorem family_of_clientFor {question : Question} {context : Context}
    (h : serving.clientFor question context = .ok client) : serving.client.Family client := by
  rw [clientFor] at h
  split at h
  · cases h
    exact .root
  · obtain ⟨target, -, h⟩ := ok_of_bind h
    cases haim : serving.client.aimedAt target with
    | error e =>
        rw [haim] at h
        cases h
    | ok c =>
        rw [haim] at h
        cases h
        exact .aimedAt .root haim

theorem contextText_ne (context : Context) (key : String) :
    contextText context key ≠ .error .notConfigured := by
  rw [contextText]
  split
  · simp
  · simp

theorem contextHeaders_ne (context : Context) (fields : List (String × String)) :
    contextHeaders context fields ≠ .error .notConfigured := by
  rw [contextHeaders]
  induction fields with
  | nil => simp [pure, Except.pure]
  | cons f fields ih =>
      rw [List.mapM_cons]
      refine Service.bind_ne (fun h => Service.bind_ne (fun hs => ?_) ih) ?_
      · simp [pure, Except.pure]
      · refine Service.bind_ne (fun text => ?_) (contextText_ne context f.2)
        simp [pure, Except.pure]

/-- What is wrong with a context is not that there is no configuration. -/
theorem clientFor_ne (serving : Serving) (question : Question) (context : Context) :
    serving.clientFor question context ≠ .error .notConfigured := by
  have hhost : ∀ config, contextHost config context ≠ .error .notConfigured := by
    intro config
    rw [contextHost]
    split
    · simp
    · exact Service.map_ne (contextText_ne context config.hostField)
  rw [clientFor]
  split
  · simp
  · rename_i config _
    refine Service.bind_ne (fun target => Service.under_ne question _) ?_
    refine Service.bind_ne (fun host => ?_) (hhost config)
    refine Service.bind_ne (fun headers => ?_) (contextHeaders_ne context _)
    simp [pure, Except.pure]

end Serving

namespace Service

variable {s : Service} {question : Question} {subject : Option String} {context : Context}

theorem prepare_of_unconfigured (h : s.serving = none) :
    s.prepare question subject context = .error .notConfigured := by
  rw [prepare, ready]
  rw [h]
  rfl

theorem prepare_ok {serving : Serving} {client : Client}
    (h : s.prepare question subject context = .ok (serving, client)) :
    s.serving = some serving ∧ serving.client.Family client := by
  rw [prepare, ready] at h
  cases hs : s.serving with
  | none =>
      rw [hs] at h
      cases h
  | some serving' =>
      rw [hs] at h
      obtain ⟨found, hfound, h⟩ := ok_of_bind h
      cases hfound
      -- The check of the subject gives no value, so the client comes of the same step either way.
      have hclient : ∃ c, serving'.clientFor question context = .ok c ∧
          (.ok (serving', c) : Except ServiceError (Serving × Client)) = .ok (serving, client) := by
        cases subject with
        | none => exact ok_of_bind h
        | some text =>
            obtain ⟨u, -, h⟩ := ok_of_bind h
            exact ok_of_bind h
      obtain ⟨c, hc, heq⟩ := hclient
      cases heq
      exact ⟨rfl, Serving.family_of_clientFor hc⟩

theorem nonBlank_ne (text : String) : nonBlank text ≠ .error .notConfigured := by
  rw [nonBlank]
  split
  · simp
  · simp

/-- A question to a service that is configured is not refused for want of a configuration. -/
theorem prepare_ne (h : s.serving ≠ none) :
    s.prepare question subject context ≠ .error .notConfigured := by
  have hclient : ∀ serving : Serving, ((serving.clientFor question context).bind fun client =>
      .ok (serving, client)) ≠ .error .notConfigured := by
    intro serving
    exact bind_ne (fun client => by simp) (serving.clientFor_ne question context)
  rw [prepare, ready]
  cases hs : s.serving with
  | none => exact absurd hs h
  | some serving =>
      cases subject with
      | none => exact hclient serving
      | some text =>
          apply bind_ne _ (by simp)
          intro found
          exact bind_ne (fun u => hclient found) (nonBlank_ne text)

end Service

/-! ## Runs of commands -/

namespace HostCommand

open Exchange

variable {command : HostCommand} {s s' : Service} {w w' : World} {j : Journal}
  {o : Outcome (Except ServiceError HostResponse × Service)}

/-- A question is refused before anything happens, or asks and then reads what it found. -/
theorem Plan.runs (p : Plan command) (h : (command.perform s).Runs w o j w') :
    (∃ e, s.prepare p.question p.subject p.context = .error e ∧ o = some (.error e, s) ∧ j = []) ∨
      ∃ serving client o', s.prepare p.question p.subject p.context = .ok (serving, client) ∧
        (p.ask serving client).Runs w o' j w' ∧ o = o'.map fun b => (p.read serving b, s) := by
  rw [p.perform_eq] at h
  -- The checks decide before anything happens.
  cases hready : s.prepare p.question p.subject p.context with
  | error e =>
      rw [hready] at h
      obtain ⟨rfl, rfl, -⟩ := runs_pure_iff.1 h
      exact Or.inl ⟨e, rfl, rfl, rfl⟩
  | ok ready =>
      rw [hready] at h
      obtain ⟨o', hrun, rfl⟩ := runs_map_iff.1 h
      exact Or.inr ⟨ready.1, ready.2, o', rfl, hrun, rfl⟩

/-- A question leaves the service as it is. -/
theorem service_of_question (hq : command.question? ≠ none)
    (h : (command.perform s).Runs w o j w') {r : Except ServiceError HostResponse}
    (ho : o = some (r, s')) : s' = s := by
  obtain ⟨p⟩ := nonempty_plan hq
  rcases p.runs h with ⟨e, -, rfl, -⟩ | ⟨serving, client, o', -, -, rfl⟩
  · cases ho
    rfl
  · obtain ⟨b, -, hb⟩ := Option.map_eq_some_iff.1 ho
    cases hb
    rfl

/-- **A question is refused for want of a configuration exactly when there is none**, and nothing
happens then. -/
theorem refused_iff (hq : command.question? ≠ none) (h : (command.perform s).Runs w o j w') :
    (o.map Prod.fst = some (.error .notConfigured) ↔ s.serving = none) ∧
      (s.serving = none → j = []) := by
  obtain ⟨p⟩ := nonempty_plan hq
  rcases p.runs h with ⟨e, hready, rfl, rfl⟩ | ⟨serving, client, o', hready, -, rfl⟩
  · -- Refused by the checks: the first of them asks for a configuration, and no other says so.
    refine ⟨⟨?_, ?_⟩, fun _ => rfl⟩
    · intro ho
      cases ho
      cases hs : s.serving with
      | none => rfl
      | some serving =>
          exact absurd hready (Service.prepare_ne (by rw [hs]; exact Option.some_ne_none serving))
    · intro hs
      rw [Service.prepare_of_unconfigured hs] at hready
      cases hready
      rfl
  · -- Past the checks there is a configuration, and no answer reads like the want of one.
    have hserving : s.serving = some serving := (Service.prepare_ok hready).1
    rw [hserving]
    refine ⟨⟨?_, fun hnone => by cases hnone⟩, fun hnone => by cases hnone⟩
    intro ho
    rw [Option.map_map] at ho
    obtain ⟨b, -, hb⟩ := Option.map_eq_some_iff.1 ho
    exact absurd hb (p.read_ne serving b)

/-- A configuration that cannot be applied is answered, and that is all. -/
theorem perform_configure_error {around : Surroundings} {yaml : String} {e : ConfigError}
    (he : Serving.ofYaml around yaml = .error e) :
    (configure around yaml).perform s = pure (.error (.configure e), s) := by
  simp only [perform, Service.configure]
  rw [he]
  rfl

theorem perform_configure_ok {around : Surroundings} {yaml : String} {serving : Serving}
    (hserving : Serving.ofYaml around yaml = .ok serving) :
    (configure around yaml).perform s =
      setToken none >>= fun _ => pure (.ok .configured, ⟨some serving⟩) := by
  simp only [perform, Service.configure]
  rw [hserving]
  rfl

/-- **No command sends a token of unknown origin.** -/
theorem keepsSources_perform (hs : ∀ serving, s.serving = some serving → serving.client.IsNew)
    (command : HostCommand) : (command.perform s).KeepsSources := by
  -- A configuration forgets the token; a question runs by its plan.
  by_cases hq : command.question? = none
  · cases command with
    | configure around yaml =>
        cases hyaml : Serving.ofYaml around yaml with
        | error e =>
            rw [perform_configure_error hyaml]
            exact .pure _
        | ok serving =>
            rw [perform_configure_ok hyaml]
            exact KeepsSources.forget.map _
    | _ => cases hq
  · obtain ⟨p⟩ := nonempty_plan hq
    rw [p.perform_eq]
    cases hready : s.prepare p.question p.subject p.context with
    | error e => exact .pure _
    | ok ready =>
        obtain ⟨hserving, hfamily⟩ := Service.prepare_ok hready
        exact (p.keepsSources ready.1 ready.2 (hfamily.isTidy (hs _ hserving))).map _

end HostCommand

/-! ## Every deployment -/

namespace Deployment

variable {d : Deployment} {past : List HostCommand}

/-- What is served has a client that was just made. -/
def IsSound (d : Deployment) : Prop :=
  ∀ serving, d.service.serving = some serving → serving.client.IsNew

theorem next_configure_error {around : Surroundings} {yaml : String} {e : ConfigError}
    (he : Serving.ofYaml around yaml = .error e) : d.next (.configure around yaml) = d := by
  rw [next, HostCommand.perform_configure_error he]
  rfl

theorem next_configure_ok {around : Surroundings} {yaml : String} {serving : Serving}
    (hserving : Serving.ofYaml around yaml = .ok serving) :
    d.next (.configure around yaml) = ⟨⟨some serving⟩, { d.world with cache := none }⟩ := by
  rw [next, HostCommand.perform_configure_ok hserving]
  rfl

theorem service_next_question {command : HostCommand} (hq : command.question? ≠ none) :
    (d.next command).service = d.service := by
  have hrun := Exchange.runs_self (command.perform d.service) d.world
  rw [next]
  split
  · rename_i r s w heq
    rw [heq] at hrun
    exact HostCommand.service_of_question hq hrun rfl
  · rfl

/-- **What is served after a command is what it builds, or else what was served before.** -/
theorem serving_next (command : HostCommand) :
    (d.next command).service.serving = command.built?.or d.service.serving := by
  by_cases hq : command.question? = none
  · cases command with
    | configure around yaml =>
        cases hbuilt : Serving.ofYaml around yaml with
        | error e =>
            rw [next_configure_error hbuilt, HostCommand.built?, hbuilt]
            rfl
        | ok serving =>
            rw [next_configure_ok hbuilt, HostCommand.built?, hbuilt]
            rfl
    | _ => cases hq
  · rw [service_next_question hq]
    cases command with
    | configure around yaml => exact absurd rfl hq
    | _ => rfl

theorem world_next (command : HostCommand) :
    (d.next command).world = ((command.perform d.service).run d.world).2 := by
  rw [next]
  split
  · rename_i heq
    rw [heq]
  · rename_i heq
    rw [heq]

theorem IsSound.next (h : d.IsSound) (command : HostCommand) : (d.next command).IsSound := by
  intro serving hserving
  rw [serving_next] at hserving
  cases hbuilt : command.built? with
  | none =>
      rw [hbuilt] at hserving
      exact h serving hserving
  | some built =>
      rw [hbuilt] at hserving
      cases hserving
      cases command with
      | configure around yaml =>
          simp only [HostCommand.built?] at hbuilt
          cases hyaml : Serving.ofYaml around yaml with
          | error e =>
              rw [hyaml] at hbuilt
              cases hbuilt
          | ok made =>
              rw [hyaml] at hbuilt
              cases hbuilt
              exact Serving.isNew_of_ofYaml hyaml
      | _ => cases hbuilt

/-- No commands send a token that was neither held before nor granted on the way. -/
theorem IsSound.isSourced (h : d.IsSound) {held : List String} (hheld : d.world.Holds held)
    (later : List HostCommand) : (d.journalOf later).IsSourced held := by
  induction later generalizing d held with
  | nil => exact .of_traffic_eq_nil rfl
  | cons command rest ih =>
      -- What the first command leaves remembered is among what the others may send.
      have hrun := Exchange.runs_self (command.perform d.service) d.world
      obtain ⟨hsourced, hafter⟩ := (HostCommand.keepsSources_perform h command).keeps hrun hheld
      rw [← world_next] at hafter
      exact hsourced.append (ih (h.next command) hafter)

/-- The invariant of a deployment and the commands that it was given. -/
structure Follows (d : Deployment) (past : List HostCommand) : Prop where
  sound : d.IsSound
  serving_eq : d.service.serving = lastBuilt past

theorem follows_start (w : World) : (start w).Follows [] := by
  refine ⟨?_, rfl⟩
  intro serving h
  cases h

theorem Follows.next (h : d.Follows past) (command : HostCommand) :
    (d.next command).Follows (past ++ [command]) :=
  ⟨h.sound.next command, by rw [serving_next, h.serving_eq, lastBuilt_append]⟩

theorem Follows.after (h : d.Follows past) (commands : List HostCommand) :
    (d.after commands).Follows (past ++ commands) := by
  induction commands generalizing d past with
  | nil =>
      rw [List.append_nil]
      exact h
  | cons command rest ih =>
      have hrest := ih (h.next command)
      rwa [List.append_assoc] at hrest

/-- **After any commands a deployment serves what the last configuration that succeeded has
built.** -/
theorem servesLast_after (w : World) (past : List HostCommand) :
    ((start w).after past).ServesLast past := by
  have hfollows : ((start w).after past).Follows past := (follows_start w).after past
  generalize (start w).after past = d at hfollows
  refine
    { serving_eq := hfollows.serving_eq
      unharmed := ?_
      renewed := ?_
      sourced := ?_
      asked := fun command hq => service_next_question hq
      refused_iff := ?_
      silent := ?_ }
  · intro around yaml e he
    refine ⟨?_, next_configure_error he, ?_⟩
    · rw [result, HostCommand.perform_configure_error he]
      rfl
    · rw [journal, HostCommand.perform_configure_error he]
      rfl
  · intro around yaml serving hserving
    refine ⟨?_, next_configure_ok hserving⟩
    rw [result, HostCommand.perform_configure_ok hserving]
    rfl
  · -- Nothing is remembered after a configuration, so nothing is held from before.
    intro around yaml serving hserving later
    apply (hfollows.sound.next _).isSourced
    rw [next_configure_ok hserving]
    exact World.holds_of_cache_eq_none rfl
  · intro command hq
    rw [← hfollows.serving_eq]
    exact (HostCommand.refused_iff hq (Exchange.runs_self _ _)).1
  · intro command hq hnone
    rw [← hfollows.serving_eq] at hnone
    exact (HostCommand.refused_iff hq (Exchange.runs_self _ _)).2 hnone

end Deployment

end ScimLookup
