import ScimLookup.Command.Invocation
import ScimLookup.Proofs.Host.Refusal

/-!
# Tasks as they run

A task is set up, and then it goes on an errand and prints what it finds (`Task.venture`). Setting it
up sends nothing, and where that fails the task fails with that error alone (`Task.runs`). The exit
code of such an error says which of the two ways it is: the task is not ready, for what it is
configured with, or it is refused, for what it was asked (`Task.isUnready_iff`,
`Task.isRefused_iff`).
-/

set_option autoImplicit false

namespace ScimLookup

/-! ## Errors of a computation -/

/-- All errors with which a computation can fail have a property. -/
def FailsOnly {ε α : Type} (p : ε → Prop) (x : Except ε α) : Prop :=
  ∀ e, x = .error e → p e

namespace FailsOnly

variable {ε ε' α β : Type} {p : ε → Prop} {x : Except ε α}

theorem ok (a : α) : FailsOnly p (.ok a) := nofun

theorem error {e : ε} (he : p e) : FailsOnly p (.error e : Except ε α) := by
  intro e' h
  cases h
  exact he

theorem bind {f : α → Except ε β} (hx : FailsOnly p x) (hf : ∀ a, FailsOnly p (f a)) :
    FailsOnly p (x >>= f) := by
  intro e h
  cases hxa : x with
  | error e' =>
      rw [hxa] at h
      cases h
      exact hx e hxa
  | ok a =>
      rw [hxa] at h
      exact hf a e h

theorem mapError {q : ε' → Prop} {f : ε → ε'} (hx : FailsOnly p x) (hf : ∀ e, p e → q (f e)) :
    FailsOnly q (x.mapError f) := by
  intro e h
  cases hxa : x with
  | error e' =>
      rw [hxa] at h
      cases h
      exact hf e' (hx e' hxa)
  | ok a =>
      rw [hxa] at h
      cases h

end FailsOnly

/-! ## Errors before a request -/

section Setup

/-- The error leads to the exit code for what could not be set up. -/
def ClientError.IsOfSetup (e : ClientError) : Prop := e.exitCode = 1

def ConfigError.IsOfSetup (e : ConfigError) : Prop := e.exitCode = 1

theorem Credentials.failsOnly_validate (c : Credentials) :
    FailsOnly ClientError.IsOfSetup c.validate := by
  rw [validate.eq_def]
  split
  · exact .error rfl
  · split
    · split
      · exact .error rfl
      · exact .ok ()
    · exact .ok ()
    · split
      · exact .error rfl
      · split
        · exact .error rfl
        · exact .ok ()

theorem Credentials.failsOnly_identity (c : Credentials) :
    FailsOnly ClientError.IsOfSetup c.identity := by
  cases c with
  | mtls id certificate =>
      intro e h
      simp only [identity, ClientCertificate.identity] at h
      split at h
      · cases h
      · cases h
        rfl
  | _ => exact .ok none

theorem Credentials.failsOnly_ofParts (id : String) (secret : Option String)
    (certificate : Option ClientCertificate) :
    FailsOnly ClientError.IsOfSetup (ofParts id secret certificate) := by
  rw [ofParts.eq_def]
  split
  · exact .error rfl
  · split
    · exact .ok _
    · exact .ok _
    · exact .error rfl
    · exact .error rfl

theorem Client.failsOnly_ofConfig (config : ClientConfig) (connector : Connector) :
    FailsOnly ClientError.IsOfSetup (ofConfig config connector) := by
  have hmake : ∀ (identity : Option Identity) (roots : List Bytes), FailsOnly ClientError.IsOfSetup
      (if connector.takes identity roots then
        pure { plain config.host config.credentials with
          timeout := some config.timeout
          agent := some agentName }
      else throw (.setup .notACertificate) : Except ClientError Client) := by
    intro identity roots
    split
    · exact .ok _
    · exact .error rfl
  rw [ofConfig]
  refine (config.credentials.failsOnly_validate).bind fun _ => ?_
  refine (config.credentials.failsOnly_identity).bind fun identity => ?_
  cases hroots : config.roots with
  | none => exact hmake identity []
  | some pem =>
      refine FailsOnly.bind (x := checkRoots pem) ?_ (hmake identity)
      rw [checkRoots]
      split
      · exact .error rfl
      · exact .error rfl
      · exact .ok _

theorem Source.failsOnly_load (s : Surroundings) (field : String) (source : Source) :
    FailsOnly ConfigError.IsOfSetup (source.load s field) := by
  have hscalar : ∀ v, FailsOnly ConfigError.IsOfSetup (load.scalar field v) := by
    intro v
    rw [load.scalar]
    split
    · exact .ok _
    · exact .error rfl
  cases source with
  | literal v => exact hscalar v
  | embedded v => exact hscalar v
  | file path =>
      rw [load]
      split
      · exact .ok _
      · exact .error rfl
  | env name =>
      rw [load]
      split
      · exact .ok _
      · exact .error rfl

theorem Params.failsOnly_given (s : Surroundings) (name : String) (source : Option Source) :
    FailsOnly ConfigError.IsOfSetup (given s name source) := by
  cases source with
  | none => exact .ok none
  | some source =>
      refine (source.failsOnly_load s name).bind fun raw => ?_
      refine FailsOnly.bind ?_ fun value => .ok _
      rw [unquoted]
      split
      · split
        · exact .ok _
        · exact .error rfl
      · exact .ok _

theorem Params.failsOnly_orElse {α : Type} {read : String → Except ConfigError α}
    (hread : ∀ value, FailsOnly ConfigError.IsOfSetup (read value)) (standard : α)
    (value : Option String) : FailsOnly ConfigError.IsOfSetup (orElse read standard value) := by
  cases value with
  | none => exact .ok standard
  | some value => exact hread value

theorem Params.failsOnly_resolve (s : Surroundings) (p : ParamSources) :
    FailsOnly ConfigError.IsOfSetup (resolve s p) := by
  rw [resolve]
  refine (failsOnly_given s _ _).bind fun method => ?_
  refine (failsOnly_orElse ?_ _ method).bind fun listMethod => ?_
  · intro value
    rw [readMethod]
    split
    · exact .ok _
    · exact .error rfl
  refine (failsOnly_given s _ _).bind fun searches => ?_
  refine (failsOnly_orElse ?_ _ searches).bind fun searchesUsers => ?_
  · intro value
    rw [truth]
    split
    · exact .ok _
    · split
      · exact .ok _
      · exact .error rfl
  refine (failsOnly_given s _ _).bind fun groupAttribute => ?_
  refine (failsOnly_given s _ _).bind fun userAttribute => ?_
  exact (failsOnly_given s _ _).bind fun groupMembersAttribute => .ok _

theorem AuthMode.failsOnly_loadSecret (s : Surroundings) (secret : Option Source) :
    FailsOnly ConfigError.IsOfSetup (loadSecret s secret) := by
  cases secret with
  | none => exact .ok ""
  | some source => exact source.failsOnly_load s _

theorem AuthMode.failsOnly_loadFor (s : Surroundings) (id : String) (mode : AuthMode) :
    FailsOnly ConfigError.IsOfSetup (mode.loadFor s id) := by
  cases mode with
  | basic _ secret => exact (failsOnly_loadSecret s secret).bind fun secret => .ok _
  | mtls _ certificate key =>
      refine (certificate.failsOnly_load s _).bind fun certificate => ?_
      exact (key.failsOnly_load s _).bind fun key => .ok _
  | oauth2 _ secret endpoint scopes =>
      refine (failsOnly_loadSecret s secret).bind fun secret => ?_
      exact (endpoint.failsOnly_load s _).bind fun endpoint => .ok _

theorem AuthMode.failsOnly_credentials (s : Surroundings) (mode : AuthMode) :
    FailsOnly ConfigError.IsOfSetup (mode.credentials s) := by
  rw [credentials]
  refine (mode.clientId.failsOnly_load s _).bind fun id => ?_
  split
  · exact .error rfl
  · refine (mode.failsOnly_loadFor s id).bind fun c => ?_
    have hvalid : FailsOnly ConfigError.IsOfSetup (c.validate.mapError .client) :=
      c.failsOnly_validate.mapError fun e he => he
    exact hvalid.bind fun _ => .ok c

theorem Configuration.failsOnly_clientConfig (s : Surroundings) (c : Configuration) :
    FailsOnly ConfigError.IsOfSetup (c.clientConfig s) := by
  rw [clientConfig]
  refine (c.auth.failsOnly_credentials s).bind fun credentials => ?_
  refine (c.host.failsOnly_load s _).bind fun host => ?_
  cases c.roots with
  | none => exact .ok _
  | some source =>
      refine FailsOnly.bind ?_ fun roots => .ok _
      exact (source.failsOnly_load s _).bind fun roots => .ok _

/-- **What a service cannot be configured with is a matter of setting it up.** -/
theorem Serving.failsOnly_ofYaml (s : Surroundings) (yaml : String) :
    FailsOnly ConfigError.IsOfSetup (ofYaml s yaml) := by
  rw [ofYaml]
  refine FailsOnly.bind ?_ fun c => ?_
  · rw [Configuration.ofYaml]
    split
    · exact .ok _
    · exact .error rfl
  refine FailsOnly.bind ?_ fun client => ?_
  · exact (c.failsOnly_clientConfig s).bind fun config =>
      (Client.failsOnly_ofConfig config s.connector).mapError fun e he => he
  exact (Params.failsOnly_resolve s c.params).bind fun params => .ok _

/-- **So is what a lookup has no client for.** -/
theorem Command.Lookup.failsOnly_client (l : Lookup) (s : Surroundings) :
    FailsOnly ClientError.IsOfSetup (l.client s) := by
  have hmake : ∀ certificate, FailsOnly ClientError.IsOfSetup
      (Credentials.ofParts l.clientId l.secret certificate >>= fun credentials =>
        Client.ofConfig ⟨l.host, credentials, l.timeout, none⟩ s.connector) := fun certificate =>
    (Credentials.failsOnly_ofParts _ _ certificate).bind fun c => Client.failsOnly_ofConfig _ _
  rw [client]
  cases l.certificate with
  | none => exact hmake none
  | some paths =>
      refine FailsOnly.bind ?_ hmake
      refine FailsOnly.bind (x := ClientCertificate.ofFiles s paths.1 paths.2) ?_ fun c => .ok _
      rw [ClientCertificate.ofFiles]
      have hread : ∀ path, FailsOnly ClientError.IsOfSetup ((s.file path).mapError fun fault =>
          ClientError.certificate (.unreadable path fault)) := fun path =>
        FailsOnly.mapError (p := fun _ => True) (fun _ _ => trivial) fun _ _ => rfl
      exact (hread _).bind fun certificate => (hread _).bind fun key => .ok _

end Setup

namespace Command

open Exchange

/-! ## Questions from the command line -/

/-- How a question from the command line is resolved. -/
def Subject.resolution (context : Context) : Subject → Resolution Inquiry.Finding
  | .group name => (Resolution.ofGetGroup ⟨name, context⟩).map fun r => .group r.group
  | .allGroups => (Resolution.ofGetAllGroups ⟨context⟩).map fun r => .groups r.groups
  | .usersOf groupId => (Resolution.ofGetUsersForGroup ⟨groupId, context⟩).map fun r => .users r.users
  | .groupsOf userId =>
    (Resolution.ofGetGroupsForUser ⟨userId, context⟩).map fun r => .groups r.groups

/-- The name or id that a question is about. -/
def Subject.text? : Subject → Option String
  | .group name => some name
  | .allGroups => none
  | .usersOf groupId => some groupId
  | .groupsOf userId => some userId

/-- The question of the host that is asked. -/
def Subject.question : Subject → Question
  | .group _ => .getGroup
  | .allGroups => .getAllGroups
  | .usersOf _ => .getUsersForGroup
  | .groupsOf _ => .getGroupsForUser

theorem Inquiry.ask_eq (service : Service) (context : Context) (subject : Subject) :
    ask service context subject = (subject.resolution context).perform service := by
  cases subject with
  | group name => rw [ask, Service.getGroup_eq, Subject.resolution, Resolution.perform_map]
  | allGroups => rw [ask, Service.getAllGroups_eq, Subject.resolution, Resolution.perform_map]
  | usersOf groupId =>
      rw [ask, Service.getUsersForGroup_eq, Subject.resolution, Resolution.perform_map]
  | groupsOf userId =>
      rw [ask, Service.getGroupsForUser_eq, Subject.resolution, Resolution.perform_map]

/-! ## Ventures -/

/-- What is left of a task when it is set up: an errand of a client, and what is told of it. -/
structure Venture where
  client : Client
  Finding : Type
  errand : Errand Finding
  /-- How a failed lookup is reported. -/
  report : ClientError → CommandError
  /-- What is printed of what is found. -/
  print : Finding → Except CommandError String

namespace Venture

/-- Go on the errand and tell of it. -/
def run (v : Venture) : Exchange (Except CommandError String) :=
  v.errand.run v.client >>= fun found => pure ((found.mapError v.report).bind v.print)

/-- The venture of one lookup. -/
def ofQuest (client : Client) (quest : Quest) (print : quest.Result → String) : Venture where
  client := client
  Finding := quest.Result
  errand := .look quest .done
  report := .client
  print found := .ok (print found)

end Venture

namespace Lookup

/-- What a lookup comes to with its client. -/
def ventureFor (l : Lookup) (c : Client) : Except CommandError Venture :=
  match l.action with
  | .getUser => l.requiredId.map fun id =>
    .ofQuest c (.user id) (l.output User.toJson fun u => "Found User: " ++ userLine u)
  | .listUsers => .ok <| .ofQuest c (.users (.ofPost l.byPost) l.filter l.page)
    (l.output (Listing.toJson User.toJson) (listLines "Found Users:" userLine))
  | .getGroup => l.requiredId.map fun id =>
    .ofQuest c (.group id) (l.output Group.toJson fun g => "Found Group: " ++ groupLine g)
  | .listGroups => .ok <| .ofQuest c (.groups (.ofPost l.byPost) l.filter l.page)
    (l.output (Listing.toJson Group.toJson) (listLines "Found Groups:" groupLine))

theorem run_ofQuest (c : Client) (quest : Quest) (print : quest.Result → String) :
    (Venture.ofQuest c quest print).run =
      quest.ask c >>= fun found => pure ((found.mapError .client).map print) := by
  rw [Venture.run, Venture.ofQuest, Errand.run, bind_bind]
  refine congrArg (Exchange.bind _) (funext fun found => ?_)
  cases found with
  | error e => rfl
  | ok v => rfl

/-- A lookup with a client is refused, or goes on its venture. -/
theorem run_eq {l : Lookup} {s : Surroundings} {c : Client} (hc : l.client s = .ok c) :
    l.run s =
      match l.ventureFor c with
      | .error e => pure (.error e)
      | .ok v => v.run := by
  rw [run, hc, ventureFor]
  cases l.action with
  | getUser =>
      simp only [one]
      cases l.requiredId with
      | error e => rfl
      | ok id => exact (run_ofQuest c (.user id) _).symm
  | listUsers => exact (run_ofQuest c (.users (.ofPost l.byPost) l.filter l.page) _).symm
  | getGroup =>
      simp only [one]
      cases l.requiredId with
      | error e => rfl
      | ok id => exact (run_ofQuest c (.group id) _).symm
  | listGroups => exact (run_ofQuest c (.groups (.ofPost l.byPost) l.filter l.page) _).symm

end Lookup

namespace Inquiry

/-- How the question of an inquiry is resolved. -/
def resolution (i : Inquiry) : Resolution Finding :=
  i.subject.resolution (.ofEntries i.context)

/-- What an inquiry comes to with its service. -/
def ventureFor (i : Inquiry) (serving : Serving) : Except CommandError Venture :=
  let r := i.resolution
  match (Service.mk (some serving)).prepare r.question r.subject r.context with
  | .error e => .error (.service e)
  | .ok (serving, client) => .ok {
      client := client
      Finding := r.Finding
      errand := r.errand serving
      report := fun e => .service (.lookup r.question e)
      print := fun found => ((r.read found).mapError .service).map i.output }

/-- The checks of an inquiry are those of its question. -/
theorem resolution_facts (i : Inquiry) :
    i.resolution.question = i.subject.question ∧ i.resolution.subject = i.subject.text? ∧
      i.resolution.context = .ofEntries i.context := by
  rw [resolution]
  cases i.subject with
  | _ => exact ⟨rfl, rfl, rfl⟩

/-- An inquiry with a service forgets the token, and then is refused or goes on its venture. -/
theorem run_eq {i : Inquiry} {s : Surroundings} {yaml : String} {serving : Serving}
    (hyaml : s.text i.config = .ok yaml) (hserving : Serving.ofYaml s yaml = .ok serving) :
    i.run s = setToken none >>= fun _ =>
      match i.ventureFor serving with
      | .error e => pure (.error e)
      | .ok v => v.run := by
  rw [run, hyaml]
  simp only [find, Service.configure]
  rw [hserving]
  simp only [ask_eq, bind_bind]
  refine congrArg (Exchange.bind _) (funext fun _ => ?_)
  show (i.resolution.perform ⟨some serving⟩ >>= fun found =>
    pure ((found.mapError CommandError.service).map i.output)) = _
  rw [Resolution.perform, ventureFor]
  cases (Service.mk (some serving)).prepare i.resolution.question i.resolution.subject
      i.resolution.context with
  | error e => rfl
  | ok ready =>
      simp only [map_map, Venture.run]
      refine congrArg (Exchange.bind _) (funext fun found => ?_)
      cases found with
      | error e => rfl
      | ok found => rfl

end Inquiry

namespace Task

/-- Set a task up. -/
def venture (s : Surroundings) : Task → Except CommandError Venture
  | .look l =>
    match l.client s with
    | .error e => .error (.client e)
    | .ok c => l.ventureFor c
  | .inquire i =>
    match s.text i.config with
    | .error fault => .error (.unreadableConfig i.config fault)
    | .ok yaml =>
      match Serving.ofYaml s yaml with
      | .error e => .error (.service (.configure e))
      | .ok serving => i.ventureFor serving

variable {s : Surroundings} {task : Task} {w w' : World} {j : Journal}
  {o : Outcome (Except CommandError String)}

theorem venture_inquire {i : Inquiry} {yaml : String} (hyaml : s.text i.config = .ok yaml) :
    (inquire i).venture s =
      match Serving.ofYaml s yaml with
      | .error e => .error (.service (.configure e))
      | .ok serving => i.ventureFor serving := by
  rw [venture, hyaml]

/-- What is set up is refused, or runs as its venture. -/
theorem runs_venture {x : Except CommandError Venture}
    (h : Exchange.Runs (match x with
      | .error e => pure (.error e)
      | .ok v => v.run) w o j w') :
    (∃ e, x = .error e ∧ o = some (.error e) ∧ j.traffic = []) ∨
      ∃ v j', x = .ok v ∧ v.run.Runs w o j' w' ∧ j.traffic = j'.traffic := by
  cases x with
  | error e =>
      obtain ⟨rfl, rfl, -⟩ := runs_pure_iff.1 h
      exact Or.inl ⟨e, rfl, rfl, rfl⟩
  | ok v => exact Or.inr ⟨v, j, rfl, h, rfl⟩

/-- **A task fails before anything is sent, or runs as its venture.** -/
theorem runs (hw : w.cache = none) (h : (task.run s).Runs w o j w') :
    (∃ e, task.venture s = .error e ∧ o = some (.error e) ∧ j.traffic = []) ∨
      ∃ v j', task.venture s = .ok v ∧ v.run.Runs w o j' w' ∧ j.traffic = j'.traffic := by
  cases task with
  | look l =>
      rw [venture]
      rw [run] at h
      cases hc : l.client s with
      | error e =>
          rw [Lookup.run, hc] at h
          obtain ⟨rfl, rfl, -⟩ := runs_pure_iff.1 h
          exact Or.inl ⟨_, rfl, rfl, rfl⟩
      | ok c =>
          rw [Lookup.run_eq hc] at h
          exact runs_venture h
  | inquire i =>
      rw [run] at h
      cases hyaml : s.text i.config with
      | error fault =>
          rw [Inquiry.run, hyaml] at h
          obtain ⟨rfl, rfl, -⟩ := runs_pure_iff.1 h
          rw [venture, hyaml]
          exact Or.inl ⟨_, rfl, rfl, rfl⟩
      | ok yaml =>
          rw [venture_inquire hyaml]
          cases hserving : Serving.ofYaml s yaml with
          | error e =>
              rw [Inquiry.run, hyaml] at h
              simp only [Inquiry.find, Service.configure] at h
              rw [hserving] at h
              obtain ⟨rfl, rfl, -⟩ := runs_pure_iff.1 h
              exact Or.inl ⟨_, rfl, rfl, rfl⟩
          | ok serving =>
              -- Forgetting the token changes nothing, since none is remembered.
              rw [Inquiry.run_eq hyaml hserving] at h
              rcases runs_bind_iff.1 h with ⟨u, j₁, w₁, j₂, hset, hnext, rfl⟩ | ⟨-, hset⟩
              · obtain ⟨-, rfl, rfl⟩ := runs_setToken_iff.1 hset
                have hsame : { w with cache := none } = w := by rw [← hw]
                rw [hsame] at hnext
                exact (runs_venture hnext :)
              · cases (runs_setToken_iff.1 hset).1

/-! ## Before the errand -/

/-- What a task is configured with does not serve. -/
inductive IsUnready (s : Surroundings) : Task → Prop
  /-- The credentials of a lookup do not fit together, or cannot be used. -/
  | clientless {l : Lookup} {e : ClientError} : l.client s = .error e → IsUnready s (.look l)
  /-- The configuration cannot be read. -/
  | unreadable {i : Inquiry} {fault : FileFault} :
      s.text i.config = .error fault → IsUnready s (.inquire i)
  /-- The configuration cannot be applied. -/
  | unusable {i : Inquiry} {yaml : String} {e : ConfigError} :
      s.text i.config = .ok yaml → Serving.ofYaml s yaml = .error e → IsUnready s (.inquire i)
  /-- A header that the context gives cannot be sent. -/
  | unfit {i : Inquiry} {yaml : String} {serving : Serving} {name : String} {fault : HeaderFault} :
      s.text i.config = .ok yaml → Serving.ofYaml s yaml = .ok serving →
      serving.Refuses i.subject.question i.subject.text? (.ofEntries i.context)
        (.lookup i.subject.question (.invalidHeader name fault)) → IsUnready s (.inquire i)

/-- What a task asks for is refused before the server is asked. -/
inductive IsRefused (s : Surroundings) : Task → Prop
  /-- There is no id, or it is blank. -/
  | idless {l : Lookup} {c : Client} :
      l.client s = .ok c → l.action = .getUser ∨ l.action = .getGroup →
      (∀ id, l.id = some id → Text.isBlank id = true) → IsRefused s (.look l)
  /-- The name or id is blank. -/
  | blank {i : Inquiry} {yaml : String} {serving : Serving} :
      s.text i.config = .ok yaml → Serving.ofYaml s yaml = .ok serving →
      IsBlankSubject i.subject.text? → IsRefused s (.inquire i)
  /-- The context lacks a key that the configuration needs. -/
  | keyless {i : Inquiry} {yaml : String} {serving : Serving} {key : String} :
      s.text i.config = .ok yaml → Serving.ofYaml s yaml = .ok serving →
      serving.Refuses i.subject.question i.subject.text? (.ofEntries i.context)
        (.missingContextField key) → IsRefused s (.inquire i)

end Task

namespace Lookup

theorem requiredId_eq_error_iff {l : Lookup} {e : CommandError} :
    l.requiredId = .error e ↔
      e = .idRequired ∧ ∀ id, l.id = some id → Text.isBlank id = true := by
  have hnone : l.id.filter (!Text.isBlank ·) = none ↔
      ∀ id, l.id = some id → Text.isBlank id = true := by
    simp [Option.filter_eq_none_iff]
  rw [requiredId, ← hnone]
  cases l.id.filter (!Text.isBlank ·) with
  | none =>
      constructor
      · intro h
        cases h
        exact ⟨rfl, rfl⟩
      · rintro ⟨rfl, -⟩
        rfl
  | some id => simp

/-- A lookup with a client is refused exactly where it lacks the id that it needs. -/
theorem ventureFor_eq_error_iff {l : Lookup} {c : Client} {e : CommandError} :
    l.ventureFor c = .error e ↔ e = .idRequired ∧ (l.action = .getUser ∨ l.action = .getGroup) ∧
      ∀ id, l.id = some id → Text.isBlank id = true := by
  have hmap : ∀ f : String → Venture, l.requiredId.map f = .error e ↔ l.requiredId = .error e := by
    intro f
    cases l.requiredId with
    | error e' => simp [Except.map]
    | ok id => simp [Except.map]
  rw [ventureFor]
  cases haction : l.action with
  | getUser => simp [hmap, requiredId_eq_error_iff]
  | listUsers => simp
  | getGroup => simp [hmap, requiredId_eq_error_iff]
  | listGroups => simp

end Lookup

/-- An inquiry with a service is refused exactly where the checks of its question refuse it. -/
theorem Inquiry.ventureFor_eq_error_iff {i : Inquiry} {serving : Serving} {e : CommandError} :
    i.ventureFor serving = .error e ↔ ∃ e', e = .service e' ∧
      serving.Refuses i.subject.question i.subject.text? (.ofEntries i.context) e' := by
  obtain ⟨hquestion, hsubject, hcontext⟩ := i.resolution_facts
  rw [ventureFor, ← hquestion, ← hsubject, ← hcontext]
  simp only [← Service.prepare_eq_error_iff (s := ⟨some serving⟩) rfl]
  cases (Service.mk (some serving)).prepare i.resolution.question i.resolution.subject
      i.resolution.context with
  | error e' => simp [eq_comm]
  | ok ready => simp

namespace Task

variable {s : Surroundings} {task : Task} {e : CommandError}

theorem venture_inquire_ok {i : Inquiry} {yaml : String} {serving : Serving}
    (hyaml : s.text i.config = .ok yaml) (hserving : Serving.ofYaml s yaml = .ok serving) :
    (inquire i).venture s = i.ventureFor serving := by
  rw [venture_inquire hyaml, hserving]

/-- A refusal leads to the exit code for a setup where a header is unfit, and else to the one for
what is asked. -/
theorem kind_of_refuses {i : Inquiry} {yaml : String} {serving : Serving} {e : ServiceError}
    (hyaml : s.text i.config = .ok yaml) (hserving : Serving.ofYaml s yaml = .ok serving)
    (h : serving.Refuses i.subject.question i.subject.text? (.ofEntries i.context) e) :
    (e.exitCode = 1 ∧ IsUnready s (.inquire i)) ∨ (e.exitCode = 4 ∧ IsRefused s (.inquire i)) := by
  cases h with
  | blank hblank => exact Or.inr ⟨rfl, .blank hyaml hserving hblank⟩
  | hostless hnamed hconfig hfield hnone =>
      exact Or.inr ⟨rfl, .keyless hyaml hserving (.hostless hnamed hconfig hfield hnone)⟩
  | keyless hnamed hconfig hhost hfirst =>
      exact Or.inr ⟨rfl, .keyless hyaml hserving (.keyless hnamed hconfig hhost hfirst)⟩
  | unfit hnamed hconfig hsuffices hfirst hvalue hunfit =>
      exact Or.inl ⟨rfl,
        .unfit hyaml hserving (.unfit hnamed hconfig hsuffices hfirst hvalue hunfit)⟩

/-- **A task that cannot go on its errand is not ready, or refused**, and its exit code says
which. -/
theorem kind_of_venture (h : task.venture s = .error e) :
    (e.exitCode = 1 ∧ IsUnready s task) ∨ (e.exitCode = 4 ∧ IsRefused s task) := by
  cases task with
  | look l =>
      rw [venture] at h
      cases hc : l.client s with
      | error e' =>
          rw [hc] at h
          cases h
          exact Or.inl ⟨l.failsOnly_client s e' hc, .clientless hc⟩
      | ok c =>
          rw [hc] at h
          obtain ⟨rfl, haction, hid⟩ := Lookup.ventureFor_eq_error_iff.1 h
          exact Or.inr ⟨rfl, .idless hc haction hid⟩
  | inquire i =>
      cases hyaml : s.text i.config with
      | error fault =>
          rw [venture, hyaml] at h
          cases h
          exact Or.inl ⟨rfl, .unreadable hyaml⟩
      | ok yaml =>
          rw [venture_inquire hyaml] at h
          cases hserving : Serving.ofYaml s yaml with
          | error e' =>
              rw [hserving] at h
              cases h
              exact Or.inl ⟨Serving.failsOnly_ofYaml s yaml e' hserving, .unusable hyaml hserving⟩
          | ok serving =>
              rw [hserving] at h
              obtain ⟨e', rfl, hrefuses⟩ := Inquiry.ventureFor_eq_error_iff.1 h
              exact kind_of_refuses hyaml hserving hrefuses

theorem isUnready_iff :
    IsUnready s task ↔ ∃ e, task.venture s = .error e ∧ e.exitCode = 1 := by
  constructor
  · intro h
    cases h with
    | @clientless l e hc => exact ⟨.client e, by rw [venture, hc], l.failsOnly_client s e hc⟩
    | unreadable hyaml => exact ⟨_, by rw [venture, hyaml], rfl⟩
    | @unusable i yaml e hyaml hserving =>
        exact ⟨.service (.configure e), by rw [venture_inquire hyaml, hserving],
          Serving.failsOnly_ofYaml s yaml e hserving⟩
    | @unfit i yaml serving name fault hyaml hserving hrefuses =>
        refine ⟨.service (.lookup i.subject.question (.invalidHeader name fault)), ?_, rfl⟩
        rw [venture_inquire_ok hyaml hserving]
        exact Inquiry.ventureFor_eq_error_iff.2 ⟨_, rfl, hrefuses⟩
  · rintro ⟨e, h, hcode⟩
    rcases kind_of_venture h with ⟨-, hunready⟩ | ⟨hfour, -⟩
    · exact hunready
    · omega

theorem isRefused_iff :
    IsRefused s task ↔ ∃ e, task.venture s = .error e ∧ e.exitCode = 4 := by
  constructor
  · intro h
    cases h with
    | idless hc haction hid =>
        refine ⟨.idRequired, ?_, rfl⟩
        rw [venture, hc]
        exact Lookup.ventureFor_eq_error_iff.2 ⟨rfl, haction, hid⟩
    | blank hyaml hserving hblank =>
        refine ⟨.service .noId, ?_, rfl⟩
        rw [venture_inquire_ok hyaml hserving]
        exact Inquiry.ventureFor_eq_error_iff.2 ⟨_, rfl, .blank hblank⟩
    | @keyless i yaml serving key hyaml hserving hrefuses =>
        refine ⟨.service (.missingContextField key), ?_, rfl⟩
        rw [venture_inquire_ok hyaml hserving]
        exact Inquiry.ventureFor_eq_error_iff.2 ⟨_, rfl, hrefuses⟩
  · rintro ⟨e, h, hcode⟩
    rcases kind_of_venture h with ⟨hone, -⟩ | ⟨-, hrefused⟩
    · omega
    · exact hrefused

end Task

end Command

end ScimLookup
