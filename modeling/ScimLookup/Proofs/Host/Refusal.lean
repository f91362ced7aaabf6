import ScimLookup.Proofs.Host.Resolution
import ScimLookup.Proofs.Scim.Aiming

/-!
# Questions that are refused

Before a question goes to the server it is checked, and the checks run in a fixed order: the name or
id must not be blank, then the context must have the keys that the configuration uses, and then each
header that it gives must be sendable. `Serving.Refuses` says of a question which error the first
check that fails gives; among the headers the first one counts, in ascending order of their names.

The main result (`Deployment.checksFirst_of_question`) says that a question to a configured service
is answered with that error exactly then, and that nothing at all happens on the way: nothing is
sent, and neither the service nor its world changes.
-/

set_option autoImplicit false

namespace ScimLookup

/-! ## Lists -/

section Lists

variable {ε α β : Type}

/-- Mapping fails at the first item that fails. -/
theorem mapM_eq_error_of_split {f : α → Except ε β} {before after : List α} {x : α} {e : ε}
    (hbefore : ∀ y ∈ before, ∃ b, f y = .ok b) (hx : f x = .error e) :
    (before ++ x :: after).mapM f = .error e := by
  induction before with
  | nil =>
      rw [List.nil_append, List.mapM_cons, hx]
      rfl
  | cons y ys ih =>
      obtain ⟨b, hb⟩ := hbefore y List.mem_cons_self
      rw [List.cons_append, List.mapM_cons, hb, ih fun z hz => hbefore z (List.mem_cons_of_mem y hz)]
      rfl

end Lists

/-! ## The first of the headers -/

namespace HeaderFields

variable {fields : HeaderFields} {p : String × String → Prop} {f : String × String}

/-- The first header, in ascending order of the names, that something is true of. -/
structure IsFirst (fields : HeaderFields) (p : String × String → Prop) (f : String × String) :
    Prop where
  mem : f ∈ fields.entries
  holds : p f
  first : ∀ g ∈ fields.entries, g.1 < f.1 → ¬ p g

/-- What stands before the first one. -/
theorem IsFirst.split (h : fields.IsFirst p f) :
    ∃ before after, fields.entries = before ++ f :: after ∧ ∀ g ∈ before, ¬ p g := by
  obtain ⟨before, after, hsplit⟩ := List.append_of_mem h.mem
  refine ⟨before, after, hsplit, fun g hg => ?_⟩
  have hascending := fields.ascending
  rw [hsplit, List.pairwise_append] at hascending
  refine h.first g ?_ (hascending.2.2 g hg f List.mem_cons_self)
  rw [hsplit]
  exact List.mem_append_left _ hg

/-- Where something is true of a header there is a first one. -/
theorem exists_isFirst (h : ∃ f ∈ fields.entries, p f) : ∃ f, fields.IsFirst p f := by
  have hfirst : ∀ entries : List (String × String), entries.Pairwise (·.1 < ·.1) →
      (∃ f ∈ entries, p f) → ∃ f ∈ entries, p f ∧ ∀ g ∈ entries, g.1 < f.1 → ¬ p g := by
    intro entries hascending hsome
    induction entries with
    | nil =>
        obtain ⟨f, hf, -⟩ := hsome
        cases hf
    | cons x xs ih =>
        obtain ⟨hx, hxs⟩ := List.pairwise_cons.1 hascending
        by_cases hp : p x
        · -- Nothing comes before the first entry.
          refine ⟨x, List.mem_cons_self, hp, fun g hg hlt => ?_⟩
          rcases List.mem_cons.1 hg with rfl | hg
          · exact absurd hlt (String.lt_irrefl _)
          · exact absurd hlt (String.lt_asymm (hx g hg))
        · obtain ⟨f, hf, hpf⟩ := hsome
          have hrest : f ∈ xs := (List.mem_cons.1 hf).resolve_left fun heq => hp (heq ▸ hpf)
          obtain ⟨f', hf', hpf', hbefore⟩ := ih hxs ⟨f, hrest, hpf⟩
          refine ⟨f', List.mem_cons_of_mem x hf', hpf', fun g hg hlt => ?_⟩
          rcases List.mem_cons.1 hg with rfl | hg
          · exact hp
          · exact hbefore g hg hlt
  obtain ⟨f, hf, hp, hbefore⟩ := hfirst fields.entries fields.ascending h
  exact ⟨f, hf, hp, hbefore⟩

end HeaderFields

/-! ## Refusals -/

/-- A key that a configuration looks up in the context of a question. -/
def ContextConfig.Needs (config : ContextConfig) (key : String) : Prop :=
  (config.hostField ≠ "" ∧ key = config.hostField) ∨ ∃ f ∈ config.headerFields.entries, key = f.2

/-- A question is about a name or id, and that is blank. -/
def IsBlankSubject (subject : Option String) : Prop :=
  ∃ text, subject = some text ∧ Text.isBlank text = true

namespace Serving

/-- The context has no text for a header. -/
def LacksText (context : Context) (f : String × String) : Prop :=
  context.get? f.2 = none

/-- The context has a text for a header, and together they cannot be sent. -/
def GivesUnfit (context : Context) (f : String × String) : Prop :=
  ∃ value fault, context.get? f.2 = some value ∧ Header.IsUnfit f.1 value fault

/-- The context has all keys that a configuration needs. -/
def Suffices (config : ContextConfig) (context : Context) : Prop :=
  ∀ key, config.Needs key → context.get? key ≠ none

/-- The checks of a question refuse it with an error: that of the first check that fails. -/
inductive Refuses (serving : Serving) (question : Question) (subject : Option String)
    (context : Context) : ServiceError → Prop
  /-- The name or id is blank. -/
  | blank : IsBlankSubject subject → Refuses serving question subject context .noId
  /-- The context lacks the key of the host. -/
  | hostless {config : ContextConfig} :
      ¬ IsBlankSubject subject → serving.context = some config → config.hostField ≠ "" →
      context.get? config.hostField = none →
      Refuses serving question subject context (.missingContextField config.hostField)
  /-- The context lacks the key of a header, and has those of the host and the headers before. -/
  | keyless {config : ContextConfig} {f : String × String} :
      ¬ IsBlankSubject subject → serving.context = some config →
      (config.hostField ≠ "" → context.get? config.hostField ≠ none) →
      config.headerFields.IsFirst (LacksText context) f →
      Refuses serving question subject context (.missingContextField f.2)
  /-- The context lacks nothing, and a header is unfit, the first of all. -/
  | unfit {config : ContextConfig} {f : String × String} {value : String} {fault : HeaderFault} :
      ¬ IsBlankSubject subject → serving.context = some config → Suffices config context →
      config.headerFields.IsFirst (GivesUnfit context) f → context.get? f.2 = some value →
      Header.IsUnfit f.1 value fault →
      Refuses serving question subject context (.lookup question (.invalidHeader f.1 fault))

variable {serving : Serving} {config : ContextConfig} {question : Question}
  {subject : Option String} {context : Context} {e : ServiceError}

theorem contextText_of_none {key : String} (h : context.get? key = none) :
    contextText context key = .error (.missingContextField key) := by
  rw [contextText, h]

theorem contextText_of_some {key text : String} (h : context.get? key = some text) :
    contextText context key = .ok text := by
  rw [contextText, h]

/-- The host is known where the context has its key. -/
theorem exists_contextHost_eq_ok
    (h : config.hostField ≠ "" → context.get? config.hostField ≠ none) :
    ∃ host, contextHost config context = .ok host := by
  rw [contextHost]
  by_cases hempty : config.hostField = ""
  · exact ⟨none, by simp [hempty]⟩
  · obtain ⟨text, htext⟩ := Option.ne_none_iff_exists'.1 (h hempty)
    exact ⟨some (text ++ config.basePath), by simp [hempty, contextText_of_some htext, Except.map]⟩

theorem contextHost_of_none (hfield : config.hostField ≠ "")
    (h : context.get? config.hostField = none) :
    contextHost config context = .error (.missingContextField config.hostField) := by
  simp [contextHost, hfield, contextText_of_none h, Except.map]

/-- The header that the context gives. -/
def headerOf (context : Context) (f : String × String) : String × String :=
  (f.1, (context.get? f.2).getD "")

theorem contextHeaders_eq {fields : List (String × String)}
    (h : ∀ f ∈ fields, ¬ LacksText context f) :
    contextHeaders context fields = .ok (fields.map (headerOf context)) := by
  induction fields with
  | nil => rfl
  | cons f fields ih =>
      obtain ⟨text, htext⟩ := Option.ne_none_iff_exists'.1 (h f List.mem_cons_self)
      have hrest := ih fun g hg => h g (List.mem_cons_of_mem f hg)
      rw [contextHeaders] at hrest ⊢
      rw [List.mapM_cons, hrest, contextText_of_some htext, List.map_cons, headerOf, htext]
      rfl

theorem contextHeaders_of_isFirst {fields : HeaderFields} {f : String × String}
    (h : fields.IsFirst (LacksText context) f) :
    contextHeaders context fields.entries = .error (.missingContextField f.2) := by
  obtain ⟨before, after, hsplit, hbefore⟩ := h.split
  rw [contextHeaders, hsplit]
  apply mapM_eq_error_of_split
  · intro g hg
    obtain ⟨text, htext⟩ := Option.ne_none_iff_exists'.1 (hbefore g hg)
    exact ⟨(g.1, text), by rw [contextText_of_some htext]; rfl⟩
  · rw [contextText_of_none h.holds]
    rfl

/-- A context that suffices aims the client somewhere. -/
theorem exists_target_eq_ok (h : Suffices config context) :
    ∃ host, target config context =
      .ok ⟨host, config.headerFields.entries.map (headerOf context)⟩ := by
  obtain ⟨host, hhost⟩ := exists_contextHost_eq_ok fun hfield => h _ (Or.inl ⟨hfield, rfl⟩)
  have hheaders : contextHeaders context config.headerFields.entries = _ :=
    contextHeaders_eq fun f hf => h f.2 (Or.inr ⟨f, hf, rfl⟩)
  refine ⟨host, ?_⟩
  rw [target, hhost, hheaders]
  rfl

/-- A header that has a text and is not unfit is not refused. -/
theorem not_isRefused_headerOf {f : String × String} (hlacks : ¬ LacksText context f)
    (h : ¬ GivesUnfit context f) (error : ClientError) :
    ¬ Client.IsRefused (headerOf context f) error := by
  obtain ⟨text, htext⟩ := Option.ne_none_iff_exists'.1 hlacks
  rintro ⟨fault, hunfit, -⟩
  rw [headerOf, htext] at hunfit
  exact h ⟨text, fault, htext, hunfit⟩

theorem aimedAt_of_isFirst {c : Client} {host : Option String} {f : String × String}
    {value : String} {fault : HeaderFault} (hsuffices : Suffices config context)
    (h : config.headerFields.IsFirst (GivesUnfit context) f) (hvalue : context.get? f.2 = some value)
    (hunfit : Header.IsUnfit f.1 value fault) :
    c.aimedAt ⟨host, config.headerFields.entries.map (headerOf context)⟩ =
      .error (.invalidHeader f.1 fault) := by
  obtain ⟨before, after, hsplit, hbefore⟩ := h.split
  refine (Client.goesThrough_aimedAt c _ _).2 ?_
  show FirstFails Client.IsRefused (config.headerFields.entries.map (headerOf context)) _
  rw [hsplit, List.map_append, List.map_cons, firstFails_append_iff]
  -- None of the headers before it is refused.
  refine Or.inr ⟨fun x hx => ?_, .here ⟨fault, ?_, rfl⟩⟩
  · obtain ⟨g, hg, rfl⟩ := List.mem_map.1 hx
    have hmem : g ∈ config.headerFields.entries := by
      rw [hsplit]
      exact List.mem_append_left _ hg
    exact not_isRefused_headerOf (hsuffices g.2 (Or.inr ⟨g, hmem, rfl⟩)) (hbefore g hg)
  · rw [headerOf, hvalue]
    exact hunfit

theorem exists_aimedAt_eq_ok {c : Client} {host : Option String}
    (hsuffices : Suffices config context)
    (h : ¬ ∃ f ∈ config.headerFields.entries, GivesUnfit context f) :
    ∃ c', c.aimedAt ⟨host, config.headerFields.entries.map (headerOf context)⟩ = .ok c' := by
  refine (Client.goesThrough_aimedAt c _).exists_ok_iff.2 fun x hx => ?_
  obtain ⟨f, hf, rfl⟩ := List.mem_map.1 hx
  exact not_isRefused_headerOf (hsuffices f.2 (Or.inr ⟨f, hf, rfl⟩)) fun hunfit => h ⟨f, hf, hunfit⟩

/-- Past the name or id, the refusals are those of the client. -/
theorem clientFor_of_refuses (h : serving.Refuses question subject context e)
    (hsubject : ¬ IsBlankSubject subject) : serving.clientFor question context = .error e := by
  cases h with
  | blank hblank => exact absurd hblank hsubject
  | hostless _ hconfig hfield hnone =>
      rw [clientFor, hconfig]
      simp only [target, contextHost_of_none hfield hnone]
      rfl
  | keyless _ hconfig hhost hfirst =>
      obtain ⟨host, hhost⟩ := exists_contextHost_eq_ok hhost
      rw [clientFor, hconfig]
      simp only [target, hhost, contextHeaders_of_isFirst hfirst]
      rfl
  | unfit _ hconfig hsuffices hfirst hvalue hunfit =>
      obtain ⟨host, htarget⟩ := exists_target_eq_ok hsuffices
      rw [clientFor, hconfig]
      simp only [htarget]
      show (serving.client.aimedAt _).mapError _ = _
      rw [aimedAt_of_isFirst hsuffices hfirst hvalue hunfit]
      rfl

/-- **A key is missing exactly where a needed one is absent**, unless the name or id is blank. -/
theorem exists_missing_iff :
    (∃ key, serving.Refuses question subject context (.missingContextField key)) ↔
      ¬ IsBlankSubject subject ∧ ∃ config, serving.context = some config ∧
        ∃ key, config.Needs key ∧ context.get? key = none := by
  constructor
  · rintro ⟨key, h⟩
    cases h with
    | hostless hnamed hconfig hfield hnone =>
        exact ⟨hnamed, _, hconfig, _, Or.inl ⟨hfield, rfl⟩, hnone⟩
    | keyless hnamed hconfig _ hfirst =>
        exact ⟨hnamed, _, hconfig, _, Or.inr ⟨_, hfirst.mem, rfl⟩, hfirst.holds⟩
  · rintro ⟨hnamed, config, hconfig, key, hneeds, hnone⟩
    by_cases hhost : config.hostField ≠ "" → context.get? config.hostField ≠ none
    · -- The host is there, so that it is some header whose key is absent.
      have hkeys : ∃ f ∈ config.headerFields.entries, LacksText context f := by
        rcases hneeds with ⟨hfield, rfl⟩ | ⟨f, hf, rfl⟩
        · exact absurd hnone (hhost hfield)
        · exact ⟨f, hf, hnone⟩
      obtain ⟨f, hfirst⟩ := HeaderFields.exists_isFirst hkeys
      exact ⟨_, .keyless hnamed hconfig hhost hfirst⟩
    · rw [Classical.not_imp, not_not] at hhost
      exact ⟨_, .hostless hnamed hconfig hhost.1 hhost.2⟩

/-- **A header is refused exactly where one is unfit**, unless an earlier check fails. -/
theorem exists_unfit_iff :
    (∃ question' name fault, serving.Refuses question subject context
      (.lookup question' (.invalidHeader name fault))) ↔
      ¬ IsBlankSubject subject ∧ ∃ config, serving.context = some config ∧
        Suffices config context ∧ ∃ f ∈ config.headerFields.entries, GivesUnfit context f := by
  constructor
  · rintro ⟨question', name, fault, h⟩
    cases h with
    | unfit hnamed hconfig hsuffices hfirst =>
        exact ⟨hnamed, _, hconfig, hsuffices, _, hfirst.mem, hfirst.holds⟩
  · rintro ⟨hnamed, config, hconfig, hsuffices, hunfit⟩
    obtain ⟨f, hfirst⟩ := HeaderFields.exists_isFirst hunfit
    obtain ⟨value, fault, hvalue, hunfit⟩ := hfirst.holds
    exact ⟨_, _, _, .unfit hnamed hconfig hsuffices hfirst hvalue hunfit⟩

/-- A question that no check refuses has a client. -/
theorem exists_clientFor_eq_ok (h : ¬ ∃ e, serving.Refuses question subject context e) :
    ∃ c, serving.clientFor question context = .ok c := by
  have hnamed : ¬ IsBlankSubject subject := fun hblank => h ⟨_, .blank hblank⟩
  cases hconfig : serving.context with
  | none => exact ⟨serving.client, by rw [clientFor, hconfig]⟩
  | some config =>
      have hsuffices : Suffices config context := by
        intro key hneeds hnone
        obtain ⟨key', hmissing⟩ := exists_missing_iff.2 ⟨hnamed, config, hconfig, key, hneeds, hnone⟩
        exact h ⟨_, hmissing⟩
      have hfit : ¬ ∃ f ∈ config.headerFields.entries, GivesUnfit context f := by
        intro hunfit
        obtain ⟨question', name, fault, hheader⟩ :=
          exists_unfit_iff.2 ⟨hnamed, config, hconfig, hsuffices, hunfit⟩
        exact h ⟨_, hheader⟩
      obtain ⟨host, htarget⟩ := exists_target_eq_ok hsuffices
      obtain ⟨c, haimed⟩ : ∃ c, serving.client.aimedAt _ = .ok c :=
        exists_aimedAt_eq_ok hsuffices hfit
      refine ⟨c, ?_⟩
      rw [clientFor, hconfig]
      simp only [htarget]
      show (serving.client.aimedAt _).mapError _ = _
      rw [haimed]
      rfl

end Serving

/-! ## The checks -/

namespace Service

variable {s : Service} {serving : Serving} {question : Question} {subject : Option String}
  {context : Context} {e : ServiceError}

theorem prepare_eq_of_blank (hs : s.serving = some serving) (h : IsBlankSubject subject) :
    s.prepare question subject context = .error .noId := by
  obtain ⟨text, rfl, hblank⟩ := h
  simp [prepare, ready, hs, nonBlank, hblank, bind, Except.bind]

theorem prepare_eq_of_named (hs : s.serving = some serving) (h : ¬ IsBlankSubject subject) :
    s.prepare question subject context =
      (serving.clientFor question context).map fun client => (serving, client) := by
  rw [prepare, ready, hs]
  cases subject with
  | none =>
      show (serving.clientFor question context >>= fun client => pure (serving, client)) = _
      cases serving.clientFor question context with
      | error e => rfl
      | ok client => rfl
  | some text =>
      have hnamed : nonBlank text = .ok () := by
        rw [nonBlank, if_neg fun hblank => h ⟨text, rfl, hblank⟩]
      simp only [hnamed]
      show (serving.clientFor question context >>= fun client => pure (serving, client)) = _
      cases serving.clientFor question context with
      | error e => rfl
      | ok client => rfl

/-- **A question is refused with the error of the first check that fails.** -/
theorem prepare_eq_error_iff (hs : s.serving = some serving) :
    s.prepare question subject context = .error e ↔
      serving.Refuses question subject context e := by
  have hrefused : ∀ {e}, serving.Refuses question subject context e →
      s.prepare question subject context = .error e := by
    intro e h
    by_cases hblank : IsBlankSubject subject
    · cases h with
      | blank _ => exact prepare_eq_of_blank hs hblank
      | hostless hnamed => exact absurd hblank hnamed
      | keyless hnamed => exact absurd hblank hnamed
      | unfit hnamed => exact absurd hblank hnamed
    · rw [prepare_eq_of_named hs hblank, Serving.clientFor_of_refuses h hblank]
      rfl
  refine ⟨fun h => ?_, hrefused⟩
  -- Some check fails, or else there would be a client.
  by_cases hsome : ∃ e, serving.Refuses question subject context e
  · obtain ⟨e', he'⟩ := hsome
    rw [hrefused he'] at h
    cases h
    exact he'
  · have hnamed : ¬ IsBlankSubject subject := fun hblank => hsome ⟨_, .blank hblank⟩
    obtain ⟨client, hclient⟩ := Serving.exists_clientFor_eq_ok hsome
    rw [prepare_eq_of_named hs hnamed, hclient] at h
    cases h

end Service

/-! ## Questions -/

namespace Resolution

variable {α : Type} {r : Resolution α} {s : Service} {w w' : World} {j : Journal}
  {o : Outcome (Except ServiceError α)}

open Exchange

/-- A question is refused before anything happens, or goes on its errand. -/
theorem runs_perform (h : (r.perform s).Runs w o j w') :
    (∃ e, s.prepare r.question r.subject r.context = .error e ∧ o = some (.error e) ∧ j = [] ∧
        w' = w) ∨
      ∃ serving client o', s.prepare r.question r.subject r.context = .ok (serving, client) ∧
        ((r.errand serving).run client).Runs w o' j w' ∧
        o = o'.map fun found => (Service.under r.question found).bind r.read := by
  rw [perform] at h
  cases hready : s.prepare r.question r.subject r.context with
  | error e =>
      rw [hready] at h
      obtain ⟨rfl, rfl, rfl⟩ := runs_pure_iff.1 h
      exact Or.inl ⟨e, rfl, rfl, rfl, rfl⟩
  | ok ready =>
      rw [hready] at h
      obtain ⟨o', hrun, rfl⟩ := runs_map_iff.1 h
      exact Or.inr ⟨ready.1, ready.2, o', rfl, hrun, rfl⟩

/-- The error comes of the errand of a question and not of a check. -/
inductive ComesLater (question : Question) : ServiceError → Prop
  /-- A lookup failed. -/
  | failed (operation : Operation) (cause : RequestError) :
      ComesLater question (.lookup question (.failed operation cause))
  /-- Not exactly one group has the name. -/
  | miscount {e : ServiceError} : e.IsMiscount → ComesLater question e

/-- What is wrong behind the checks is not what they look for. -/
theorem comesLater_of_errand {serving : Serving} {client : Client}
    {o' : Outcome (Except ClientError r.Finding)} {e : ServiceError}
    (hrun : ((r.errand serving).run client).Runs w o' j w')
    (he : (o'.map fun found => (Service.under r.question found).bind r.read) = some (.error e)) :
    ComesLater r.question e := by
  obtain ⟨found, rfl, hread⟩ := Option.map_eq_some_iff.1 he
  cases found with
  | error error =>
      obtain ⟨operation, cause, rfl⟩ := (Errand.course_of_runs hrun).named rfl
      cases hread
      exact .failed operation cause
  | ok found => exact .miscount (r.isMiscount_of_read found e hread)

end Resolution

namespace HostCommand

/-- The name or id that a command asks about. -/
def subject? : HostCommand → Option String
  | .configure .. => none
  | .getGroup r => some r.groupName
  | .getAllGroups _ => none
  | .getUsersForGroup r => some r.groupId
  | .getGroupsForUser r => some r.userId

/-- What the caller of a command is known by. -/
def context : HostCommand → Context
  | .configure .. => .empty
  | .getGroup r => r.context
  | .getAllGroups r => r.context
  | .getUsersForGroup r => r.context
  | .getGroupsForUser r => r.context

/-- A question is resolved with what it asks about. -/
theorem exists_resolution {command : HostCommand} {question : Question}
    (h : command.question? = some question) :
    ∃ r, command.resolution? = some r ∧ r.question = question ∧ r.subject = command.subject? ∧
      r.context = command.context := by
  cases command with
  | configure around yaml => cases h
  | _ =>
      cases h
      exact ⟨_, rfl, rfl, rfl, rfl⟩

end HostCommand

namespace Deployment

open Exchange Serving Resolution

variable {d : Deployment} {serving : Serving} {command : HostCommand} {question : Question}

/-- The checks of a question come before everything else. -/
structure ChecksFirst (d : Deployment) (serving : Serving) (command : HostCommand)
    (question : Question) : Prop where
  /-- A question that the checks refuse is answered with the error of the first that fails, -/
  refused : ∀ e, serving.Refuses question command.subject? command.context e →
    d.result command = some (.error e)
  /-- and nothing happens: nothing is sent, and neither the service nor its world changes. -/
  silent : ∀ e, serving.Refuses question command.subject? command.context e →
    d.journal command = [] ∧ d.next command = d
  /-- It is said that there is no id exactly where the name or id is blank. -/
  blank_iff : d.result command = some (.error .noId) ↔ IsBlankSubject command.subject?
  /-- It is said that a key is missing exactly where a needed one is absent, -/
  missing_iff : (∃ key, d.result command = some (.error (.missingContextField key))) ↔
    ¬ IsBlankSubject command.subject? ∧ ∃ config, serving.context = some config ∧
      ∃ key, config.Needs key ∧ command.context.get? key = none
  /-- and it is the first one. -/
  first_missing : ∀ key, d.result command = some (.error (.missingContextField key)) →
    serving.Refuses question command.subject? command.context (.missingContextField key)
  /-- It is said that a header is invalid exactly where one is unfit, -/
  unfit_iff : (∃ question' name fault,
      d.result command = some (.error (.lookup question' (.invalidHeader name fault)))) ↔
    ¬ IsBlankSubject command.subject? ∧ ∃ config, serving.context = some config ∧
      Suffices config command.context ∧
        ∃ f ∈ config.headerFields.entries, GivesUnfit command.context f
  /-- and it is the first one. -/
  first_unfit : ∀ question' name fault,
    d.result command = some (.error (.lookup question' (.invalidHeader name fault))) →
    question' = question ∧ serving.Refuses question command.subject? command.context
      (.lookup question (.invalidHeader name fault))

/-- A question that is refused is answered, and that is all. -/
theorem perform_of_refuses (hserving : d.service.serving = some serving)
    (hq : command.question? = some question) {e : ServiceError}
    (h : serving.Refuses question command.subject? command.context e) :
    command.perform d.service = pure (.error e, d.service) := by
  obtain ⟨r, hr, hquestion, hsubject, hcontext⟩ := HostCommand.exists_resolution hq
  rw [← hquestion, ← hsubject, ← hcontext] at h
  rw [HostCommand.perform_eq hr, Resolution.perform, (Service.prepare_eq_error_iff hserving).2 h]
  rfl

/-- An error comes of a check, or of the errand behind the checks. -/
theorem refuses_or_comesLater (hserving : d.service.serving = some serving)
    (hq : command.question? = some question) {e : ServiceError}
    (he : d.result command = some (.error e)) :
    serving.Refuses question command.subject? command.context e ∨ ComesLater question e := by
  obtain ⟨r, hr, rfl, hsubject, hcontext⟩ := HostCommand.exists_resolution hq
  rw [← hsubject, ← hcontext]
  rw [result, HostCommand.perform_eq hr] at he
  have hruns := runs_self (r.perform d.service >>= fun answer => pure (answer, d.service)) d.world
  obtain ⟨o, hrun, ho⟩ := runs_map_iff.1 hruns
  rw [ho, Option.map_map] at he
  have ho' : o = some (.error e) := by simpa [Function.comp_def] using he
  rcases runs_perform hrun with ⟨e', hready, rfl, -, -⟩ | ⟨s, client, o', hready, herrand, rfl⟩
  · cases ho'
    exact Or.inl ((Service.prepare_eq_error_iff hserving).1 hready)
  · exact Or.inr (comesLater_of_errand herrand ho')

/-- **An error that no errand has is the answer exactly where the checks refuse the question with
it.** -/
theorem result_eq_error_iff (hserving : d.service.serving = some serving)
    (hq : command.question? = some question) {e : ServiceError}
    (hcheck : ¬ ComesLater question e) :
    d.result command = some (.error e) ↔
      serving.Refuses question command.subject? command.context e := by
  constructor
  · intro h
    exact (refuses_or_comesLater hserving hq h).resolve_right hcheck
  · intro h
    rw [result, perform_of_refuses hserving hq h]
    rfl

/-- **The checks of every question to a configured service come first.** -/
theorem checksFirst_of_question (hserving : d.service.serving = some serving)
    (hq : command.question? = some question) : d.ChecksFirst serving command question := by
  have hblank : d.result command = some (.error .noId) ↔
      serving.Refuses question command.subject? command.context .noId := by
    refine result_eq_error_iff hserving hq fun hlater => ?_
    cases hlater with
    | miscount hmiscount => cases hmiscount
  have hmissing : ∀ key, d.result command = some (.error (.missingContextField key)) ↔
      serving.Refuses question command.subject? command.context (.missingContextField key) := by
    intro key
    refine result_eq_error_iff hserving hq fun hlater => ?_
    cases hlater with
    | miscount hmiscount => cases hmiscount
  have hunfit : ∀ question' name fault,
      d.result command = some (.error (.lookup question' (.invalidHeader name fault))) ↔
      serving.Refuses question command.subject? command.context
        (.lookup question' (.invalidHeader name fault)) := by
    intro question' name fault
    refine result_eq_error_iff hserving hq fun hlater => ?_
    cases hlater with
    | miscount hmiscount => cases hmiscount
  refine
    { refused := ?_
      silent := ?_
      blank_iff := ?_
      missing_iff := ?_
      first_missing := fun key => (hmissing key).1
      unfit_iff := ?_
      first_unfit := ?_ }
  · intro e h
    rw [result, perform_of_refuses hserving hq h]
    rfl
  · intro e h
    have hperform := perform_of_refuses hserving hq h
    refine ⟨?_, ?_⟩
    · rw [journal, hperform]
      rfl
    · rw [next, hperform]
      rfl
  · rw [hblank]
    constructor
    · intro h
      cases h with
      | blank hsubject => exact hsubject
    · exact .blank
  · simp only [hmissing]
    exact exists_missing_iff
  · simp only [hunfit]
    exact exists_unfit_iff
  · intro question' name fault h
    have hrefuses := (hunfit question' name fault).1 h
    have hsame : question' = question := by
      cases hrefuses
      rfl
    subst hsame
    exact ⟨rfl, hrefuses⟩

/-- A context lacks the key of one header and gives a text for another that clients set themselves:
the missing key is what is said. -/
theorem checksFirst_of_keyless :
    let fields : HeaderFields := ⟨[("accept", "type"), ("x-tenant", "tenant")], by decide +kernel⟩
    let serving : Serving := ⟨.plain "http://[::1]/scim" (.basic "id" "secret"), .standard,
      some ⟨"", fields, ""⟩, .traversal⟩
    let d : Deployment := ⟨⟨some serving⟩, .fresh (fun _ => true) fun _ => 0⟩
    let command : HostCommand := .getGroup ⟨"admins", Context.empty.insert ("type", "text/plain")⟩
    d.service.serving = some serving ∧ command.question? = some .getGroup ∧
      d.result command = some (.error (.missingContextField "tenant")) := by
  intro fields serving d command
  refine ⟨rfl, rfl, (checksFirst_of_question rfl rfl).refused _ ?_⟩
  have htype : command.context.get? "type" = some "text/plain" := by decide +kernel
  have htenant : command.context.get? "tenant" = none := by decide +kernel
  refine .keyless (f := ("x-tenant", "tenant")) ?_ rfl (fun hfield => absurd rfl hfield)
    ⟨by simp [fields], htenant, ?_⟩
  · rintro ⟨text, htext, hblank⟩
    cases htext
    exact absurd hblank (by decide +kernel)
  · intro g hg hlt hlacks
    rcases List.mem_cons.1 hg with rfl | hg
    · rw [LacksText, htype] at hlacks
      cases hlacks
    · rw [List.mem_singleton.1 hg] at hlt
      exact String.lt_irrefl _ hlt

end Deployment

end ScimLookup
