import ScimLookup.Proofs.Host.Refusal
import ScimLookup.Proofs.Scim.SentHeaders
import ScimLookup.Proofs.Settings.Reference
import ScimLookup.Proofs.Url.Form

/-!
# Contexts act through their keys

A question carries the context of its caller, and all that a service does with a context is to look
up the keys that its configuration needs. So two contexts that have the same texts there, or lack
the same ones, make no difference to anything that happens (`HostCommand.perform_withContext`).

What a context says under these keys aims the client (`ContextConfig.Directs`): every lookup of the
question goes below the host that the context gives, with the path of the configuration behind it,
or below the configured host; and it carries each header of the configuration with the text of its
key. Headers whose names differ in case only are one header on the wire, and the greatest name
decides what it says (`HeaderFields.Wins`), since headers are set in ascending order.

The main result (`Deployment.contexts_act`) says both of every command to every deployment, and says
which host is the configured one of a service that a configuration makes.
-/

set_option autoImplicit false

namespace ScimLookup

open Exchange

/-! ## Contexts that are not told apart -/

/-- Two contexts have the same texts under the keys that a configuration needs, or lack the same
ones. -/
def ContextConfig.SeesSame (config : ContextConfig) (context context' : Context) : Prop :=
  ∀ key, config.Needs key → context.get? key = context'.get? key

/-- Two contexts have the same texts under the keys that a service needs, or lack the same ones. A
service that was not configured needs none, and neither does one that makes no use of contexts. -/
def Service.SeesSame (s : Service) (context context' : Context) : Prop :=
  ∀ serving config, s.serving = some serving → serving.context = some config →
    config.SeesSame context context'

namespace Serving

variable {config : ContextConfig} {context context' : Context}

theorem contextText_congr {key : String} (h : context.get? key = context'.get? key) :
    contextText context key = contextText context' key := by
  rw [contextText, contextText, h]

theorem contextHost_congr (h : config.SeesSame context context') :
    contextHost config context = contextHost config context' := by
  rw [contextHost, contextHost]
  by_cases hempty : config.hostField = ""
  · simp [hempty]
  · rw [contextText_congr (h _ (Or.inl ⟨hempty, rfl⟩))]

theorem contextHeaders_congr {fields : List (String × String)}
    (h : ∀ f ∈ fields, context.get? f.2 = context'.get? f.2) :
    contextHeaders context fields = contextHeaders context' fields := by
  induction fields with
  | nil => rfl
  | cons f fields ih =>
      have hrest := ih fun g hg => h g (List.mem_cons_of_mem f hg)
      rw [contextHeaders, contextHeaders] at hrest ⊢
      rw [List.mapM_cons, List.mapM_cons, hrest, contextText_congr (h f List.mem_cons_self)]

/-- What aims the client are the texts under the keys. -/
theorem target_congr (h : config.SeesSame context context') :
    target config context = target config context' := by
  rw [target, target, contextHost_congr h,
    contextHeaders_congr fun f hf => h f.2 (Or.inr ⟨f, hf, rfl⟩)]

end Serving

/-- A question is refused, or has the same client, under contexts that are not told apart. -/
theorem Service.prepare_congr {s : Service} {context context' : Context}
    (h : s.SeesSame context context') (question : Question) (subject : Option String) :
    s.prepare question subject context = s.prepare question subject context' := by
  cases hs : s.serving with
  | none =>
      rw [prepare, prepare, ready, hs]
      rfl
  | some serving =>
      have hclient : serving.clientFor question context = serving.clientFor question context' := by
        rw [Serving.clientFor, Serving.clientFor]
        cases hconfig : serving.context with
        | none => rfl
        | some config => simp only [Serving.target_congr (h serving config hs hconfig)]
      by_cases hblank : IsBlankSubject subject
      · rw [prepare_eq_of_blank hs hblank, prepare_eq_of_blank hs hblank]
      · rw [prepare_eq_of_named hs hblank, prepare_eq_of_named hs hblank, hclient]

namespace Resolution

variable {α β : Type}

/-- The question with another context. -/
def withContext (context : Context) (r : Resolution α) : Resolution α :=
  { r with context }

/-- **Contexts that are not told apart resolve a question alike.** -/
theorem perform_withContext {s : Service} {context context' : Context}
    (h : s.SeesSame context context') (r : Resolution α) :
    (r.withContext context).perform s = (r.withContext context').perform s := by
  have hready : s.prepare r.question r.subject context = s.prepare r.question r.subject context' :=
    s.prepare_congr h r.question r.subject
  rw [perform, perform]
  simp only [withContext, hready]

end Resolution

namespace HostCommand

/-- The command with another context, if it is a question. -/
def withContext (context : Context) : HostCommand → HostCommand
  | .configure around yaml => .configure around yaml
  | .getGroup r => .getGroup { r with context }
  | .getAllGroups _ => .getAllGroups ⟨context⟩
  | .getUsersForGroup r => .getUsersForGroup { r with context }
  | .getGroupsForUser r => .getGroupsForUser { r with context }

theorem resolution?_withContext (context : Context) (command : HostCommand) :
    (command.withContext context).resolution? =
      command.resolution?.map (·.withContext context) := by
  cases command <;> rfl

/-- **A command does the same under contexts that the service does not tell apart.** -/
theorem perform_withContext {s : Service} {context context' : Context}
    (h : s.SeesSame context context') (command : HostCommand) :
    (command.withContext context).perform s = (command.withContext context').perform s := by
  cases hr : command.resolution? with
  | none =>
      cases command with
      | configure around yaml => rfl
      | _ => cases hr
  | some r =>
      have hresolved : ∀ context, (command.withContext context).resolution? =
          some (r.withContext context) := fun context => by
        rw [resolution?_withContext, hr, Option.map_some]
      rw [perform_eq (hresolved context), perform_eq (hresolved context'),
        Resolution.perform_withContext h]

end HostCommand

/-! ## Lookups of a question -/

/-- The request asks for a token of the client, or it is that of a lookup. -/
def Client.Makes (c : Client) (q : Request) : Prop :=
  c.grantRequest? = some (.ok q) ∨ c.LooksUp q

theorem Call.sendsOnly_ask {c : Client} {call : Call} {operation : Operation}
    (hop : call.operation? = some operation) : SendsOnly c.Makes (call.ask c) := by
  rw [ask_eq hop]
  cases hparts : call.parts? c with
  | none => exact .pure _
  | some parts =>
      refine (Client.sendsOnly_exchange (fun q hq => Or.inl hq) fun token q hq => ?_).map _
      exact Or.inr ⟨call, parts, token, hparts, hq⟩

namespace Errand

variable {α : Type} {c : Client}

/-- An errand sends what its lookups send. -/
theorem sendsOnly_run (e : Errand α) : SendsOnly c.Makes (e.run c) := by
  induction e with
  | done a => exact .pure _
  | look quest next ih =>
      rw [run]
      refine SendsOnly.bind (Call.sendsOnly_ask quest.isLookup) fun result => ?_
      cases result with
      | error e => exact .pure _
      | ok v => exact ih v

/-- **All lookups of an errand are lookups of the client that does it.** -/
theorem looksUp_of_mem {e : Errand α} {w w' : World} {j : Journal}
    {o : Outcome (Except ClientError α)} (h : (e.run c).Runs w o j w') :
    ∀ x ∈ j.lookupTraffic, c.LooksUp x.1 := by
  intro x hx
  obtain ⟨hsent, hlookup⟩ := List.mem_filter.1 hx
  -- What asks for a token is no lookup.
  refine ((sendsOnly_run e).sends h x hsent).resolve_left fun hgrant => ?_
  exact of_decide_eq_true hlookup (Client.asksForToken_grantRequest hgrant)

end Errand

/-! ## Headers that are one on the wire -/

namespace Header

/-- The characters of tokens are one byte each. -/
theorem toNat_of_isTokenChar {c : Char} (h : isTokenChar c = true) : c.toNat < 0x80 := by
  by_contra hlarge
  have hne : ∀ d : Char, d.toNat < 0x80 → c ≠ d := by
    rintro d hd rfl
    exact hlarge hd
  have halnum : c.isAlphanum = false := by
    rw [Bool.eq_false_iff]
    intro halnum
    have hrange := Text.range_of_isAlphanum halnum
    omega
  simp (disch := decide) [isTokenChar, hne, halnum] at h

/-- The characters of names are one byte each. -/
theorem toNat_of_name? {name lowered : String} (h : name? name = some lowered) :
    ∀ c ∈ name.toList, c.toNat < 0x80 := by
  rw [name?] at h
  split at h
  · cases h
  · split at h
    · rename_i htoken
      exact fun c hc => toNat_of_isTokenChar (List.all_eq_true.1 htoken c hc)
    · cases h

end Header

namespace HeaderFields

/-- Of the headers with a name, in whatever case, the one whose own name has the greatest bytes. -/
structure Wins (fields : HeaderFields) (name : String) (g : String × String) : Prop where
  mem : g ∈ fields.entries
  lower_eq : Text.lower g.1 = name
  greatest : ∀ f ∈ fields.entries, Text.lower f.1 = name →
    f = g ∨ Utf8.ofString f.1 < Utf8.ofString g.1

/-- **The header that is set last wins.** -/
theorem exists_wins {fields : HeaderFields}
    (hascii : ∀ f ∈ fields.entries, ∀ c ∈ f.1.toList, c.toNat < 0x80) {f : String × String}
    (hf : f ∈ fields.entries) (context : Context) :
    ∃ g, fields.Wins (Text.lower f.1) g ∧
      Client.lastGiven? (Text.lower f.1) (fields.entries.map (Serving.headerOf context)) =
        some ((context.get? g.2).getD "") := by
  have hmem : f ∈ fields.entries.filter (Text.lower ·.1 == Text.lower f.1) :=
    List.mem_filter.2 ⟨hf, beq_self_eq_true _⟩
  rcases List.eq_nil_or_concat (fields.entries.filter (Text.lower ·.1 == Text.lower f.1)) with
    hnil | ⟨before, g, hlast⟩
  · rw [hnil] at hmem
    cases hmem
  rw [List.concat_eq_append] at hlast
  -- The headers with the name stand in ascending order, so all others come before the last one.
  have hascending := fields.ascending.filter (Text.lower ·.1 == Text.lower f.1)
  rw [hlast, List.pairwise_append] at hascending
  have hg : g ∈ fields.entries.filter (Text.lower ·.1 == Text.lower f.1) := by
    rw [hlast]
    exact List.mem_append_right _ List.mem_cons_self
  obtain ⟨hg, hname⟩ := List.mem_filter.1 hg
  refine ⟨g, ⟨hg, beq_iff_eq.1 hname, fun h hh hsame => ?_⟩, ?_⟩
  · have hother : h ∈ before ++ [g] := by
      rw [← hlast]
      exact List.mem_filter.2 ⟨hh, beq_iff_eq.2 hsame⟩
    rcases List.mem_append.1 hother with hbefore | hself
    · exact Or.inr (Utf8.encode_lt_encode (hascii h hh) (hascii g hg)
        (hascending.2.2 h hbefore g List.mem_cons_self))
    · exact Or.inl (List.mem_singleton.1 hself)
  · rw [Client.lastGiven?, List.filter_map]
    show (((fields.entries.filter (Text.lower ·.1 == Text.lower f.1)).map
      (Serving.headerOf context)).getLast?).map (·.2) = _
    rw [hlast, List.map_append, List.map_singleton, List.getLast?_concat]
    rfl

end HeaderFields

namespace Client

/-- What is put among the headers has a name. -/
theorem name?_of_addHeader {hs hs' : Headers} {h : String × String}
    (hadd : addHeader hs h = .ok hs') : ∃ lowered, Header.name? h.1 = some lowered := by
  rw [addHeader] at hadd
  split at hadd
  · cases hadd
  · rename_i lowered hname
    exact ⟨lowered, hname⟩

end Client

/-! ## The client of a question -/

/-- Where the lookups of a question go: to the host that the context gives, with the path behind it,
or to the configured one where no key is named for the host. -/
inductive ContextConfig.AimsAt (config : ContextConfig) (context : Context)
    (configured : String) : String → Prop
  | given {text : String} : config.hostField ≠ "" → context.get? config.hostField = some text →
      AimsAt config context configured (text ++ config.basePath)
  | configured : config.hostField = "" → AimsAt config context configured configured

namespace Serving

/-- The client of a serving was made for a host, and sends nothing along. -/
structure IsMadeFor (serving : Serving) (host : String) : Prop where
  baseUrl_eq : serving.client.baseUrl = Client.trimSlashes host
  headers_eq : serving.client.headers = []

/-- **A configuration is made into a serving for the host that is loaded for it.** -/
theorem isMadeFor_of_ofYaml {around : Surroundings} {yaml : String} {serving : Serving}
    (h : ofYaml around yaml = .ok serving) :
    ∃ c host, Configuration.ofYaml yaml = .ok c ∧ c.host.load around "host" = .ok host ∧
      serving.context = c.context ∧ serving.IsMadeFor host := by
  have hnew := isNew_of_ofYaml h
  rw [ofYaml] at h
  obtain ⟨c, hc, h⟩ := ok_of_bind h
  obtain ⟨client, hclient, h⟩ := ok_of_bind h
  obtain ⟨params, -, h⟩ := ok_of_bind h
  cases h
  obtain ⟨config, hconfig, hclient⟩ := ok_of_bind hclient
  rw [Configuration.clientConfig_eq] at hconfig
  obtain ⟨credentials, -, hconfig⟩ := ok_of_bind hconfig
  obtain ⟨host, hhost, hconfig⟩ := ok_of_bind hconfig
  obtain ⟨roots, -, hconfig⟩ := ok_of_bind hconfig
  cases hconfig
  refine ⟨c, host, hc, hhost, rfl, ?_, hnew.headers_eq⟩
  rw [Client.ofConfig_ok (ok_of_mapError hclient)]
  rfl

variable {serving : Serving} {config : ContextConfig} {context : Context} {configured : String}
  {c : Client}

/-- There is one host that a context aims at. -/
theorem contextHost_of_aimsAt {host : String} (h : config.AimsAt context configured host) :
    ∃ given, contextHost config context = .ok given ∧ given.getD configured = host := by
  cases h with
  | @given text hfield htext =>
      refine ⟨some (text ++ config.basePath), ?_, rfl⟩
      simp [contextHost, hfield, contextText_of_some htext, Except.map]
  | configured hfield => exact ⟨none, by simp [contextHost, hfield], rfl⟩

/-- The client that a context aims is at the host, and sends the headers along. -/
theorem aimed_facts (hmade : serving.IsMadeFor configured) {given : Option String}
    {headers : List (String × String)} (haim : serving.client.aimedAt ⟨given, headers⟩ = .ok c) :
    c.baseUrl = Client.trimSlashes (given.getD configured) ∧
      c.credentials = serving.client.credentials ∧ Client.IsKept c.headers headers ∧
      (∀ h ∈ headers, Text.lower h.1 ∉ Client.reserved) ∧
      ∀ h ∈ headers, ∃ lowered, Header.name? h.1 = some lowered := by
  have hreserved := Client.reserved_of_aimedAt haim
  obtain ⟨hs, hadd, rfl⟩ := Client.aimedAt_ok haim
  refine ⟨?_, rfl, ?_, hreserved, forall_of_foldlM (fun _ _ _ => Client.name?_of_addHeader) hadd⟩
  · cases given with
    | none => exact hmade.baseUrl_eq
    | some host => rfl
  · have hnone : Client.IsKept serving.client.headers [] := by
      rw [hmade.headers_eq]
      exact ⟨fun h hh => absurd hh List.not_mem_nil, fun name => rfl⟩
    exact hnone.foldlM_addHeader hadd

end Serving

namespace Service

open Serving

variable {s : Service} {serving : Serving} {config : ContextConfig} {question : Question}
  {subject : Option String} {context : Context} {ready : Serving × Client}

/-- A question that passes the checks is not about a blank name or id. -/
theorem named_of_prepare (hs : s.serving = some serving)
    (h : s.prepare question subject context = .ok ready) : ¬ IsBlankSubject subject := by
  intro hblank
  rw [prepare_eq_of_blank hs hblank] at h
  cases h

/-- A question that passes the checks has all keys that are needed. -/
theorem suffices_of_prepare (hs : s.serving = some serving)
    (hconfig : serving.context = some config)
    (h : s.prepare question subject context = .ok ready) : Suffices config context := by
  intro key hneeds hnone
  obtain ⟨key', hmissing⟩ := exists_missing_iff.2
    ⟨named_of_prepare hs h, config, hconfig, key, hneeds, hnone⟩
  rw [(prepare_eq_error_iff hs).2 hmissing] at h
  cases h

/-- The client of a question is the one that the context aims. -/
theorem aimedAt_of_prepare (hs : s.serving = some serving)
    (hconfig : serving.context = some config)
    (h : s.prepare question subject context = .ok ready) :
    ∃ given, contextHost config context = .ok given ∧ serving.client.aimedAt
      ⟨given, config.headerFields.entries.map (headerOf context)⟩ = .ok ready.2 := by
  obtain ⟨given, htarget⟩ := exists_target_eq_ok (suffices_of_prepare hs hconfig h)
  rw [prepare_eq_of_named hs (named_of_prepare hs h), clientFor, hconfig] at h
  simp only [htarget] at h
  change ((serving.client.aimedAt _).mapError _).map _ = _ at h
  cases haim : serving.client.aimedAt
      ⟨given, config.headerFields.entries.map (headerOf context)⟩ with
  | error e =>
      rw [haim] at h
      cases h
  | ok c =>
      rw [haim] at h
      cases h
      refine ⟨given, ?_, haim⟩
      rw [target] at htarget
      obtain ⟨given', hgiven, htarget⟩ := ok_of_bind htarget
      obtain ⟨headers, -, htarget⟩ := ok_of_bind htarget
      cases htarget
      exact hgiven

end Service

/-! ## What a context says to a lookup -/

namespace ContextConfig

/-- What a lookup has of the context of its question. -/
structure Directs (config : ContextConfig) (context : Context) (configured : String)
    (credentials : Credentials) (q : Request) : Prop where
  /-- All keys are there. -/
  suffices_keys : Serving.Suffices config context
  /-- The lookup goes below the host, without the slashes at its end, -/
  below : ∀ host, config.AimsAt context configured host →
    q.IsBelow (Client.trimSlashes host) credentials
  /-- and so to the server that the host names. -/
  server_eq : ∀ host base, config.AimsAt context configured host → Url.parse? host = some base →
    base.isWeb = true → q.url.server = Client.destination base
  /-- It carries each header with the text of its key. -/
  headers : ∀ f ∈ config.headerFields.entries, ∃ g text,
    config.headerFields.Wins (Text.lower f.1) g ∧ context.get? g.2 = some text ∧
      Header.values (Text.lower f.1) q.headers = [text]

open Serving

variable {config : ContextConfig} {context : Context} {configured : String} {serving : Serving}
  {given : Option String} {c : Client} {q : Request}

/-- **A lookup of the client that a context aims is directed by it.** -/
theorem directs_of_looksUp (hmade : serving.IsMadeFor configured)
    (hsuffices : Suffices config context) (hgiven : contextHost config context = .ok given)
    (haim : serving.client.aimedAt ⟨given, config.headerFields.entries.map (headerOf context)⟩ =
      .ok c) (h : c.LooksUp q) :
    config.Directs context configured serving.client.credentials q := by
  obtain ⟨hbase, hcredentials, hkept, hreserved, hnames⟩ := aimed_facts hmade haim
  have hhost : ∀ host, config.AimsAt context configured host →
      c.baseUrl = Client.trimSlashes host := by
    intro host haims
    obtain ⟨given', hgiven', rfl⟩ := contextHost_of_aimsAt haims
    rw [hgiven] at hgiven'
    cases hgiven'
    exact hbase
  refine
    { suffices_keys := hsuffices
      below := ?_
      server_eq := ?_
      headers := ?_ }
  · intro host haims
    rw [← hhost host haims, ← hcredentials]
    exact h.isBelow
  · intro host base haims hread hweb
    obtain ⟨call, parts, token, hparts, hq⟩ := h
    exact Client.server_lookupRequest hread hweb (hhost host haims)
      (Call.isBelow_of_parts? hparts) hq
  · intro f hf
    have hascii : ∀ g ∈ config.headerFields.entries, ∀ d ∈ g.1.toList, d.toNat < 0x80 := by
      intro g hg
      obtain ⟨lowered, hname⟩ := hnames _ (List.mem_map_of_mem hg)
      exact Header.toNat_of_name? hname
    obtain ⟨g, hwins, hlast⟩ := HeaderFields.exists_wins hascii hf context
    have hthere : context.get? g.2 ≠ none := hsuffices g.2 (Or.inr ⟨g, hwins.mem, rfl⟩)
    obtain ⟨text, htext⟩ := Option.ne_none_iff_exists'.1 hthere
    rw [htext, Option.getD_some] at hlast
    have hone : Header.values (Text.lower f.1) c.headers = [text] := by
      rw [hkept.values, hlast]
      rfl
    have hfree : Text.lower f.1 ∉ Client.reserved :=
      hreserved (headerOf context f) (List.mem_map_of_mem hf)
    obtain ⟨call, parts, token, hparts, hq⟩ := h
    refine ⟨g, text, hwins, htext, ?_⟩
    rw [Client.values_lookupRequest hq hfree, hone]
    exact if_neg fun h => List.cons_ne_nil _ _ h.2

end ContextConfig

/-! ## Every command -/

namespace Deployment

open Serving

/-- Two commands do the same to a deployment. -/
structure DoSame (d : Deployment) (command command' : HostCommand) : Prop where
  /-- They are one exchange, whatever else goes on and whatever is answered, -/
  perform_eq : command.perform d.service = command'.perform d.service
  /-- and so they end alike, -/
  result_eq : d.result command = d.result command'
  /-- send the same, -/
  journal_eq : d.journal command = d.journal command'
  /-- and leave the same behind. -/
  next_eq : d.next command = d.next command'

/-- The context of a command acts through the keys of the configuration and in no other way. -/
structure ActsThroughKeys (d : Deployment) (command : HostCommand) : Prop where
  /-- A command does the same under contexts that have the same texts under the keys, -/
  alike : ∀ context context', d.service.SeesSame context context' →
    d.DoSame (command.withContext context) (command.withContext context')
  /-- and under all contexts if the configuration makes no use of them. -/
  blind : (∀ serving, d.service.serving = some serving → serving.context = none) →
    ∀ context context', d.DoSame (command.withContext context) (command.withContext context')
  /-- If it does, every lookup is directed by what the context has under the keys. -/
  directed : ∀ serving config configured, d.service.serving = some serving →
    serving.context = some config → serving.IsMadeFor configured →
    ∀ x ∈ (d.journal command).lookupTraffic,
      config.Directs command.context configured serving.client.credentials x.1

variable {d : Deployment} {command command' : HostCommand}

theorem DoSame.of_perform (h : command.perform d.service = command'.perform d.service) :
    d.DoSame command command' where
  perform_eq := h
  result_eq := by rw [result, result, h]
  journal_eq := by rw [journal, journal, h]
  next_eq := by rw [next, next, h]

/-- A configuration looks nothing up. -/
theorem lookupTraffic_configure (d : Deployment) (around : Surroundings) (yaml : String) :
    (d.journal (.configure around yaml)).lookupTraffic = [] := by
  rw [journal]
  cases hyaml : Serving.ofYaml around yaml with
  | error e =>
      rw [HostCommand.perform_configure_error hyaml]
      rfl
  | ok serving =>
      rw [HostCommand.perform_configure_ok hyaml]
      rfl

/-- **What is looked up on a command is looked up by the client of its question.** -/
theorem looksUp_of_mem {x : Request × Reply} (hx : x ∈ (d.journal command).lookupTraffic) :
    ∃ question subject ready,
      d.service.prepare question subject command.context = .ok ready ∧ ready.2.LooksUp x.1 := by
  cases hq : command.question? with
  | none =>
      cases command with
      | configure around yaml =>
          rw [lookupTraffic_configure] at hx
          cases hx
      | _ => cases hq
  | some question =>
      obtain ⟨r, hr, -, -, hcontext⟩ := HostCommand.exists_resolution hq
      rw [journal, HostCommand.perform_eq hr] at hx
      obtain ⟨o, hrun, -⟩ := runs_map_iff.1
        (runs_self (r.perform d.service >>= fun answer => pure (answer, d.service)) d.world)
      rcases Resolution.runs_perform hrun with
        ⟨e, -, -, hnothing, -⟩ | ⟨serving, client, o', hready, herrand, -⟩
      · rw [hnothing] at hx
        cases hx
      · rw [hcontext] at hready
        exact ⟨_, _, _, hready, Errand.looksUp_of_mem herrand x hx⟩

/-- **The context of a command acts through the configured keys only, and aims all that is looked
up.** Whatever a service serves, and whatever the servers answer: under two contexts that have the
same texts under the keys of the host and of the headers, or lack the same ones, a command sends the
same and ends alike; and without a use of contexts in the configuration it does so under any two.
Each lookup on the way, however many there are, goes below the host that the context gives with the
path behind it, or below the configured host where no key is named for one, without the slashes at
its end; and it carries each configured header with the text of its key, and of names that differ in
case only the text for the greatest. The configured host is the one that the configuration loads. -/
theorem contexts_act :
    (∀ (d : Deployment) (command : HostCommand), d.ActsThroughKeys command) ∧
    ∀ around yaml serving, Serving.ofYaml around yaml = .ok serving →
      ∃ c host, Configuration.ofYaml yaml = .ok c ∧ c.host.load around "host" = .ok host ∧
        serving.context = c.context ∧ serving.IsMadeFor host := by
  refine ⟨fun d command => ?_, fun around yaml serving h => isMadeFor_of_ofYaml h⟩
  have hsame : ∀ context context', d.service.SeesSame context context' →
      d.DoSame (command.withContext context) (command.withContext context') :=
    fun context context' h => .of_perform (command.perform_withContext h)
  refine
    { alike := hsame
      blind := ?_
      directed := ?_ }
  · intro hnone context context'
    apply hsame
    intro serving config hserving hconfig
    rw [hnone serving hserving] at hconfig
    cases hconfig
  · intro serving config configured hserving hconfig hmade x hx
    obtain ⟨question, subject, ready, hready, hlooksUp⟩ := looksUp_of_mem hx
    obtain ⟨given, hgiven, haim⟩ := Service.aimedAt_of_prepare hserving hconfig hready
    exact ContextConfig.directs_of_looksUp hmade
      (Service.suffices_of_prepare hserving hconfig hready) hgiven haim hlooksUp

/-- A group with one member is looked up, and then the member: both lookups go to the host of the
context, with the value of the greater name, and nothing changes with a key that nobody needs. -/
theorem contexts_act_folded :
    let fields : HeaderFields := ⟨[("X-Tenant", "a"), ("x-tenant", "b")], by decide +kernel⟩
    let config : ContextConfig := ⟨"host", fields, "/scim//"⟩
    let serving : Serving :=
      ⟨.plain "http://[::1]/" (.basic "id" "secret"), .standard, some config, .traversal⟩
    let context :=
      ((Context.empty.insert ("host", "http://[::2]")).insert ("a", "1")).insert ("b", "2")
    let group := Json.Value.object [("id", .string "g"),
      ("members", .array [.object [("value", .string "u")]])]
    let user := Json.Value.object [("id", .string "u"), ("userName", .string "ann")]
    let answers := [group, user].map fun v => Reply.answer ⟨.ok, some (Utf8.encode v.written)⟩
    let d : Deployment :=
      ⟨⟨some serving⟩, { World.fresh (fun _ => true) (fun _ => 0) with replies := answers }⟩
    let command : HostCommand := .getUsersForGroup ⟨"g", context⟩
    (d.journal command).lookupTraffic.length = 2 ∧
      (∀ x ∈ (d.journal command).lookupTraffic,
        x.1.IsBelow "http://[::2]/scim" (.basic "id" "secret") ∧
          Header.values "x-tenant" x.1.headers = ["2"]) ∧
      d.journal (command.withContext (context.insert ("c", "3"))) = d.journal command := by
  intro fields config serving context group user answers d command
  have hacts := contexts_act.1 d command
  refine ⟨by decide +kernel, fun x hx => ?_, ?_⟩
  · have hdirected := hacts.directed serving config "http://[::1]/" rfl rfl ⟨rfl, rfl⟩ x hx
    have haims : config.AimsAt context "http://[::1]/" ("http://[::2]" ++ "/scim//") :=
      .given (by decide) (by decide +kernel)
    have haddress : Client.trimSlashes ("http://[::2]" ++ "/scim//") = "http://[::2]/scim" := by
      decide +kernel
    have hbelow := hdirected.below _ haims
    rw [haddress] at hbelow
    refine ⟨hbelow, ?_⟩
    obtain ⟨g, text, hwins, htext, hvalues⟩ :=
      hdirected.headers ("X-Tenant", "a") List.mem_cons_self
    -- The other name has the greater bytes.
    have hlast : g = ("x-tenant", "b") := by
      rcases List.mem_cons.1 hwins.mem with hfirst | hsecond
      · rcases hwins.greatest ("x-tenant", "b") (by decide +kernel) (by decide +kernel) with
          hsame | hlt
        · exact hsame.symm
        · rw [hfirst] at hlt
          exact absurd hlt (by decide +kernel)
      · exact List.mem_singleton.1 hsecond
    have htold : context.get? "b" = some "2" := by decide +kernel
    have hname : Text.lower "X-Tenant" = "x-tenant" := by decide +kernel
    rw [hlast] at htext
    cases htold.symm.trans htext
    rw [← hname]
    exact hvalues
  · refine (hacts.alike _ context ?_).journal_eq
    intro serving' config' hserving hconfig key hneeds
    cases hserving
    cases hconfig
    have hkeys : key = "host" ∨ key = "a" ∨ key = "b" := by
      rcases hneeds with ⟨-, rfl⟩ | ⟨f, hf, rfl⟩
      · exact Or.inl rfl
      · rcases List.mem_cons.1 hf with rfl | hf
        · exact Or.inr (Or.inl rfl)
        · rw [List.mem_singleton.1 hf]
          exact Or.inr (Or.inr rfl)
    rcases hkeys with rfl | rfl | rfl
    · decide +kernel
    · decide +kernel
    · decide +kernel

end Deployment

end ScimLookup
