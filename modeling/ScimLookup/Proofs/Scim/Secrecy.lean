import ScimLookup.Proofs.Scim.Likeness
import ScimLookup.Proofs.Scim.SentHeaders
import ScimLookup.Proofs.Scim.TokenHistory

/-!
# What depends on a secret

Two clients are twins if nothing but their secrets tells them apart (`Client.Twins`). Whatever twins
are used for, they do alike: the secret goes into values that authorize a request by a name and a
password, and nowhere else. So nobody who sees what they find, which errors they report and what
they send, those values apart, learns which of the two it was.

The main result (`secrets_stay_hidden`) says this of configurations: twins can be made into clients
both or not at all, these clients have the same summary of their credentials, and in any world they
go through any number of uses with the same outcomes and with journals that look alike
(`ClientConfig.Conceals`). A certificate shows its size in the summary, and its key nothing at all.
-/

set_option autoImplicit false

namespace ScimLookup

open Exchange

/-! ## Twins -/

namespace Credentials

/-- The credentials are the same but for their secrets, which are not empty. -/
inductive Twins : Credentials → Credentials → Prop
  | basic {id secret secret' : String} :
      secret ≠ "" → secret' ≠ "" → Twins (.basic id secret) (.basic id secret')
  | oauth2 {id secret secret' endpoint : String} {scopes : List String} :
      secret ≠ "" → secret' ≠ "" →
      Twins (.oauth2 id secret endpoint scopes) (.oauth2 id secret' endpoint scopes)

namespace Twins

variable {k k' : Credentials}

/-- **A secret is not in the summary.** -/
theorem summary_eq (h : k.Twins k') : k.summary = k'.summary := by
  cases h with
  | basic => rfl
  | oauth2 => rfl

/-- That a secret is there says nothing about it. -/
theorem validate_eq (h : k.Twins k') : k.validate = k'.validate := by
  have hempty : ∀ secret : String, secret ≠ "" → secret.isEmpty = false := by
    intro secret hsecret
    rw [Bool.eq_false_iff, ne_eq, String.isEmpty_iff]
    exact hsecret
  cases h with
  | basic hs hs' => simp only [validate, clientId, hempty _ hs, hempty _ hs']
  | oauth2 hs hs' => simp only [validate, clientId, hempty _ hs, hempty _ hs']

theorem identity_eq (h : k.Twins k') : k.identity = k'.identity := by
  cases h with
  | basic => rfl
  | oauth2 => rfl

end Twins

/-- **A certificate and its key show no more in the summary than the size of the certificate.** -/
theorem summary_mtls (id : String) {c c' : ClientCertificate}
    (h : c.certificate.length = c'.certificate.length) :
    (mtls id c).summary = (mtls id c').summary := by
  rw [summary, summary, ClientCertificate.summary, ClientCertificate.summary, h]

end Credentials

/-- The configurations are the same but for the secrets in their credentials. -/
inductive ClientConfig.Twins : ClientConfig → ClientConfig → Prop
  | mk {host : String} {k k' : Credentials} {timeout : Nat} {roots : Option Bytes} :
      k.Twins k' → Twins ⟨host, k, timeout, roots⟩ ⟨host, k', timeout, roots⟩

namespace Client

/-- The clients are the same but for the secrets in their credentials. -/
inductive Twins : Client → Client → Prop
  | mk {baseUrl : String} {k k' : Credentials} {timeout : Option Nat} {agent : Option String}
      {headers : Headers} :
      k.Twins k' → Twins ⟨baseUrl, k, timeout, agent, headers⟩ ⟨baseUrl, k', timeout, agent, headers⟩

end Client

/-- The results are the same error, or values that are related. -/
inductive Matched {ε α : Type} (R : α → α → Prop) : Except ε α → Except ε α → Prop
  | error (e : ε) : Matched R (.error e) (.error e)
  | ok {a a' : α} : R a a' → Matched R (.ok a) (.ok a')

namespace Matched

variable {ε α β : Type} {R : α → α → Prop} {S : β → β → Prop}

theorem bind {x x' : Except ε α} {f f' : α → Except ε β} (hx : Matched R x x')
    (hf : ∀ a a', R a a' → Matched S (f a) (f' a')) : Matched S (x >>= f) (x' >>= f') := by
  cases hx with
  | error e => exact .error e
  | ok ha => exact hf _ _ ha

theorem bind_same {x : Except ε α} {f f' : α → Except ε β} (hf : ∀ a, Matched S (f a) (f' a)) :
    Matched S (x >>= f) (x >>= f') := by
  cases x with
  | error e => exact .error e
  | ok a => exact hf a

end Matched

namespace Client

open Json

/-- **Twins are made both or not at all**, for the same reason. -/
theorem matched_ofConfig {config config' : ClientConfig} (h : config.Twins config')
    (connector : Connector) :
    Matched Twins (ofConfig config connector) (ofConfig config' connector) := by
  cases h with
  | @mk host k k' timeout roots hk =>
      rw [ofConfig, ofConfig]
      simp only [hk.validate_eq, hk.identity_eq]
      refine .bind_same fun _ => .bind_same fun identity => ?_
      -- Whichever roots there are, they are the same for both.
      have hbuilt : ∀ roots : List Bytes, Matched Twins
          (if connector.takes identity roots then
            pure { plain host k with timeout := some timeout, agent := some agentName }
          else throw (.setup .notACertificate) : Except ClientError Client)
          (if connector.takes identity roots then
            pure { plain host k' with timeout := some timeout, agent := some agentName }
          else throw (.setup .notACertificate)) := by
        intro roots
        split
        · exact .ok (.mk hk)
        · exact .error _
      cases roots with
      | none => exact hbuilt []
      | some pem => exact .bind_same hbuilt

/-- Twins are aimed both or not at all, and are twins afterwards. -/
theorem Twins.matched_aimedAt {c c' : Client} (h : c.Twins c') (t : Target) :
    Matched Twins (c.aimedAt t) (c'.aimedAt t) := by
  cases h with
  | mk hk => exact .bind_same fun headers => .ok (.mk hk)

theorem Twins.matched_aimedAlong {c c' : Client} (h : c.Twins c') (targets : List Target) :
    Matched Twins (c.aimedAlong targets) (c'.aimedAlong targets) := by
  induction targets generalizing c c' with
  | nil => exact .ok h
  | cons t targets ih =>
      rw [aimedAlong, List.foldlM_cons, aimedAlong, List.foldlM_cons]
      exact (h.matched_aimedAt t).bind fun _ _ h₁ => ih h₁

/-! ## What twins send -/

/-- The drafts have the same address, and headers that look alike. -/
structure Draft.Alike (d d' : Draft) : Prop where
  url_eq : d.url = d'.url
  headers : Header.Alike d.headers d'.headers

/-- The credentials of twins go into drafts that look alike, or into none. -/
theorem matched_authorize {k k' : Credentials} (h : k.Twins k') (d : Draft)
    (token : Option String) : Matched Draft.Alike (authorize d k token) (authorize d k' token) := by
  cases h with
  | basic =>
      exact .ok ⟨rfl, (Header.Alike.refl d.headers).append (.basicAuthorization _ _ _)⟩
  | oauth2 =>
      cases token with
      | none => exact .ok ⟨rfl, .refl _⟩
      | some text =>
          simp only [authorize]
          split
          · exact .ok ⟨rfl, .refl _⟩
          · exact .error _

namespace Twins

variable {c c' : Client}

theorem withDefaults (h : c.Twins c') {hs hs' : Headers} (hhs : Header.Alike hs hs') :
    Header.Alike (c.withDefaults hs) (c'.withDefaults hs') := by
  cases h with
  | @mk _ _ _ _ agent _ hk =>
      rw [Client.withDefaults, Client.withDefaults]
      cases agent with
      | none => exact hhs.defaultHeader _ _
      | some name => exact (hhs.defaultHeader _ _).defaultHeader _ _

theorem matched_lookupDraft (h : c.Twins c') (method : Method) (address : String)
    (token : Option String) :
    Matched Draft.Alike (c.lookupDraft method address token)
      (c'.lookupDraft method address token) := by
  cases h with
  | mk hk =>
      rw [lookupDraft, lookupDraft]
      split
      · exact .error _
      · split
        · exact .error _
        · exact matched_authorize hk _ token

/-! ## What twins do -/

/-- Twins send drafts that look alike in the same way. -/
theorem dispatch (h : c.Twins c') (method : Method) {d d' : Draft} (hd : d.Alike d')
    (body : String) : (c.dispatch method d body).Alike (c'.dispatch method d' body) := by
  rw [Client.dispatch, Client.dispatch, hd.url_eq]
  split
  · have hr : Request.Alike ⟨method, d'.url, c.withDefaults d.headers, body⟩
        ⟨method, d'.url, c'.withDefaults d'.headers, body⟩ :=
      ⟨rfl, rfl, h.withDefaults hd.headers, rfl⟩
    exact Exchange.Alike.bind_right (.send hr .done) _
  · exact .refl _

/-- The secret goes into the header that asks for a token, and nowhere else. -/
theorem requestGrant (h : c.Twins c') (id secret secret' endpoint : String)
    (scopes : List String) :
    (c.requestGrant id secret endpoint scopes).Alike
      (c'.requestGrant id secret' endpoint scopes) := by
  rw [Client.requestGrant, Client.requestGrant]
  cases draft? endpoint with
  | none => exact .refl _
  | some d =>
      simp only
      split
      · exact .refl _
      · apply Exchange.Alike.bind_right
        apply h.dispatch
        refine ⟨rfl, (Header.Alike.refl d.headers).append ?_⟩
        exact (Header.Alike.basicAuthorization id secret secret').append (.refl [_])

theorem bearerToken (h : c.Twins c') (id secret secret' endpoint : String)
    (scopes : List String) :
    (c.bearerToken id secret endpoint scopes).Alike (c'.bearerToken id secret' endpoint scopes) := by
  refine Exchange.Alike.bind (.refl usableToken) fun usable => ?_
  cases usable with
  | some text => exact .refl _
  | none => exact (h.requestGrant id secret secret' endpoint scopes).bind_right _

theorem tokenFor (h : c.Twins c') : c.tokenFor.Alike c'.tokenFor := by
  have hc := h
  cases h with
  | mk hk =>
      cases hk with
      | basic => exact .refl _
      | oauth2 => exact (hc.bearerToken _ _ _ _ _).bind_right _

/-- **Twins make a lookup alike.** -/
theorem exchange (h : c.Twins c') {α : Type} (r : Reader α) (method : Method)
    (address body : String) :
    (c.exchange r method address body).Alike (c'.exchange r method address body) := by
  refine Exchange.Alike.bind h.tokenFor fun found => ?_
  cases found with
  | error fault => exact .refl _
  | ok token =>
      have hdraft := h.matched_lookupDraft method address token
      simp only
      generalize c.lookupDraft method address token = draft,
        c'.lookupDraft method address token = draft' at hdraft ⊢
      cases hdraft with
      | error fault => exact .refl _
      | ok hd => exact (h.dispatch method hd body).bind_right _

theorem getOne (h : c.Twins c') {α : Type} (operation : Operation) (r : Reader α)
    (collection : Collection) (id : String) :
    (c.getOne operation r collection id).Alike (c'.getOne operation r collection id) := by
  have hc := h
  cases h with
  | mk hk => exact (hc.exchange r .get _ "").bind_right _

theorem list (h : c.Twins c') {α : Type} (operation : Operation) (r : Reader α)
    (collection : Collection) (method : ListMethod) (filter : Filter) (page : Page) :
    (c.list operation r collection method filter page).Alike
      (c'.list operation r collection method filter page) := by
  have hc := h
  cases h with
  | mk hk =>
      rw [Client.list, Client.list]
      split
      · exact .refl _
      · exact (hc.exchange _ _ _ _).bind_right _

/-- **Twins do alike whatever they are called for.** -/
theorem perform (h : c.Twins c') (call : Call) : (call.perform c).Alike (call.perform c') := by
  cases call with
  | getUser id => exact (h.getOne _ _ _ id).bind_right _
  | getGroup id => exact (h.getOne _ _ _ id).bind_right _
  | listUsers method filter page => exact (h.list _ _ _ method filter page).bind_right _
  | listGroups method filter page => exact (h.list _ _ _ method filter page).bind_right _
  | forget => exact .refl _

end Twins

/-! ## Uses of clients -/

/-- What a client is used for: it is aimed along targets, and called then. -/
structure Use where
  targets : List Target
  call : Call

/-- What a use does. A client that cannot be aimed so is not called. -/
def Use.perform (c : Client) (use : Use) : Exchange (Except ClientError Found) :=
  match c.aimedAlong use.targets with
  | .error e => return .error e
  | .ok aimed => use.call.perform aimed

/-- The turns that uses of a client become, one after another in one world. -/
def turns (c : Client) (w : World) : List Use → List Turn
  | [] => []
  | use :: uses =>
    ⟨use.call, ((use.perform c).run w).1, (use.perform c).journal w⟩ ::
      c.turns ((use.perform c).run w).2 uses

end Client

/-- The same was called for and had the same outcome, and what happened looks alike. -/
structure Turn.Alike (t t' : Turn) : Prop where
  call_eq : t.call = t'.call
  outcome_eq : t.outcome = t'.outcome
  journal : t.journal.Alike t'.journal

namespace Client

theorem Twins.use {c c' : Client} (h : c.Twins c') (use : Use) :
    (use.perform c).Alike (use.perform c') := by
  have haimed := h.matched_aimedAlong use.targets
  rw [Use.perform, Use.perform]
  generalize c.aimedAlong use.targets = aimed, c'.aimedAlong use.targets = aimed' at haimed ⊢
  cases haimed with
  | error e => exact .refl _
  | ok hc => exact hc.perform use.call

/-- **Twins go through the same turns**, as far as anyone can see. -/
theorem Twins.turns {c c' : Client} (h : c.Twins c') {w w' : World} (hw : w.Alike w')
    (uses : List Use) : List.Forall₂ Turn.Alike (c.turns w uses) (c'.turns w' uses) := by
  induction uses generalizing w w' with
  | nil => exact .nil
  | cons use uses ih =>
      obtain ⟨houtcome, hjournal, hafter⟩ := (h.use use).runs hw (runs_self _ _) (runs_self _ _)
      exact .cons ⟨rfl, houtcome, hjournal⟩ (ih hafter)

end Client

/-! ## Configurations -/

/-- What the configurations are used for does not tell them apart. -/
structure ClientConfig.Conceals (config config' : ClientConfig) : Prop where
  /-- The summaries of their credentials are the same. -/
  summary_eq : config.credentials.summary = config'.credentials.summary
  /-- If one of them makes no client, then nor does the other, for the same reason. -/
  error_iff : ∀ connector e, Client.ofConfig config connector = .error e ↔
    Client.ofConfig config' connector = .error e
  /-- In any world, their clients go through any uses with the same outcomes, and what happens looks
  alike. -/
  turns : ∀ connector c c', Client.ofConfig config connector = .ok c →
    Client.ofConfig config' connector = .ok c' →
    ∀ w uses, List.Forall₂ Turn.Alike (c.turns w uses) (c'.turns w uses)

namespace Client

theorem conceals_of_twins {config config' : ClientConfig} (h : config.Twins config') :
    config.Conceals config' := by
  have hmade := matched_ofConfig h
  refine ⟨?_, ?_, ?_⟩
  · cases h with
    | mk hk => exact hk.summary_eq
  · intro connector e
    have hconnector := hmade connector
    generalize ofConfig config connector = x, ofConfig config' connector = x' at hconnector ⊢
    cases hconnector with
    | error e' => exact Iff.rfl
    | ok hc => exact ⟨nofun, nofun⟩
  · intro connector c c' hc hc' w uses
    have hconnector := hmade connector
    rw [hc, hc'] at hconnector
    cases hconnector with
    | ok htwins => exact htwins.turns (.refl w) uses

/-- **Secrets stay hidden.** Configurations that differ in their secrets only cannot be told apart by
what they are used for, and those with a certificate show no more of it and of its key than the size
of the certificate. -/
theorem secrets_stay_hidden :
    (∀ config config' : ClientConfig, config.Twins config' → config.Conceals config') ∧
      ∀ id (c c' : ClientCertificate), c.certificate.length = c'.certificate.length →
        (Credentials.mtls id c).summary = (Credentials.mtls id c').summary :=
  ⟨fun _ _ => conceals_of_twins, fun id _ _ => Credentials.summary_mtls id⟩

/-- Two secrets get the same token, and it is all that the lookups after it carry. -/
theorem secrets_stay_hidden_granted :
    let config (secret : String) : ClientConfig :=
      ⟨"http://[::1]/scim", .oauth2 "id" secret "http://[::1]/token" [], 30, none⟩
    let grant := Utf8.ofString "\x7b\x22access_token\x22:\x22t\x22\x7d"
    let w := { World.fresh (fun _ => true) fun _ => 0 with
      replies := [.answer ⟨.ok, some grant⟩, .answer ⟨.unauthorized, none⟩] }
    let certificate : ClientCertificate := ⟨[1], [2]⟩
    let authorizations (c : Client) := (c.turns w [⟨[], .getUser "u"⟩]).flatMap fun t =>
      t.journal.traffic.map fun x => Header.values "authorization" x.1.headers
    (config "one").Conceals (config "two") ∧
      (Credentials.mtls "id" certificate).summary = (Credentials.mtls "id" ⟨[3], [4, 5]⟩).summary ∧
      ∃ c c', ofConfig (config "one") .standard = .ok c ∧
        ofConfig (config "two") .standard = .ok c' ∧
        authorizations c = [["Basic aWQ6b25l"], ["Bearer t"]] ∧
        authorizations c' = [["Basic aWQ6dHdv"], ["Bearer t"]] := by
  intro config grant w certificate authorizations
  have htwins : (config "one").Twins (config "two") := .mk (.oauth2 (by decide) (by decide))
  have hmade : ∀ secret, secret ≠ "" → ofConfig (config secret) .standard =
      .ok { plain (config secret).host (config secret).credentials with
        timeout := some 30
        agent := some agentName } := by
    intro secret hsecret
    have hvalid : (config secret).credentials.validate = .ok () := by
      simp [config, Credentials.validate, Credentials.clientId, hsecret]
      decide
    rw [ofConfig, hvalid]
    rfl
  refine ⟨secrets_stay_hidden.1 _ _ htwins, secrets_stay_hidden.2 _ _ _ rfl, _, _,
    hmade _ (by decide), hmade _ (by decide), ?_, ?_⟩
  · decide +kernel
  · decide +kernel

end Client

end ScimLookup
