import ScimLookup.Proofs.Json.Record
import ScimLookup.Proofs.Settings.Sequence
import ScimLookup.Settings.Configuration

/-!
# What a configuration refers to

A configuration has a fixed set of references (`Reference`), and each of them is there or not. What
is loaded for them decides which credentials and which roots a client is made from; the equations
below take the loading apart, one reference after the other.
-/

set_option autoImplicit false

namespace ScimLookup

/-! ## References -/

/-- The parameters of resolution. -/
inductive Param where
  | listMethod
  | allowSearchUsersByGroup
  | groupAttribute
  | userAttribute
  | groupMembersAttribute
deriving DecidableEq, Repr

namespace Param

/-- The name of a parameter in errors. -/
def name : Param → String
  | .listMethod => "params.listMethod"
  | .allowSearchUsersByGroup => "params.allowSearchUsersByGroup"
  | .groupAttribute => "params.groupAttribute"
  | .userAttribute => "params.userAttribute"
  | .groupMembersAttribute => "params.groupMembersAttribute"

/-- A parameter as it is given. -/
def source? (p : ParamSources) : Param → Option Source
  | .listMethod => p.listMethod
  | .allowSearchUsersByGroup => p.allowSearchUsersByGroup
  | .groupAttribute => p.groupAttribute
  | .userAttribute => p.userAttribute
  | .groupMembersAttribute => p.groupMembersAttribute

/-- The parameters in the order in which they are resolved. -/
def order : List Param :=
  [.listMethod, .allowSearchUsersByGroup, .groupAttribute, .userAttribute, .groupMembersAttribute]

/-- A parameter can have a value. Every text names an attribute. -/
def Admits : Param → String → Prop
  | .listMethod, value => ListMethod.ofText? value ≠ none
  | .allowSearchUsersByGroup, value =>
    Text.eqIgnoringCase value "true" = true ∨ Text.eqIgnoringCase value "false" = true
  | _, _ => True

end Param

/-- The parameters with another source for one of them, or without it. -/
def ParamSources.give (given : ParamSources) (p : Param) (source : Option Source) : ParamSources :=
  match p with
  | .listMethod => { given with listMethod := source }
  | .allowSearchUsersByGroup => { given with allowSearchUsersByGroup := source }
  | .groupAttribute => { given with groupAttribute := source }
  | .userAttribute => { given with userAttribute := source }
  | .groupMembersAttribute => { given with groupMembersAttribute := source }

namespace Param

theorem source?_give (p : Param) (given : ParamSources) (source : Option Source) :
    p.source? (given.give p source) = source := by
  cases p <;> rfl

theorem give_source? (p : Param) (given : ParamSources) :
    given.give p (p.source? given) = given := by
  cases p <;> rfl

theorem source?_give_of_ne {p q : Param} (h : q ≠ p) (given : ParamSources)
    (source : Option Source) : q.source? (given.give p source) = q.source? given := by
  cases p <;> cases q <;> first | rfl | exact absurd rfl h

end Param

namespace Params

variable {s s' : Surroundings} {sources sources' : ParamSources} {source : Source}
  {name raw value : String}

/-- A value that is not empty. -/
def filled? (value : String) : Option String :=
  if value.isEmpty then none else some value

theorem filled?_eq_some_iff {text : String} :
    filled? value = some text ↔ value = text ∧ text ≠ "" := by
  rw [filled?]
  split
  · rename_i hempty
    rw [String.isEmpty_iff] at hempty
    simp [hempty, eq_comm]
  · rename_i hfilled
    rw [String.isEmpty_iff] at hfilled
    simp only [Option.some.injEq]
    constructor
    · rintro rfl
      exact ⟨rfl, hfilled⟩
    · exact And.left

/-- A blank text counts as an empty one. -/
theorem unquoted_of_blank (h : Text.isBlank raw = true) : unquoted name raw = .ok "" := by
  rw [unquoted, (Text.isBlank_iff_trim raw).1 h]
  rfl

/-- What is given by a source is what its text counts as. -/
theorem given_of_load (h : source.load s name = .ok raw) :
    given s name (some source) = (unquoted name raw).map filled? := by
  rw [given, h]
  rfl

/-- Parameters are resolved alike if the same is given for each of them. -/
theorem resolve_congr
    (h : ∀ p : Param, given s p.name (p.source? sources) = given s' p.name (p.source? sources')) :
    resolve s sources = resolve s' sources' := by
  have hmethod : given s "params.listMethod" sources.listMethod =
      given s' "params.listMethod" sources'.listMethod := h .listMethod
  have hallow : given s "params.allowSearchUsersByGroup" sources.allowSearchUsersByGroup =
      given s' "params.allowSearchUsersByGroup" sources'.allowSearchUsersByGroup :=
    h .allowSearchUsersByGroup
  have hgroup : given s "params.groupAttribute" sources.groupAttribute =
      given s' "params.groupAttribute" sources'.groupAttribute := h .groupAttribute
  have huser : given s "params.userAttribute" sources.userAttribute =
      given s' "params.userAttribute" sources'.userAttribute := h .userAttribute
  have hmembers : given s "params.groupMembersAttribute" sources.groupMembersAttribute =
      given s' "params.groupMembersAttribute" sources'.groupMembersAttribute :=
    h .groupMembersAttribute
  rw [resolve, resolve, hmethod, hallow, hgroup, huser, hmembers]

/-- Two sources of a parameter for which the same is given make no difference. -/
theorem resolve_give_congr {p : Param} {source source' : Option Source}
    (h : given s p.name source = given s p.name source') :
    resolve s (sources.give p source) = resolve s (sources.give p source') := by
  refine resolve_congr fun q => ?_
  by_cases hq : q = p
  · rw [hq, Param.source?_give, Param.source?_give, h]
  · rw [Param.source?_give_of_ne hq, Param.source?_give_of_ne hq]

end Params

namespace AuthMode

/-- The secret, if one is given. -/
def secret? : AuthMode → Option Source
  | .basic _ secret => secret
  | .mtls .. => none
  | .oauth2 _ secret _ _ => secret

/-- A secret is wanted unless a certificate proves who the client is. -/
def wantsSecret : AuthMode → Bool
  | .mtls .. => false
  | _ => true

/-- The certificate, where one is given. -/
def certificate? : AuthMode → Option Source
  | .mtls _ certificate _ => some certificate
  | _ => none

/-- The key of the certificate, where one is given. -/
def key? : AuthMode → Option Source
  | .mtls _ _ key => some key
  | _ => none

/-- Where tokens are asked for, if they are used. -/
def endpoint? : AuthMode → Option Source
  | .oauth2 _ _ endpoint _ => some endpoint
  | _ => none

end AuthMode

/-- The references of a configuration. -/
inductive Reference where
  | clientId
  | secret
  | certificate
  | key
  | endpoint
  | host
  | roots
  | param (p : Param)
deriving DecidableEq, Repr

namespace Reference

/-- The name of a reference in errors. -/
def field : Reference → String
  | .clientId => "auth.clientId"
  | .secret => "auth.clientSecret"
  | .certificate => "auth.cert"
  | .key => "auth.key"
  | .endpoint => "auth.tokenEndpoint"
  | .host => "host"
  | .roots => "auth.ca"
  | .param p => p.name

/-- What stands in a configuration for a reference, if anything does. -/
def source? (c : Configuration) : Reference → Option Source
  | .clientId => some c.auth.clientId
  | .secret => c.auth.secret?
  | .certificate => c.auth.certificate?
  | .key => c.auth.key?
  | .endpoint => c.auth.endpoint?
  | .host => some c.host
  | .roots => c.roots
  | .param p => p.source? c.params

/-- A reference is there and has a text. -/
def Loads (r : Reference) (s : Surroundings) (c : Configuration) (text : String) : Prop :=
  ∃ source, r.source? c = some source ∧ source.load s r.field = .ok text

variable {r : Reference} {s : Surroundings} {c : Configuration} {source : Source} {text : String}

theorem loads_iff (h : r.source? c = some source) :
    r.Loads s c text ↔ source.load s r.field = .ok text := by
  constructor
  · rintro ⟨source', hsource', hload⟩
    rw [h] at hsource'
    cases hsource'
    exact hload
  · intro hload
    exact ⟨source, h, hload⟩

/-- A reference has one text. -/
theorem Loads.unique {text' : String} (h : r.Loads s c text) (h' : r.Loads s c text') :
    text = text' := by
  obtain ⟨source, hsource, hload⟩ := h
  rw [loads_iff hsource, hload] at h'
  exact Except.ok.inj h'

theorem not_loads (h : r.source? c = none) : ¬ r.Loads s c text := by
  rintro ⟨source, hsource, -⟩
  rw [h] at hsource
  cases hsource

end Reference

namespace Configuration

/-- A configuration has a certificate and a key, and these are their texts. -/
def LoadsCertificate (c : Configuration) (s : Surroundings) (certificate : ClientCertificate) :
    Prop :=
  ∃ certificateText keyText, Reference.certificate.Loads s c certificateText ∧
    Reference.key.Loads s c keyText ∧
    certificate = ⟨Utf8.ofString certificateText, Utf8.ofString keyText⟩

/-- A configuration has roots, and this is their text. -/
def LoadsRoots (c : Configuration) (s : Surroundings) (pem : Bytes) : Prop :=
  ∃ text, Reference.roots.Loads s c text ∧ pem = Utf8.ofString text

end Configuration

/-! ## Loading -/

section Loading

variable {s : Surroundings} {c : Configuration} {mode : AuthMode} {credentials : Credentials}
  {config : ClientConfig}

/-- A source that has no text is said so under the field that it is for. -/
theorem Source.names_field_of_load {source : Source} {field : String} {e : ConfigError}
    (h : source.load s field = .error e) : ∃ fault, e = .source field fault := by
  have hscalar : ∀ v, Source.load.scalar field v = .error e → ∃ fault, e = .source field fault := by
    intro v hv
    rw [load.scalar] at hv
    split at hv
    · cases hv
    · cases hv
      exact ⟨_, rfl⟩
  cases source with
  | literal v => exact hscalar v h
  | embedded v => exact hscalar v h
  | file path =>
      rw [load] at h
      split at h
      · cases h
      · cases h
        exact ⟨_, rfl⟩
  | env name =>
      rw [load] at h
      split at h
      · cases h
      · cases h
        exact ⟨_, rfl⟩

/-- Loading credentials, step by step. -/
theorem AuthMode.credentials_eq (s : Surroundings) (mode : AuthMode) :
    mode.credentials s = mode.clientId.load s "auth.clientId" >>= fun id =>
      if Text.isBlank id = true then .error (.client .clientIdRequired)
      else mode.loadFor s id >>= fun c =>
        c.validate.mapError ConfigError.client >>= fun _ => .ok c := by
  rw [credentials]
  refine congrArg (Except.bind _) (funext fun id => ?_)
  split
  · rfl
  · rfl

/-- What credentials that were loaded have gone through. -/
theorem AuthMode.facts_of_credentials (h : mode.credentials s = .ok credentials) :
    ∃ id, mode.loadFor s id = .ok credentials ∧ credentials.validate = .ok () := by
  rw [credentials_eq] at h
  obtain ⟨id, -, h⟩ := ok_of_bind h
  split at h
  · cases h
  · obtain ⟨found, hload, h⟩ := ok_of_bind h
    obtain ⟨u, hvalid, h⟩ := ok_of_bind h
    cases h
    exact ⟨id, hload, ok_of_mapError hvalid⟩

/-- The certificate of credentials that have one. -/
def Credentials.certificate? : Credentials → Option ClientCertificate
  | .mtls _ certificate => some certificate
  | _ => none

/-- The certificate of a configuration is that of its credentials. -/
theorem Configuration.loadsCertificate_iff (h : c.auth.credentials s = .ok credentials)
    (certificate : ClientCertificate) :
    c.LoadsCertificate s certificate ↔ credentials.certificate? = some certificate := by
  obtain ⟨id, hload, -⟩ := AuthMode.facts_of_credentials h
  obtain ⟨host, auth, roots, context, params, timeout⟩ := c
  cases auth with
  | basic idSource secret =>
      obtain ⟨text, -, hload⟩ := ok_of_bind hload
      cases hload
      constructor
      · rintro ⟨_, _, hcertificate, -⟩
        exact absurd hcertificate (Reference.not_loads rfl)
      · intro hnone
        cases hnone
  | mtls idSource certificateSource keySource =>
      obtain ⟨certificateText, hcertificate, hload⟩ := ok_of_bind hload
      obtain ⟨keyText, hkey, hload⟩ := ok_of_bind hload
      cases hload
      constructor
      · rintro ⟨certificateText', keyText', hcertificate', hkey', rfl⟩
        rw [hcertificate'.unique ⟨certificateSource, rfl, hcertificate⟩,
          hkey'.unique ⟨keySource, rfl, hkey⟩]
        rfl
      · intro hsome
        cases hsome
        exact ⟨certificateText, keyText, ⟨certificateSource, rfl, hcertificate⟩,
          ⟨keySource, rfl, hkey⟩, rfl⟩
  | oauth2 idSource secret endpoint scopes =>
      obtain ⟨text, -, hload⟩ := ok_of_bind hload
      obtain ⟨endpointText, -, hload⟩ := ok_of_bind hload
      cases hload
      constructor
      · rintro ⟨_, _, hcertificate, -⟩
        exact absurd hcertificate (Reference.not_loads rfl)
      · intro hnone
        cases hnone

/-- Load the roots, if there are any. -/
def Configuration.loadRoots (s : Surroundings) : Option Source →
    Except ConfigError (Option String)
  | some source => some <$> source.load s "auth.ca"
  | none => .ok none

theorem Configuration.clientConfig_eq (s : Surroundings) (c : Configuration) :
    c.clientConfig s = c.auth.credentials s >>= fun credentials =>
      c.host.load s "host" >>= fun host =>
        loadRoots s c.roots >>= fun roots =>
          .ok ⟨host, credentials, c.timeout, roots.map Utf8.ofString⟩ := by
  rw [clientConfig]
  cases c.roots with
  | none => rfl
  | some source => rfl

/-- What a client is made from was all loaded. -/
theorem Configuration.facts_of_clientConfig (h : c.clientConfig s = .ok config) :
    c.auth.credentials s = .ok config.credentials ∧
      ∀ pem, c.LoadsRoots s pem ↔ config.roots = some pem := by
  rw [clientConfig_eq] at h
  obtain ⟨credentials, hcredentials, h⟩ := ok_of_bind h
  obtain ⟨host, -, h⟩ := ok_of_bind h
  obtain ⟨roots, hroots, h⟩ := ok_of_bind h
  cases h
  refine ⟨hcredentials, fun pem => ?_⟩
  cases hsource : c.roots with
  | none =>
      rw [hsource] at hroots
      cases hroots
      constructor
      · rintro ⟨text, hload, -⟩
        exact absurd hload (Reference.not_loads (r := .roots) hsource)
      · intro hnone
        cases hnone
  | some source =>
      rw [hsource] at hroots
      obtain ⟨text, htext, hroots⟩ := ok_of_bind hroots
      cases hroots
      have hload : Reference.roots.Loads s c text := ⟨source, hsource, htext⟩
      constructor
      · rintro ⟨text', hload', rfl⟩
        rw [hload'.unique hload]
        rfl
      · intro hsome
        cases hsome
        exact ⟨text, hload, rfl⟩

end Loading

/-! ## Making a client -/

section Making

variable {credentials : Credentials}

theorem Credentials.identity_of_none (h : credentials.certificate? = none) :
    credentials.identity = .ok none := by
  cases credentials with
  | mtls id certificate => cases h
  | _ => rfl

theorem Credentials.identity_of_some {certificate : ClientCertificate}
    (h : credentials.certificate? = some certificate) :
    credentials.identity = certificate.identity.map some := by
  cases credentials with
  | mtls id certificate' =>
      cases h
      rfl
  | _ => cases h

/-- An identity cannot be used exactly where there is one that the connector does not take. -/
theorem Credentials.unusable_iff {identity : Option Identity}
    (h : credentials.identity = .ok identity) (connector : Connector) :
    (identity.map connector.takesIdentity).getD true = false ↔
      ∃ certificate found, credentials.certificate? = some certificate ∧
        certificate.identity? = some found ∧ connector.takesIdentity found = false := by
  cases hcertificate : credentials.certificate? with
  | none =>
      rw [identity_of_none hcertificate] at h
      cases h
      simp
  | some certificate =>
      rw [identity_of_some hcertificate, ClientCertificate.identity] at h
      cases hfound : certificate.identity? with
      | none =>
          rw [hfound] at h
          cases h
      | some found =>
          rw [hfound] at h
          cases h
          simp [hfound]

/-- The roots of a configuration, if it has any, and otherwise none. -/
def Client.rootsOf : Option Bytes → Except ClientError (List Bytes)
  | some pem => checkRoots pem
  | none => .ok []

/-- Making a client, step by step. -/
theorem Client.ofConfig_eq (config : ClientConfig) (connector : Connector) :
    ofConfig config connector = config.credentials.validate >>= fun _ =>
      config.credentials.identity >>= fun identity => rootsOf config.roots >>= fun roots =>
        if ¬ connector.takes identity roots = true then
          .error (.setup .notACertificate)
        else .ok { plain config.host config.credentials with
          timeout := some config.timeout
          agent := some agentName } := by
  rw [ofConfig]
  refine congrArg (Except.bind _) (funext fun _ => congrArg (Except.bind _) (funext fun i => ?_))
  cases config.roots with
  | none =>
      show (if _ then _ else _) = (if _ then _ else _)
      rw [ite_not]
      rfl
  | some pem =>
      refine congrArg (Except.bind _) (funext fun roots => ?_)
      rw [ite_not]
      rfl

/-- What the roots are that were told apart. -/
theorem Client.all_takesRoot_iff {roots : Option Bytes} {found : List Bytes}
    (h : rootsOf roots = .ok found) (connector : Connector) :
    found.all connector.takesRoot = false ↔
      ∃ pem told root, roots = some pem ∧ rootCertificates? pem = some told ∧ root ∈ told ∧
        connector.takesRoot root = false := by
  cases roots with
  | none =>
      cases h
      simp
  | some pem =>
      rw [rootsOf, checkRoots] at h
      split at h
      · cases h
      · cases h
      · rename_i htold
        cases h
        simp [htold]

end Making

end ScimLookup
