import ScimLookup.Command.Lookup
import ScimLookup.Proofs.Settings.Placement

/-!
# The same client from options and from a configuration

The options of the command line and a configuration of the host can say the same about a client:
the same host, id and time, and the same secret or the same certificate and key
(`Configuration.SaysSame`). Three checks decide whether there is a client for that, each in its own
order: `Credentials.ofParts` for the options, `AuthMode.credentials` for the configuration, and
`Credentials.validate` for both. They agree on every text, blank and empty ones included.

The main result (`same_client`) says that both ways end alike, with the same error or with the same
client, and that what passes `Credentials.validate` is what `Credentials.ofParts` makes.
-/

set_option autoImplicit false

namespace ScimLookup

/-! ## Credentials from parts -/

namespace Credentials

/-- An empty secret is none, and none counts as an empty one. -/
theorem filter_secret (secret : Option String) :
    secret.filter (!·.isEmpty) =
      if (secret.getD "").isEmpty then none else some (secret.getD "") := by
  cases secret with
  | none => rfl
  | some text =>
      rw [Option.getD_some]
      cases hempty : text.isEmpty with
      | true => simp [Option.filter, hempty]
      | false => simp [Option.filter, hempty]

/-- What an id and perhaps a secret make. -/
theorem ofParts_of_secret (id : String) (secret : Option String) :
    ofParts id secret none =
      if Text.isBlank id then .error .clientIdRequired
      else if (secret.getD "").isEmpty then .error .authParamsMissing
      else .ok (.basic id (secret.getD "")) := by
  unfold ofParts
  rw [filter_secret]
  split
  · rfl
  · cases (secret.getD "").isEmpty with
    | true => rfl
    | false => rfl

/-- What an id and a certificate make, and perhaps a secret, which must not be there. -/
theorem ofParts_of_certificate (id : String) (secret : Option String)
    (certificate : ClientCertificate) :
    ofParts id secret (some certificate) =
      if Text.isBlank id then .error .clientIdRequired
      else if (secret.getD "").isEmpty then .ok (.mtls id certificate)
      else .error .ambiguousAuth := by
  unfold ofParts
  rw [filter_secret]
  split
  · rfl
  · cases (secret.getD "").isEmpty with
    | true => rfl
    | false => rfl

/-- **What is made from parts is valid.** -/
theorem validate_of_ofParts {id : String} {secret : Option String}
    {certificate : Option ClientCertificate} {c : Credentials}
    (h : ofParts id secret certificate = .ok c) : c.validate = .ok () := by
  cases certificate with
  | none =>
      rw [ofParts_of_secret] at h
      -- The checks of the parts are those of what is made from them.
      split at h
      · cases h
      · rename_i hid
        split at h
        · cases h
        · rename_i hsecret
          cases h
          rw [validate, clientId, if_neg hid]
          exact if_neg hsecret
  | some certificate =>
      rw [ofParts_of_certificate] at h
      split at h
      · cases h
      · rename_i hid
        split at h
        · cases h
          rw [validate, clientId, if_neg hid]
        · cases h

/-- **Valid credentials with a secret are made from their parts.** -/
theorem ofParts_of_validate_basic {id secret : String} (h : (basic id secret).validate = .ok ()) :
    ofParts id (some secret) none = .ok (.basic id secret) := by
  rw [validate, clientId] at h
  rw [ofParts_of_secret]
  split at h
  · cases h
  · rename_i hid
    rw [if_neg hid]
    simp only [Option.getD_some] at h ⊢
    split at h
    · cases h
    · rename_i hsecret
      rw [if_neg hsecret]

/-- **Valid credentials with a certificate are made from their parts.** -/
theorem ofParts_of_validate_mtls {id : String} {certificate : ClientCertificate}
    (h : (mtls id certificate).validate = .ok ()) :
    ofParts id none (some certificate) = .ok (.mtls id certificate) := by
  rw [validate, clientId] at h
  rw [ofParts_of_certificate]
  split at h
  · cases h
  · rename_i hid
    rw [if_neg hid]
    rfl

end Credentials

/-! ## Credentials from a configuration -/

namespace AuthMode

variable {s : Surroundings} {mode : AuthMode} {idSource : Source} {id : String}

/-- Credentials are loaded if the id is not blank, and then they are checked. -/
theorem credentials_of_loadFor (hid : mode.clientId.load s "auth.clientId" = .ok id)
    {c : Credentials} (hload : mode.loadFor s id = .ok c) :
    mode.credentials s =
      if Text.isBlank id then .error (.client .clientIdRequired)
      else (c.validate.map fun _ => c).mapError .client := by
  rw [credentials, hid]
  -- A blank id is said before anything else is loaded.
  show (if Text.isBlank id = true then _ else _) = _
  split
  · rfl
  · show (mode.loadFor s id >>= _) = _
    rw [hload]
    show (c.validate.mapError ConfigError.client >>= fun _ => .ok c) = _
    cases c.validate with
    | error e => rfl
    | ok u => rfl

/-- **Credentials with a secret are loaded as they are made from parts.** -/
theorem credentials_basic {secretSource : Option Source} {secret : Option String}
    (hid : idSource.load s "auth.clientId" = .ok id)
    (hsecret : loadSecret s secretSource = .ok (secret.getD "")) :
    (AuthMode.basic idSource secretSource).credentials s =
      (Credentials.ofParts id secret none).mapError .client := by
  have hload : (AuthMode.basic idSource secretSource).loadFor s id =
      .ok (.basic id (secret.getD "")) := by
    rw [loadFor, hsecret]
    rfl
  rw [credentials_of_loadFor hid hload, Credentials.ofParts_of_secret, Credentials.validate,
    Credentials.clientId]
  split
  · rfl
  · split
    · rfl
    · rfl

/-- **Credentials with a certificate are loaded as they are made from parts.** -/
theorem credentials_mtls {certificateSource keySource : Source} {certificate key : String}
    {secret : Option String} (hid : idSource.load s "auth.clientId" = .ok id)
    (hcertificate : certificateSource.load s "auth.cert" = .ok certificate)
    (hkey : keySource.load s "auth.key" = .ok key) (hsecret : secret.getD "" = "") :
    (AuthMode.mtls idSource certificateSource keySource).credentials s =
      (Credentials.ofParts id secret
        (some ⟨Utf8.ofString certificate, Utf8.ofString key⟩)).mapError .client := by
  have hload : (AuthMode.mtls idSource certificateSource keySource).loadFor s id =
      .ok (.mtls id ⟨Utf8.ofString certificate, Utf8.ofString key⟩) := by
    rw [loadFor, hcertificate, hkey]
    rfl
  rw [credentials_of_loadFor hid hload, Credentials.ofParts_of_certificate, hsecret,
    Credentials.validate, Credentials.clientId]
  split
  · rfl
  · rfl

end AuthMode

/-- A file is loaded as it is if no line ends behind its text. -/
theorem Source.load_file {s : Surroundings} {path text : String}
    (hfile : s.file path = .ok (Utf8.ofString text))
    (hend : ∀ ch ∈ text.toList.getLast?, isLineEnd ch = false) (field : String) :
    (Source.file path).load s field = .ok text := by
  have hends : ∀ ch ∈ ("" : String).toList, isLineEnd ch = true := List.forall_mem_nil _
  refine load_file_append hend hends ?_ field
  rwa [String.append_empty]

/-! ## Clients -/

namespace Client

/-- The client of a configuration without roots of its own. -/
def connected (host : String) (credentials : Credentials) (timeout : Nat) : Client :=
  ⟨trimSlashes host, credentials, some timeout, some agentName, []⟩

/-- What comes of an id and a secret. -/
def ofSecret (host id secret : String) (timeout : Nat) : Except ClientError Client :=
  if Text.isBlank id then .error .clientIdRequired
  else if secret.isEmpty then .error .authParamsMissing
  else .ok (connected host (.basic id secret) timeout)

/-- What comes of an id and a certificate, over connections that a connector sets up. -/
def ofCertificate (connector : Connector) (host id : String) (certificate : ClientCertificate)
    (timeout : Nat) : Except ClientError Client :=
  if Text.isBlank id then .error .clientIdRequired
  else
    match certificate.identity? with
    | none => .error (.certificate .notAnIdentity)
    | some identity =>
      if connector.takesIdentity identity then .ok (connected host (.mtls id certificate) timeout)
      else .error (.setup .notACertificate)

/-- The client of credentials that were made from parts. -/
def ofMade (connector : Connector) (host : String) (timeout : Nat)
    (credentials : Except ClientError Credentials) : Except ClientError Client :=
  credentials >>= fun c => ofConfig ⟨host, c, timeout, none⟩ connector

theorem ofMade_of_secret (connector : Connector) (host id : String) (secret : Option String)
    (timeout : Nat) :
    ofMade connector host timeout (Credentials.ofParts id secret none) =
      ofSecret host id (secret.getD "") timeout := by
  rw [Credentials.ofParts_of_secret, ofSecret]
  split
  · rfl
  · rename_i hid
    split
    · rfl
    · rename_i hsecret
      have hvalid : (Credentials.basic id (secret.getD "")).validate = .ok () := by
        rw [Credentials.validate, Credentials.clientId, if_neg hid]
        exact if_neg hsecret
      show ofConfig _ _ = _
      rw [ofConfig, hvalid]
      rfl

theorem ofMade_of_certificate (connector : Connector) (host id : String) {secret : Option String}
    (hsecret : secret.getD "" = "") (certificate : ClientCertificate) (timeout : Nat) :
    ofMade connector host timeout (Credentials.ofParts id secret (some certificate)) =
      ofCertificate connector host id certificate timeout := by
  rw [Credentials.ofParts_of_certificate, hsecret, ofCertificate]
  split
  · rfl
  · rename_i hid
    have hvalid : (Credentials.mtls id certificate).validate = .ok () := by
      rw [Credentials.validate, Credentials.clientId, if_neg hid]
    show ofConfig _ _ = _
    rw [ofConfig, hvalid]
    -- The certificate decides from here on: whether it has an identity, and whether that is taken.
    show ((certificate.identity).map some >>= _) = _
    rw [ClientCertificate.identity]
    cases certificate.identity? with
    | none => rfl
    | some identity =>
        show (if connector.takesIdentity identity && true then _ else _) = _
        rw [Bool.and_true]
        rfl

end Client

/-- The configuration says the same as the options about the host, the id of the client and how long
to wait, and trusts no roots of its own. -/
structure Configuration.SaysSame (c : Configuration) (s : Surroundings) (l : Command.Lookup) :
    Prop where
  clientId : c.auth.clientId.load s "auth.clientId" = .ok l.clientId
  host : c.host.load s "host" = .ok l.host
  timeout : c.timeout = l.timeout
  roots : c.roots = none

section Clients

variable {c : Configuration} {s s' : Surroundings} {l : Command.Lookup}

/-- The client of a configuration is that of its credentials. -/
theorem Configuration.SaysSame.client_eq (h : c.SaysSame s' l)
    {credentials : Except ClientError Credentials}
    (hcredentials : c.auth.credentials s' = credentials.mapError .client) :
    c.client s' =
      (Client.ofMade s'.connector l.host l.timeout credentials).mapError .client := by
  rw [client, clientConfig, hcredentials, h.host, h.roots, h.timeout]
  cases credentials with
  | error e => rfl
  | ok found => rfl

theorem Command.Lookup.client_of_secret (h : l.certificate = none) (s : Surroundings) :
    l.client s = Client.ofMade s.connector l.host l.timeout
      (Credentials.ofParts l.clientId l.secret none) := by
  rw [client, h]
  rfl

theorem Command.Lookup.client_of_files {paths : String × String} {certificate key : Bytes}
    (h : l.certificate = some paths) (hcertificate : s.file paths.1 = .ok certificate)
    (hkey : s.file paths.2 = .ok key) :
    l.client s = Client.ofMade s.connector l.host l.timeout
      (Credentials.ofParts l.clientId l.secret (some ⟨certificate, key⟩)) := by
  have hfiles : ClientCertificate.ofFiles s paths.1 paths.2 = .ok ⟨certificate, key⟩ := by
    simp only [ClientCertificate.ofFiles, hcertificate, hkey]
    rfl
  rw [client, h]
  show (some <$> ClientCertificate.ofFiles s paths.1 paths.2 >>= _) = _
  rw [hfiles]
  rfl

end Clients

/-- **The command line and the host make the same client from the same material**, or fail with the
same error. This holds for an id and a secret, wherever the configuration has them, where an absent
secret counts as empty; and for a certificate and its key, where the secret is absent or empty and
the same connector sets connections up. A file that the configuration refers to counts as it is if
no line ends behind its text. What is made from parts is valid, and valid credentials of these two
kinds are made from their parts. -/
theorem same_client :
    (∀ (l : Command.Lookup) (c : Configuration) (s s' : Surroundings) (idSource : Source)
      (secretSource : Option Source), l.certificate = none → c.auth = .basic idSource secretSource →
      c.SaysSame s' l → AuthMode.loadSecret s' secretSource = .ok (l.secret.getD "") →
      let result := Client.ofSecret l.host l.clientId (l.secret.getD "") l.timeout
      l.client s = result ∧ c.client s' = result.mapError .client) ∧
    (∀ (l : Command.Lookup) (c : Configuration) (s s' : Surroundings)
      (idSource certificateSource keySource : Source) (paths : String × String)
      (certificate key : String), l.certificate = some paths →
      s.file paths.1 = .ok (Utf8.ofString certificate) → s.file paths.2 = .ok (Utf8.ofString key) →
      l.secret.getD "" = "" → c.auth = .mtls idSource certificateSource keySource →
      c.SaysSame s' l → certificateSource.load s' "auth.cert" = .ok certificate →
      keySource.load s' "auth.key" = .ok key → s'.connector = s.connector →
      let result := Client.ofCertificate s.connector l.host l.clientId
        ⟨Utf8.ofString certificate, Utf8.ofString key⟩ l.timeout
      l.client s = result ∧ c.client s' = result.mapError .client) ∧
    (∀ (s : Surroundings) (path text field : String), s.file path = .ok (Utf8.ofString text) →
      (∀ ch ∈ text.toList.getLast?, Source.isLineEnd ch = false) →
      (Source.file path).load s field = .ok text) ∧
    (∀ (id : String) (secret : Option String) (certificate : Option ClientCertificate)
      (c : Credentials), Credentials.ofParts id secret certificate = .ok c → c.validate = .ok ()) ∧
    (∀ id secret : String, (Credentials.basic id secret).validate = .ok () →
      Credentials.ofParts id (some secret) none = .ok (.basic id secret)) ∧
    ∀ (id : String) (certificate : ClientCertificate),
      (Credentials.mtls id certificate).validate = .ok () →
      Credentials.ofParts id none (some certificate) = .ok (.mtls id certificate) := by
  refine ⟨?_, ?_, ?_, ?_, ?_, ?_⟩
  · intro l c s s' idSource secretSource hnone hauth hsame hsecret
    have hid := hsame.clientId
    rw [hauth] at hid
    have hcredentials : c.auth.credentials s' =
        (Credentials.ofParts l.clientId l.secret none).mapError .client := by
      rw [hauth]
      exact AuthMode.credentials_basic hid hsecret
    -- No connector is asked where there is neither an identity nor a root.
    rw [Command.Lookup.client_of_secret hnone, hsame.client_eq hcredentials,
      Client.ofMade_of_secret, Client.ofMade_of_secret]
    exact ⟨rfl, rfl⟩
  · intro l c s s' idSource certificateSource keySource paths certificate key hpaths hfile hkeyFile
      hsecret hauth hsame hcertificate hkey hconnector
    have hid := hsame.clientId
    rw [hauth] at hid
    have hcredentials : c.auth.credentials s' = (Credentials.ofParts l.clientId l.secret
        (some ⟨Utf8.ofString certificate, Utf8.ofString key⟩)).mapError .client := by
      rw [hauth]
      exact AuthMode.credentials_mtls hid hcertificate hkey hsecret
    rw [Command.Lookup.client_of_files hpaths hfile hkeyFile, hsame.client_eq hcredentials,
      hconnector, Client.ofMade_of_certificate _ _ _ hsecret]
    exact ⟨rfl, rfl⟩
  · intro s path text field hfile hend
    exact Source.load_file hfile hend field
  · intro id secret certificate c h
    exact Credentials.validate_of_ofParts h
  · intro id secret h
    exact Credentials.ofParts_of_validate_basic h
  · intro id certificate h
    exact Credentials.ofParts_of_validate_mtls h

/-- An id and a secret with white space around them, and files that are no certificate. -/
theorem same_client_spaced :
    let l : Command.Lookup := { action := .getUser, host := "http://scim.test/", clientId := " id"
                                secret := some " ", certificate := none, byPost := false
                                id := none, cursor := none, count := 100, displayName := none
                                timeout := 30, json := false }
    let c : Configuration := ⟨.env "HOST", .basic (.ofText " id") (some (.ofText " ")), none, none,
      .none, 30⟩
    let s : Surroundings := ⟨fun path => .ok (Utf8.ofString ("no " ++ path)),
      fun _ => .ok "http://scim.test/", .standard⟩
    let l' := { l with secret := some "", certificate := some ("cert.pem", "key.pem") }
    let c' := { c with auth := .mtls (.ofText " id") (.file "cert.pem") (.file "key.pem") }
    (l.client s = .ok (Client.connected "http://scim.test/" (.basic " id" " ") 30) ∧
        c.client s = .ok (Client.connected "http://scim.test/" (.basic " id" " ") 30)) ∧
      c'.client s = (l'.client s).mapError .client ∧
      (Credentials.basic " id" " ").validate = .ok () ∧
      Credentials.ofParts " id" (some " ") none = .ok (.basic " id" " ") := by
  intro l c s l' c'
  obtain ⟨hbasic, hmtls, hfile, hvalid, hmade, -⟩ := same_client
  -- Both texts end with the name of their file.
  have hends : ∀ {text : String}, text.toList.getLast? = some 'm' →
      ∀ ch ∈ text.toList.getLast?, Source.isLineEnd ch = false := by
    intro text hlast ch hch
    rw [hlast] at hch
    cases hch
    rfl
  have hspaced : Client.ofSecret "http://scim.test/" " id" " " 30 =
      .ok (Client.connected "http://scim.test/" (.basic " id" " ") 30) := by
    rw [Client.ofSecret, if_neg (by decide), if_neg (by decide)]
  have hparts : (Credentials.basic " id" " ").validate = .ok () := by
    rw [Credentials.validate, Credentials.clientId, if_neg (by decide)]
    exact if_neg (by decide)
  refine ⟨?_, ?_, hparts, hmade _ _ hparts⟩
  · obtain ⟨hl, hc⟩ := hbasic l c s s (.ofText " id") (some (.ofText " ")) rfl rfl
      ⟨rfl, rfl, rfl, rfl⟩ rfl
    exact ⟨hl.trans hspaced, hc.trans (congrArg (·.mapError ConfigError.client) hspaced)⟩
  · obtain ⟨hl, hc⟩ := hmtls l' c' s s (.ofText " id") (.file "cert.pem") (.file "key.pem")
      ("cert.pem", "key.pem") "no cert.pem" "no key.pem" rfl rfl rfl rfl rfl ⟨rfl, rfl, rfl, rfl⟩
      (hfile s "cert.pem" "no cert.pem" _ rfl (hends rfl))
      (hfile s "key.pem" "no key.pem" _ rfl (hends rfl)) rfl
    rw [hl, hc]

end ScimLookup
