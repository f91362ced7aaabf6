import ScimLookup.Scim.Client
import ScimLookup.Settings.Params

/-!
# Configurations

A configuration names the server, how to prove who the client is, how the context of a question aims
the client elsewhere, and the parameters of resolution. Its stages are loaded in a fixed order, and
the first one that fails gives the error: the id of the client, that it is not blank, the other
credentials and what they need, the host, the roots, the client, and the parameters last.
-/

set_option autoImplicit false

namespace ScimLookup

/-! ## What a configuration holds -/

/-- The credentials as they are given. -/
inductive AuthMode where
  | basic (clientId : Source) (clientSecret : Option Source)
  | mtls (clientId certificate key : Source)
  | oauth2 (clientId : Source) (clientSecret : Option Source) (tokenEndpoint : Source)
    (scopes : List String)
deriving Repr

/-- Headers and the keys of their values. -/
structure HeaderFields where
  entries : List (String × String)
  /-- The headers stand in ascending order. -/
  ascending : entries.Pairwise (·.1 < ·.1)
deriving DecidableEq, Repr

/-- How the context of a question aims the client. -/
structure ContextConfig where
  /-- The key of the host; empty for the configured one. -/
  hostField : String
  headerFields : HeaderFields
  /-- What is put behind the host. -/
  basePath : String
deriving DecidableEq, Repr

/-- A configuration. -/
structure Configuration where
  host : Source
  auth : AuthMode
  roots : Option Source
  context : Option ContextConfig
  params : ParamSources
  timeout : Nat
deriving Repr

/-! ## Reading -/

namespace Source

/-- A source at a node. -/
def read (a : Yaml.Anchors) (depth : Nat) (n : Yaml.Node Nat) : Yaml.Reading Source := do
  Yaml.Reading.from? (ofValue? (← Yaml.Reading.value a depth n))

end Source

namespace ParamSources

/-- The names of the parameters. -/
def names : List String := ["groupAttribute", "userAttribute", "groupMembersAttribute",
  "listMethod", "allowSearchUsersByGroup"]

/-- The parameters at a node. -/
def read (a : Yaml.Anchors) (depth : Nat) (n : Yaml.Node Nat) : Yaml.Reading ParamSources := do
  let (depth, fields) ← Yaml.Reading.fields a depth n
  Yaml.Reading.noTwins names fields
  let get (name : String) : Yaml.Reading (Option Source) :=
    match fields.lookup name with
    | some n => Yaml.Reading.optional a (Source.read a depth) n
    | .none => pure .none
  return ⟨← get "groupAttribute", ← get "userAttribute", ← get "groupMembersAttribute",
    ← get "listMethod", ← get "allowSearchUsersByGroup"⟩

end ParamSources

namespace HeaderFields

/-- No headers. -/
def empty : HeaderFields := ⟨[], .nil⟩

/-- Put an entry into its place, over one with the same name. -/
def place (e : String × String) : List (String × String) → List (String × String)
  | [] => [e]
  | f :: fs =>
    if e.1 < f.1 then e :: f :: fs else if e.1 = f.1 then e :: fs else f :: place e fs

/-- Nothing but the new entry comes in. -/
theorem mem_of_mem_place {e x : String × String} {fs : List (String × String)}
    (h : x ∈ place e fs) : x = e ∨ x ∈ fs := by
  induction fs with
  | nil => exact Or.inl (List.mem_singleton.1 h)
  | cons f fs ih =>
    rw [place] at h
    split at h
    · exact List.mem_cons.1 h
    · split at h
      · exact (List.mem_cons.1 h).imp_right (List.mem_cons_of_mem f)
      · rcases List.mem_cons.1 h with rfl | h
        · exact Or.inr List.mem_cons_self
        · exact (ih h).imp_right (List.mem_cons_of_mem f)

/-- An entry that is put into its place keeps the order. -/
theorem ascending_place (e : String × String) {fs : List (String × String)}
    (h : fs.Pairwise (·.1 < ·.1)) : (place e fs).Pairwise (·.1 < ·.1) := by
  induction fs with
  | nil => exact List.pairwise_singleton _ _
  | cons f fs ih =>
    have ⟨hf, hfs⟩ := List.pairwise_cons.1 h
    rw [place]
    split
    · rename_i lt
      refine List.pairwise_cons.2 ⟨?_, h⟩
      intro g hg
      rcases List.mem_cons.1 hg with rfl | hg
      · exact lt
      · exact String.lt_trans lt (hf g hg)
    · split
      · rename_i eq
        exact List.pairwise_cons.2 ⟨fun g hg => eq ▸ hf g hg, hfs⟩
      · rename_i not_lt ne
        -- The new entry is neither before `f` nor in its place, so it comes behind.
        have lt : f.1 < e.1 := by
          apply Decidable.by_contra
          intro not_gt
          exact ne (String.le_antisymm (String.not_lt.1 not_gt) (String.not_lt.1 not_lt))
        refine List.pairwise_cons.2 ⟨?_, ih hfs⟩
        intro g hg
        rcases mem_of_mem_place hg with rfl | hg
        · exact lt
        · exact hf g hg

/-- Put an entry into its place, over one with the same name. -/
def insert (fields : HeaderFields) (e : String × String) : HeaderFields :=
  ⟨place e fields.entries, ascending_place e fields.ascending⟩

/-- The headers at a node. -/
def read (a : Yaml.Anchors) (depth : Nat) (n : Yaml.Node Nat) : Yaml.Reading HeaderFields := do
  let (_, fields) ← Yaml.Reading.fields a depth n
  let pairs ← fields.mapM fun f => do return (f.1, ← Yaml.Reading.text a f.2)
  return pairs.foldl insert empty

end HeaderFields

namespace ContextConfig

/-- The names of the fields. -/
def names : List String := ["hostField", "headerFields", "basePath"]

/-- The use of the context at a node. -/
def read (a : Yaml.Anchors) (depth : Nat) (n : Yaml.Node Nat) : Yaml.Reading ContextConfig := do
  let (depth, fields) ← Yaml.Reading.fields a depth n
  Yaml.Reading.noTwins names fields
  let text (name : String) : Yaml.Reading String :=
    match fields.lookup name with
    | some n => Yaml.Reading.text a n
    | none => pure ""
  let headers : Yaml.Reading HeaderFields :=
    match fields.lookup "headerFields" with
    | some n => HeaderFields.read a depth n
    | none => pure .empty
  return ⟨← text "hostField", ← headers, ← text "basePath"⟩

end ContextConfig

namespace AuthMode

/-- The kinds of credentials. -/
inductive Kind where
  | basic
  | mtls
  | oauth2
deriving DecidableEq, Repr

/-- The kind that a value names, by its word or its number. -/
def kind? : Yaml.Value → Option Kind
  | .text s => [("basic", .basic), ("mtls", .mtls), ("oauth2", .oauth2)].lookup s
  | .int n => do [(0, .basic), (1, .mtls), (2, .oauth2)].lookup (← n.natural?)
  | _ => none

/-- The value under a name, if there is one and no second; no value at all is `some none`. -/
def single? (fields : List (String × Yaml.Value)) (name : String) : Option (Option Yaml.Value) :=
  match fields.filter (·.1 = name) with
  | [] => some none
  | [(_, v)] => some (some v)
  | _ => none

/-- A source that must be there. -/
def required? (fields : List (String × Yaml.Value)) (name : String) : Option Source := do
  match ← single? fields name with
  | some v => Source.ofValue? v
  | none => none

/-- A source that may be left out. -/
def optional? (fields : List (String × Yaml.Value)) (name : String) : Option (Option Source) := do
  match ← single? fields name with
  | some v => Source.optional? v
  | none => some none

/-- The text of a value that is text. -/
def text? : Yaml.Value → Option String
  | .text s => some s
  | _ => none

/-- A list of texts that may be left out. -/
def texts? (fields : List (String × Yaml.Value)) (name : String) : Option (List String) := do
  match ← single? fields name with
  | some (.list items) => items.mapM text?
  | some _ => none
  | none => some []

/-- The credentials that fields give. -/
def ofFields? (fields : List (String × Yaml.Value)) : Option AuthMode := do
  let kind ← kind? (← (← single? fields "type"))
  let clientId ← required? fields "clientId"
  match kind with
  | .basic => do
    some (.basic clientId (← optional? fields "clientSecret"))
  | .mtls => do
    some (.mtls clientId (← required? fields "cert") (← required? fields "key"))
  | .oauth2 => do
    let secret ← optional? fields "clientSecret"
    let endpoint ← required? fields "tokenEndpoint"
    some (.oauth2 clientId secret endpoint (← texts? fields "scopes"))

/-- The field for the roots. -/
def rootsField : String := "ca"

/-- The credentials and the roots at a node. -/
def read (a : Yaml.Anchors) (depth : Nat) (n : Yaml.Node Nat) :
    Yaml.Reading (AuthMode × Option Source) := do
  let (depth, fields) ← Yaml.Reading.fields a depth n
  Yaml.Reading.noTwins [rootsField] fields
  let roots ← match fields.lookup rootsField with
    | some n => Yaml.Reading.optional a (Source.read a depth) n
    | none => pure none
  let others ← (fields.filter (·.1 ≠ rootsField)).mapM fun f => do
    return (f.1, ← Yaml.Reading.value a depth f.2)
  return (← Yaml.Reading.from? (ofFields? others), roots)

end AuthMode

namespace Configuration

/-- The names of the fields. -/
def names : List String := ["host", "auth", "authContext", "params", "requestTimeoutSecs"]

/-- How long to wait where nothing is said, in seconds. -/
def standardTimeout : Nat := 30

/-- The configuration at a node. -/
def read (a : Yaml.Anchors) (n : Yaml.Node Nat) : Yaml.Reading Configuration := do
  let (depth, fields) ← Yaml.Reading.fields a Yaml.Value.deepest n
  Yaml.Reading.noTwins names fields
  let host ← Source.read a depth (← Yaml.Reading.from? (fields.lookup "host"))
  let (auth, roots) ← AuthMode.read a depth (← Yaml.Reading.from? (fields.lookup "auth"))
  let context ← match fields.lookup "authContext" with
    | some n => Yaml.Reading.optional a (ContextConfig.read a depth) n
    | none => pure none
  let params ← match fields.lookup "params" with
    | some n => ParamSources.read a depth n
    | none => pure .none
  let timeout ← match fields.lookup "requestTimeoutSecs" with
    | some n => Yaml.Reading.word a n
    | none => pure standardTimeout
  return ⟨host, auth, roots, context, params, timeout⟩

end Configuration

/-- Read a text as a document with a reading of its root; `absent` is for a text without any. -/
def readYaml? {α : Type} (read : Yaml.Anchors → Yaml.Node Nat → Yaml.Reading α) (absent : Option α)
    (s : String) : Option α := do
  let d ← Yaml.Document.ofText? s
  match d.root with
  | none => absent
  | some n => ((read d.anchors n).run d.allowance).map (·.1)

/-- The source that a text is. -/
def Source.ofYaml? (s : String) : Option Source :=
  readYaml? (fun a => Source.read a Yaml.Value.deepest) (some (.literal .null)) s

/-- The parameters that a text gives. -/
def ParamSources.ofYaml? (s : String) : Option ParamSources :=
  readYaml? (fun a => ParamSources.read a Yaml.Value.deepest) (some .none) s

/-- The configuration that a text gives. -/
def Configuration.ofYaml (s : String) : Except ConfigError Configuration :=
  match readYaml? Configuration.read none s with
  | some c => .ok c
  | none => .error .yaml

/-! ## Loading -/

namespace AuthMode

/-- The id of the client as it is given. -/
def clientId : AuthMode → Source
  | .basic id _ => id
  | .mtls id _ _ => id
  | .oauth2 id _ _ _ => id

/-- Load a secret; one that is left out is empty. -/
def loadSecret (s : Surroundings) : Option Source → Except ConfigError String
  | some source => source.load s "auth.clientSecret"
  | none => .ok ""

/-- Load the credentials of a client whose id is loaded. -/
def loadFor (s : Surroundings) (id : String) : AuthMode → Except ConfigError Credentials
  | .basic _ secret => return .basic id (← loadSecret s secret)
  | .mtls _ certificate key => do
    let certificate ← certificate.load s "auth.cert"
    let key ← key.load s "auth.key"
    return .mtls id ⟨Utf8.ofString certificate, Utf8.ofString key⟩
  | .oauth2 _ secret endpoint scopes => do
    let secret ← loadSecret s secret
    let endpoint ← endpoint.load s "auth.tokenEndpoint"
    return .oauth2 id secret endpoint scopes

/-- Load the credentials. That the id is not blank is seen to before anything else is loaded. -/
def credentials (s : Surroundings) (mode : AuthMode) : Except ConfigError Credentials := do
  -- Without an id nothing else about the client is worth a report.
  let id ← mode.clientId.load s "auth.clientId"
  if Text.isBlank id then throw (.client .clientIdRequired)
  let c ← mode.loadFor s id
  c.validate.mapError .client
  return c

end AuthMode

namespace Configuration

/-- Load what a client is made from. -/
def clientConfig (s : Surroundings) (c : Configuration) : Except ConfigError ClientConfig := do
  let credentials ← c.auth.credentials s
  let host ← c.host.load s "host"
  let roots ← match c.roots with
    | some source => some <$> source.load s "auth.ca"
    | none => pure none
  return ⟨host, credentials, c.timeout, roots.map Utf8.ofString⟩

/-- The client of a configuration. -/
def client (s : Surroundings) (c : Configuration) : Except ConfigError Client := do
  (Client.ofConfig (← c.clientConfig s) s.connector).mapError .client

end Configuration

end ScimLookup
