import ScimLookup.Proofs.Bytes.Utf8
import ScimLookup.Proofs.Settings.Reference
import ScimLookup.Proofs.Url.Below

/-!
# Where the values of a configuration are

A value can stand in a configuration itself, in a reference, in a file or in a variable, and what is
made of it depends on its text only. Two configurations in surroundings of their own agree
(`Configuration.Agree`) where they are alike but for their sources, and each of these stands for the
same text in both; a secret that is left out counts as empty, and a parameter that is left out as
blank.

The main result (`places_alike`) says that a text has the same value in each of the four places, and
that configurations that agree come to the same: to the same client, with the same parameters, or to
the same error.
-/

set_option autoImplicit false

namespace ScimLookup

/-! ## The four places -/

/-- What is behind the last character that stays is taken off. -/
theorem Text.trimEnd_append {p : Char → Bool} {text ends : String}
    (htext : ∀ ch ∈ text.toList.getLast?, p ch = false) (hends : ∀ ch ∈ ends.toList, p ch = true) :
    trimEnd p (text ++ ends) = text := by
  have hnil : dropEndWhile p ends.toList = [] := (dropEndWhile_eq_nil_iff p ends.toList).2 hends
  rw [trimEnd, String.toList_append]
  rcases List.eq_nil_or_concat text.toList with hempty | ⟨chars, ch, hlast⟩
  · rw [hempty, List.nil_append, hnil]
    exact String.toList_inj.1 (by rw [hempty]; rfl)
  · have hch : p ch = false := htext ch (by rw [hlast]; simp)
    rw [hlast, List.concat_eq_append, List.append_assoc, List.singleton_append,
      dropEndWhile_stop hch, hnil, ← List.concat_eq_append, ← hlast, String.ofList_toList]

namespace Source

/-- No line ends behind the text. -/
def IsBare (text : String) : Prop :=
  ∀ ch ∈ text.toList.getLast?, isLineEnd ch = false

/-- A file is loaded without the line ends behind its text. -/
theorem load_file_append {s : Surroundings} {path text ends : String} (htext : IsBare text)
    (hends : ∀ ch ∈ ends.toList, isLineEnd ch = true)
    (hfile : s.file path = .ok (Utf8.ofString (text ++ ends))) (field : String) :
    (Source.file path).load s field = .ok text := by
  have hcontent : s.text path = .ok (text ++ ends) := by
    rw [Surroundings.text, hfile]
    show Except.bind (.ok (Utf8.ofString (text ++ ends))) _ = _
    rw [Except.bind, Utf8.toString?_ofString]
    rfl
  rw [load, hcontent]
  exact congrArg _ (Text.trimEnd_append htext hends)

/-- A source is one of the four places where a text can be. -/
inductive Holds (s : Surroundings) (text : String) : Source → Prop
  | literal : Holds s text (.literal (.text text))
  | embedded : Holds s text (.embedded (.text text))
  /-- A file may have any line ends behind the text. -/
  | file {path ends : String} :
      (∀ ch ∈ ends.toList, isLineEnd ch = true) →
      s.file path = .ok (Utf8.ofString (text ++ ends)) → Holds s text (.file path)
  | env {name : String} : s.env name = .ok text → Holds s text (.env name)

/-- **A text is loaded from wherever it is.** -/
theorem Holds.load_eq {s : Surroundings} {text : String} {source : Source}
    (h : source.Holds s text) (htext : IsBare text) (field : String) :
    source.load s field = .ok text := by
  cases h with
  | literal => rfl
  | embedded => rfl
  | file hends hfile => exact load_file_append htext hends hfile field
  | env henv => rw [load, henv]

end Source

/-! ## Configurations that agree -/

/-- The kind of credentials. -/
def AuthMode.kind : AuthMode → Kind
  | .basic .. => .basic
  | .mtls .. => .mtls
  | .oauth2 .. => .oauth2

/-- What tokens are asked for. -/
def AuthMode.scopes : AuthMode → List String
  | .oauth2 _ _ _ scopes => scopes
  | _ => []

namespace Reference

/-- A configuration has a use for a reference, be it there or not. -/
def IsWanted (c : Configuration) : Reference → Prop
  | .secret => c.auth.wantsSecret = true
  | .param _ => True
  | r => r.source? c ≠ none

/-- The text that a reference counts as. -/
inductive Reads (s : Surroundings) (c : Configuration) : Reference → String → Prop
  | loaded {r : Reference} {text : String} : r.Loads s c text → Reads s c r text
  | noSecret : c.auth.secret? = none → Reads s c .secret ""
  | noParam {p : Param} {text : String} :
      p.source? c.params = none → Text.isBlank text = true → Reads s c (.param p) text

variable {s : Surroundings} {c : Configuration} {r : Reference} {text : String}

/-- A reference that cannot be left out is loaded. -/
theorem Reads.loads (h : r.Reads s c text) (hsource : r.source? c ≠ none) : r.Loads s c text := by
  cases h with
  | loaded hload => exact hload
  | noSecret hnone => exact absurd hnone hsource
  | noParam hnone _ => exact absurd hnone hsource

/-- The secret is loaded as the text that it counts as. -/
theorem Reads.loadSecret_eq (h : Reference.secret.Reads s c text) :
    AuthMode.loadSecret s c.auth.secret? = .ok text := by
  cases h with
  | loaded hload =>
      obtain ⟨source, hsource, hload⟩ := hload
      rw [show c.auth.secret? = some source from hsource]
      exact hload
  | noSecret hnone =>
      rw [hnone]
      rfl

/-- What is given for a parameter depends on the text that it counts as. -/
theorem Reads.given_eq {p : Param} (h : (Reference.param p).Reads s c text) :
    Params.given s p.name (p.source? c.params) =
      Params.given s p.name (some (.ofText text)) := by
  have htext : (Source.ofText text).load s p.name = .ok text := rfl
  cases h with
  | loaded hload =>
      obtain ⟨source, hsource, hload⟩ := hload
      have hgiven : Params.given s p.name (some source) = _ := Params.given_of_load hload
      rw [show p.source? c.params = some source from hsource, hgiven, Params.given_of_load htext]
  | noParam hnone hblank =>
      rw [hnone, Params.given_of_load htext, Params.unquoted_of_blank hblank]
      rfl

end Reference

namespace Configuration

/-- Two configurations, each in its surroundings, are alike but for their sources, and these stand
for the same texts. -/
structure Agree (s : Surroundings) (c : Configuration) (s' : Surroundings) (c' : Configuration) :
    Prop where
  kind : c.auth.kind = c'.auth.kind
  scopes : c.auth.scopes = c'.auth.scopes
  roots : c.roots.isSome = c'.roots.isSome
  context : c.context = c'.context
  timeout : c.timeout = c'.timeout
  texts : ∀ r : Reference, r.IsWanted c → ∃ text, r.Reads s c text ∧ r.Reads s' c' text

namespace Agree

variable {s s' : Surroundings} {c c' : Configuration}

/-- A reference that is there in both is loaded as the same text. -/
theorem load_eq_load (h : Agree s c s' c') {r : Reference} {source source' : Source}
    (hwanted : r.IsWanted c) (hsource : r.source? c = some source)
    (hsource' : r.source? c' = some source') :
    source.load s r.field = source'.load s' r.field := by
  obtain ⟨text, hreads, hreads'⟩ := h.texts r hwanted
  have hload := hreads.loads (by rw [hsource]; exact Option.some_ne_none source)
  have hload' := hreads'.loads (by rw [hsource']; exact Option.some_ne_none source')
  rw [(Reference.loads_iff hsource).1 hload, (Reference.loads_iff hsource').1 hload']

theorem loadSecret_eq_loadSecret (h : Agree s c s' c') (hwants : c.auth.wantsSecret = true) :
    AuthMode.loadSecret s c.auth.secret? = AuthMode.loadSecret s' c'.auth.secret? := by
  obtain ⟨text, hreads, hreads'⟩ := h.texts .secret hwants
  rw [hreads.loadSecret_eq, hreads'.loadSecret_eq]

/-- The credentials besides the id are loaded alike. -/
theorem loadFor_eq_loadFor (h : Agree s c s' c') (id : String) :
    c.auth.loadFor s id = c'.auth.loadFor s' id := by
  have hkind := h.kind
  have hscopes := h.scopes
  obtain ⟨host, auth, roots, context, params, timeout⟩ := c
  obtain ⟨host', auth', roots', context', params', timeout'⟩ := c'
  cases auth with
  | basic idSource secret =>
      cases auth' with
      | basic idSource' secret' =>
          have hsecret : AuthMode.loadSecret s secret = AuthMode.loadSecret s' secret' :=
            h.loadSecret_eq_loadSecret rfl
          simp only [AuthMode.loadFor, hsecret]
      | _ => cases hkind
  | mtls idSource certificate key =>
      cases auth' with
      | mtls idSource' certificate' key' =>
          have hcertificate : certificate.load s "auth.cert" = certificate'.load s' "auth.cert" :=
            h.load_eq_load (r := .certificate) (Option.some_ne_none certificate) rfl rfl
          have hkey : key.load s "auth.key" = key'.load s' "auth.key" :=
            h.load_eq_load (r := .key) (Option.some_ne_none key) rfl rfl
          simp only [AuthMode.loadFor, hcertificate, hkey]
      | _ => cases hkind
  | oauth2 idSource secret endpoint scopes =>
      cases auth' with
      | oauth2 idSource' secret' endpoint' scopes' =>
          have hsecret : AuthMode.loadSecret s secret = AuthMode.loadSecret s' secret' :=
            h.loadSecret_eq_loadSecret rfl
          have hendpoint : endpoint.load s "auth.tokenEndpoint" =
              endpoint'.load s' "auth.tokenEndpoint" :=
            h.load_eq_load (r := .endpoint) (Option.some_ne_none endpoint) rfl rfl
          cases hscopes
          simp only [AuthMode.loadFor, hsecret, hendpoint]
      | _ => cases hkind

/-- The roots are loaded alike. -/
theorem loadRoots_eq_loadRoots (h : Agree s c s' c') :
    loadRoots s c.roots = loadRoots s' c'.roots := by
  have hroots := h.roots
  cases hsource : c.roots with
  | none =>
      rw [hsource] at hroots
      rw [Option.isNone_iff_eq_none.1 (Option.isSome_eq_false_iff.1 hroots.symm)]
      rfl
  | some source =>
      rw [hsource] at hroots
      obtain ⟨source', hsource'⟩ := Option.isSome_iff_exists.1 hroots.symm
      have hwanted : Reference.roots.IsWanted c := by
        show c.roots ≠ none
        rw [hsource]
        exact Option.some_ne_none source
      have hload : source.load s "auth.ca" = source'.load s' "auth.ca" :=
        h.load_eq_load (r := .roots) hwanted hsource hsource'
      rw [hsource', loadRoots, loadRoots, hload]

/-- **What a client is made from is alike.** -/
theorem clientConfig_eq_clientConfig (h : Agree s c s' c') :
    c.clientConfig s = c'.clientConfig s' := by
  have hid : c.auth.clientId.load s "auth.clientId" = c'.auth.clientId.load s' "auth.clientId" :=
    h.load_eq_load (r := .clientId) (Option.some_ne_none _) rfl rfl
  have hhost : c.host.load s "host" = c'.host.load s' "host" :=
    h.load_eq_load (r := .host) (Option.some_ne_none _) rfl rfl
  have hcredentials : c.auth.credentials s = c'.auth.credentials s' := by
    simp only [AuthMode.credentials_eq, hid, h.loadFor_eq_loadFor]
  rw [clientConfig_eq, clientConfig_eq, hcredentials, hhost, h.loadRoots_eq_loadRoots, h.timeout]

/-- **The parameters are alike.** -/
theorem resolve_eq_resolve (h : Agree s c s' c') :
    Params.resolve s c.params = Params.resolve s' c'.params := by
  refine Params.resolve_congr fun p => ?_
  obtain ⟨text, hreads, hreads'⟩ := h.texts (.param p) trivial
  rw [hreads.given_eq, hreads'.given_eq]
  rfl

end Agree

end Configuration

/-! ## Every place -/

/-- **A configuration does not depend on where its values are.** A text that no line ends behind is
loaded as it is from each of the four places, and configurations that agree come to the same client
and the same parameters, or to the same error. For clients the same connector sets connections
up. -/
theorem places_alike :
    (∀ (s : Surroundings) (text : String) (source : Source), Source.IsBare text →
      source.Holds s text → ∀ field, source.load s field = .ok text) ∧
    ∀ (s s' : Surroundings) (c c' : Configuration), Configuration.Agree s c s' c' →
      c.clientConfig s = c'.clientConfig s' ∧
        (s.connector = s'.connector → c.client s = c'.client s') ∧
        Params.resolve s c.params = Params.resolve s' c'.params := by
  refine ⟨?_, ?_⟩
  · intro s text source htext hholds field
    exact hholds.load_eq htext field
  · intro s s' c c' hagree
    have hconfig := hagree.clientConfig_eq_clientConfig
    refine ⟨hconfig, fun hconnector => ?_, hagree.resolve_eq_resolve⟩
    rw [Configuration.client, Configuration.client, hconfig, hconnector]

/-- A configuration that has everything in place, and one that has it in a file, in a variable and
in a reference, with a blank parameter that the first one leaves out. -/
theorem places_alike_scattered :
    let c : Configuration := ⟨.ofText "http://scim.test", .basic (.ofText "id")
      (some (.ofText "secret")), none, none, .none, 30⟩
    let c' : Configuration := ⟨.file "host", .basic (.env "ID") (some (.embedded (.text "secret"))),
      none, none, { ParamSources.none with listMethod := some (.ofText " ") }, 30⟩
    let s' : Surroundings := ⟨fun _ => .ok (Utf8.ofString ("http://scim.test" ++ "\x0d\n")),
      fun _ => .ok "id", .standard⟩
    c.client .none = c'.client s' ∧
      Params.resolve .none c.params = Params.resolve s' c'.params ∧
      c'.host.load s' "host" = .ok "http://scim.test" := by
  intro c c' s'
  obtain ⟨hplaces, halike⟩ := places_alike
  have hhost : c'.host.load s' "host" = .ok "http://scim.test" := by
    have hends : ("\x0d\n".toList.all Source.isLineEnd) = true := rfl
    refine hplaces s' "http://scim.test" (.file "host") ?_ (.file (List.all_eq_true.1 hends) rfl) _
    intro ch hch
    cases hch
    rfl
  have hagree : Configuration.Agree .none c s' c' := by
    refine ⟨rfl, rfl, rfl, rfl, rfl, fun r hwanted => ?_⟩
    cases r with
    | clientId => exact ⟨"id", .loaded ⟨_, rfl, rfl⟩, .loaded ⟨_, rfl, rfl⟩⟩
    | secret => exact ⟨"secret", .loaded ⟨_, rfl, rfl⟩, .loaded ⟨_, rfl, rfl⟩⟩
    | host => exact ⟨"http://scim.test", .loaded ⟨_, rfl, rfl⟩, .loaded ⟨_, rfl, hhost⟩⟩
    | param p =>
        cases p with
        | listMethod => exact ⟨" ", .noParam rfl (by decide), .loaded ⟨_, rfl, rfl⟩⟩
        | _ => exact ⟨"", .noParam rfl (by decide), .noParam rfl (by decide)⟩
    | _ => exact absurd rfl hwanted
  obtain ⟨-, hclient, hparams⟩ := halike .none s' c c' hagree
  exact ⟨hclient rfl, hparams, hhost⟩

end ScimLookup
