import ScimLookup.Proofs.Json.Record
import ScimLookup.Proofs.Scim.Grant

/-!
# What requests carry

The requests of a client are of two kinds that can be told apart by what is sent: those that ask for
a token are posts with a form that starts with the type of the grant (`Request.AsksForToken`), and
all others are lookups. The access tokens that a request carries are the values of its authorization
headers that start with the word for a bearer (`Request.bearers`).

The clients of a family are made from one client by aiming it elsewhere. None of them has a header
that clients set themselves (`Family.not_mem_reserved`), so that no token comes into a request but
the one that is meant for it (`bearers_lookupRequest`), and none at all into a request that asks for
one (`bearers_grantRequest`).
-/

set_option autoImplicit false

namespace ScimLookup

/-! ## Requests -/

namespace Request

/-- The start of the form that asks for a token. -/
def grantMark : List Char := "grant_type=".toList

/-- The request asks for a token. -/
def AsksForToken (r : Request) : Prop :=
  r.method = .post ∧ grantMark <+: r.body.toList

instance (r : Request) : Decidable r.AsksForToken :=
  inferInstanceAs (Decidable (r.method = .post ∧ grantMark <+: r.body.toList))

/-- The word before an access token, with the space behind it. -/
def bearerMark : List Char := "Bearer ".toList

/-- The access token in the value of an authorization header. -/
def bearer? (value : String) : Option String :=
  if bearerMark <+: value.toList then some (.ofList (value.toList.drop bearerMark.length)) else none

/-- The access tokens that a request carries. -/
def bearers (r : Request) : List String :=
  (Header.values "authorization" r.headers).filterMap bearer?

theorem bearer?_bearer (token : String) : bearer? ("Bearer " ++ token) = some token := by
  have hdrop : ("Bearer " ++ token).toList = bearerMark ++ token.toList := String.toList_append
  rw [bearer?, hdrop, if_pos (List.prefix_append _ _), List.drop_left, String.ofList_toList]

theorem bearer?_basicAuthorization (name password : String) :
    bearer? (basicAuthorization name password) = none := by
  rw [bearer?, if_neg]
  have hmark : bearerMark = ['B', 'e', 'a', 'r', 'e', 'r', ' '] := by decide
  have hword : "Basic ".toList = ['B', 'a', 's', 'i', 'c', ' '] := by decide
  rintro ⟨rest, hrest⟩
  rw [basicAuthorization, String.toList_append, hword, hmark] at hrest
  -- The two words share their first letter, and differ in the second.
  injection hrest with _ hrest
  injection hrest with hletter
  exact absurd hletter (by decide)

end Request

/-! ## Journals by the kinds of their requests -/

namespace Journal

/-- The requests for a token, each with what came back for it. -/
def tokenTraffic (j : Journal) : List (Request × Reply) :=
  j.traffic.filter fun x => decide x.1.AsksForToken

/-- The lookups, each with what came back for it. -/
def lookupTraffic (j : Journal) : List (Request × Reply) :=
  j.traffic.filter fun x => decide (¬ x.1.AsksForToken)

/-- The grants that were received. -/
def grants (j : Journal) : List Client.TokenGrant :=
  Client.grantsIn j.tokenTraffic

/-- A journal whose requests for tokens come first. -/
theorem traffic_split {j₀ j₁ : Journal} (h₀ : ∀ x ∈ j₀.traffic, x.1.AsksForToken)
    (h₁ : ∀ x ∈ j₁.traffic, ¬ x.1.AsksForToken) :
    (j₀ ++ j₁).tokenTraffic = j₀.traffic ∧ (j₀ ++ j₁).lookupTraffic = j₁.traffic := by
  have hall : j₀.traffic.filter (fun x => decide x.1.AsksForToken) = j₀.traffic :=
    List.filter_eq_self.2 fun x hx => decide_eq_true (h₀ x hx)
  have hnone : j₁.traffic.filter (fun x => decide x.1.AsksForToken) = [] :=
    List.filter_eq_nil_iff.2 fun x hx => by simpa using h₁ x hx
  have hnone' : j₀.traffic.filter (fun x => decide (¬ x.1.AsksForToken)) = [] :=
    List.filter_eq_nil_iff.2 fun x hx => by simpa using h₀ x hx
  have hall' : j₁.traffic.filter (fun x => decide (¬ x.1.AsksForToken)) = j₁.traffic :=
    List.filter_eq_self.2 fun x hx => decide_eq_true (h₁ x hx)
  refine ⟨?_, ?_⟩
  · rw [tokenTraffic, traffic_append, List.filter_append, hall, hnone, List.append_nil]
  · rw [lookupTraffic, traffic_append, List.filter_append, hnone', hall', List.nil_append]

theorem tokenTraffic_append (j k : Journal) :
    (j ++ k).tokenTraffic = j.tokenTraffic ++ k.tokenTraffic := by
  rw [tokenTraffic, traffic_append, List.filter_append]
  rfl

theorem grants_append (j k : Journal) : (j ++ k).grants = j.grants ++ k.grants := by
  rw [grants, tokenTraffic_append, Client.grantsIn, List.filterMap_append]
  rfl

/-- A journal all of whose requests ask for tokens. -/
theorem grants_eq {j : Journal} (h : ∀ x ∈ j.traffic, x.1.AsksForToken) :
    j.grants = Client.grantsIn j.traffic := by
  have hall : j.tokenTraffic = j.traffic :=
    List.filter_eq_self.2 fun x hx => decide_eq_true (h x hx)
  rw [grants, hall]

end Journal

namespace Header

theorem values_append (name : String) (hs ks : Headers) :
    values name (hs ++ ks) = values name hs ++ values name ks := by
  rw [values, List.filter_append, List.map_append]
  rfl

theorem values_eq_nil {name : String} {hs : Headers} (h : name ∉ hs.map Prod.fst) :
    values name hs = [] := by
  rw [values, List.map_eq_nil_iff, List.filter_eq_nil_iff]
  intro x hx hname
  exact h (List.mem_map.2 ⟨x, hx, beq_iff_eq.1 hname⟩)

/-- Setting a header brings in no other. -/
theorem mem_set {name value : String} {hs : Headers} {h : String × String}
    (hmem : h ∈ set name value hs) : h = (name, value) ∨ h ∈ hs := by
  induction hs with
  | nil => exact Or.inl (List.mem_singleton.1 hmem)
  | cons x xs ih =>
      rw [set] at hmem
      split at hmem
      · exact (List.mem_cons.1 hmem).imp_right (List.mem_cons_of_mem _)
      · rcases List.mem_cons.1 hmem with rfl | hmem
        · exact Or.inr List.mem_cons_self
        · exact (ih hmem).imp_right (List.mem_cons_of_mem _)

end Header

namespace Client

/-! ## Families of clients -/

/-- A client that was just made. -/
inductive IsNew : Client → Prop
  | plain (host : String) (credentials : Credentials) : IsNew (plain host credentials)
  | ofConfig {config : ClientConfig} {connector : Connector} {c : Client} :
      ofConfig config connector = .ok c → IsNew c

/-- The clients that are made from one client by aiming it elsewhere, any number of times. -/
inductive Family (root : Client) : Client → Prop
  | root : Family root root
  | aimedAt {c c' : Client} {t : Target} :
      Family root c → c.aimedAt t = .ok c' → Family root c'

/-- What a configuration is made into. -/
theorem ofConfig_ok {config : ClientConfig} {connector : Connector} {c : Client}
    (h : ofConfig config connector = .ok c) :
    c = { plain config.host config.credentials with
      timeout := some config.timeout
      agent := some agentName } := by
  rw [ofConfig] at h
  obtain ⟨-, -, h⟩ := ok_of_bind h
  obtain ⟨identity, -, h⟩ := ok_of_bind h
  -- Whichever roots there are, they are only checked: the client is the same.
  have hbuilt : ∃ roots : List Bytes,
      (if connector.takes identity roots then
        pure { plain config.host config.credentials with
          timeout := some config.timeout
          agent := some agentName }
      else throw (.setup .notACertificate) : Except ClientError Client) = .ok c := by
    cases hr : config.roots with
    | none =>
        rw [hr] at h
        exact ⟨[], h⟩
    | some pem =>
        rw [hr] at h
        obtain ⟨roots, -, h⟩ := ok_of_bind h
        exact ⟨roots, h⟩
  obtain ⟨roots, hbuilt⟩ := hbuilt
  split at hbuilt
  · cases hbuilt
    rfl
  · cases hbuilt

/-- A client that was just made sends nothing along. -/
theorem IsNew.headers_eq {c : Client} (h : c.IsNew) : c.headers = [] := by
  cases h with
  | plain host credentials => rfl
  | ofConfig h =>
      rw [ofConfig_ok h]
      rfl

/-- None of the headers is one that clients set themselves. -/
def IsTidy (hs : Headers) : Prop :=
  ∀ name ∈ reserved, name ∉ hs.map Prod.fst

/-- A header that is put among others is set under its name in lower case. -/
theorem addHeader_ok {hs hs' : Headers} {h : String × String} (hadd : addHeader hs h = .ok hs') :
    Text.lower h.1 ∉ reserved ∧ hs' = Header.set (Text.lower h.1) h.2 hs := by
  have hlower : ∀ name, Header.name? h.1 = some name → name = Text.lower h.1 := by
    intro name hname
    rw [Header.name?] at hname
    split at hname
    · cases hname
    · split at hname
      · exact (Option.some.inj hname).symm
      · cases hname
  rw [addHeader] at hadd
  split at hadd
  · cases hadd
  · rename_i name hname
    rw [hlower name hname] at hadd
    split at hadd
    · cases hadd
    · rename_i hreserved
      split at hadd
      · exact ⟨hreserved, (Except.ok.inj hadd).symm⟩
      · cases hadd

/-- A header that is put among tidy ones leaves them tidy. -/
theorem isTidy_addHeader {hs hs' : Headers} {h : String × String} (htidy : IsTidy hs)
    (hadd : addHeader hs h = .ok hs') : IsTidy hs' := by
  obtain ⟨hreserved, rfl⟩ := addHeader_ok hadd
  intro n hn hmem
  obtain ⟨x, hx, rfl⟩ := List.mem_map.1 hmem
  rcases Header.mem_set hx with rfl | hx
  · exact hreserved hn
  · exact htidy _ hn (List.mem_map_of_mem hx)

/-- Aiming a client elsewhere leaves it its credentials and its way of connecting. -/
theorem aimedAt_ok {c c' : Client} {t : Target} (h : c.aimedAt t = .ok c') :
    ∃ hs, t.headers.foldlM addHeader c.headers = .ok hs ∧
      c' = { c with baseUrl := (t.host.map trimSlashes).getD c.baseUrl, headers := hs } := by
  rw [aimedAt] at h
  cases hh : t.headers.foldlM addHeader c.headers with
  | error e =>
      rw [hh] at h
      cases h
  | ok hs =>
      rw [hh] at h
      cases h
      exact ⟨hs, rfl, rfl⟩

namespace Family

variable {root c : Client}

theorem credentials_eq (h : root.Family c) : c.credentials = root.credentials := by
  induction h with
  | root => rfl
  | aimedAt _ haim ih =>
      obtain ⟨hs, -, rfl⟩ := aimedAt_ok haim
      exact ih

/-- **No client of a family sends along what clients set themselves.** -/
theorem isTidy (hnew : root.IsNew) (h : root.Family c) : IsTidy c.headers := by
  induction h with
  | root =>
      rw [hnew.headers_eq]
      intro name hname hmem
      cases hmem
  | aimedAt _ haim ih =>
      obtain ⟨hs, hadd, rfl⟩ := aimedAt_ok haim
      exact invariant_of_foldlM (fun _ _ _ => isTidy_addHeader) ih hadd

end Family

/-! ## Tokens in requests -/

/-- What is set by default comes in where nothing was set. -/
theorem values_defaultHeader (n name value : String) (hs : Headers) :
    Header.values n (defaultHeader name value hs) =
      if n = name ∧ Header.values name hs = [] then [value] else Header.values n hs := by
  have hany : hs.any (·.1 == name) = true ↔ Header.values name hs ≠ [] := by
    rw [Header.values, ne_eq, List.map_eq_nil_iff, List.filter_eq_nil_iff]
    simp
  rw [defaultHeader]
  split
  · rename_i hset
    rw [if_neg fun h => hany.1 hset h.2]
  · rename_i hset
    have hnone : Header.values name hs = [] := Decidable.not_not.1 fun h => hset (hany.2 h)
    rw [Header.values_append]
    by_cases hname : n = name
    · subst hname
      rw [if_pos ⟨rfl, hnone⟩, hnone]
      simp [Header.values]
    · have hother : Header.values n [(name, value)] = [] :=
        Header.values_eq_nil (by simpa using hname)
      rw [if_neg fun h => hname h.1, hother, List.append_nil]

/-- What is set by default is no authorization. -/
theorem values_withDefaults (c : Client) (hs : Headers) :
    Header.values "authorization" (c.withDefaults hs) = Header.values "authorization" hs := by
  have hdefault : ∀ (name value : String) (ks : Headers), "authorization" ≠ name →
      Header.values "authorization" (defaultHeader name value ks) =
        Header.values "authorization" ks := by
    intro name value ks hname
    rw [values_defaultHeader, if_neg fun h => hname h.1]
  rw [withDefaults]
  cases c.agent with
  | none => exact hdefault _ _ _ (by decide)
  | some name => exact (hdefault _ _ _ (by decide)).trans (hdefault _ _ _ (by decide))

/-- User and password of an address are no access token. -/
theorem bearers_draft? {address : String} {d : Draft} (h : draft? address = some d) :
    (Header.values "authorization" d.headers).filterMap Request.bearer? = [] := by
  rw [draft?] at h
  cases hu : Url.parse? address with
  | none =>
      rw [hu] at h
      cases h
  | some url =>
      simp only [hu, Option.bind_eq_bind, Option.bind_some] at h
      -- Only user and password of the address make a header, and it is a basic one.
      split at h
      · cases h
        rfl
      · split at h
        · cases h
          simp [Header.values, Request.bearer?_basicAuthorization]
        · cases h
          rfl

/-- The request of a draft carries what the draft carries. -/
theorem bearers_finished {c : Client} {method : Method} {d : Draft} {body : String} {r : Request}
    (h : c.finished method d body = .ok r) :
    r.bearers = (Header.values "authorization" d.headers).filterMap Request.bearer? := by
  rw [finished] at h
  split at h
  · cases h
    rw [Request.bearers, values_withDefaults]
  · cases h

theorem finished_ok {c : Client} {method : Method} {d : Draft} {body : String} {r : Request}
    (h : c.finished method d body = .ok r) : r.method = method ∧ r.body = body := by
  rw [finished] at h
  split at h
  · cases h
    exact ⟨rfl, rfl⟩
  · cases h

/-- The parts from which the request for a token is made. -/
theorem grantRequest?_ok {c : Client} {r : Request} (h : c.grantRequest? = some (.ok r)) :
    ∃ id secret endpoint scopes d, c.credentials = .oauth2 id secret endpoint scopes ∧
      draft? endpoint = some d ∧
      c.finished .post ⟨d.url, d.headers ++ [("authorization", basicAuthorization id secret),
        ("content-type", "application/x-www-form-urlencoded")]⟩
        (Form.render (grantForm scopes)) = .ok r := by
  rw [grantRequest?] at h
  cases hc : c.credentials with
  | basic id secret =>
      rw [hc] at h
      cases h
  | mtls id certificate =>
      rw [hc] at h
      cases h
  | oauth2 id secret endpoint scopes =>
      rw [hc] at h
      simp only [Option.some.injEq] at h
      split at h
      · cases h
      · rename_i d hd
        split at h
        · cases h
        · exact ⟨id, secret, endpoint, scopes, d, rfl, hd, h⟩

/-- A form of pairs starts with the first name. -/
theorem grantMark_prefix (scopes : List String) :
    Request.grantMark <+: (Form.render (grantForm scopes)).toList := by
  have hname : Form.encodeText "grant_type" ++ ['='] = Request.grantMark := by decide
  have hpair : Request.grantMark <+: Form.encodePair ("grant_type", "client_credentials") := by
    rw [← hname, Form.encodePair]
    exact ⟨_, List.append_assoc _ ['='] _⟩
  rw [Form.render, String.toList_ofList, grantForm]
  split
  · exact hpair
  · exact hpair.trans (List.prefix_append _ _)

theorem asksForToken_grantRequest {c : Client} {r : Request}
    (h : c.grantRequest? = some (.ok r)) : r.AsksForToken := by
  obtain ⟨id, secret, endpoint, scopes, d, -, -, hr⟩ := grantRequest?_ok h
  obtain ⟨hmethod, hbody⟩ := finished_ok hr
  refine ⟨hmethod, ?_⟩
  rw [hbody]
  exact grantMark_prefix scopes

/-- **A request that asks for a token carries none.** -/
theorem bearers_grantRequest {c : Client} {r : Request} (h : c.grantRequest? = some (.ok r)) :
    r.bearers = [] := by
  obtain ⟨id, secret, endpoint, scopes, d, -, hd, hr⟩ := grantRequest?_ok h
  rw [bearers_finished hr, Header.values_append, List.filterMap_append, bearers_draft? hd]
  simp [Header.values, Request.bearer?_basicAuthorization]

/-! ## Tokens in lookups -/

/-- The request of a lookup at an address, with the token for it. -/
def lookupRequest (c : Client) (method : Method) (address body : String) (token : Option String) :
    Except TransportFault Request :=
  match c.lookupDraft method address token with
  | .error fault => .error fault
  | .ok d => c.finished method d body

/-- The parts from which the request of a lookup is made. -/
theorem lookupRequest_ok {c : Client} {method : Method} {address body : String}
    {token : Option String} {r : Request}
    (h : c.lookupRequest method address body token = .ok r) :
    ∃ d d', draft? address = some d ∧
      authorize ⟨d.url, c.lookupHeaders method d.headers⟩ c.credentials token = .ok d' ∧
      c.finished method d' body = .ok r := by
  rw [lookupRequest] at h
  split at h
  · cases h
  · rename_i d' hd'
    rw [lookupDraft] at hd'
    split at hd'
    · cases hd'
    · rename_i d hd
      split at hd'
      · cases hd'
      · exact ⟨d, d', hd, hd', h⟩

/-- The headers before the credentials hold no access token. -/
theorem bearers_lookupHeaders {c : Client} (htidy : IsTidy c.headers) (method : Method)
    {own : Headers} (hown : (Header.values "authorization" own).filterMap Request.bearer? = []) :
    (Header.values "authorization" (c.lookupHeaders method own)).filterMap Request.bearer? = [] := by
  have hsent : Header.values "authorization" c.headers = [] :=
    Header.values_eq_nil (htidy _ (by decide))
  have hmedia : ∀ name value, name ≠ "authorization" →
      Header.values "authorization" [(name, value)] = [] := by
    intro name value hname
    exact Header.values_eq_nil (by simpa using hname.symm)
  unfold lookupHeaders
  rw [Header.values_append, Header.values_append, Header.values_append, hsent,
    hmedia "accept" _ (by decide), List.append_nil, List.append_nil, List.filterMap_append, hown]
  cases method with
  | get => rfl
  | post => rw [hmedia "content-type" _ (by decide)]; rfl

/-- The token that the credentials of a client put into a lookup. -/
def bearersFor (c : Client) (token : Option String) : List String :=
  match c.credentials with
  | .oauth2 .. => token.toList
  | _ => []

/-- **A lookup carries the token that is meant for it, and no other.** -/
theorem bearers_lookupRequest {c : Client} (htidy : IsTidy c.headers) {method : Method}
    {address body : String} {token : Option String} {r : Request}
    (h : c.lookupRequest method address body token = .ok r) : r.bearers = c.bearersFor token := by
  obtain ⟨d, d', hd, hauth, hr⟩ := lookupRequest_ok h
  have hown := bearers_lookupHeaders htidy method (bearers_draft? hd)
  rw [bearers_finished hr]
  cases hc : c.credentials with
  | basic id secret =>
      rw [hc] at hauth
      cases hauth
      rw [Header.values_append, List.filterMap_append, hown]
      simp [bearersFor, hc, Header.values, Request.bearer?_basicAuthorization]
  | mtls id certificate =>
      rw [hc] at hauth
      -- The id goes into the address, not into a header.
      cases hauth
      rw [hown, bearersFor, hc]
  | oauth2 id secret endpoint scopes =>
      rw [hc] at hauth
      cases token with
      | none =>
          -- Without a token the lookup would go out bare.
          cases hauth
          rw [hown, bearersFor, hc]
          rfl
      | some text =>
          simp only [authorize] at hauth
          split at hauth
          · cases hauth
            rw [Header.values_append, List.filterMap_append, hown]
            simp [bearersFor, hc, Header.values, Request.bearer?_bearer]
          · cases hauth

end Client

end ScimLookup
