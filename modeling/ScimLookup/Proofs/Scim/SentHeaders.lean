import Mathlib
import ScimLookup.Proofs.Scim.ResourceAddress
import ScimLookup.Proofs.Scim.TokenHistory

/-!
# The headers of lookups

The headers of a lookup come together in three places: those that were given when the client was
aimed are set one over another, those of the request are put behind them, and the credentials come
last. A name is set by one of the three only, since no client is aimed with a name that clients set
themselves (`reserved_of_aimedAt`). So every name stands there once, with the value that was given
last where it was given (`IsKept.aimedAlong`), and all that a lookup carries is known from what the
client was aimed with and from its credentials (`headers_sent`).
-/

set_option autoImplicit false

namespace ScimLookup

/-! ## Names in lower case -/

namespace Text

theorem lower_lower (s : String) : lower (lower s) = lower s := by
  apply String.toList_inj.1
  simp [lower]

end Text

namespace Header

variable {name value n : String} {hs : Headers}

theorem values_map (values : List String) :
    Header.values n (values.map fun value => (name, value)) = if name = n then values else [] := by
  rw [Header.values, List.filter_map, List.map_map]
  split
  · rename_i h
    subst h
    simp [Function.comp_def]
  · rename_i h
    simp [Function.comp_def, h]

theorem values_set_of_ne (h : n ≠ name) : values n (set name value hs) = values n hs := by
  have hnot : (name == n) = false := beq_false_of_ne (Ne.symm h)
  induction hs with
  | nil => simp [set, values, hnot]
  | cons x xs ih =>
      rw [set]
      split
      · rename_i hx
        simp [values, hx, hnot]
      · rw [values, values, List.filter_cons, List.filter_cons]
        split
        · exact congrArg (x.2 :: ·) ih
        · exact ih

/-- A name that stands there once at most stands there once after it is set. -/
theorem values_set_self (h : (values name hs).length ≤ 1) :
    values name (set name value hs) = [value] := by
  induction hs with
  | nil => simp [set, values]
  | cons x xs ih =>
      rw [set]
      split
      · rename_i hx
        have hrest : values name xs = [] := by
          rw [← List.length_eq_zero_iff]
          simp only [values, List.filter_cons, hx, beq_self_eq_true, if_true, List.map_cons,
            List.length_cons] at h ⊢
          omega
        have hfirst : values name ((name, value) :: xs) = value :: values name xs := by
          simp [values]
        rw [hfirst, hrest]
      · rename_i hx
        have hskip : ∀ ys, values name (x :: ys) = values name ys := by
          intro ys
          simp [values, hx]
        rw [hskip] at h ⊢
        exact ih h

end Header

namespace Client

open Exchange Json

/-! ## Headers that are sent along -/

/-- The value that was given last for a name. Case makes no difference to names. -/
def lastGiven? (name : String) (given : List (String × String)) : Option String :=
  (given.filter (Text.lower ·.1 == name)).getLast?.map (·.2)

theorem lastGiven?_concat (name : String) (given : List (String × String)) (h : String × String) :
    lastGiven? name (given ++ [h]) =
      if Text.lower h.1 = name then some h.2 else lastGiven? name given := by
  rw [lastGiven?, List.filter_append]
  split
  · rename_i hname
    simp [hname]
  · rename_i hname
    simp [lastGiven?, hname]

/-- A name that was given has a last value, and others have none. -/
theorem exists_lastGiven? {given : List (String × String)} {h : String × String} (hh : h ∈ given) :
    ∃ value, lastGiven? (Text.lower h.1) given = some value := by
  rw [← Option.isSome_iff_exists, lastGiven?, Option.isSome_map, List.getLast?_isSome]
  exact List.ne_nil_of_mem (List.mem_filter.2 ⟨hh, beq_self_eq_true _⟩)

theorem lastGiven?_eq_none {given : List (String × String)} {name : String}
    (hnone : ∀ h ∈ given, Text.lower h.1 ≠ name) : lastGiven? name given = none := by
  rw [lastGiven?, Option.map_eq_none_iff, List.getLast?_eq_none_iff, List.filter_eq_nil_iff]
  intro h hh heq
  exact hnone h hh (beq_iff_eq.1 heq)

/-- The headers are those that were given: each name in lower case, with the last of its values. -/
structure IsKept (hs : Headers) (given : List (String × String)) : Prop where
  lower : ∀ h ∈ hs, Text.lower h.1 = h.1
  values : ∀ name, Header.values name hs = (lastGiven? name given).toList

/-- **One header more is kept with those before it.** -/
theorem IsKept.addHeader {hs hs' : Headers} {given : List (String × String)} {h : String × String}
    (hkept : IsKept hs given) (hadd : Client.addHeader hs h = .ok hs') :
    IsKept hs' (given ++ [h]) := by
  obtain ⟨-, rfl⟩ := addHeader_ok hadd
  refine ⟨?_, ?_⟩
  · intro x hx
    rcases Header.mem_set hx with rfl | hx
    · exact Text.lower_lower h.1
    · exact hkept.lower x hx
  · intro name
    rw [lastGiven?_concat]
    split
    · rename_i hname
      subst hname
      apply Header.values_set_self
      rw [hkept.values]
      exact Option.length_toList_le
    · rename_i hname
      rw [Header.values_set_of_ne (Ne.symm hname), hkept.values]

/-- Headers that are put among others one after the other are kept with them. -/
theorem IsKept.foldlM_addHeader {added hs hs' : Headers} {given : List (String × String)}
    (hkept : IsKept hs given) (hadd : added.foldlM Client.addHeader hs = .ok hs') :
    IsKept hs' (given ++ added) := by
  induction added generalizing hs given with
  | nil =>
      cases hadd
      rw [List.append_nil]
      exact hkept
  | cons h added ih =>
      rw [List.foldlM_cons] at hadd
      obtain ⟨hs₁, hfirst, hrest⟩ := ok_of_bind hadd
      have hrest := ih (hkept.addHeader hfirst) hrest
      rwa [List.append_assoc, List.singleton_append] at hrest

/-- The client aimed at one target after the other. -/
def aimedAlong (root : Client) (targets : List Target) : Except ClientError Client :=
  targets.foldlM aimedAt root

/-- What was given on the way. -/
def givenAlong (targets : List Target) : List (String × String) :=
  targets.flatMap (·.headers)

/-- **No client is aimed with a header that clients set themselves**, in whatever case. -/
theorem reserved_of_aimedAt {c c' : Client} {t : Target} (haim : c.aimedAt t = .ok c') :
    ∀ h ∈ t.headers, Text.lower h.1 ∉ reserved := by
  obtain ⟨hs, hadd, -⟩ := aimedAt_ok haim
  exact forall_of_foldlM (fun _ _ _ hstep => (addHeader_ok hstep).1) hadd

section Along

variable {root c c' : Client} {targets : List Target} {given : List (String × String)}

theorem Family.aimedAlong (h : root.Family c) (haimed : c.aimedAlong targets = .ok c') :
    root.Family c' :=
  invariant_of_foldlM (fun _ _ _ => Family.aimedAt) h haimed

theorem reserved_of_aimedAlong (haimed : c.aimedAlong targets = .ok c') :
    ∀ h ∈ givenAlong targets, Text.lower h.1 ∉ reserved := by
  have hall : ∀ t ∈ targets, ∀ h ∈ t.headers, Text.lower h.1 ∉ reserved :=
    forall_of_foldlM (fun _ _ _ => reserved_of_aimedAt) haimed
  intro h hh
  obtain ⟨t, ht, hmem⟩ := List.mem_flatMap.1 hh
  exact hall t ht h hmem

/-- **A client keeps what it was aimed with along the way.** -/
theorem IsKept.aimedAlong (hkept : IsKept c.headers given)
    (haimed : c.aimedAlong targets = .ok c') :
    IsKept c'.headers (given ++ givenAlong targets) := by
  induction targets generalizing c given with
  | nil =>
      cases haimed
      rw [givenAlong, List.flatMap_nil, List.append_nil]
      exact hkept
  | cons t targets ih =>
      rw [Client.aimedAlong, List.foldlM_cons] at haimed
      obtain ⟨c₁, hfirst, hrest⟩ := ok_of_bind haimed
      obtain ⟨hs, hadd, rfl⟩ := aimedAt_ok hfirst
      have hrest := ih (hkept.foldlM_addHeader hadd) hrest
      rwa [List.append_assoc] at hrest

end Along

/-! ## Addresses that name no user -/

/-- What is looked up below a base that names no user names none. -/
theorem credentials?_lookup {c : Client} {collection : Collection} {s : String} {u : Url}
    (hbase : ∀ base, Url.parse? c.baseUrl = some base → base.credentials? = none)
    (hu : Url.parse? (c.baseUrl ++ collection.path ++ "/" ++ s) = some u)
    (hweb : u.isWeb = true) : u.credentials? = none := by
  rw [collection.address_eq] at hu
  rcases Url.server_below hu hweb with ⟨base, hread, hserver⟩ | ⟨d, hplaced⟩
  · rw [String.ofList_toList] at hread
    have hnone := hbase base hread
    have husername : base.username = u.username := congrArg Url.Server.username hserver
    have hpassword : base.password = u.password := congrArg Url.Server.password hserver
    rw [Url.credentials?, husername, hpassword] at hnone
    exact hnone
  · -- The server has the name of the collection, which holds no mark of a user.
    rw [collection.back_address] at hplaced
    have hpart : ∀ cs, Url.authorityPart (collection.segment.toList ++ '/' :: cs) =
        collection.segment.toList := by
      intro cs
      cases collection <;> rfl
    rw [hpart] at hplaced
    obtain ⟨a, ha, hu⟩ := Option.map_eq_some_iff.1 hplaced
    have hmark : '@' ∉ collection.segment.toList := by
      cases collection <;> decide
    obtain ⟨husername, hpassword⟩ := Url.user_of_authority? ha hmark
    have huser : u.username = "" := (congrArg Url.username hu).symm.trans husername
    have hpass : u.password = none := (congrArg Url.password hu).symm.trans hpassword
    rw [Url.credentials?, huser, hpass]
    rfl

/-! ## Requests -/

/-- The authorization of a lookup with a token. -/
def authorization (token : Option String) : Credentials → List String
  | .basic id secret => [basicAuthorization id secret]
  | .mtls _ _ => []
  | .oauth2 .. => (token.map fun text => "Bearer " ++ text).toList

theorem authorize_ok {d d' : Draft} {credentials : Credentials} {token : Option String}
    (h : authorize d credentials token = .ok d') :
    d'.headers = d.headers ++
      (authorization token credentials).map fun value => ("authorization", value) := by
  cases credentials with
  | basic id secret =>
      cases h
      rfl
  | mtls id certificate =>
      cases h
      exact (List.append_nil _).symm
  | oauth2 id secret endpoint scopes =>
      cases token with
      | none =>
          cases h
          exact (List.append_nil _).symm
      | some text =>
          rw [authorize] at h
          split at h
          · cases h
            rfl
          · cases h

/-- What the body of a request is, where there is one. -/
def bodyType : Method → List String
  | .post => [mediaType]
  | .get => []

/-- What a lookup has under a name of its own. -/
def ownValues (method : Method) (authorization : List String) (name : String) : List String :=
  (if "accept" = name then [mediaType] else []) ++
    (if "content-type" = name then bodyType method else []) ++
    (if "authorization" = name then authorization else [])

theorem ownValues_eq_nil {method : Method} {authorization : List String} {name : String}
    (h : name ∉ reserved) : ownValues method authorization name = [] := by
  have hne : ∀ n ∈ reserved, ¬ n = name := by
    rintro n hn rfl
    exact h hn
  rw [ownValues, if_neg (hne _ (by decide)), if_neg (hne _ (by decide)),
    if_neg (hne _ (by decide))]
  rfl

theorem lookupHeaders_eq (c : Client) (method : Method) : c.lookupHeaders method [] =
    c.headers ++ [mediaType].map (fun value => ("accept", value)) ++
      (bodyType method).map fun value => ("content-type", value) := by
  cases method <;> rfl

/-- The headers that a lookup sets, those of its client first. -/
def ownHeaders (c : Client) (method : Method) (authorization : List String) : Headers :=
  c.lookupHeaders method [] ++ authorization.map fun value => ("authorization", value)

/-- Under each name stand what was given and what the lookup sets itself. -/
theorem values_ownHeaders (c : Client) (method : Method) (authorization : List String)
    (name : String) :
    Header.values name (c.ownHeaders method authorization) =
      Header.values name c.headers ++ ownValues method authorization name := by
  rw [ownHeaders, lookupHeaders_eq, Header.values_append, Header.values_append, Header.values_append,
    Header.values_map, Header.values_map, Header.values_map, ownValues]
  simp only [List.append_assoc]

/-- The defaults add to a lookup the name of the client, unless one was given. -/
theorem values_withDefaults_lookup (c : Client) {hs : Headers}
    (haccept : Header.values "accept" hs ≠ []) (name : String) :
    Header.values name (c.withDefaults hs) =
      if name = "user-agent" ∧ Header.values name hs = [] then c.agent.toList
      else Header.values name hs := by
  have hfirst : ∀ n, Header.values n (defaultHeader "accept" "*/*" hs) = Header.values n hs := by
    intro n
    rw [values_defaultHeader, if_neg fun h => haccept h.2]
  rw [withDefaults]
  cases c.agent with
  | none =>
      simp only [hfirst]
      split
      · rename_i h
        exact h.2
      · rfl
  | some agent =>
      simp only [values_defaultHeader _ "user-agent", hfirst]
      by_cases hname : name = "user-agent"
      · simp [hname]
      · simp [hname]

theorem mem_withDefaults {c : Client} {hs : Headers} {h : String × String}
    (hmem : h ∈ c.withDefaults hs) : h ∈ hs ∨ h.1 = "accept" ∨ h.1 = "user-agent" := by
  have hdefault : ∀ {name value : String} {ks : Headers},
      h ∈ defaultHeader name value ks → h ∈ ks ∨ h.1 = name := by
    intro name value ks hks
    rw [defaultHeader] at hks
    split at hks
    · exact Or.inl hks
    · refine (List.mem_append.1 hks).imp_right fun hlast => ?_
      rw [List.mem_singleton.1 hlast]
  rw [withDefaults] at hmem
  cases hagent : c.agent with
  | none =>
      simp only [hagent] at hmem
      exact (hdefault hmem).imp_right Or.inl
  | some agent =>
      simp only [hagent] at hmem
      rcases hdefault hmem with hmem | hname
      · exact (hdefault hmem).imp_right Or.inl
      · exact Or.inr (Or.inr hname)

/-- What the headers of a request are: the media type as what is accepted and, of what is posted, as
what it is; the authorization; and besides what was given, each name once and with the last of its
values. -/
structure HasHeaders (c : Client) (given : List (String × String)) (authorization : List String)
    (q : Request) : Prop where
  /-- Names are in lower case. -/
  lower : ∀ h ∈ q.headers, Text.lower h.1 = h.1
  accept : Header.values "accept" q.headers = ["application/scim+json"]
  contentType : Header.values "content-type" q.headers =
    if q.method = .post then ["application/scim+json"] else []
  authorization : Header.values "authorization" q.headers = authorization
  supplied : ∀ h ∈ given, ∃ value, lastGiven? (Text.lower h.1) given = some value ∧
    Header.values (Text.lower h.1) q.headers = [value]
  /-- Nothing else is sent, but for the name of the client. -/
  others : ∀ name, name ∉ reserved → lastGiven? name given = none →
    Header.values name q.headers = if name = "user-agent" then c.agent.toList else []

/-- Where the address names no user, a lookup has what it sets itself and the defaults. -/
theorem headers_lookupRequest {c : Client} {method : Method} {address body : String}
    {token : Option String} {q : Request} {u : Url} (hu : Url.parse? address = some u)
    (huser : u.credentials? = none) (hq : c.lookupRequest method address body token = .ok q) :
    q.method = method ∧
      q.headers = c.withDefaults (c.ownHeaders method (authorization token c.credentials)) := by
  obtain ⟨d, d', hd, hauth, hfinished⟩ := lookupRequest_ok hq
  have hnone : d.headers = [] := by
    simp only [draft?, hu, huser, Option.bind_eq_bind, Option.bind_some] at hd
    split at hd <;> cases hd <;> rfl
  have hheaders := authorize_ok hauth
  rw [hnone] at hheaders
  rw [finished] at hfinished
  split at hfinished
  · cases hfinished
    exact ⟨rfl, congrArg c.withDefaults hheaders⟩
  · cases hfinished

/-- All names are in lower case, if those are that the client keeps. -/
theorem lower_withDefaults {c : Client} (hlower : ∀ h ∈ c.headers, Text.lower h.1 = h.1)
    (method : Method) (authorization : List String) :
    ∀ h ∈ c.withDefaults (c.ownHeaders method authorization), Text.lower h.1 = h.1 := by
  have hown : ∀ name ∈ reserved, Text.lower name = name := by decide
  intro h hh
  rcases mem_withDefaults hh with hh | hname | hname
  · rw [ownHeaders, lookupHeaders_eq] at hh
    simp only [List.mem_append, List.mem_map] at hh
    rcases hh with ((hh | ⟨_, -, rfl⟩) | ⟨_, -, rfl⟩) | ⟨_, -, rfl⟩
    · exact hlower h hh
    · exact hown "accept" (by decide)
    · exact hown "content-type" (by decide)
    · exact hown "authorization" (by decide)
  · rw [hname]
    decide
  · rw [hname]
    decide

/-- **A lookup has the headers that are settled for it**, if its address names no user. -/
theorem hasHeaders_lookupRequest {c : Client} {given : List (String × String)} {method : Method}
    {address body : String} {token : Option String} {q : Request} {u : Url}
    (hkept : IsKept c.headers given) (hgiven : ∀ h ∈ given, Text.lower h.1 ∉ reserved)
    (hu : Url.parse? address = some u) (huser : u.credentials? = none)
    (hq : c.lookupRequest method address body token = .ok q) :
    HasHeaders c given (authorization token c.credentials) q := by
  obtain ⟨hmethod, hheaders⟩ := headers_lookupRequest hu huser hq
  have hvalues : ∀ name,
      Header.values name (c.ownHeaders method (authorization token c.credentials)) =
        (lastGiven? name given).toList ++
          ownValues method (authorization token c.credentials) name := by
    intro name
    rw [values_ownHeaders, hkept.values]
  have hreserved : ∀ name ∈ reserved,
      Header.values name (c.ownHeaders method (authorization token c.credentials)) =
        ownValues method (authorization token c.credentials) name := by
    intro name hname
    have hnone : lastGiven? name given = none := by
      apply lastGiven?_eq_none
      rintro h hh rfl
      exact hgiven h hh hname
    rw [hvalues, hnone]
    rfl
  have haccept : Header.values "accept" (c.ownHeaders method (authorization token c.credentials)) =
      [mediaType] := hreserved "accept" (by decide)
  have hdefaults := values_withDefaults_lookup c (by rw [haccept]; exact List.cons_ne_nil _ _)
  rw [← hheaders] at hdefaults
  refine ⟨?_, ?_, ?_, ?_, ?_, ?_⟩
  · rw [hheaders]
    exact lower_withDefaults hkept.lower method _
  · rw [hdefaults, if_neg (by simp), haccept]
    rfl
  · rw [hdefaults, if_neg (by simp), hreserved _ (by decide), hmethod]
    cases method <;> rfl
  · rw [hdefaults, if_neg (by simp), hreserved _ (by decide)]
    rfl
  · intro h hh
    obtain ⟨value, hvalue⟩ := exists_lastGiven? hh
    have hone : Header.values (Text.lower h.1)
        (c.ownHeaders method (authorization token c.credentials)) = [value] := by
      rw [hvalues, hvalue, ownValues_eq_nil (hgiven h hh)]
      rfl
    refine ⟨value, hvalue, ?_⟩
    rw [hdefaults, if_neg fun hnone => ?_, hone]
    rw [hone] at hnone
    cases hnone.2
  · intro name hname hnone
    have hempty : Header.values name
        (c.ownHeaders method (authorization token c.credentials)) = [] := by
      rw [hvalues, hnone, ownValues_eq_nil hname]
      rfl
    rw [hdefaults, hempty]
    simp only [and_true]

/-! ## What is sent -/

/-- The token is the one in use: it was granted in the course of the journal, or it is remembered and
not stale. -/
def IsInUse (w : World) (j : Journal) (token : String) : Prop :=
  (∃ g, j.grants = [g] ∧ token = g.accessToken) ∨
    (j.grants = [] ∧ isStale w.cache (w.clock w.looks) = false ∧
      ∃ t, w.cache = some t ∧ token = t.text)

/-- **The headers of a lookup are settled by what the client was aimed with and by its
credentials.** A client that comes from a new one by aiming it any number of times, and whose base
names no user, sends every lookup with these headers: the media types; as its authorization the id
and the secret, or the token in use, or none where a certificate proves who the client is; and under
each other name that was given the value that was given last. The names that clients set themselves
are accepted from nobody, in whatever case. -/
theorem headers_sent {root c : Client} {targets : List Target} (hnew : root.IsNew)
    (haimed : root.aimedAlong targets = .ok c)
    (hbase : ∀ base, Url.parse? c.baseUrl = some base → base.credentials? = none) :
    (∀ (call : Call) (w w' : World) (o : Outcome (Except ClientError Found)) (j : Journal),
      (call.perform c).Runs w o j w' → ∀ x ∈ j.lookupTraffic,
      match root.credentials with
      | .basic id secret =>
        HasHeaders c (givenAlong targets) [basicAuthorization id secret] x.1
      | .mtls _ _ => HasHeaders c (givenAlong targets) [] x.1
      | .oauth2 .. => ∃ token, IsInUse w j token ∧
        HasHeaders c (givenAlong targets) ["Bearer " ++ token] x.1) ∧
    ∀ (c' : Client) (t : Target), c.aimedAt t = .ok c' → ∀ h ∈ t.headers,
      Text.lower h.1 ∉ ["accept", "authorization", "content-type", "host"] := by
  refine ⟨?_, fun c' t haim => reserved_of_aimedAt haim⟩
  intro call w w' o j hrun x hx
  obtain ⟨method, address, body, token, hparts, hlookup, htoken⟩ :=
    (Call.runs_perform hrun).request_of_mem hx
  obtain ⟨d, -, hd, -, -⟩ := lookupRequest_ok hlookup
  obtain ⟨u, hu, -⟩ := server_draft? hd
  obtain ⟨-, -, -, hweb⟩ := url_lookupRequest hu hlookup
  obtain ⟨collection, s, rfl⟩ := Call.address_of_parts? hparts
  have hkept : IsKept root.headers [] := by
    rw [hnew.headers_eq]
    exact ⟨fun h hh => absurd hh List.not_mem_nil, fun name => rfl⟩
  have hheaders := hasHeaders_lookupRequest (hkept.aimedAlong haimed)
    (reserved_of_aimedAlong haimed) hu (credentials?_lookup hbase hu hweb) hlookup
  rw [List.nil_append] at hheaders
  have hcredentials := (Family.root.aimedAlong haimed).credentials_eq
  rw [hcredentials] at hheaders
  cases hroot : root.credentials with
  | basic id secret =>
      rw [hroot] at hheaders
      exact hheaders
  | mtls id certificate =>
      rw [hroot] at hheaders
      exact hheaders
  | oauth2 id secret endpoint scopes =>
      rw [hroot] at hheaders hcredentials
      rcases htoken (grantRequest?_ne_none hcredentials) with
        ⟨t, hcache, hfresh, hgrants, rfl⟩ | ⟨g, hgrants, rfl⟩
      · exact ⟨t.text, Or.inr ⟨hgrants, hfresh, t, hcache, rfl⟩, hheaders⟩
      · exact ⟨g.accessToken, Or.inl ⟨g, hgrants, rfl⟩, hheaders⟩

/-- A header that was given twice in different cases is sent once, with the value given last. -/
theorem headers_sent_twice :
    ∃ (c : Client) (w : World) (q : Request),
      (plain "http://[::1]/scim" (.basic "id" "secret")).IsNew ∧
      (plain "http://[::1]/scim" (.basic "id" "secret")).aimedAlong
        [⟨none, [("X-Tenant", "a")]⟩, ⟨none, [("x-tenant", "b")]⟩] = .ok c ∧
      (∀ base, Url.parse? c.baseUrl = some base → base.credentials? = none) ∧
      (((Call.getUser "1").perform c).journal w).lookupTraffic = [(q, .lost)] ∧
      q.headers = [("x-tenant", "b"), ("accept", "application/scim+json"),
        ("authorization", "Basic aWQ6c2VjcmV0")] ∧
      HasHeaders c [("X-Tenant", "a"), ("x-tenant", "b")] [basicAuthorization "id" "secret"] q := by
  have hnew : (plain "http://[::1]/scim" (.basic "id" "secret")).IsNew := .plain _ _
  have haimed : (plain "http://[::1]/scim" (.basic "id" "secret")).aimedAlong
      [⟨none, [("X-Tenant", "a")]⟩, ⟨none, [("x-tenant", "b")]⟩] =
        .ok ⟨"http://[::1]/scim", .basic "id" "secret", none, none, [("x-tenant", "b")]⟩ := by
    rfl
  have hread : Url.parse? "http://[::1]/scim" = some
      { scheme := "http", username := "", password := none
        host := some (.eight [0, 0, 0, 0, 0, 0, 0, 1]), hasAuthority := true, port := none
        path := .segments ["scim"], query := none, fragment := none } := by
    rfl
  have hbase : ∀ base, Url.parse? "http://[::1]/scim" = some base →
      base.credentials? = none := by
    intro base hbase
    rw [hread] at hbase
    cases hbase
    decide
  have hlookups : (((Call.getUser "1").perform ⟨"http://[::1]/scim", .basic "id" "secret", none,
      none, [("x-tenant", "b")]⟩).journal (.fresh (fun _ => true) fun _ => 0)).lookupTraffic =
        [(⟨.get, { scheme := "http", username := "", password := none
                   host := some (.eight [0, 0, 0, 0, 0, 0, 0, 1]), hasAuthority := true
                   port := none, path := .segments ["scim", "Users", "1"], query := none
                   fragment := none },
          [("x-tenant", "b"), ("accept", "application/scim+json"),
            ("authorization", "Basic aWQ6c2VjcmV0")], ""⟩, .lost)] := by
    rfl
  obtain ⟨hsent, -⟩ := headers_sent hnew haimed hbase
  have hheaders := hsent (.getUser "1") (.fresh (fun _ => true) fun _ => 0) _ _ _
    (runs_self _ _) _ (by rw [hlookups]; exact List.mem_singleton_self _)
  exact ⟨_, _, _, hnew, haimed, hbase, hlookups, rfl, hheaders⟩

end Client

end ScimLookup
