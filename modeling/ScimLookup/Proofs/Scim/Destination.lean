import ScimLookup.Host.Membership
import ScimLookup.Proofs.Scim.Lookup
import ScimLookup.Proofs.Url.Below

/-!
# Where lookups go

A client looks things up below its address, at the server that this names and at no other. What a
lookup is about (the id, the filter, the page) comes behind a slash, and so does the id of a client
that proves itself by a certificate. So it neither moves the lookup to another server nor decides
whether there is an address to look at (`isSome_parse?_of_isBelow`).

This is kept by running one exchange after another (`SendsOnly.bind`), so it holds of what is built
from lookups with ids that come from the server (`isSentTo_usersForGroup`).
-/

set_option autoImplicit false

namespace ScimLookup

/-! ## Exchanges that send only some requests -/

namespace Exchange

variable {α β : Type} {p : Request → Prop}

/-- Every request that is sent, however the exchange runs, satisfies `p`. -/
structure SendsOnly (p : Request → Prop) (e : Exchange α) : Prop where
  sends : ∀ {w w' : World} {o : Outcome α} {j : Journal}, e.Runs w o j w' →
    ∀ x ∈ j.traffic, p x.1

namespace SendsOnly

theorem pure (a : α) : SendsOnly p (Pure.pure a : Exchange α) := by
  refine ⟨?_⟩
  intro w w' o j h x hx
  obtain ⟨-, rfl, -⟩ := runs_pure_iff.1 h
  cases hx

/-- **One exchange after another sends what the two send.** -/
theorem bind {e : Exchange α} {f : α → Exchange β} (he : SendsOnly p e)
    (hf : ∀ a, SendsOnly p (f a)) : SendsOnly p (e >>= f) := by
  refine ⟨?_⟩
  intro w w' o j h x hx
  rcases runs_bind_iff.1 h with ⟨a, j₁, w₁, j₂, hfirst, hsecond, rfl⟩ | ⟨-, hfirst⟩
  · rw [Journal.traffic_append] at hx
    rcases List.mem_append.1 hx with hx | hx
    · exact he.sends hfirst x hx
    · exact (hf a).sends hsecond x hx
  · exact he.sends hfirst x hx

theorem map {e : Exchange α} (he : SendsOnly p e) (f : α → β) :
    SendsOnly p (e >>= fun a => Pure.pure (f a)) :=
  he.bind fun a => .pure (f a)

end SendsOnly

theorem sendsOnly_setToken (t : Option Token) : SendsOnly p (setToken t) := by
  refine ⟨?_⟩
  intro w w' o j h x hx
  obtain ⟨-, rfl, -⟩ := runs_setToken_iff.1 h
  cases hx

end Exchange

/-! ## Requests of lookups -/

namespace Client

open Exchange Json

variable {α : Type} {c : Client}

/-- The server that lookups below an address go to. User and password are not named there when they
are sent in a header. -/
def destination (base : Url) : Url.Server :=
  if base.credentials?.isSome then base.withoutUser.server else base.server

/-- The request asks for a token of the client, or it is sent to the server of an address. -/
def IsSentTo (c : Client) (base : Url) (q : Request) : Prop :=
  c.grantRequest? = some (.ok q) ∨ q.url.server = destination base

theorem server_draft? {address : String} {d : Draft} (h : draft? address = some d) :
    ∃ u, Url.parse? address = some u ∧
      (u.host.isSome = true → d.url.server = destination u) := by
  obtain ⟨u, hu, h⟩ := Option.bind_eq_some_iff.1 h
  refine ⟨u, hu, fun hhost => ?_⟩
  rw [destination]
  split at h
  · rename_i hnone
    simp [Option.isNone_iff_eq_none.1 hnone] at hhost
  · split at h
    · rename_i hsome
      cases h
      rw [hsome]
      rfl
    · rename_i hnone
      cases h
      rw [hnone]
      rfl

/-- An address with the credentials: the id of a client that proves itself by a certificate comes to
its query. -/
def addressed (u : Url) : Credentials → Url
  | .mtls id _ => u.addPair (clientIdParameter, id)
  | _ => u

theorem server_addressed (u : Url) (credentials : Credentials) :
    (addressed u credentials).server = u.server := by
  cases credentials with
  | basic id secret => rfl
  | mtls id certificate => rfl
  | oauth2 id secret endpoint scopes => rfl

theorem url_authorize {d d' : Draft} {credentials : Credentials} {token : Option String}
    (h : authorize d credentials token = .ok d') : d'.url = addressed d.url credentials := by
  cases credentials with
  | basic id secret =>
      cases h
      rfl
  | mtls id certificate =>
      cases h
      rfl
  | oauth2 id secret endpoint scopes =>
      cases token with
      | none =>
          cases h
          rfl
      | some text =>
          rw [authorize] at h
          split at h
          · cases h
            rfl
          · cases h

theorem url_finished {method : Method} {d : Draft} {body : String} {q : Request}
    (h : c.finished method d body = .ok q) : q.url = d.url ∧ d.url.isSendable = true := by
  rw [finished] at h
  split at h
  · rename_i hsendable
    cases h
    exact ⟨rfl, hsendable⟩
  · cases h

/-- Addresses at one server have one destination. -/
theorem destination_congr {u v : Url} (h : u.server = v.server) :
    destination u = destination v := by
  cases u
  cases v
  simp only [Url.server, Url.Server.mk.injEq] at h
  obtain ⟨rfl, rfl, rfl, rfl, rfl⟩ := h
  rfl

end Client

/-! ## Addresses of lookups -/

/-- The address goes on behind the base and a slash. -/
def IsBelow (base address : String) : Prop :=
  ∃ y, address = .ofList (base.toList ++ '/' :: y)

theorem IsBelow.append {base address : String} (h : IsBelow base address) (s : String) :
    IsBelow base (address ++ s) := by
  obtain ⟨y, rfl⟩ := h
  refine ⟨y ++ s.toList, String.toList_inj.1 ?_⟩
  simp

theorem isBelow_collection (base : String) (collection : Collection) :
    IsBelow base (base ++ collection.path) := by
  cases collection with
  | users => exact ⟨"Users".toList, String.toList_inj.1 (by simp [Collection.path])⟩
  | groups => exact ⟨"Groups".toList, String.toList_inj.1 (by simp [Collection.path])⟩

namespace Call

variable {c : Client}

/-- The address of a list request goes on behind its collection. -/
theorem address_of_listParts? {collection : Collection} {listMethod : ListMethod} {filter : Filter}
    {page : Page} {method : Method} {address body : String}
    (h : listParts? c collection listMethod filter page = some (method, address, body)) :
    ∃ s, address = c.baseUrl ++ collection.path ++ "/" ++ s := by
  obtain ⟨request, -, hparts⟩ := Option.map_eq_some_iff.1 h
  cases request with
  | query pairs =>
      simp only [Client.listParts, ListRequest.path, Prod.mk.injEq] at hparts
      obtain ⟨-, rfl, -⟩ := hparts
      split
      · exact ⟨"", by simp only [String.append_assoc, String.append_empty]⟩
      · exact ⟨"?" ++ Form.render pairs, by simp only [String.append_assoc]⟩
  | search criteria =>
      simp only [Client.listParts, ListRequest.path, Prod.mk.injEq] at hparts
      obtain ⟨-, rfl, -⟩ := hparts
      refine ⟨".search", ?_⟩
      simp only [String.append_assoc]
      rfl

/-- **The address of every lookup goes on behind a collection of the client.** -/
theorem address_of_parts? {call : Call} {method : Method} {address body : String}
    (h : call.parts? c = some (method, address, body)) :
    ∃ (collection : Collection) (s : String),
      address = c.baseUrl ++ collection.path ++ "/" ++ s := by
  cases call with
  | getUser id =>
      cases h
      exact ⟨.users, id, rfl⟩
  | getGroup id =>
      cases h
      exact ⟨.groups, id, rfl⟩
  | listUsers method filter page => exact ⟨.users, address_of_listParts? h⟩
  | listGroups method filter page => exact ⟨.groups, address_of_listParts? h⟩
  | forget => cases h

theorem isBelow_of_listParts? {collection : Collection} {listMethod : ListMethod} {filter : Filter}
    {page : Page} {method : Method} {address body : String}
    (h : listParts? c collection listMethod filter page = some (method, address, body)) :
    IsBelow c.baseUrl address := by
  obtain ⟨s, rfl⟩ := address_of_listParts? h
  exact ((isBelow_collection c.baseUrl collection).append "/").append s

/-- **The address of every lookup is below that of the client.** -/
theorem isBelow_of_parts? {call : Call} {method : Method} {address body : String}
    (h : call.parts? c = some (method, address, body)) : IsBelow c.baseUrl address := by
  obtain ⟨collection, s, rfl⟩ := address_of_parts? h
  exact ((isBelow_collection c.baseUrl collection).append "/").append s

end Call

/-! ## What lookups send -/

namespace Client

open Exchange Json

section Sends

variable {α : Type} {c : Client} {p : Request → Prop}
  (hgrant : ∀ q, c.grantRequest? = some (.ok q) → p q)

include hgrant

/-- **A lookup sends its request, and before it perhaps one for a token.** -/
theorem sendsOnly_exchange {r : Reader α} {method : Method} {address body : String}
    (hlookup : ∀ token q, c.lookupRequest method address body token = .ok q → p q) :
    SendsOnly p (c.exchange r method address body) := by
  refine ⟨?_⟩
  intro w w' o j hrun x hx
  obtain ⟨o₀, j₀, j₁, htoken, hsend, rfl⟩ := runs_exchange hrun
  rw [Journal.traffic_append] at hx
  rcases List.mem_append.1 hx with hx | hx
  · rcases htoken.traffic_facts with hnil | ⟨q, reply, hq, hasked⟩
    · rw [hnil] at hx
      cases hx
    · rw [hq] at hx
      rw [List.mem_singleton.1 hx]
      exact hgrant q hasked
  · rcases hsend.traffic_facts with hnil | ⟨token, q, reply, hq, -, hmade⟩
    · rw [hnil] at hx
      cases hx
    · rw [hq] at hx
      rw [List.mem_singleton.1 hx]
      exact hlookup token q hmade

theorem sendsOnly_getOne {operation : Operation} {r : Reader α} {collection : Collection}
    {id : String}
    (hlookup : ∀ token q,
      c.lookupRequest .get (c.baseUrl ++ collection.path ++ "/" ++ id) "" token = .ok q → p q) :
    SendsOnly p (c.getOne operation r collection id) :=
  (sendsOnly_exchange hgrant hlookup).map _

theorem sendsOnly_list {operation : Operation} {r : Reader α} {collection : Collection}
    {method : ListMethod} {filter : Filter} {page : Page}
    (hlookup : ∀ m address body token q,
      Call.listParts? c collection method filter page = some (m, address, body) →
      c.lookupRequest m address body token = .ok q → p q) :
    SendsOnly p (c.list operation r collection method filter page) := by
  rw [list, ListRequest.build]
  cases hb : ListRequest.build? method filter page with
  | none => exact .pure _
  | some request =>
      rcases hp : c.listParts collection request with ⟨m, address, body⟩
      have hparts : Call.listParts? c collection method filter page = some (m, address, body) := by
        rw [Call.listParts?, hb, Option.map_some, hp]
      simp only [hp]
      exact (sendsOnly_exchange hgrant fun token q hq =>
        hlookup m address body token q hparts hq).map _

end Sends

/-! ## Lookups below an address -/

section Below

variable {host : String} {base : Url} {c : Client}

/-- The client's address is that of a configured host without the slashes at its end. -/
theorem endsBefore_baseUrl (hc : c.baseUrl = trimSlashes host) :
    Url.EndsBefore c.baseUrl.toList host := by
  obtain ⟨slashes, hhost, hslashes⟩ := Text.dropEndWhile_append (· == '/') host.toList
  refine ⟨slashes, ?_, fun s hs => beq_iff_eq.1 (hslashes s hs)⟩
  rw [hc, trimSlashes, Text.trimEnd, String.toList_ofList]
  exact hhost

variable (hhost : Url.parse? host = some base) (hweb : base.isWeb = true)
  (hc : c.baseUrl = trimSlashes host)

include hhost hweb hc

/-- What is below the client's address is at its server. -/
theorem server_of_isBelow {address : String} {u : Url} (h : IsBelow c.baseUrl address)
    (hu : Url.parse? address = some u) : u.server = base.server := by
  obtain ⟨y, rfl⟩ := h
  rcases Url.parse?_below hhost hweb (endsBefore_baseUrl hc) with hnone | ⟨a, d, hserver, hread⟩
  · rw [hnone] at hu
    cases hu
  · rw [hread] at hu
    cases hu
    rw [← hserver, Url.server_placed, Url.server_placed]

/-- Whether something below the client's address is an address does not depend on what it is. -/
theorem isSome_parse?_of_isBelow {address address' : String} (h : IsBelow c.baseUrl address)
    (h' : IsBelow c.baseUrl address') :
    (Url.parse? address).isSome = (Url.parse? address').isSome := by
  obtain ⟨y, rfl⟩ := h
  obtain ⟨y', rfl⟩ := h'
  rcases Url.parse?_below hhost hweb (endsBefore_baseUrl hc) with hnone | ⟨a, d, -, hread⟩
  · rw [hnone, hnone]
  · rw [hread, hread]
    rfl

/-- The request of a lookup below the client's address is sent to its server. -/
theorem server_lookupRequest {method : Method} {address body : String} {token : Option String}
    {q : Request} (h : IsBelow c.baseUrl address)
    (hq : c.lookupRequest method address body token = .ok q) :
    q.url.server = destination base := by
  obtain ⟨d, d', hd, hauth, hfinished⟩ := lookupRequest_ok hq
  obtain ⟨u, hu, hdraft⟩ := server_draft? hd
  have hserver := server_of_isBelow hhost hweb hc h hu
  have hsome : u.host.isSome = true := by
    have hsame : u.host = base.host := congrArg Url.Server.host hserver
    rw [hsame]
    exact Url.isSome_host hhost hweb
  rw [(url_finished hfinished).1, ← destination_congr hserver, ← hdraft hsome, url_authorize hauth,
    server_addressed]

theorem isSentTo_getOne (operation : Operation) {α : Type} (r : Reader α)
    (collection : Collection) (id : String) :
    SendsOnly (c.IsSentTo base) (c.getOne operation r collection id) := by
  apply sendsOnly_getOne (fun q hq => Or.inl hq)
  intro token q hq
  have hbelow := ((isBelow_collection c.baseUrl collection).append "/").append id
  exact Or.inr (server_lookupRequest hhost hweb hc hbelow hq)

theorem isSentTo_list (operation : Operation) {α : Type} (r : Reader α) (collection : Collection)
    (method : ListMethod) (filter : Filter) (page : Page) :
    SendsOnly (c.IsSentTo base) (c.list operation r collection method filter page) := by
  apply sendsOnly_list (fun q hq => Or.inl hq)
  intro m address body token q hparts hq
  exact Or.inr (server_lookupRequest hhost hweb hc (Call.isBelow_of_listParts? hparts) hq)

theorem isSentTo_perform (call : Call) : SendsOnly (c.IsSentTo base) (call.perform c) := by
  cases call with
  | getUser id => exact (isSentTo_getOne hhost hweb hc _ _ _ id).map _
  | getGroup id => exact (isSentTo_getOne hhost hweb hc _ _ _ id).map _
  | listUsers method filter page =>
      exact (isSentTo_list hhost hweb hc _ _ _ method filter page).map _
  | listGroups method filter page =>
      exact (isSentTo_list hhost hweb hc _ _ _ method filter page).map _
  | forget => exact (sendsOnly_setToken none).bind fun _ => .pure _

theorem isSentTo_lookUpAll (ids : List String) :
    SendsOnly (c.IsSentTo base) (Membership.lookUpAll c ids) := by
  induction ids with
  | nil => exact .pure _
  | cons id ids ih =>
      refine (isSentTo_getOne hhost hweb hc _ _ _ id).bind ?_
      intro user
      cases user with
      | error e => exact .pure _
      | ok user =>
          refine ih.bind ?_
          intro users
          cases users with
          | error e => exact .pure _
          | ok users => exact .pure _

/-- The ids of the members come from the server, and make no difference either. -/
theorem isSentTo_usersForGroup (membership : Membership) (groupId : String) :
    SendsOnly (c.IsSentTo base) (membership.usersForGroup c groupId) := by
  cases membership with
  | search path method => exact (isSentTo_list hhost hweb hc _ _ _ _ _ _).map _
  | traversal =>
      refine (isSentTo_getOne hhost hweb hc _ _ _ groupId).bind ?_
      intro group
      cases group with
      | error e => exact .pure _
      | ok group => exact isSentTo_lookUpAll hhost hweb hc _

end Below

/-- **What a lookup is about never moves it to another server.** A client whose address is that of
a host on the web, but for slashes at its end, looks everything up below this address. What is there
is at the server of the host, with its user and password; whether it is an address at all does not
depend on the call or the credentials; and all that is sent goes to this server, except for what
asks for a token, whatever the ids that a caller or the server names. -/
theorem lookups_stay {host : String} {base : Url} {c : Client}
    (hhost : Url.parse? host = some base) (hweb : base.isWeb = true)
    (hc : c.baseUrl = trimSlashes host) :
    (∀ (call : Call) (method : Method) (address body : String),
      call.parts? c = some (method, address, body) →
      ∀ u, Url.parse? address = some u → u.server = base.server) ∧
    (∀ (c' : Client) (call call' : Call) (method method' : Method)
      (address address' body body' : String), c'.baseUrl = c.baseUrl →
      call.parts? c = some (method, address, body) →
      call'.parts? c' = some (method', address', body') →
      (Url.parse? address).isSome = (Url.parse? address').isSome) ∧
    (∀ call : Call, SendsOnly (c.IsSentTo base) (call.perform c)) ∧
    ∀ (membership : Membership) (groupId : String),
      SendsOnly (c.IsSentTo base) (membership.usersForGroup c groupId) := by
  refine ⟨?_, ?_, ?_, ?_⟩
  · intro call method address body hparts u hu
    exact server_of_isBelow hhost hweb hc (Call.isBelow_of_parts? hparts) hu
  · intro c' call call' method method' address address' body body' hc' hparts hparts'
    have hbelow' := Call.isBelow_of_parts? hparts'
    rw [hc'] at hbelow'
    exact isSome_parse?_of_isBelow hhost hweb hc (Call.isBelow_of_parts? hparts) hbelow'
  · exact isSentTo_perform hhost hweb hc
  · exact isSentTo_usersForGroup hhost hweb hc

/-- An id that climbs out of the collection and goes on like a host of its own. -/
theorem lookups_stay_climbing :
    ∃ base u : Url, Url.parse? "http://u:p@[::1]:8080/scim/" = some base ∧ base.isWeb = true ∧
      (plain "http://u:p@[::1]:8080/scim/" (.basic "id" "secret")).baseUrl =
        trimSlashes "http://u:p@[::1]:8080/scim/" ∧
      Url.parse? "http://u:p@[::1]:8080/scim/Users/../../../\\@evil.test:1/" = some u ∧
      u.path = .segments ["", "@evil.test:1", ""] ∧ u.server = base.server := by
  have hhost : Url.parse? "http://u:p@[::1]:8080/scim/" = some
      { scheme := "http", username := "u", password := some "p"
        host := some (.eight [0, 0, 0, 0, 0, 0, 0, 1]), hasAuthority := true, port := some 8080
        path := .segments ["scim", ""], query := none, fragment := none } := by
    rfl
  have hbelow : Url.parse? "http://u:p@[::1]:8080/scim/Users/../../../\\@evil.test:1/" = some
      { scheme := "http", username := "u", password := some "p"
        host := some (.eight [0, 0, 0, 0, 0, 0, 0, 1]), hasAuthority := true, port := some 8080
        path := .segments ["", "@evil.test:1", ""], query := none, fragment := none } := by
    rfl
  have hstays := lookups_stay (c := plain "http://u:p@[::1]:8080/scim/" (.basic "id" "secret"))
    hhost (by decide) rfl
  exact ⟨_, _, hhost, by decide, rfl, hbelow, rfl,
    hstays.1 (.getUser "../../../\\@evil.test:1/") _ _ _ rfl _ hbelow⟩

end Client

end ScimLookup
