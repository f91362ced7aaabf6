import ScimLookup.Proofs.Scim.Bearer

/-!
# Lookups as they run

How a lookup runs, in every way that this can go: the client comes by the token for it
(`TokenCourse`), and then it sends one request, or finds that it has none to send (`SendCourse`,
`runs_exchange`). A refusal makes it forget the token; nothing else that comes back does.

A client is used by calls: the four lookups, and the request to forget the token (`Call`). Each call
looks up one thing at the server or, for a search without a filter, none (`CallCourse`,
`runs_perform`).
-/

set_option autoImplicit false

namespace ScimLookup

/-- The reply refuses the credentials. -/
def Reply.isRefusal : Reply → Bool
  | .answer a => decide (a.status = Status.unauthorized)
  | _ => false

namespace Client

open Exchange Json

variable {α : Type}

/-! ## Sending -/

/-- What a reply to the request of a lookup comes to. -/
def resultIn (r : Reader α) (q : Request) (reply : Reply) : Except RequestError α :=
  match reply.outcome q with
  | .error fault => .error (.transport fault)
  | .ok a => decode r Status.ok a

/-- What is done about the token after a reply. -/
def aftermath (reply : Reply) : Journal :=
  if reply.isRefusal then [.remembered none] else []

/-- The ways in which a lookup goes on once it is known which token there is for it: how it ends,
and what happens from there. -/
inductive SendCourse (c : Client) (r : Reader α) (method : Method) (address body : String) :
    Outcome (Except TokenFault (Option String)) → Outcome (Except RequestError α) → Journal → Prop
  /-- The way to the token broke off. -/
  | overrun : SendCourse c r method address body none none []
  /-- There is no token. -/
  | tokenless {fault : TokenFault} :
      SendCourse c r method address body (some (.error fault)) (some (.error (.auth fault))) []
  /-- No request can be built. -/
  | unbuilt {token : Option String} {fault : TransportFault} :
      c.lookupRequest method address body token = .error fault →
      SendCourse c r method address body (some (.ok token)) (some (.error (.transport fault))) []
  /-- The request is sent. -/
  | sent {token : Option String} {q : Request} {reply : Reply} :
      c.lookupRequest method address body token = .ok q →
      SendCourse c r method address body (some (.ok token)) (some (resultIn r q reply))
        (.sent q reply :: aftermath reply)

variable {c : Client} {w w' : World} {j : Journal}

theorem runs_observe {a : Answer} {o : Outcome Unit} (h : (observe a.status).Runs w o j w') :
    o = some () ∧ j = aftermath (.answer a) := by
  rw [observe, forgetToken] at h
  rw [aftermath, Reply.isRefusal]
  -- The same test stands on both sides.
  split at h
  · obtain ⟨rfl, rfl, -⟩ := runs_setToken_iff.1 h
    exact ⟨rfl, by simp [*]⟩
  · obtain ⟨rfl, rfl, -⟩ := runs_pure_iff.1 h
    exact ⟨rfl, by simp [*]⟩

theorem lookupRequest_eq {method : Method} {address body : String} {token : Option String}
    {d : Draft} (h : c.lookupDraft method address token = .ok d) :
    c.lookupRequest method address body token = c.finished method d body := by
  rw [lookupRequest, h]

/-- A request that could be built is sent, and one that could not is not. -/
theorem runs_sendFinished {q : Except TransportFault Request}
    {o : Outcome (Except TransportFault Answer)} (h : (sendFinished q).Runs w o j w') :
    (∃ fault, q = .error fault ∧ o = some (.error fault) ∧ j = []) ∨
      ∃ r reply, q = .ok r ∧ o = some (reply.outcome r) ∧ j = [.sent r reply] := by
  cases q with
  | error fault =>
      obtain ⟨rfl, rfl, -⟩ := runs_pure_iff.1 h
      exact Or.inl ⟨fault, rfl, rfl, rfl⟩
  | ok r =>
      obtain ⟨o', hsend, rfl⟩ := runs_map_iff.1 h
      obtain ⟨rfl, rfl, -⟩ := runs_request_iff.1 hsend
      exact Or.inr ⟨r, _, rfl, rfl, rfl⟩

/-- The answer to the request of a lookup is looked at and read. -/
theorem sent_of_runs {r : Reader α} {method : Method} {address body : String}
    {token : Option String} {q : Request} {reply : Reply} {o : Outcome (Except RequestError α)}
    (hq : c.lookupRequest method address body token = .ok q)
    (h : Exchange.Runs (match reply.outcome q with
      | .error fault => return .error (.transport fault)
      | .ok a => do
        observe a.status
        return decode r Status.ok a) w o j w') :
    SendCourse c r method address body (some (.ok token)) o (.sent q reply :: j) := by
  have hsent : SendCourse c r method address body (some (.ok token)) (some (resultIn r q reply))
      (.sent q reply :: aftermath reply) := .sent hq
  -- Only an answer has a status to look at.
  cases reply with
  | lost =>
      obtain ⟨rfl, rfl, -⟩ := runs_pure_iff.1 h
      exact hsent
  | late =>
      obtain ⟨rfl, rfl, -⟩ := runs_pure_iff.1 h
      exact hsent
  | answer a =>
      rcases runs_bind_iff.1 h with ⟨u, j₁, w₁, j₂, hobserve, hread, rfl⟩ | ⟨-, hobserve⟩
      · obtain ⟨-, rfl⟩ := runs_observe hobserve
        obtain ⟨rfl, rfl, -⟩ := runs_pure_iff.1 hread
        rw [List.append_nil]
        exact hsent
      · cases (runs_observe hobserve).1

/-- The request of a draft is sent, and the answer is read. -/
theorem runs_dispatch {r : Reader α} {method : Method} {address body : String}
    {token : Option String} {d : Draft} (hd : c.lookupDraft method address token = .ok d)
    {o : Outcome (Except RequestError α)}
    (h : Exchange.Runs (do
      match ← c.dispatch method d body with
      | .error fault => return .error (.transport fault)
      | .ok a =>
        observe a.status
        return decode r Status.ok a) w o j w') :
    SendCourse c r method address body (some (.ok token)) o j := by
  have hq : c.lookupRequest method address body token = c.finished method d body :=
    lookupRequest_eq hd
  rw [dispatch_eq] at h
  -- The first case is a draft that was sent or could not be; sending never breaks off.
  rcases runs_bind_iff.1 h with ⟨res, j₁, w₁, j₂, hsend, hnext, rfl⟩ | ⟨-, hsend⟩
  · rcases runs_sendFinished hsend with ⟨fault, hf, hres, rfl⟩ | ⟨q, reply, hf, hres, rfl⟩
    · cases hres
      obtain ⟨rfl, rfl, -⟩ := runs_pure_iff.1 hnext
      exact .unbuilt (hq.trans hf)
    · cases hres
      exact sent_of_runs (hq.trans hf) hnext
  · rcases runs_sendFinished hsend with ⟨fault, -, hnone, -⟩ | ⟨q, reply, -, hnone, -⟩
    · cases hnone
    · cases hnone

/-- **Every lookup comes by its token and then goes one of the courses.** -/
theorem runs_exchange {r : Reader α} {method : Method} {address body : String}
    {o : Outcome (Except RequestError α)} (h : (c.exchange r method address body).Runs w o j w') :
    ∃ o₀ j₀ j₁, TokenCourse c w o₀ j₀ ∧ SendCourse c r method address body o₀ o j₁ ∧
      j = j₀ ++ j₁ := by
  rw [exchange] at h
  -- The journal falls into the way to the token and what is done with it.
  rcases runs_bind_iff.1 h with ⟨res, j₀, w₁, j₁, htoken, hnext, rfl⟩ | ⟨rfl, htoken⟩
  · refine ⟨_, j₀, j₁, runs_tokenFor htoken, ?_, rfl⟩
    cases res with
    | error fault =>
        obtain ⟨rfl, rfl, -⟩ := runs_pure_iff.1 hnext
        exact .tokenless
    | ok token =>
        cases hd : c.lookupDraft method address token with
        | error fault =>
            simp only [hd] at hnext
            obtain ⟨rfl, rfl, -⟩ := runs_pure_iff.1 hnext
            exact .unbuilt (by rw [lookupRequest, hd])
        | ok d =>
            simp only [hd] at hnext
            exact runs_dispatch hd hnext
  · exact ⟨none, j, [], runs_tokenFor htoken, .overrun, (List.append_nil j).symm⟩

/-! ## What sending does -/

@[simp] theorem traffic_aftermath (reply : Reply) : (aftermath reply).traffic = [] := by
  rw [aftermath]
  split
  · rfl
  · rfl

@[simp] theorem readings_aftermath (reply : Reply) : (aftermath reply).readings = [] := by
  rw [aftermath]
  split
  · rfl
  · rfl

/-- The failure of a lookup that was sent is never for want of a token. -/
theorem resultIn_ne_auth (r : Reader α) (q : Request) (reply : Reply) (fault : TokenFault) :
    resultIn r q reply ≠ .error (.auth fault) := by
  intro h
  rw [resultIn] at h
  split at h
  · cases h
  -- Reading an answer has faults of its own, and none of them is about a token.
  · rw [decode] at h
    split at h
    · split at h
      · rename_i bytes _
        cases hread : r.ofBytes bytes with
        | error e =>
            rw [hread] at h
            cases h
        | ok a =>
            rw [hread] at h
            cases h
      · cases h
    · cases h

namespace SendCourse

variable {r : Reader α} {method : Method} {address body : String}
  {o₀ : Outcome (Except TokenFault (Option String))} {o : Outcome (Except RequestError α)}

/-- At most one request is sent, and it is that of the lookup with the token for it. -/
theorem traffic_facts (h : SendCourse c r method address body o₀ o j) :
    j.traffic = [] ∨ ∃ token q reply, j.traffic = [(q, reply)] ∧ o₀ = some (.ok token) ∧
      c.lookupRequest method address body token = .ok q := by
  cases h with
  | overrun => exact Or.inl rfl
  | tokenless => exact Or.inl rfl
  | unbuilt hq => exact Or.inl rfl
  | @sent token q reply hq => exact Or.inr ⟨token, q, reply, by simp, rfl, hq⟩

/-- **The token is forgotten where the server refuses it, and stays in place otherwise.** -/
theorem replacements_eq (h : SendCourse c r method address body o₀ o j) :
    j.replacements = if j.traffic.any (·.2.isRefusal) then [none] else [] := by
  cases h with
  | overrun => rfl
  | tokenless => rfl
  | unbuilt hq => rfl
  | @sent token q reply hq =>
      rw [aftermath]
      cases hreply : reply.isRefusal with
      | true => simp [hreply]
      | false => simp [hreply]

theorem readings_eq (h : SendCourse c r method address body o₀ o j) : j.readings = [] := by
  cases h with
  | overrun => rfl
  | tokenless => rfl
  | unbuilt hq => rfl
  | sent hq => simp

/-- A lookup fails for want of a token exactly when there is none. -/
theorem auth_iff (h : SendCourse c r method address body o₀ o j) (fault : TokenFault) :
    o = some (.error (.auth fault)) ↔ o₀ = some (.error fault) := by
  cases h with
  | overrun => simp
  | tokenless => simp
  | unbuilt hq => simp
  | sent hq => simpa using resultIn_ne_auth _ _ _ fault

/-- Sending breaks off only where the way to the token did. -/
theorem none_iff (h : SendCourse c r method address body o₀ o j) :
    o = none ↔ o₀ = none := by
  cases h with
  | overrun => simp
  | tokenless => simp
  | unbuilt hq => simp
  | sent hq => simp

end SendCourse

end Client

/-! ## Calls -/

/-- What a client is used for. -/
inductive Call where
  | getUser (id : String)
  | getGroup (id : String)
  | listUsers (method : ListMethod) (filter : Filter) (page : Page)
  | listGroups (method : ListMethod) (filter : Filter) (page : Page)
  /-- Forget the token. -/
  | forget
deriving Repr

/-- What a call gives. -/
inductive Found where
  | user (u : User)
  | group (g : Group)
  | users (l : Listing User)
  | groups (l : Listing Group)
  | nothing
deriving DecidableEq, Repr

namespace Call

open Exchange Client

/-- What a call does. -/
def perform (c : Client) : Call → Exchange (Except ClientError Found)
  | .getUser id => do return (← c.getUser id).map .user
  | .getGroup id => do return (← c.getGroup id).map .group
  | .listUsers method filter page => do return (← c.listUsers method filter page).map .users
  | .listGroups method filter page => do return (← c.listGroups method filter page).map .groups
  | .forget => do
    forgetToken
    return .ok .nothing

/-- The call is the one to forget the token. -/
def isForget : Call → Bool
  | .forget => true
  | _ => false

/-- The lookup that a call is. -/
def operation? : Call → Option Operation
  | .getUser _ => some .getUser
  | .getGroup _ => some .getGroup
  | .listUsers .. => some .listUsers
  | .listGroups .. => some .listGroups
  | .forget => none

/-- The method, the address and the body of a list request. -/
def listParts? (c : Client) (collection : Collection) (method : ListMethod) (filter : Filter)
    (page : Page) : Option (Method × String × String) :=
  (ListRequest.build? method filter page).map (c.listParts collection)

/-- The method, the address and the body of the request of a call, if it is a lookup and has one. -/
def parts? (c : Client) : Call → Option (Method × String × String)
  | .getUser id => some (.get, c.baseUrl ++ Collection.users.path ++ "/" ++ id, "")
  | .getGroup id => some (.get, c.baseUrl ++ Collection.groups.path ++ "/" ++ id, "")
  | .listUsers method filter page => listParts? c .users method filter page
  | .listGroups method filter page => listParts? c .groups method filter page
  | .forget => none

end Call

/-- The ways in which a call goes: how it ends, and what happens. -/
inductive CallCourse (c : Client) (call : Call) (w : World) :
    Outcome (Except ClientError Found) → Journal → Prop
  /-- The token is forgotten. -/
  | forgotten : call = .forget → CallCourse c call w (some (.ok .nothing)) [.remembered none]
  /-- A search has no filter. -/
  | unfiltered {operation : Operation} :
      call.operation? = some operation → call.parts? c = none →
      CallCourse c call w (some (.error (.failed operation .noFilter))) []
  /-- The server is asked. -/
  | asked {α : Type} {r : Json.Reader α} {found : α → Found} {operation : Operation}
      {method : Method} {address body : String} {o₀ : Outcome (Except TokenFault (Option String))}
      {o : Outcome (Except RequestError α)} {j₀ j₁ : Journal} :
      call.operation? = some operation → call.parts? c = some (method, address, body) →
      Client.TokenCourse c w o₀ j₀ → Client.SendCourse c r method address body o₀ o j₁ →
      CallCourse c call w (o.map fun result => (Client.under operation result).map found) (j₀ ++ j₁)

namespace Call

open Exchange Client

variable {c : Client} {w w' : World} {j : Journal}

/-- A lookup that has a request goes as its request goes. -/
theorem asked_of_runs {α : Type} {call : Call} {r : Json.Reader α} {found : α → Found}
    {operation : Operation} {method : Method} {address body : String}
    {o : Outcome (Except ClientError Found)} (hop : call.operation? = some operation)
    (hparts : call.parts? c = some (method, address, body))
    (h : Exchange.Runs (do
      return (Client.under operation (← c.exchange r method address body)).map found) w o j w') :
    CallCourse c call w o j := by
  obtain ⟨o', hrun, rfl⟩ := runs_map_iff.1 h
  obtain ⟨o₀, j₀, j₁, htoken, hsend, rfl⟩ := runs_exchange hrun
  exact .asked hop hparts htoken hsend

/-- A list is looked up unless it lacks a filter. -/
theorem runs_list {α : Type} {call : Call} {r : Json.Reader α} {found : Listing α → Found}
    {operation : Operation} {collection : Collection} {method : ListMethod} {filter : Filter}
    {page : Page} {o : Outcome (Except ClientError Found)} (hop : call.operation? = some operation)
    (hparts : call.parts? c = listParts? c collection method filter page)
    (h : Exchange.Runs (do
      return (← c.list operation r collection method filter page).map found) w o j w') :
    CallCourse c call w o j := by
  obtain ⟨o', hrun, rfl⟩ := runs_map_iff.1 h
  rw [list, ListRequest.build] at hrun
  cases hb : ListRequest.build? method filter page with
  | none =>
      rw [hb] at hrun
      obtain ⟨rfl, rfl, -⟩ := runs_pure_iff.1 hrun
      exact .unfiltered hop (by rw [hparts, listParts?, hb]; rfl)
  | some request =>
      rw [hb] at hrun
      rcases hp : c.listParts collection request with ⟨m, address, body⟩
      simp only [hp] at hrun
      obtain ⟨o'', hexchange, rfl⟩ := runs_map_iff.1 hrun
      rw [Option.map_map]
      refine asked_of_runs hop ?_ (runs_map_iff.2 ⟨_, hexchange, rfl⟩)
      rw [hparts, listParts?, hb, Option.map_some, hp]

/-- **Every call goes one of the courses.** -/
theorem runs_perform {call : Call} {o : Outcome (Except ClientError Found)}
    (h : (call.perform c).Runs w o j w') : CallCourse c call w o j := by
  cases call with
  | getUser id =>
      obtain ⟨o', hrun, rfl⟩ := runs_map_iff.1 h
      obtain ⟨o'', hexchange, rfl⟩ := runs_map_iff.1 hrun
      rw [Option.map_map]
      exact asked_of_runs rfl rfl (runs_map_iff.2 ⟨_, hexchange, rfl⟩)
  | getGroup id =>
      obtain ⟨o', hrun, rfl⟩ := runs_map_iff.1 h
      obtain ⟨o'', hexchange, rfl⟩ := runs_map_iff.1 hrun
      rw [Option.map_map]
      exact asked_of_runs rfl rfl (runs_map_iff.2 ⟨_, hexchange, rfl⟩)
  | listUsers method filter page => exact runs_list rfl rfl h
  | listGroups method filter page => exact runs_list rfl rfl h
  | forget =>
      obtain ⟨o', hrun, rfl⟩ := runs_map_iff.1 h
      obtain ⟨rfl, rfl, -⟩ := runs_setToken_iff.1 hrun
      exact .forgotten rfl

/-- A list request that is posted has a JSON object for its body. -/
theorem body_of_listParts? {collection : Collection} {listMethod : ListMethod} {filter : Filter}
    {page : Page} {address body : String}
    (h : listParts? c collection listMethod filter page = some (.post, address, body)) :
    body.toList.head? = some '\x7b' := by
  obtain ⟨request, -, hparts⟩ := Option.map_eq_some_iff.1 h
  cases request with
  | query pairs =>
      rw [listParts] at hparts
      cases hparts
  | search criteria =>
      rw [listParts] at hparts
      cases hparts
      rw [ListRequest.payload, SearchRequest.toJson, Json.Value.compact, String.toList_ofList,
        Json.Value.written]
      rfl

/-- The request of a call has no body unless it is posted, and a JSON object for one then. -/
theorem body_of_parts? {call : Call} {address body : String}
    (h : call.parts? c = some (.post, address, body)) : body.toList.head? = some '\x7b' := by
  cases call with
  | getUser id => cases h
  | getGroup id => cases h
  | listUsers method filter page => exact body_of_listParts? h
  | listGroups method filter page => exact body_of_listParts? h
  | forget => cases h

/-- **No lookup can be taken for a request for a token.** -/
theorem not_asksForToken {call : Call} {method : Method} {address body : String}
    {token : Option String} {q : Request} (hparts : call.parts? c = some (method, address, body))
    (hq : c.lookupRequest method address body token = .ok q) : ¬ q.AsksForToken := by
  obtain ⟨d, d', -, -, hfinished⟩ := lookupRequest_ok hq
  obtain ⟨hmethod, hbody⟩ := finished_ok hfinished
  rintro ⟨hpost, rest, hrest⟩
  rw [hmethod] at hpost
  subst hpost
  -- The two kinds of bodies differ in their first character.
  have hhead := body_of_parts? hparts
  have hmark : Request.grantMark.head? = some 'g' := by decide
  rw [← hbody, ← hrest, List.head?_append, hmark, Option.some_or, Option.some.injEq] at hhead
  exact absurd hhead (by decide)

end Call

end ScimLookup
