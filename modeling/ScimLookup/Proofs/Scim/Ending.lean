import ScimLookup.Proofs.Scim.TokenHistory

/-!
# How lookups end

A lookup ends in one of nine ways (`Call.Ends`): it lacks a filter, or a token, or a request that
can be built; its request is lost or late, or the answer is cut off, has another status than the
expected one, holds no document of the wanted kind, or holds one. Each way is told by what was sent
and came back, and each has its result.

The main result (`asked_ends`) says that a lookup has a result exactly if it ends in the way of that
result, under the name of the lookup. It has none only where it breaks off, and that is where it was
granted a token that outlasts the clock.
-/

set_option autoImplicit false

namespace ScimLookup

open Exchange

namespace Client

/-! ## With and without a token -/

/-- The client can get no token for a lookup that it begins in the world `w`: the remembered one is
stale, and there is no request for another one, or no grant in what came back for it. -/
inductive LacksToken (c : Client) (w : World) (j : Journal) : TokenFault → Prop
  | unbuilt {fault : TransportFault} :
      c.grantRequest? = some (.error fault) → isStale w.cache (w.clock w.looks) = true →
      LacksToken c w j (.notSent fault)
  | refused {q : Request} {reply : Reply} {fault : TokenFault} :
      c.grantRequest? = some (.ok q) → j.tokenTraffic = [(q, reply)] →
      grantIn q reply = .error fault → LacksToken c w j fault

/-- The client has what it needs of a token for a lookup that it begins in the world `w`: nothing
where it uses no tokens, or else the remembered one, or one that was granted and can be kept. -/
inductive HasToken (c : Client) (w : World) (j : Journal) : Option String → Prop
  | idle : c.grantRequest? = none → HasToken c w j none
  | remembered {t : Token} :
      c.grantRequest? ≠ none → w.cache = some t → isStale w.cache (w.clock w.looks) = false →
      HasToken c w j (some t.text)
  | granted {g : TokenGrant} :
      j.grants = [g] → (g.tokenAt j.lastReading).Fits → HasToken c w j (some g.accessToken)

/-- What the way to a token shows in the journal of the whole lookup. -/
structure TellsOf (j j₀ : Journal) : Prop where
  tokenTraffic_eq : j.tokenTraffic = j₀.traffic
  lastReading_eq : j.lastReading = j₀.lastReading

section TokenCourses

variable {c : Client} {w : World} {j j₀ : Journal}
  {o₀ : Outcome (Except TokenFault (Option String))}

theorem TellsOf.grants_eq (htells : TellsOf j j₀) : j.grants = grantsIn j₀.traffic := by
  rw [Journal.grants, htells.tokenTraffic_eq]

/-- The clock is looked at last when a grant is kept. -/
theorem tokenAt_lastReading (g : TokenGrant) (k : Journal) (q : Request) (reply : Reply) (now : Nat)
    {k' : Journal} (hk' : k'.readings = []) :
    g.tokenAt (Journal.lastReading (k ++ Event.sent q reply :: (stampOf g now ++ k'))) =
      g.tokenAt now := by
  have hreadings : (k ++ Event.sent q reply :: (stampOf g now ++ k')).readings =
      k.readings ++ (stampOf g now).readings := by simp [hk']
  rw [Journal.lastReading, hreadings, TokenGrant.tokenAt_readings]

/-- A token that was granted and can be used is within the range of the clock. -/
theorem TokenCourse.fits_of_ok {token : Option String} {g : TokenGrant}
    (h : TokenCourse c w (some (.ok token)) j₀) (hg : grantsIn j₀.traffic = [g]) :
    (g.tokenAt j₀.lastReading).Fits ∧ token = some g.accessToken := by
  cases h with
  | idle hq => cases hg
  | reused hq hcache hfresh hk =>
      rw [hk.1] at hg
      cases hg
  | @granted q reply g' k now hq hstale hk hg' hfits =>
      have hsame : g' = g := by simpa [grantsIn, hk.1, hg', Except.toOption] using hg
      subst hsame
      rw [tokenAt_lastReading g' k q reply now rfl]
      exact ⟨hfits, rfl⟩

/-- **The way to the token fails exactly where the client can get none.** -/
theorem TokenCourse.eq_error_iff (h : TokenCourse c w o₀ j₀) (htells : TellsOf j j₀)
    {fault : TokenFault} : o₀ = some (.error fault) ↔ c.LacksToken w j fault := by
  constructor
  · rintro rfl
    cases h with
    | unbuilt hq hstale hk => exact .unbuilt hq hstale
    | refused hq hstale hk hg =>
        exact .refused hq (by rw [htells.tokenTraffic_eq]; simp [hk.1]) hg
  · intro hlacks
    cases hlacks with
    | unbuilt hq hstale =>
        -- A request that cannot be built leaves no other way.
        cases h with
        | reused hq' hcache hfresh hk =>
            rw [hfresh] at hstale
            cases hstale
        | unbuilt hq' hstale' hk =>
            rw [hq'] at hq
            cases hq
            rfl
        | _ hq' =>
            rw [hq'] at hq
            cases hq
    | @refused q reply _ hq hsent hg =>
        rw [htells.tokenTraffic_eq] at hsent
        exact h.eq_error_of_mem (x := (q, reply)) (by rw [hsent]; simp) hg

/-- **The way to the token gives what the client has.** -/
theorem TokenCourse.eq_ok_iff (h : TokenCourse c w o₀ j₀) (htells : TellsOf j j₀)
    {token : Option String} : o₀ = some (.ok token) ↔ c.HasToken w j token := by
  constructor
  · rintro rfl
    by_cases hc : c.grantRequest? = none
    · cases h with
      | idle hq => exact .idle hq
      | _ hq =>
          rw [hc] at hq
          cases hq
    · rcases h.of_ok hc with ⟨t, hcache, hfresh, rfl, -⟩ | ⟨g, hgrants, rfl, -⟩
      · exact .remembered hc hcache hfresh
      · refine .granted (htells.grants_eq.trans hgrants) ?_
        rw [htells.lastReading_eq]
        exact (h.fits_of_ok hgrants).1
  · intro hhas
    cases hhas with
    | idle hc =>
        cases h with
        | idle hq => rfl
        | _ hq =>
            rw [hc] at hq
            cases hq
    | remembered hc hcache hfresh =>
        -- What is remembered is not stale, so nothing was asked for.
        cases h with
        | idle hq => exact absurd hq hc
        | reused hq hcache' hfresh' hk =>
            rw [hcache] at hcache'
            cases hcache'
            rfl
        | _ hq hstale =>
            rw [hfresh] at hstale
            cases hstale
    | @granted g hgrants hfits =>
        rw [htells.grants_eq] at hgrants
        rw [htells.lastReading_eq] at hfits
        rcases o₀ with _ | (fault | token)
        · obtain ⟨-, -, g', hgrants', hover⟩ := h.of_none
          rw [hgrants] at hgrants'
          cases hgrants'
          exact absurd hfits hover
        · rw [grantsIn_eq_nil h.of_error.2] at hgrants
          cases hgrants
        · rw [(h.fits_of_ok hgrants).2]

/-- **The way to the token breaks off exactly where a token was granted that outlasts the
clock.** -/
theorem TokenCourse.eq_none_iff (h : TokenCourse c w o₀ j₀) (htells : TellsOf j j₀) :
    o₀ = none ↔ ∃ g, j.grants = [g] ∧ ¬ (g.tokenAt j.lastReading).Fits := by
  rw [htells.grants_eq, htells.lastReading_eq]
  constructor
  · rintro rfl
    exact h.of_none.2.2
  · rintro ⟨g, hgrants, hover⟩
    rcases o₀ with _ | (fault | token)
    · rfl
    · rw [grantsIn_eq_nil h.of_error.2] at hgrants
      cases hgrants
    · exact absurd (h.fits_of_ok hgrants).1 hover

end TokenCourses

section Requests

variable {γ : Type} {c : Client} {r : Json.Reader γ}

/-- The request with a method, an address, a body and a token. -/
def requestOf (c : Client) (parts : Method × String × String) (token : Option String) :
    Except TransportFault Request :=
  c.lookupRequest parts.1 parts.2.1 parts.2.2 token

/-- A request is sent exactly if there is a token for it and it can be built. -/
theorem SendCourse.sent_iff {method : Method} {address body : String}
    {o₀ : Outcome (Except TokenFault (Option String))} {o : Outcome (Except RequestError γ)}
    {j : Journal} (h : SendCourse c r method address body o₀ o j) (q : Request) :
    (∃ reply, j.traffic = [(q, reply)]) ↔
      ∃ token, o₀ = some (.ok token) ∧ c.lookupRequest method address body token = .ok q := by
  constructor
  · rintro ⟨reply, hsent⟩
    rcases h.traffic_facts with hnil | ⟨token, q', reply', hq', hready, hbuilt⟩
    · rw [hnil] at hsent
      cases hsent
    · rw [hq'] at hsent
      cases hsent
      exact ⟨token, hready, hbuilt⟩
  · rintro ⟨token, rfl, hbuilt⟩
    cases h with
    | unbuilt hfault =>
        rw [hfault] at hbuilt
        cases hbuilt
    | @sent _ _ reply hq =>
        rw [hq] at hbuilt
        cases hbuilt
        exact ⟨reply, by simp⟩

end Requests

end Client

/-! ## Calls as lookups -/

namespace Call

open Client

/-- What is found by a call. -/
def Result : Call → Type
  | .getUser _ => User
  | .getGroup _ => Group
  | .listUsers .. => Listing User
  | .listGroups .. => Listing Group
  | .forget => Unit

/-- How the document in the answer to a call is read. -/
def reader : (call : Call) → Json.Reader call.Result
  | .getUser _ => User.record.reader
  | .getGroup _ => Group.record.reader
  | .listUsers .. => (Listing.record User.record.reader).reader
  | .listGroups .. => (Listing.record Group.record.reader).reader
  | .forget => fun _ => .ok ()

/-- Do what a call is for. -/
def ask (c : Client) : (call : Call) → Exchange (Except ClientError call.Result)
  | .getUser id => c.getUser id
  | .getGroup id => c.getGroup id
  | .listUsers method filter page => c.listUsers method filter page
  | .listGroups method filter page => c.listGroups method filter page
  | .forget => do
    forgetToken
    return .ok ()

/-- The call is a search, and it has no filter. -/
def lacksFilter : Call → Bool
  | .listUsers .post filter _ => filter.isAbsent
  | .listGroups .post filter _ => filter.isAbsent
  | _ => false

variable {c : Client} {call : Call} {operation : Operation} {w w' : World} {j : Journal}

/-- A call has no request exactly if it is no lookup or lacks a filter. -/
theorem parts?_eq_none_iff (hop : call.operation? = some operation) :
    call.parts? c = none ↔ call.lacksFilter = true := by
  have hlist : ∀ collection method filter page, listParts? c collection method filter page = none ↔
      method = .post ∧ filter.isAbsent = true := by
    intro collection method filter page
    rw [listParts?, Option.map_eq_none_iff]
    cases method with
    | get => simp [ListRequest.build?]
    | post =>
        cases hf : filter.isAbsent <;> simp [ListRequest.build?, ListRequest.criteria?, hf]
  cases call with
  | getUser id => simp [parts?, lacksFilter]
  | getGroup id => simp [parts?, lacksFilter]
  | listUsers method filter page =>
      rw [parts?, hlist]
      cases method <;> simp [lacksFilter]
  | listGroups method filter page =>
      rw [parts?, hlist]
      cases method <;> simp [lacksFilter]
  | forget => cases hop

theorem list_eq {α : Type} (c : Client) (operation : Operation) (r : Json.Reader α)
    (collection : Collection) (method : ListMethod) (filter : Filter) (page : Page) :
    c.list operation r collection method filter page =
      match listParts? c collection method filter page with
      | none => pure (.error (.failed operation .noFilter))
      | some (method, address, body) =>
        c.exchange (Listing.record r).reader method address body >>= fun result =>
          pure (under operation result) := by
  rw [list, ListRequest.build, listParts?]
  cases ListRequest.build? method filter page with
  | none => rfl
  | some request => rfl

/-- **A lookup is one request, unless it lacks a filter.** -/
theorem ask_eq (hop : call.operation? = some operation) :
    call.ask c =
      match call.parts? c with
      | none => pure (.error (.failed operation .noFilter))
      | some (method, address, body) =>
        c.exchange call.reader method address body >>= fun result =>
          pure (under operation result) := by
  cases call with
  | getUser id =>
      cases hop
      rfl
  | getGroup id =>
      cases hop
      rfl
  | listUsers method filter page =>
      cases hop
      exact list_eq c .listUsers User.record.reader .users method filter page
  | listGroups method filter page =>
      cases hop
      exact list_eq c .listGroups Group.record.reader .groups method filter page
  | forget => cases hop

/-- The ways in which a lookup that is begun in the world `w` ends, told by what happens: each with
its result. -/
inductive Ends (c : Client) (call : Call) (w : World) (j : Journal) :
    Except RequestError call.Result → Prop
  /-- A search has no filter. -/
  | unfiltered : call.lacksFilter = true → Ends c call w j (.error .noFilter)
  /-- No token can be had. -/
  | tokenless {fault : TokenFault} :
      call.lacksFilter = false → c.LacksToken w j fault → Ends c call w j (.error (.auth fault))
  /-- The request cannot be built. -/
  | unbuilt {method : Method} {address body : String} {token : Option String}
      {fault : TransportFault} :
      call.parts? c = some (method, address, body) → c.HasToken w j token →
      c.lookupRequest method address body token = .error fault →
      Ends c call w j (.error (.transport fault))
  /-- The connection ends before an answer. -/
  | lost {q : Request} :
      j.lookupTraffic = [(q, .lost)] → Ends c call w j (.error (.transport (.send q.url.text)))
  /-- No answer comes in time. -/
  | late {q : Request} :
      j.lookupTraffic = [(q, .late)] → Ends c call w j (.error (.transport (.timeout q.url.text)))
  /-- The answer has the expected status, and its body cannot be read to its end. -/
  | cutOff {q : Request} :
      j.lookupTraffic = [(q, .answer ⟨.ok, none⟩)] → Ends c call w j (.error (.transport .body))
  /-- The answer has another status, whatever its body. -/
  | refused {q : Request} {a : Answer} :
      j.lookupTraffic = [(q, .answer a)] → a.status ≠ .ok →
      Ends c call w j (.error (.unexpectedStatus a.status (bodyText a)))
  /-- The body is not the document that is looked for. -/
  | undecodable {q : Request} {bytes : Bytes} {fault : Json.Fault} :
      j.lookupTraffic = [(q, .answer ⟨.ok, some bytes⟩)] →
      call.reader.ofBytes bytes = .error fault →
      Ends c call w j (.error (.invalidResponse fault))
  /-- The document is there. -/
  | found {q : Request} {bytes : Bytes} {v : call.Result} :
      j.lookupTraffic = [(q, .answer ⟨.ok, some bytes⟩)] → call.reader.ofBytes bytes = .ok v →
      Ends c call w j (.ok v)

/-- A lookup as it runs: it has no request, or it comes by its token and is sent. -/
theorem runs_ask {o : Outcome (Except ClientError call.Result)}
    (hop : call.operation? = some operation) (h : (call.ask c).Runs w o j w') :
    (call.parts? c = none ∧ o = some (.error (.failed operation .noFilter)) ∧ j = []) ∨
      ∃ method address body o₀ o₁ j₀ j₁, call.parts? c = some (method, address, body) ∧
        TokenCourse c w o₀ j₀ ∧ SendCourse c call.reader method address body o₀ o₁ j₁ ∧
        o = o₁.map (under operation) ∧ j = j₀ ++ j₁ := by
  rw [ask_eq hop] at h
  cases hparts : call.parts? c with
  | none =>
      rw [hparts] at h
      obtain ⟨rfl, rfl, -⟩ := runs_pure_iff.1 h
      exact Or.inl ⟨rfl, rfl, rfl⟩
  | some parts =>
      obtain ⟨method, address, body⟩ := parts
      rw [hparts] at h
      obtain ⟨o₁, hrun, rfl⟩ := runs_map_iff.1 h
      obtain ⟨o₀, j₀, j₁, htoken, hsend, rfl⟩ := runs_exchange hrun
      exact Or.inr ⟨method, address, body, o₀, o₁, j₀, j₁, rfl, htoken, hsend, rfl, rfl⟩

section Courses

variable {method : Method} {address body : String}
  {o₀ : Outcome (Except TokenFault (Option String))} {o₁ : Outcome (Except RequestError call.Result)}
  {j₀ j₁ : Journal}

theorem tellsOf_of_asked (hparts : call.parts? c = some (method, address, body))
    (htoken : TokenCourse c w o₀ j₀) (hsend : SendCourse c call.reader method address body o₀ o₁ j₁) :
    TellsOf (j₀ ++ j₁) j₀ :=
  ⟨(CallCourse.split_of_asked hparts htoken hsend).1, CallCourse.lastReading_of_asked hsend⟩

/-- What comes back for a request that was sent ends the lookup. -/
theorem ends_resultIn {q : Request} {reply : Reply} (hsent : j.lookupTraffic = [(q, reply)]) :
    Ends c call w j (resultIn call.reader q reply) := by
  cases reply with
  | lost => exact .lost hsent
  | late => exact .late hsent
  | answer a =>
      obtain ⟨status, bytes⟩ := a
      by_cases hstatus : status = .ok
      · subst hstatus
        cases bytes with
        | none => exact .cutOff hsent
        | some bytes =>
            -- Only here the document decides.
            cases hread : call.reader.ofBytes bytes with
            | error fault =>
                have hresult : resultIn call.reader q (.answer ⟨.ok, some bytes⟩) =
                    .error (.invalidResponse fault) := by
                  simp [resultIn, Reply.outcome, decode, hread, Except.mapError]
                rw [hresult]
                exact .undecodable hsent hread
            | ok v =>
                have hresult : resultIn call.reader q (.answer ⟨.ok, some bytes⟩) = .ok v := by
                  simp [resultIn, Reply.outcome, decode, hread, Except.mapError]
                rw [hresult]
                exact .found hsent hread
      · have hresult : resultIn call.reader q (.answer ⟨status, bytes⟩) =
            .error (.unexpectedStatus status (bodyText ⟨status, bytes⟩)) := by
          simp [resultIn, Reply.outcome, decode, hstatus]
        rw [hresult]
        exact .refused hsent hstatus

/-- The request that was sent, and what came back for it, are those of the course. -/
theorem answered_of_sent {r : Json.Reader call.Result} {q : Request} {reply : Reply}
    (hsend : SendCourse c r method address body o₀ o₁ j₁) (hsent : j₁.traffic = [(q, reply)]) :
    o₁ = some (resultIn r q reply) := by
  cases hsend with
  | sent hq =>
      simp only [Journal.traffic_sent, traffic_aftermath, List.cons.injEq, Prod.mk.injEq,
        and_true] at hsent
      obtain ⟨rfl, rfl⟩ := hsent
      rfl
  | _ => cases hsent

/-- A request that cannot be built is all there is to it. -/
theorem unbuilt_of_error {r : Json.Reader call.Result} {token : Option String}
    {fault : TransportFault} (hsend : SendCourse c r method address body (some (.ok token)) o₁ j₁)
    (hq : c.lookupRequest method address body token = .error fault) :
    o₁ = some (.error (.transport fault)) := by
  cases hsend with
  | unbuilt hq' =>
      rw [hq] at hq'
      cases hq'
      rfl
  | sent hq' =>
      rw [hq] at hq'
      cases hq'

/-- **A lookup that asks has a result exactly if it ends in the way of that result.** -/
theorem courses_ends_iff (hop : call.operation? = some operation)
    (hparts : call.parts? c = some (method, address, body)) (htoken : TokenCourse c w o₀ j₀)
    (hsend : SendCourse c call.reader method address body o₀ o₁ j₁)
    {result : Except RequestError call.Result} :
    o₁ = some result ↔ Ends c call w (j₀ ++ j₁) result := by
  have htells := tellsOf_of_asked hparts htoken hsend
  have hlookups : (j₀ ++ j₁).lookupTraffic = j₁.traffic :=
    (CallCourse.split_of_asked hparts htoken hsend).2
  have hfilter : call.lacksFilter = false := by
    rw [← Bool.not_eq_true, ← parts?_eq_none_iff (c := c) hop, hparts]
    simp
  -- What was sent decides the result.
  have hanswered : ∀ {q : Request} {reply : Reply}, (j₀ ++ j₁).lookupTraffic = [(q, reply)] →
      o₁ = some (resultIn call.reader q reply) := by
    intro q reply hsent
    exact answered_of_sent hsend (hlookups.symm.trans hsent)
  constructor
  · rintro rfl
    cases hsend with
    | tokenless => exact .tokenless hfilter ((htoken.eq_error_iff htells).1 rfl)
    | unbuilt hq => exact .unbuilt hparts ((htoken.eq_ok_iff htells).1 rfl) hq
    | sent hq => exact ends_resultIn (hlookups.trans (by simp))
  · intro hends
    cases hends with
    | unfiltered hlacks =>
        rw [hfilter] at hlacks
        cases hlacks
    | tokenless _ hlacks => exact (hsend.auth_iff _).2 ((htoken.eq_error_iff htells).2 hlacks)
    | unbuilt hparts' hhas hq =>
        rw [hparts] at hparts'
        cases hparts'
        have htoken' := (htoken.eq_ok_iff htells).2 hhas
        subst htoken'
        exact unbuilt_of_error hsend hq
    | lost hsent => exact hanswered hsent
    | late hsent => exact hanswered hsent
    | cutOff hsent => exact hanswered hsent
    | refused hsent hstatus =>
        rw [hanswered hsent]
        simp [resultIn, Reply.outcome, decode, hstatus]
    | undecodable hsent hread =>
        rw [hanswered hsent]
        simp [resultIn, Reply.outcome, decode, hread, Except.mapError]
    | found hsent hread =>
        rw [hanswered hsent]
        simp [resultIn, Reply.outcome, decode, hread, Except.mapError]

end Courses

/-- What holds of a lookup that a client begins in a world. -/
structure IsSettled (call : Call) (c : Client) (operation : Operation) (w : World) : Prop where
  /-- It has a result exactly if it ends in the way of that result. -/
  ends_iff : ∀ result, ((call.ask c).run w).1 = some (under operation result) ↔
    Ends c call w ((call.ask c).journal w) result
  /-- Whatever fails is reported under the lookup. -/
  named : ∀ e, ((call.ask c).run w).1 = some (.error e) → ∃ cause, e = .failed operation cause
  /-- It breaks off exactly where a token was granted that outlasts the clock. -/
  breaks_iff : ((call.ask c).run w).1 = none ↔ ∃ g, ((call.ask c).journal w).grants = [g] ∧
    ¬ (g.tokenAt ((call.ask c).journal w).lastReading).Fits
  /-- A search without a filter does nothing at all. -/
  silent : call.lacksFilter = true → (call.ask c).journal w = []
  /-- Without a token nothing is looked up. -/
  unsent : ∀ fault, c.LacksToken w ((call.ask c).journal w) fault →
    ((call.ask c).journal w).lookupTraffic = []
  /-- A token is asked for once at most, and the lookup is sent once at most. -/
  once : ((call.ask c).journal w).tokenTraffic.length ≤ 1 ∧
    ((call.ask c).journal w).lookupTraffic.length ≤ 1

theorem under_injective (operation : Operation) {α : Type} {r r' : Except RequestError α}
    (h : under operation r = under operation r') : r = r' := by
  cases r with
  | error cause =>
      cases r' with
      | error cause' =>
          cases h
          rfl
      | ok a => cases h
  | ok a =>
      cases r' with
      | error cause' => cases h
      | ok a' =>
          cases h
          rfl

theorem named_of_under {α : Type} {result : Except RequestError α} {e : ClientError}
    (h : under operation result = .error e) : ∃ cause, e = .failed operation cause := by
  cases result with
  | error cause =>
      cases h
      exact ⟨cause, rfl⟩
  | ok a => cases h

/-- A lookup without a request ends in one way, where nothing happens. -/
theorem ends_nil_iff (hop : call.operation? = some operation) (hparts : call.parts? c = none)
    {result : Except RequestError call.Result} :
    Ends c call w [] result ↔ result = .error .noFilter := by
  have hlacks : call.lacksFilter = true := (parts?_eq_none_iff hop).1 hparts
  constructor
  · intro h
    cases h with
    | unfiltered _ => rfl
    | tokenless hfilter _ =>
        rw [hlacks] at hfilter
        cases hfilter
    | unbuilt hparts' _ _ =>
        rw [hparts] at hparts'
        cases hparts'
    | _ hsent => cases hsent
  · rintro rfl
    exact .unfiltered hlacks

/-- A search without a filter is over before it begins. -/
theorem isSettled_of_unfiltered (hop : call.operation? = some operation)
    (hparts : call.parts? c = none)
    (ho : ((call.ask c).run w).1 = some (.error (.failed operation .noFilter)))
    (hj : (call.ask c).journal w = []) : call.IsSettled c operation w := by
  refine
    { ends_iff := ?_
      named := ?_
      breaks_iff := ?_
      silent := fun _ => hj
      unsent := ?_
      once := ?_ }
  · intro result
    rw [ho, hj, ends_nil_iff hop hparts]
    constructor
    · intro h
      exact under_injective operation (Option.some.inj h).symm
    · rintro rfl
      rfl
  · intro e he
    rw [ho] at he
    cases he
    exact ⟨_, rfl⟩
  · rw [ho, hj]
    constructor
    · intro h
      cases h
    · rintro ⟨g, hg, -⟩
      cases hg
  · intro fault _
    rw [hj]
    rfl
  · rw [hj]
    exact ⟨Nat.zero_le 1, Nat.zero_le 1⟩

/-- A lookup that asks comes by its token and is sent, as far as that goes. -/
theorem isSettled_of_asked {method : Method} {address body : String}
    {o₀ : Outcome (Except TokenFault (Option String))}
    {o₁ : Outcome (Except RequestError call.Result)} {j₀ j₁ : Journal}
    (hop : call.operation? = some operation)
    (hparts : call.parts? c = some (method, address, body)) (htoken : TokenCourse c w o₀ j₀)
    (hsend : SendCourse c call.reader method address body o₀ o₁ j₁)
    (ho : ((call.ask c).run w).1 = o₁.map (under operation))
    (hj : (call.ask c).journal w = j₀ ++ j₁) : call.IsSettled c operation w := by
  have htells := tellsOf_of_asked hparts htoken hsend
  have hcourse : CallCourse c call w (o₁.map fun result =>
      (under operation result).map fun _ => Found.nothing) (j₀ ++ j₁) :=
    .asked hop hparts htoken hsend
  refine
    { ends_iff := ?_
      named := ?_
      breaks_iff := ?_
      silent := ?_
      unsent := ?_
      once := ?_ }
  · intro result
    rw [ho, hj, ← courses_ends_iff hop hparts htoken hsend]
    constructor
    · intro h
      obtain ⟨result', rfl, hresult⟩ := Option.map_eq_some_iff.1 h
      rw [under_injective operation hresult]
    · rintro rfl
      rfl
  · intro e he
    rw [ho] at he
    obtain ⟨result, -, hresult⟩ := Option.map_eq_some_iff.1 he
    exact named_of_under hresult
  · rw [ho, hj, Option.map_eq_none_iff, hsend.none_iff, htoken.eq_none_iff htells]
  · intro hlacks
    rw [← parts?_eq_none_iff (c := c) hop, hparts] at hlacks
    cases hlacks
  · intro fault hlacks
    rw [hj] at hlacks ⊢
    have hfault := (htoken.eq_error_iff htells).2 hlacks
    subst hfault
    rw [(CallCourse.split_of_asked hparts htoken hsend).2]
    cases hsend with
    | tokenless => rfl
  · rw [hj]
    exact hcourse.once

/-- A lookup is settled by the course that it takes. -/
theorem isSettled_of_lookup (hop : call.operation? = some operation) (c : Client) (w : World) :
    call.IsSettled c operation w := by
  rcases runs_ask hop (runs_self (call.ask c) w) with
    ⟨hparts, ho, hj⟩ | ⟨method, address, body, o₀, o₁, j₀, j₁, hparts, htoken, hsend, ho, hj⟩
  · exact isSettled_of_unfiltered hop hparts ho hj
  · exact isSettled_of_asked hop hparts htoken hsend ho hj

/-- **A lookup is sent exactly if the client has a token for it and the request can be built.** -/
theorem sent_iff {parts : Method × String × String} (hop : call.operation? = some operation)
    (hparts : call.parts? c = some parts) (w : World) (q : Request) :
    (∃ reply, ((call.ask c).journal w).lookupTraffic = [(q, reply)]) ↔
      ∃ token, c.HasToken w ((call.ask c).journal w) token ∧ c.requestOf parts token = .ok q := by
  rcases runs_ask hop (runs_self (call.ask c) w) with
    ⟨hnone, -⟩ | ⟨method, address, body, o₀, o₁, j₀, j₁, hasked, htoken, hsend, -, hj⟩
  · rw [hparts] at hnone
    cases hnone
  · rw [hparts] at hasked
    cases hasked
    -- The lookups in the journal are what is sent behind the way to the token.
    rw [hj, (CallCourse.split_of_asked hparts htoken hsend).2, hsend.sent_iff]
    simp only [htoken.eq_ok_iff (tellsOf_of_asked hparts htoken hsend), requestOf]

/-- **Every lookup ends in one of the ways, and has the result of that way**, unless it breaks
off. -/
theorem asked_ends (hop : call.operation? = some operation) (c : Client) (w : World) :
    call.IsSettled c operation w :=
  isSettled_of_lookup hop c w

/-- An answer with the expected status is cut off, which is a fault of the connection and not of the
document. -/
theorem asked_ends_cutOff :
    (getUser "u").operation? = some .getUser ∧
      let c := plain "http://[::1]/scim" (.basic "id" "secret")
      let w := { World.fresh (fun _ => true) fun _ => 0 with replies := [.answer ⟨.ok, none⟩] }
      Ends c (getUser "u") w (((getUser "u").ask c).journal w) (.error (.transport .body)) := by
  refine ⟨rfl, ?_⟩
  intro c w
  have hrun : ((c.getUser "u").run w).1 = some (.error (.failed .getUser (.transport .body))) := by
    decide +kernel
  exact ((asked_ends rfl c w).ends_iff (.error (.transport .body))).1 hrun

/-- A token is granted for the longest time that can be said, and the lookup that asked for it has
no result: neither what it looks for nor an error. -/
theorem getUser_of_endlessGrant :
    let c := plain "http://[::1]/scim" (.oauth2 "id" "secret" "http://[::1]/token" [])
    let grant := Utf8.ofString
      "\x7b\x22access_token\x22:\x22t\x22,\x22expires_in\x22:18446744073709551615\x7d"
    let user := Utf8.ofString "\x7b\x22id\x22:\x22u\x22\x7d"
    let w := { World.fresh (fun _ => true) fun _ => 0 with
      replies := [.answer ⟨.ok, some grant⟩, .answer ⟨.ok, some user⟩] }
    ((c.getUser "u").run w).1 = none := by
  intro c grant user w
  have hnone : ((c.getUser "u").run w).1.isNone = true := by
    decide +kernel
  exact Option.isNone_iff_eq_none.1 hnone

end Call

end ScimLookup
