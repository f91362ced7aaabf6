import ScimLookup.Proofs.Http.Journal
import ScimLookup.Scim.Client

/-!
# Getting a token

How a client comes by the token for a request, in every way that this can go (`TokenCourse`,
`runs_tokenFor`). A client without tokens does nothing. Otherwise the remembered token is used as
long as it is not stale; a stale one makes the client ask once for a new one. Asking can fail before
anything is sent, and by the answer; the token stays in place then. A grant is remembered with the
moment from which its token counts as stale, unless that moment is beyond the range of the clock.
-/

set_option autoImplicit false

namespace ScimLookup

/-! ## Requests and what comes of them -/

/-- What a reply is to a request: its answer, or why it has none. -/
def Reply.outcome (r : Request) : Reply → Except TransportFault Answer
  | .answer a => .ok a
  | .lost => .error (.send r.url.text)
  | .late => .error (.timeout r.url.text)

/-- No token is remembered that can still be used. -/
def isStale (cache : Option Token) (now : Nat) : Bool :=
  match cache with
  | none => true
  | some t => t.isExpired now

/-- The expiry of a token is within the range of the clock. -/
def Token.Fits (t : Token) : Prop :=
  ∀ e, t.expiry = some e → e < endOfTime

namespace Client

open Exchange

/-- The request of a draft, if its address can be sent to. -/
def finished (c : Client) (method : Method) (d : Draft) (body : String) :
    Except TransportFault Request :=
  if d.url.isSendable then .ok ⟨method, d.url, c.withDefaults d.headers, body⟩
  else .error (.builder (some d.url.text))

/-- Send a request that could be built. -/
def sendFinished : Except TransportFault Request → Exchange (Except TransportFault Answer)
  | .error fault => return .error fault
  | .ok r => do return (← Exchange.request r).outcome r

/-- A draft is sent as its request, or not at all. -/
theorem dispatch_eq (c : Client) (method : Method) (d : Draft) (body : String) :
    c.dispatch method d body = sendFinished (c.finished method d body) := by
  rw [dispatch, finished]
  split
  · refine congrArg (Exchange.bind _) (funext fun reply => ?_)
    cases reply <;> rfl
  · rfl

/-! ## The request for a token -/

/-- The token of a grant that is kept at a moment. -/
def TokenGrant.tokenAt (g : TokenGrant) (now : Nat) : Token :=
  ⟨g.accessToken, g.expiresIn.map fun seconds => now + (seconds.toNat - tokenMargin) * second⟩

/-- The request for a token, for a client that uses tokens. -/
def grantRequest? (c : Client) : Option (Except TransportFault Request) :=
  match c.credentials with
  | .oauth2 id secret endpoint scopes => some <|
    match draft? endpoint with
    | none => .error (.builder none)
    | some d =>
      if d.url.host.isNone then .error (.builder (some d.url.text))
      else
        c.finished .post ⟨d.url, d.headers ++ [("authorization", basicAuthorization id secret),
          ("content-type", "application/x-www-form-urlencoded")]⟩ (Form.render (grantForm scopes))
  | _ => none

/-- The grant in what came back for a request. -/
def grantIn (r : Request) (reply : Reply) : Except TokenFault TokenGrant :=
  match reply.outcome r with
  | .error fault => .error (.notSent fault)
  | .ok a => readGrant a

/-- Ask by a request that could be built. -/
def sendGrantRequest : Except TransportFault Request → Exchange (Except TokenFault TokenGrant)
  | .error fault => return .error (.notSent fault)
  | .ok r => do return grantIn r (← Exchange.request r)

theorem requestGrant_eq {c : Client} {id secret endpoint : String} {scopes : List String}
    (hc : c.credentials = .oauth2 id secret endpoint scopes) :
    ∃ q, c.grantRequest? = some q ∧
      c.requestGrant id secret endpoint scopes = sendGrantRequest q := by
  rw [grantRequest?, requestGrant, hc]
  refine ⟨_, rfl, ?_⟩
  cases hd : draft? endpoint with
  | none => rfl
  | some d =>
      simp only
      split
      · rfl
      · simp only [dispatch_eq]
        cases c.finished _ _ _ with
        | error fault => rfl
        | ok r =>
            refine congrArg (Exchange.send r) (funext fun reply => ?_)
            cases reply <;> rfl

/-- What is seen of the clock while a grant is kept: nothing if its token has no expiry. -/
def stampOf (g : TokenGrant) (now : Nat) : Journal :=
  if g.expiresIn.isSome then [.looked now] else []

/-! ## Courses -/

/-- The ways in which a client comes by the token for a request, from a world in which it starts:
how it ends, and what happens. -/
inductive TokenCourse (c : Client) (w : World) :
    Outcome (Except TokenFault (Option String)) → Journal → Prop
  /-- The client uses no tokens. -/
  | idle : c.grantRequest? = none → TokenCourse c w (some (.ok none)) []
  /-- The remembered token is used. -/
  | reused {q : Except TransportFault Request} {t : Token} {k : Journal} :
      c.grantRequest? = some q → w.cache = some t →
      isStale w.cache (w.clock w.looks) = false → k.IsQuiet →
      TokenCourse c w (some (.ok (some t.text))) k
  /-- No request for a token can be built. -/
  | unbuilt {fault : TransportFault} {k : Journal} :
      c.grantRequest? = some (.error fault) → isStale w.cache (w.clock w.looks) = true →
      k.IsQuiet → TokenCourse c w (some (.error (.notSent fault))) k
  /-- The request for a token brings none. -/
  | refused {r : Request} {reply : Reply} {fault : TokenFault} {k : Journal} :
      c.grantRequest? = some (.ok r) → isStale w.cache (w.clock w.looks) = true → k.IsQuiet →
      grantIn r reply = .error fault →
      TokenCourse c w (some (.error fault)) (k ++ [.sent r reply])
  /-- A token is granted and remembered. -/
  | granted {r : Request} {reply : Reply} {g : TokenGrant} {k : Journal} {now : Nat} :
      c.grantRequest? = some (.ok r) → isStale w.cache (w.clock w.looks) = true → k.IsQuiet →
      grantIn r reply = .ok g → (g.tokenAt now).Fits →
      TokenCourse c w (some (.ok (some g.accessToken)))
        (k ++ .sent r reply :: (stampOf g now ++ [.remembered (some (g.tokenAt now))]))
  /-- A token is granted whose expiry is beyond the range of the clock. -/
  | overrun {r : Request} {reply : Reply} {g : TokenGrant} {k : Journal} {now : Nat} :
      c.grantRequest? = some (.ok r) → isStale w.cache (w.clock w.looks) = true → k.IsQuiet →
      grantIn r reply = .ok g → ¬ (g.tokenAt now).Fits →
      TokenCourse c w none (k ++ .sent r reply :: stampOf g now)

variable {c : Client} {w w' : World} {j : Journal}

/-- Looking for a token that can be used sends nothing and leaves the token in place. -/
theorem runs_usableToken {o : Outcome (Option String)} (h : usableToken.Runs w o j w') :
    o = some (if isStale w.cache (w.clock w.looks) then none else w.cache.map Token.text) ∧
      j.IsQuiet := by
  rw [usableToken] at h
  rcases runs_bind_iff.1 h with ⟨t, j₁, w₁, j₂, hrecall, hnext, rfl⟩ | ⟨-, hrecall⟩
  · obtain ⟨ht, rfl, rfl⟩ := runs_token_iff.1 hrecall
    cases ht
    cases hc : w.cache with
    | none =>
        rw [hc] at hnext
        obtain ⟨rfl, rfl, -⟩ := runs_pure_iff.1 hnext
        exact ⟨rfl, rfl, rfl⟩
    | some t =>
        simp only [hc] at hnext
        cases he : t.expiry with
        | none =>
            simp only [he] at hnext
            obtain ⟨rfl, rfl, -⟩ := runs_pure_iff.1 hnext
            exact ⟨by simp [isStale, Token.isExpired, he], rfl, rfl⟩
        | some e =>
            -- Only a token with an expiry makes the client look at the clock.
            simp only [he] at hnext
            obtain ⟨o', hclock, rfl⟩ := runs_map_iff.1 hnext
            obtain ⟨rfl, rfl, -⟩ := runs_clock_iff.1 hclock
            refine ⟨?_, rfl, rfl⟩
            cases hx : t.isExpired (w.clock w.looks) with
            | true => simp [isStale, hx]
            | false => simp [isStale, hx]
  · obtain ⟨hnone, -, -⟩ := runs_token_iff.1 hrecall
    cases hnone

/-- A token is asked for by its request, or not at all. -/
theorem runs_sendGrantRequest {q : Except TransportFault Request}
    {o : Outcome (Except TokenFault TokenGrant)} (h : (sendGrantRequest q).Runs w o j w') :
    (∃ fault, q = .error fault ∧ o = some (.error (.notSent fault)) ∧ j = []) ∨
      ∃ r reply, q = .ok r ∧ o = some (grantIn r reply) ∧ j = [.sent r reply] := by
  cases q with
  | error fault =>
      obtain ⟨rfl, rfl, -⟩ := runs_pure_iff.1 h
      exact Or.inl ⟨fault, rfl, rfl, rfl⟩
  | ok r =>
      obtain ⟨o', hsend, rfl⟩ := runs_map_iff.1 h
      obtain ⟨rfl, rfl, -⟩ := runs_request_iff.1 hsend
      exact Or.inr ⟨r, _, rfl, rfl, rfl⟩

theorem TokenGrant.fits_tokenAt_none {g : TokenGrant} (hs : g.expiresIn = none) (now : Nat) :
    (g.tokenAt now).Fits := by
  intro e he
  rw [tokenAt, hs] at he
  cases he

theorem TokenGrant.fits_tokenAt_iff {g : TokenGrant} {seconds : UInt64}
    (hs : g.expiresIn = some seconds) (now : Nat) :
    (g.tokenAt now).Fits ↔ now + (seconds.toNat - tokenMargin) * second < endOfTime := by
  constructor
  · intro h
    exact h _ (by rw [tokenAt, hs]; rfl)
  · intro h e he
    rw [tokenAt, hs] at he
    cases he
    exact h

/-- A grant is kept unless its token outlasts the clock. -/
theorem runs_keepGrant {g : TokenGrant} {o : Outcome String} (h : (keepGrant g).Runs w o j w') :
    ∃ now, ((g.tokenAt now).Fits ∧ o = some g.accessToken ∧
        j = stampOf g now ++ [.remembered (some (g.tokenAt now))]) ∨
      (¬ (g.tokenAt now).Fits ∧ o = none ∧ j = stampOf g now) := by
  -- The moment is the same in both cases; where there is no expiry it does not matter.
  refine ⟨w.clock w.looks, ?_⟩
  rw [keepGrant] at h
  cases hs : g.expiresIn with
  | none =>
      simp only [hs] at h
      obtain ⟨o', hset, rfl⟩ := runs_map_iff.1 h
      obtain ⟨rfl, rfl, -⟩ := runs_setToken_iff.1 hset
      refine Or.inl ⟨TokenGrant.fits_tokenAt_none hs _, rfl, ?_⟩
      simp [stampOf, TokenGrant.tokenAt, hs]
  | some seconds =>
      simp only [hs] at h
      rcases runs_bind_iff.1 h with ⟨now, j₁, w₁, j₂, hclock, hnext, rfl⟩ | ⟨-, hclock⟩
      · obtain ⟨hnow, rfl, rfl⟩ := runs_clock_iff.1 hclock
        cases hnow
        split at hnext
        · obtain ⟨o', hset, rfl⟩ := runs_map_iff.1 hnext
          obtain ⟨rfl, rfl, -⟩ := runs_setToken_iff.1 hset
          refine Or.inl ⟨(TokenGrant.fits_tokenAt_iff hs _).2 ‹_›, rfl, ?_⟩
          simp [stampOf, TokenGrant.tokenAt, hs]
        · obtain ⟨rfl, rfl, -⟩ := runs_brokenOff_iff.1 hnext
          refine Or.inr ⟨fun hfits => ‹¬ _› ((TokenGrant.fits_tokenAt_iff hs _).1 hfits), rfl, ?_⟩
          simp [stampOf, hs]
      · obtain ⟨hnone, -, -⟩ := runs_clock_iff.1 hclock
        cases hnone

/-- Ask for a token and keep what is granted. -/
def fetchToken (q : Except TransportFault Request) : Exchange (Except TokenFault String) := do
  match ← sendGrantRequest q with
  | .error fault => return .error fault
  | .ok grant => return .ok (← keepGrant grant)

/-- Where the remembered token is stale, a new one comes by one of the courses. -/
theorem runs_fetchToken {q : Except TransportFault Request} (hq : c.grantRequest? = some q)
    (hstale : isStale w.cache (w.clock w.looks) = true) {k : Journal} (hk : k.IsQuiet) {w₁ : World}
    {o : Outcome (Except TokenFault String)} (h : (fetchToken q).Runs w₁ o j w') :
    TokenCourse c w (o.map (·.map some)) (k ++ j) := by
  rw [fetchToken] at h
  rcases runs_bind_iff.1 h with ⟨asked, j₁, w₂, j₂, hask, hkeep, rfl⟩ | ⟨rfl, hask⟩
  · rcases runs_sendGrantRequest hask with ⟨fault, rfl, hasked, rfl⟩ | ⟨r, reply, rfl, hasked, rfl⟩
    · cases hasked
      obtain ⟨rfl, rfl, -⟩ := runs_pure_iff.1 hkeep
      rw [List.append_nil, List.append_nil]
      exact .unbuilt hq hstale hk
    · -- The request was sent, so what came back for it decides.
      cases hg : grantIn r reply with
      | error fault =>
          rw [hg] at hasked
          cases hasked
          obtain ⟨rfl, rfl, -⟩ := runs_pure_iff.1 hkeep
          exact .refused hq hstale hk hg
      | ok g =>
          rw [hg] at hasked
          cases hasked
          obtain ⟨o', hkept, rfl⟩ := runs_map_iff.1 hkeep
          obtain ⟨now, ⟨hfits, rfl, rfl⟩ | ⟨hfits, rfl, rfl⟩⟩ := runs_keepGrant hkept
          · exact .granted hq hstale hk hg hfits
          · exact .overrun hq hstale hk hg hfits
  · -- Asking itself never breaks off.
    rcases runs_sendGrantRequest hask with ⟨fault, -, hnone, -⟩ | ⟨r, reply, -, hnone, -⟩
    · cases hnone
    · cases hnone

/-- **Every way to the token for a request is one of the courses.** -/
theorem runs_tokenFor {o : Outcome (Except TokenFault (Option String))}
    (h : c.tokenFor.Runs w o j w') : TokenCourse c w o j := by
  rw [tokenFor] at h
  cases hc : c.credentials with
  | basic id secret =>
      simp only [hc] at h
      obtain ⟨rfl, rfl, -⟩ := runs_pure_iff.1 h
      exact .idle (by simp [grantRequest?, hc])
  | mtls id certificate =>
      simp only [hc] at h
      obtain ⟨rfl, rfl, -⟩ := runs_pure_iff.1 h
      exact .idle (by simp [grantRequest?, hc])
  | oauth2 id secret endpoint scopes =>
      simp only [hc] at h
      obtain ⟨q, hq, hgrant⟩ := requestGrant_eq hc
      obtain ⟨o', hbearer, rfl⟩ := runs_map_iff.1 h
      rw [bearerToken, hgrant] at hbearer
      rcases runs_bind_iff.1 hbearer with ⟨text, k, w₁, j₂, husable, hnext, rfl⟩ | ⟨-, husable⟩
      · obtain ⟨htext, hk⟩ := runs_usableToken husable
        cases hstale : isStale w.cache (w.clock w.looks) with
        | false =>
            rw [hstale] at htext
            cases hcache : w.cache with
            | none => simp [isStale, hcache] at hstale
            | some t =>
                simp only [hcache, Option.map_some, Option.some.injEq] at htext
                subst htext
                obtain ⟨rfl, rfl, -⟩ := runs_pure_iff.1 hnext
                rw [List.append_nil]
                exact .reused hq hcache hstale hk
        | true =>
            rw [hstale] at htext
            cases htext
            exact runs_fetchToken hq hstale hk hnext
      · exact absurd (runs_usableToken husable).1 (by simp)

/-! ## What a course does -/

/-- The grants in what came back for requests. -/
def grantsIn (traffic : List (Request × Reply)) : List TokenGrant :=
  traffic.filterMap fun x => (grantIn x.1 x.2).toOption

@[simp] theorem traffic_stampOf (g : TokenGrant) (now : Nat) : (stampOf g now).traffic = [] := by
  rw [stampOf]
  split
  · rfl
  · rfl

@[simp] theorem replacements_stampOf (g : TokenGrant) (now : Nat) :
    (stampOf g now).replacements = [] := by
  rw [stampOf]
  split
  · rfl
  · rfl

/-- The clock is looked at last when a grant is kept, if its token has an expiry at all. -/
theorem TokenGrant.tokenAt_readings (g : TokenGrant) (k : List Nat) (now : Nat) :
    g.tokenAt ((k ++ (stampOf g now).readings).getLast?.getD 0) = g.tokenAt now := by
  rw [stampOf]
  cases hs : g.expiresIn with
  | none => simp [tokenAt, hs]
  | some seconds => simp [Journal.readings]

namespace TokenCourse

variable {o : Outcome (Except TokenFault (Option String))}

/-- At most one request is sent, and it is the one for a token. -/
theorem traffic_facts (h : TokenCourse c w o j) :
    j.traffic = [] ∨
      ∃ r reply, j.traffic = [(r, reply)] ∧ c.grantRequest? = some (.ok r) := by
  cases h with
  | idle hq => exact Or.inl rfl
  | reused hq hcache hstale hk => exact Or.inl hk.1
  | unbuilt hq hstale hk => exact Or.inl hk.1
  | @refused r reply fault k hq hstale hk hg => exact Or.inr ⟨r, reply, by simp [hk.1], hq⟩
  | @granted r reply g k now hq hstale hk hg hfits => exact Or.inr ⟨r, reply, by simp [hk.1], hq⟩
  | @overrun r reply g k now hq hstale hk hg hfits => exact Or.inr ⟨r, reply, by simp [hk.1], hq⟩

/-- **The token that comes of it is the remembered one, or one that was granted just now** and is
remembered from here on. -/
theorem of_ok {token : Option String} (hc : c.grantRequest? ≠ none)
    (h : TokenCourse c w (some (.ok token)) j) :
    (∃ t, w.cache = some t ∧ isStale w.cache (w.clock w.looks) = false ∧ token = some t.text ∧
        j.IsQuiet) ∨
      ∃ g, grantsIn j.traffic = [g] ∧ token = some g.accessToken ∧
        j.replacements = [some (g.tokenAt (j.readings.getLast?.getD 0))] := by
  cases h with
  | idle hq => exact absurd hq hc
  | reused hq hcache hstale hk => exact Or.inl ⟨_, hcache, hstale, rfl, hk⟩
  | @granted r reply g k now hq hstale hk hg hfits =>
      have hreadings : (k ++ Event.sent r reply ::
          (stampOf g now ++ [Event.remembered (some (g.tokenAt now))])).readings =
            k.readings ++ (stampOf g now).readings := by simp
      refine Or.inr ⟨g, ?_, rfl, ?_⟩
      · simp [grantsIn, hk.1, hg, Except.toOption]
      · rw [hreadings, TokenGrant.tokenAt_readings]
        simp [hk.2]

/-- Where there is a fault nothing was granted, and the token stays in place. -/
theorem of_error {fault : TokenFault} (h : TokenCourse c w (some (.error fault)) j) :
    j.replacements = [] ∧ ∀ x ∈ j.traffic, grantIn x.1 x.2 = .error fault := by
  cases h with
  | unbuilt hq hstale hk => exact ⟨hk.2, by simp [hk.1]⟩
  | refused hq hstale hk hg => exact ⟨by simp [hk.2], by simp [hk.1, hg]⟩

/-- What came back for the request without a token is the fault. -/
theorem eq_error_of_mem (h : TokenCourse c w o j) {x : Request × Reply} {fault : TokenFault}
    (hx : x ∈ j.traffic) (hfault : grantIn x.1 x.2 = .error fault) : o = some (.error fault) := by
  cases h with
  | idle hq => cases hx
  | reused hq hcache hstale hk =>
      rw [hk.1] at hx
      cases hx
  | unbuilt hq hstale hk =>
      rw [hk.1] at hx
      cases hx
  | @refused r reply fault' k hq hstale hk hg =>
      have hxr : x = (r, reply) := by simpa [hk.1] using hx
      rw [hxr, hg] at hfault
      cases hfault
      rfl
  | @granted r reply g k now hq hstale hk hg hfits =>
      have hxr : x = (r, reply) := by simpa [hk.1] using hx
      rw [hxr, hg] at hfault
      cases hfault
  | @overrun r reply g k now hq hstale hk hg hfits =>
      have hxr : x = (r, reply) := by simpa [hk.1] using hx
      rw [hxr, hg] at hfault
      cases hfault

/-- The way breaks off where a token was granted whose expiry is beyond the range of the clock. -/
theorem of_none (h : TokenCourse c w none j) :
    isStale w.cache (w.clock w.looks) = true ∧ j.replacements = [] ∧
      ∃ g, grantsIn j.traffic = [g] ∧ ¬ (g.tokenAt (j.readings.getLast?.getD 0)).Fits := by
  cases h with
  | @overrun r reply g k now hq hstale hk hg hfits =>
      have hreadings : (k ++ Event.sent r reply :: stampOf g now).readings =
          k.readings ++ (stampOf g now).readings := by simp
      refine ⟨hstale, by simp [hk.2], g, ?_, ?_⟩
      · simp [grantsIn, hk.1, hg, Except.toOption]
      · rw [hreadings, TokenGrant.tokenAt_readings]
        exact hfits

/-- A token that is put in place was granted. -/
theorem mem_replacements (h : TokenCourse c w o j) {t : Token} (ht : some t ∈ j.replacements) :
    ∃ g ∈ grantsIn j.traffic, g.accessToken = t.text := by
  cases h with
  | idle hq => cases ht
  | reused hq hcache hstale hk =>
      rw [hk.2] at ht
      cases ht
  | unbuilt hq hstale hk =>
      rw [hk.2] at ht
      cases ht
  | refused hq hstale hk hg => simp [hk.2] at ht
  | @granted r reply g k now hq hstale hk hg hfits =>
      have htoken : t = g.tokenAt now := by simpa [hk.2] using ht
      subst htoken
      exact ⟨g, by simp [grantsIn, hk.1, hg, Except.toOption], rfl⟩
  | overrun hq hstale hk hg hfits => simp [hk.2] at ht

/-- A token that comes of it was remembered or granted. -/
theorem source_of_ok {text : String} (h : TokenCourse c w (some (.ok (some text))) j) :
    (∃ t, w.cache = some t ∧ t.text = text) ∨ ∃ g ∈ grantsIn j.traffic, g.accessToken = text := by
  cases h with
  | @reused q t k hq hcache hstale hk => exact Or.inl ⟨t, hcache, rfl⟩
  | @granted r reply g k now hq hstale hk hg hfits =>
      exact Or.inr ⟨g, by simp [grantsIn, hk.1, hg, Except.toOption], rfl⟩

end TokenCourse

end Client

end ScimLookup
