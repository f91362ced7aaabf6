import ScimLookup.Proofs.Scim.Ending

/-!
# How long a token may live

A grant says for how many seconds its token is good, and any number of 64 bits may stand there. The
token is remembered with the moment half a minute before its time is over, and this moment has to be
within the range of the clock: where it is not, the exchange breaks off, and the token is lost.

The main result (`Client.keepsWhatFits`) says of every grant, at every moment, that its token is
remembered and used if that moment is within the range, and that otherwise nothing is remembered and
nothing is looked up. No clock keeps what is granted for `2 ^ 63 + 30` seconds or longer, and every
clock keeps what is granted for half a minute at most or without any time.
-/

set_option autoImplicit false

namespace ScimLookup

open Exchange

namespace Client

/-! ## The moment of expiry -/

namespace TokenGrant

/-- The longest time for which some clock can keep a token, in seconds, and one second more. -/
def tooLong : Nat := 0x8000000000000000 + tokenMargin

/-- **Every clock keeps a token whose time is not longer than the margin**, and no other. -/
theorem always_fits_iff (g : TokenGrant) :
    (∀ now < endOfTime, (g.tokenAt now).Fits) ↔
      ∀ seconds, g.expiresIn = some seconds → seconds.toNat ≤ tokenMargin := by
  cases hs : g.expiresIn with
  | none =>
      constructor
      · intro _ seconds h
        cases h
      · intro _ now _
        exact fits_tokenAt_none hs now
  | some seconds =>
      simp only [fits_tokenAt_iff hs, Option.some.injEq, forall_eq']
      constructor
      · intro h
        -- The last moment of all leaves room for nothing.
        have hlast := h (endOfTime - 1) (by decide)
        simp only [endOfTime, second, tokenMargin] at hlast ⊢
        omega
      · intro hle now hnow
        rw [Nat.sub_eq_zero_of_le hle]
        simpa using hnow

/-- **No clock keeps a token that is too long.** -/
theorem never_fits_iff (g : TokenGrant) :
    (∀ now, ¬ (g.tokenAt now).Fits) ↔
      ∃ seconds, g.expiresIn = some seconds ∧ tooLong ≤ seconds.toNat := by
  cases hs : g.expiresIn with
  | none =>
      constructor
      · intro h
        exact absurd (fits_tokenAt_none hs 0) (h 0)
      · rintro ⟨seconds, h, -⟩
        cases h
  | some seconds =>
      simp only [fits_tokenAt_iff hs, Option.some.injEq, exists_eq_left']
      constructor
      · intro h
        have hfirst := h 0
        simp only [endOfTime, second, tooLong, tokenMargin] at hfirst ⊢
        omega
      · intro hle now
        simp only [endOfTime, second, tooLong, tokenMargin] at hle ⊢
        omega

end TokenGrant

/-! ## Asking for a token alone -/

variable {c : Client} {id secret endpoint : String} {scopes : List String}

/-- A token that is asked for comes by one of the courses. -/
theorem course_of_bearerToken (hc : c.credentials = .oauth2 id secret endpoint scopes)
    {w w' : World} {j : Journal} {o : Outcome (Except TokenFault String)}
    (h : (c.bearerToken id secret endpoint scopes).Runs w o j w') :
    TokenCourse c w (o.map (·.map some)) j := by
  have hrun : c.tokenFor.Runs w (o.map (·.map some)) j w' := by
    rw [tokenFor, hc]
    exact runs_map_iff.2 ⟨o, h, rfl⟩
  exact runs_tokenFor hrun

/-- All that is sent on the way to a token asks for one. -/
theorem TokenCourse.tellsOf {w : World} {j : Journal}
    {o : Outcome (Except TokenFault (Option String))} (h : TokenCourse c w o j) : TellsOf j j := by
  refine ⟨List.filter_eq_self.2 fun x hx => decide_eq_true ?_, rfl⟩
  rcases h.traffic_facts with hnil | ⟨r, reply, hsent, hr⟩
  · rw [hnil] at hx
    cases hx
  · rw [hsent] at hx
    cases List.mem_singleton.1 hx
    exact asksForToken_grantRequest hr

/-- **A token that fits is remembered and given out.** -/
theorem kept_of_fits (hc : c.credentials = .oauth2 id secret endpoint scopes) {w w' : World}
    {j : Journal} {o : Outcome (Except TokenFault String)} {g : TokenGrant}
    (h : (c.bearerToken id secret endpoint scopes).Runs w o j w') (hg : j.grants = [g])
    (hfits : (g.tokenAt j.lastReading).Fits) :
    o = some (.ok g.accessToken) ∧ w'.cache = some (g.tokenAt j.lastReading) := by
  have hcourse := course_of_bearerToken hc h
  have hgiven := (hcourse.eq_ok_iff hcourse.tellsOf).2 (.granted hg hfits)
  have ho : o = some (.ok g.accessToken) := by
    rcases o with _ | (fault | text)
    · cases hgiven
    · cases hgiven
    · cases hgiven
      rfl
  refine ⟨ho, ?_⟩
  rw [hgiven] at hcourse
  rcases hcourse.of_ok (grantRequest?_ne_none hc) with ⟨t, -, -, -, hquiet⟩ | ⟨g', hg', -, hkept⟩
  · -- Where the remembered token was used nothing was granted.
    rw [hcourse.tellsOf.grants_eq, hquiet.1] at hg
    cases hg
  · rw [hcourse.tellsOf.grants_eq, hg'] at hg
    cases hg
    rw [h.cache_eq, hkept]
    rfl

/-- **A token that does not fit is lost**, and what was remembered stays. -/
theorem lost_of_not_fits (hc : c.credentials = .oauth2 id secret endpoint scopes) {w w' : World}
    {j : Journal} {o : Outcome (Except TokenFault String)} {g : TokenGrant}
    (h : (c.bearerToken id secret endpoint scopes).Runs w o j w') (hg : j.grants = [g])
    (hover : ¬ (g.tokenAt j.lastReading).Fits) : o = none ∧ w'.cache = w.cache := by
  have hcourse := course_of_bearerToken hc h
  have ho := (hcourse.eq_none_iff hcourse.tellsOf).2 ⟨g, hg, hover⟩
  refine ⟨Option.map_eq_none_iff.1 ho, ?_⟩
  rw [ho] at hcourse
  rw [h.cache_eq, hcourse.of_none.2.1]
  rfl

end Client

/-! ## Lookups -/

namespace Call

open Client

variable {c : Client} {call : Call} {operation : Operation} {parts : Method × String × String}
  {w : World} {g : TokenGrant}

/-- A token that was granted and fits is the one for the lookup. -/
theorem hasToken_iff_of_granted (hop : call.operation? = some operation)
    (hparts : call.parts? c = some parts) (hg : ((call.ask c).journal w).grants = [g])
    (hfits : (g.tokenAt ((call.ask c).journal w).lastReading).Fits) (token : Option String) :
    c.HasToken w ((call.ask c).journal w) token ↔ token = some g.accessToken := by
  constructor
  · intro hhas
    rcases runs_ask hop (runs_self (call.ask c) w) with
      ⟨hnone, -⟩ | ⟨method, address, body, o₀, o₁, j₀, j₁, hasked, htoken, hsend, -, hj⟩
    · rw [hparts] at hnone
      cases hnone
    · -- The way to the token has one end, and what the client has is that end.
      rw [hj] at hhas hg hfits
      have htells := tellsOf_of_asked hasked htoken hsend
      have hends := (htoken.eq_ok_iff htells).2 hhas
      rw [(htoken.eq_ok_iff htells).2 (.granted hg hfits)] at hends
      cases hends
      rfl
  · rintro rfl
    exact .granted hg hfits

/-- Where the token for it is lost, a lookup has no result and is not sent. -/
theorem unsent_of_not_fits (hop : call.operation? = some operation)
    (hg : ((call.ask c).journal w).grants = [g])
    (hover : ¬ (g.tokenAt ((call.ask c).journal w).lastReading).Fits) :
    ((call.ask c).run w).1 = none ∧ ((call.ask c).journal w).lookupTraffic = [] := by
  have hnone := (isSettled_of_lookup hop c w).breaks_iff.2 ⟨g, hg, hover⟩
  refine ⟨hnone, ?_⟩
  rcases runs_ask hop (runs_self (call.ask c) w) with
    ⟨-, -, hj⟩ | ⟨method, address, body, o₀, o₁, j₀, j₁, hasked, htoken, hsend, ho, hj⟩
  · rw [hj]
    rfl
  · rw [hnone] at ho
    have ho₀ : o₀ = none := hsend.none_iff.1 (Option.map_eq_none_iff.1 ho.symm)
    rw [hj, (CallCourse.split_of_asked hasked htoken hsend).2]
    rcases hsend.traffic_facts with hnil | ⟨token, q, reply, -, hready, -⟩
    · exact hnil
    · rw [ho₀] at hready
      cases hready

end Call

/-! ## Every grant -/

namespace Client

/-- What becomes of the tokens that are granted to a client: those that fit are kept and used. -/
structure KeepsWhatFits (c : Client) (id secret endpoint : String) (scopes : List String) :
    Prop where
  /-- A token that fits is given out and remembered. -/
  kept : ∀ w o j w' g, (c.bearerToken id secret endpoint scopes).Runs w o j w' → j.grants = [g] →
    (g.tokenAt j.lastReading).Fits →
    o = some (.ok g.accessToken) ∧ w'.cache = some (g.tokenAt j.lastReading)
  /-- One that does not fit is lost: there is no result, and what was remembered stays. -/
  lost : ∀ w o j w' g, (c.bearerToken id secret endpoint scopes).Runs w o j w' → j.grants = [g] →
    ¬ (g.tokenAt j.lastReading).Fits → o = none ∧ w'.cache = w.cache
  /-- A lookup whose token fits is sent with it as soon as its request can be built. -/
  sent_iff : ∀ (call : Call) operation parts w g, call.operation? = some operation →
    call.parts? c = some parts → ((call.ask c).journal w).grants = [g] →
    (g.tokenAt ((call.ask c).journal w).lastReading).Fits →
    ∀ q, (∃ reply, ((call.ask c).journal w).lookupTraffic = [(q, reply)]) ↔
      c.requestOf parts (some g.accessToken) = .ok q
  /-- A lookup whose token does not fit has no result and is not sent. -/
  unsent : ∀ (call : Call) operation w g, call.operation? = some operation →
    ((call.ask c).journal w).grants = [g] →
    ¬ (g.tokenAt ((call.ask c).journal w).lastReading).Fits →
    ((call.ask c).run w).1 = none ∧ ((call.ask c).journal w).lookupTraffic = []
  /-- Every clock keeps the tokens whose time is not longer than the margin, and no others. -/
  always : ∀ g : TokenGrant, (∀ now < endOfTime, (g.tokenAt now).Fits) ↔
    ∀ seconds, g.expiresIn = some seconds → seconds.toNat ≤ tokenMargin
  /-- No clock keeps the tokens that are too long. -/
  never : ∀ g : TokenGrant, (∀ now, ¬ (g.tokenAt now).Fits) ↔
    ∃ seconds, g.expiresIn = some seconds ∧ TokenGrant.tooLong ≤ seconds.toNat

/-- **A token that is granted is kept and used exactly if the moment of its expiry is within the
range of the clock**, whatever the clock shows and whatever was remembered before. -/
theorem keepsWhatFits {c : Client} {id secret endpoint : String} {scopes : List String}
    (hc : c.credentials = .oauth2 id secret endpoint scopes) :
    c.KeepsWhatFits id secret endpoint scopes where
  kept _ _ _ _ _ h hg hfits := kept_of_fits hc h hg hfits
  lost _ _ _ _ _ h hg hover := lost_of_not_fits hc h hg hover
  sent_iff call operation parts w g hop hparts hg hfits q := by
    rw [Call.sent_iff hop hparts]
    simp only [Call.hasToken_iff_of_granted hop hparts hg hfits, exists_eq_left]
  unsent _ _ _ _ hop hg hover := Call.unsent_of_not_fits hop hg hover
  always := TokenGrant.always_fits_iff
  never := TokenGrant.never_fits_iff

/-- The longest time that the clock can hold from its beginning on. -/
theorem keepsWhatFits_longest :
    let c := plain "http://[::1]/scim" (.oauth2 "id" "secret" "http://[::1]/token" [])
    let grant := Utf8.ofString
      "\x7b\x22access_token\x22:\x22t\x22,\x22expires_in\x22:9223372036854775837\x7d"
    let w := { World.fresh (fun _ => true) fun _ => 0 with replies := [.answer ⟨.ok, some grant⟩] }
    let asked := (c.bearerToken "id" "secret" "http://[::1]/token" []).run w
    c.credentials = .oauth2 "id" "secret" "http://[::1]/token" [] ∧
      asked.1 = some (.ok "t") ∧
      asked.2.cache = some ⟨"t", some (9223372036854775807 * second)⟩ := by
  intro c grant w asked
  have hrun := runs_self (c.bearerToken "id" "secret" "http://[::1]/token" []) w
  have hg : ((c.bearerToken "id" "secret" "http://[::1]/token" []).journal w).grants =
      [⟨"t", some 9223372036854775837⟩] := by
    decide +kernel
  have hreading :
      ((c.bearerToken "id" "secret" "http://[::1]/token" []).journal w).lastReading = 0 := by
    decide +kernel
  have hkept := (keepsWhatFits (c := c) rfl).kept _ _ _ _ _ hrun hg
  rw [hreading] at hkept
  obtain ⟨ho, hcache⟩ := hkept ((TokenGrant.fits_tokenAt_iff rfl 0).2 (by decide))
  exact ⟨rfl, ho, hcache⟩

/-- A token is granted for one second more, and it is lost on a clock that has only just begun:
there is no result, nothing is remembered, and only the request for the token was received. -/
theorem bearerToken_of_longGrant :
    let c := plain "http://[::1]/scim" (.oauth2 "id" "secret" "http://[::1]/token" [])
    let grant := Utf8.ofString
      "\x7b\x22access_token\x22:\x22t\x22,\x22expires_in\x22:9223372036854775838\x7d"
    let user := Utf8.ofString "\x7b\x22id\x22:\x22u\x22\x7d"
    let w := { World.fresh (fun _ => true) fun _ => 0 with
      replies := [.answer ⟨.ok, some grant⟩, .answer ⟨.ok, some user⟩] }
    let asked := (c.bearerToken "id" "secret" "http://[::1]/token" []).run w
    let looked := (c.getUser "u").run w
    asked.1 = none ∧ asked.2.cache = none ∧ looked.1 = none ∧ looked.2.received.length = 1 := by
  intro c grant user w asked looked
  have hasked : asked.1.isNone = true := by decide +kernel
  have hlooked : looked.1.isNone = true := by decide +kernel
  exact ⟨Option.isNone_iff_eq_none.1 hasked, by decide +kernel,
    Option.isNone_iff_eq_none.1 hlooked, by decide +kernel⟩

end Client

end ScimLookup
