import ScimLookup.Proofs.Http.Interleaving
import ScimLookup.Proofs.Scim.Ending

/-!
# What a call does with tokens

What a call does with tokens is a protocol (`tokenRules`). Its stages say which token the call has
in hand (`Stage.Has`): a call looks at what is remembered, asks for a token if it has to, remembers
what is granted, and only then sends its lookup. A refusal of the lookup is the one stage at which it
must not stop.

A token comes into the hand of a call only by a grant of its own or from what is remembered
(`Stage.has_after`). The main result (`Call.keeps_perform`) says that every call keeps to the
protocol, whatever comes back and whatever others remember in between.
-/

set_option autoImplicit false

namespace ScimLookup

open Client

/-- The access token that comes with a step. -/
def Act.grant? : Act → Option String
  | .received r reply =>
    if r.AsksForToken then (grantIn r reply).toOption.map TokenGrant.accessToken else none
  | _ => none

/-! ## Stages -/

/-- How far a call is with its token. -/
inductive Stage where
  /-- Nothing was done yet. -/
  | fresh
  /-- It was recalled what is remembered. -/
  | told (t : Option Token)
  /-- A token was asked for. -/
  | asking
  /-- A token was granted and is not remembered yet. -/
  | granted (token : String)
  /-- The granted token is remembered. -/
  | holding (token : String)
  /-- The request of the lookup was sent. -/
  | waiting (q : Request)
  /-- The request of the lookup was refused. -/
  | refused (q : Request)
  /-- Nothing is left to do about tokens. -/
  | over

namespace Stage

/-- What a call may do at a stage. -/
def Allows : Stage → Act → Prop
  | .fresh, .recalled _ => True
  | .fresh, .remembered t => t = none
  | .fresh, .sent q => ¬ q.AsksForToken ∧ q.bearers = []
  | .told _, .looked _ => True
  | .told t, .sent q =>
    if q.AsksForToken then q.bearers = [] else ∃ u, t = some u ∧ q.bearers = [u.text]
  | .asking, .received q _ => q.AsksForToken ∧ q.bearers = []
  | .granted _, .looked _ => True
  | .granted token, .remembered t => ∃ u, t = some u ∧ u.text = token
  | .holding token, .sent q => ¬ q.AsksForToken ∧ q.bearers = [token]
  | .waiting q, .received q' _ => q' = q ∧ ¬ q.AsksForToken
  | .refused _, .remembered t => t = none
  | _, _ => False

/-- The stage after a step. -/
def after : Stage → Act → Stage
  | .fresh, .recalled t => .told t
  | .told t, .looked _ => .told t
  | .granted token, .looked _ => .granted token
  | .granted token, .remembered _ => .holding token
  | .waiting q, .received _ reply => if reply.isRefusal then .refused q else .over
  | _, .sent q => if q.AsksForToken then .asking else .waiting q
  | .asking, act => act.grant?.elim .over .granted
  | _, _ => .over

/-- A call does not stop with a refusal that it has not handled. -/
def Stops : Stage → Prop
  | .refused _ => False
  | _ => True

/-- The call has the token in hand. -/
def Has : Stage → String → Prop
  | .told t, token => ∃ u, t = some u ∧ u.text = token
  | .granted text, token => text = token
  | .holding text, token => text = token
  | .waiting q, token => token ∈ q.bearers
  | .refused q, token => token ∈ q.bearers
  | _, _ => False

end Stage

/-- What a call does with tokens, as a protocol. -/
def tokenRules : Protocol Stage where
  start := .fresh
  Allows := Stage.Allows
  after := Stage.after
  Stops := Stage.Stops

namespace Stage

variable {s : Stage} {act : Act} {token : String} {q : Request} {reply : Reply}

theorem after_sent (h : s.Allows (.sent q)) :
    s.after (.sent q) = if q.AsksForToken then .asking else .waiting q := by
  cases s with
  | fresh => rfl
  | told t => rfl
  | holding token => rfl
  | _ => exact h.elim

/-- A call sends the token that it has in hand. -/
theorem has_of_sent (h : s.Allows (.sent q)) (hmem : token ∈ q.bearers) : s.Has token := by
  cases s with
  | fresh =>
      rw [h.2] at hmem
      cases hmem
  | told t =>
      simp only [Allows] at h
      split at h
      · rw [h] at hmem
        cases hmem
      · obtain ⟨u, ht, hu⟩ := h
        rw [hu] at hmem
        exact ⟨u, ht, (List.mem_singleton.1 hmem).symm⟩
  | holding text =>
      rw [h.2] at hmem
      exact (List.mem_singleton.1 hmem).symm
  | _ => exact h.elim

/-- **A token comes into the hand of a call by a grant or from what is remembered.** -/
theorem has_after (h : s.Allows act) (hhas : (s.after act).Has token) :
    s.Has token ∨ act.grant? = some token ∨ ∃ u, act = .recalled (some u) ∧ u.text = token := by
  cases act with
  | sent q =>
      rw [after_sent h] at hhas
      split at hhas
      · exact hhas.elim
      · exact Or.inl (has_of_sent h hhas)
  | received q reply =>
      cases s with
      | asking =>
          simp only [after] at hhas
          cases hg : (Act.received q reply).grant? with
          | none =>
              rw [hg] at hhas
              exact hhas.elim
          | some text =>
              rw [hg] at hhas
              exact Or.inr (Or.inl (congrArg some hhas))
      | waiting q' =>
          simp only [after] at hhas
          split at hhas
          · exact Or.inl hhas
          · exact hhas.elim
      | _ => exact h.elim
  | looked t =>
      cases s with
      | told t => exact Or.inl hhas
      | granted text => exact Or.inl hhas
      | _ => exact h.elim
  | recalled t =>
      cases s with
      | fresh =>
          obtain ⟨u, rfl, hu⟩ := hhas
          exact Or.inr (Or.inr ⟨u, rfl, hu⟩)
      | _ => exact h.elim
  | remembered t =>
      cases s with
      | granted text => exact Or.inl hhas
      | fresh => exact hhas.elim
      | refused q => exact hhas.elim
      | _ => exact h.elim

/-- A token is granted by the step that brings it. -/
theorem granted_after (h : s.Allows act) (hafter : s.after act = .granted token) :
    s = .granted token ∨ act.grant? = some token := by
  cases act with
  | sent q =>
      rw [after_sent h] at hafter
      split at hafter
      · cases hafter
      · cases hafter
  | received q reply =>
      cases s with
      | asking =>
          simp only [after] at hafter
          cases hg : (Act.received q reply).grant? with
          | none =>
              rw [hg] at hafter
              cases hafter
          | some text =>
              rw [hg] at hafter
              cases hafter
              exact Or.inr rfl
      | waiting q' =>
          simp only [after] at hafter
          split at hafter
          · cases hafter
          · cases hafter
      | _ => exact h.elim
  | looked t =>
      cases s with
      | told t => cases hafter
      | granted text => exact Or.inl hafter
      | _ => exact h.elim
  | recalled t =>
      cases s with
      | fresh => cases hafter
      | _ => exact h.elim
  | remembered t =>
      cases s with
      | granted text => cases hafter
      | fresh => cases hafter
      | refused q => cases hafter
      | _ => exact h.elim

/-- A call remembers no token but the one that it was just granted. -/
theorem eq_granted_of_remembered {u : Token} (h : s.Allows (.remembered (some u))) :
    s = .granted u.text := by
  cases s with
  | granted text =>
      obtain ⟨u', hu', rfl⟩ := h
      cases hu'
      rfl
  | fresh => cases h
  | refused q => cases h
  | _ => exact h.elim

/-- A call that looks at what is remembered has nothing in hand. -/
theorem not_has_of_recalled {t : Option Token} (h : s.Allows (.recalled t)) : ¬ s.Has token := by
  cases s with
  | fresh => exact id
  | _ => exact h.elim

/-- A refusal of a lookup is to be handled next. -/
theorem after_refusal (h : s.Allows (.received q reply)) (hq : ¬ q.AsksForToken)
    (hreply : reply.isRefusal = true) : s.after (.received q reply) = .refused q := by
  cases s with
  | asking => exact absurd h.1 hq
  | waiting q' =>
      obtain ⟨rfl, -⟩ := h
      simp only [after, hreply, if_true]
  | _ => exact h.elim

/-- A request that carries a token asks for none. -/
theorem not_asksForToken_of_mem (h : s.Allows (.received q reply)) (hmem : token ∈ q.bearers) :
    ¬ q.AsksForToken := by
  cases s with
  | asking =>
      rw [h.2] at hmem
      cases hmem
  | waiting q' =>
      obtain ⟨rfl, hq⟩ := h
      exact hq
  | _ => exact h.elim

/-- A call whose request was refused forgets the token. -/
theorem eq_forget_of_refused (h : (Stage.refused q).Allows act) : act = .remembered none := by
  cases act with
  | remembered t => exact congrArg _ h
  | _ => exact h.elim

end Stage

/-! ## Calls keep to the protocol -/

namespace Client

open Exchange Json

/-- The token for a lookup is there: the lookup may be sent with it. -/
def Readies (c : Client) (token : Option String) (s : Stage) : Prop :=
  s.Stops ∧ ∀ q : Request, ¬ q.AsksForToken → q.bearers = c.bearersFor token →
    s.Allows (.sent q) ∧ s.after (.sent q) = .waiting q

theorem keeps_usableToken :
    usableToken.Keeps tokenRules .fresh fun res s =>
      ∃ t, s = .told t ∧ ∀ text, res = some text → ∃ u, t = some u ∧ u.text = text := by
  have htold : token.Keeps tokenRules .fresh fun t s => s = .told t :=
    keeps_token fun t => ⟨trivial, rfl⟩
  rw [usableToken]
  refine htold.bind ?_
  rintro t _ rfl
  cases t with
  | none => exact keeps_pure ⟨none, rfl, fun text htext => by cases htext⟩
  | some u =>
      cases he : u.expiry with
      | none =>
          simp only [he]
          exact keeps_pure ⟨some u, rfl, fun text htext => ⟨u, rfl, Option.some.inj htext⟩⟩
      | some e =>
          simp only [he]
          -- The clock decides whether the token can be used, not which one it is.
          have hlooked : clock.Keeps tokenRules (.told (some u)) fun _ s => s = .told (some u) :=
            keeps_clock fun t => ⟨trivial, rfl⟩
          refine hlooked.map ?_
          rintro now _ rfl
          refine ⟨some u, rfl, fun text htext => ⟨u, rfl, ?_⟩⟩
          split at htext
          · cases htext
          · exact Option.some.inj htext

/-- Asking for a token leaves a call with the token that was granted, or with none. -/
theorem keeps_sendGrantRequest {q : Except TransportFault Request} {t : Option Token}
    (hq : ∀ r, q = .ok r → r.AsksForToken ∧ r.bearers = []) :
    (sendGrantRequest q).Keeps tokenRules (.told t) fun res s =>
      s.Stops ∧ ∀ g, res = .ok g → s = .granted g.accessToken := by
  cases q with
  | error fault => exact keeps_pure ⟨trivial, fun g hg => by cases hg⟩
  | ok r =>
      obtain ⟨hasks, hnone⟩ := hq r rfl
      have hallows : (Stage.told t).Allows (.sent r) := by
        simp only [Stage.Allows, if_pos hasks]
        exact hnone
      have hafter : tokenRules.after (.told t) (.sent r) = .asking := by
        exact (Stage.after_sent hallows).trans (if_pos hasks)
      have hsent : (request r).Keeps tokenRules (.told t) fun reply s =>
          s = Stage.asking.after (.received r reply) := by
        refine keeps_request hallows fun reply => ?_
        rw [hafter]
        exact ⟨⟨hasks, hnone⟩, rfl⟩
      refine hsent.map ?_
      rintro reply _ rfl
      -- The stage follows the grant in what came back.
      cases hg : grantIn r reply with
      | error fault =>
          have hgrant : (Act.received r reply).grant? = none := by
            simp [Act.grant?, hasks, hg, Except.toOption]
          simp only [Stage.after, hgrant]
          exact ⟨trivial, fun g hok => by cases hok⟩
      | ok g =>
          have hgrant : (Act.received r reply).grant? = some g.accessToken := by
            simp [Act.grant?, hasks, hg, Except.toOption]
          simp only [Stage.after, hgrant]
          exact ⟨trivial, fun g' hok => by cases hok; rfl⟩

/-- What is granted is remembered before it is sent. -/
theorem keeps_keepGrant (g : TokenGrant) :
    (keepGrant g).Keeps tokenRules (.granted g.accessToken) fun text s => s = .holding text := by
  have hset : ∀ expiry, (setToken (some ⟨g.accessToken, expiry⟩)).Keeps tokenRules
      (.granted g.accessToken) fun _ s => s = .holding g.accessToken :=
    fun expiry => keeps_setToken ⟨_, rfl, rfl⟩ rfl
  rw [keepGrant]
  cases g.expiresIn with
  | none => exact (hset none).map fun _ _ h => h
  | some seconds =>
      have hlooked : clock.Keeps tokenRules (.granted g.accessToken) fun _ s =>
          s = .granted g.accessToken := keeps_clock fun t => ⟨trivial, rfl⟩
      refine hlooked.bind ?_
      rintro now _ rfl
      simp only
      split
      · exact (hset _).map fun _ _ h => h
      · exact trivial

theorem bearersFor_of_oauth2 {c : Client} {id secret endpoint : String} {scopes : List String}
    (hc : c.credentials = .oauth2 id secret endpoint scopes) (token : Option String) :
    c.bearersFor token = token.toList := by
  rw [bearersFor, hc]

theorem bearersFor_none (c : Client) : c.bearersFor none = [] := by
  rw [bearersFor]
  split
  · rfl
  · rfl

theorem Readies.of_told {c : Client} {id secret endpoint : String} {scopes : List String}
    (hc : c.credentials = .oauth2 id secret endpoint scopes) (u : Token) :
    c.Readies (some u.text) (.told (some u)) := by
  refine ⟨trivial, fun q hq hbearers => ?_⟩
  rw [bearersFor_of_oauth2 hc] at hbearers
  have hallows : (Stage.told (some u)).Allows (.sent q) := by
    simp only [Stage.Allows, if_neg hq]
    exact ⟨u, rfl, hbearers⟩
  exact ⟨hallows, by rw [Stage.after_sent hallows, if_neg hq]⟩

theorem Readies.of_holding {c : Client} {id secret endpoint : String} {scopes : List String}
    (hc : c.credentials = .oauth2 id secret endpoint scopes) (token : String) :
    c.Readies (some token) (.holding token) := by
  refine ⟨trivial, fun q hq hbearers => ?_⟩
  rw [bearersFor_of_oauth2 hc] at hbearers
  have hallows : (Stage.holding token).Allows (.sent q) := ⟨hq, hbearers⟩
  exact ⟨hallows, by rw [Stage.after_sent hallows, if_neg hq]⟩

theorem Readies.of_fresh (c : Client) : c.Readies none .fresh := by
  refine ⟨trivial, fun q hq hbearers => ?_⟩
  rw [bearersFor_none] at hbearers
  have hallows : Stage.fresh.Allows (.sent q) := ⟨hq, hbearers⟩
  exact ⟨hallows, by rw [Stage.after_sent hallows, if_neg hq]⟩

/-- **A call comes by its token from what is remembered or by a grant of its own.** -/
theorem keeps_tokenFor (c : Client) :
    c.tokenFor.Keeps tokenRules .fresh fun res s =>
      s.Stops ∧ ∀ token, res = .ok token → c.Readies token s := by
  rw [tokenFor]
  cases hc : c.credentials with
  | basic id secret =>
      exact keeps_pure ⟨trivial, fun token htoken => by cases htoken; exact .of_fresh c⟩
  | mtls id certificate =>
      exact keeps_pure ⟨trivial, fun token htoken => by cases htoken; exact .of_fresh c⟩
  | oauth2 id secret endpoint scopes =>
      obtain ⟨q, hq, hgrant⟩ := requestGrant_eq hc
      simp only [bearerToken, hgrant]
      refine Keeps.map
        (Q := fun res s => s.Stops ∧ ∀ text, res = .ok text → c.Readies (some text) s)
        (keeps_usableToken.bind ?_) ?_
      · rintro res _ ⟨t, rfl, htext⟩
        cases res with
        | some text =>
            obtain ⟨u, rfl, rfl⟩ := htext text rfl
            exact keeps_pure ⟨trivial, fun text h => by cases h; exact .of_told hc u⟩
        | none =>
            -- Nothing that is remembered can be used, so a token is asked for.
            have hasks : ∀ r, q = .ok r → r.AsksForToken ∧ r.bearers = [] := by
              rintro r rfl
              exact ⟨asksForToken_grantRequest hq, bearers_grantRequest hq⟩
            refine (keeps_sendGrantRequest hasks).bind ?_
            rintro (fault | g) s ⟨hstops, hgranted⟩
            · exact keeps_pure ⟨hstops, fun text h => by cases h⟩
            · rw [hgranted g rfl]
              refine (keeps_keepGrant g).map ?_
              rintro text _ rfl
              exact ⟨trivial, fun text' h => by cases h; exact .of_holding hc text⟩
      · rintro (fault | text) s ⟨hstops, hready⟩
        · exact ⟨hstops, fun token h => by cases h⟩
        · exact ⟨hstops, fun token h => by cases h; exact hready text rfl⟩

/-- A lookup whose token is there is sent with it. -/
theorem Readies.keeps_request {c : Client} {token : Option String} {s : Stage}
    (h : c.Readies token s) {q : Request} (hq : ¬ q.AsksForToken)
    (hbearers : q.bearers = c.bearersFor token) :
    (request q).Keeps tokenRules s fun reply s' =>
      s' = if reply.isRefusal then .refused q else .over := by
  obtain ⟨hallows, hafter⟩ := h.2 q hq hbearers
  have hwaiting : tokenRules.after s (.sent q) = .waiting q := hafter
  refine Exchange.keeps_request hallows fun reply => ?_
  rw [hwaiting]
  exact ⟨⟨rfl, hq⟩, rfl⟩

/-- The status of an answer is looked at, and a refusal is handled. -/
theorem keeps_observe (q : Request) (a : Answer) :
    (observe a.status).Keeps tokenRules
      (if (Reply.answer a).isRefusal then .refused q else .over) fun _ s => s.Stops := by
  rw [observe]
  by_cases hstatus : a.status = Status.unauthorized
  · have hrefusal : (Reply.answer a).isRefusal = true := decide_eq_true hstatus
    rw [if_pos hstatus, if_pos hrefusal]
    exact keeps_setToken rfl trivial
  · have hrefusal : ¬ (Reply.answer a).isRefusal = true := by
      simpa [Reply.isRefusal] using hstatus
    rw [if_neg hstatus, if_neg hrefusal]
    exact keeps_pure trivial

/-- A lookup keeps to the protocol if it cannot be taken for a request for a token. -/
theorem keeps_exchange {α : Type} {c : Client} (htidy : IsTidy c.headers) {r : Reader α}
    {method : Method} {address body : String}
    (hlookup : ∀ token q, c.lookupRequest method address body token = .ok q → ¬ q.AsksForToken) :
    (c.exchange r method address body).Keeps tokenRules .fresh fun _ s => s.Stops := by
  rw [exchange]
  refine (keeps_tokenFor c).bind ?_
  rintro (fault | token) s ⟨hstops, hready⟩
  · exact hstops
  · cases hd : c.lookupDraft method address token with
    | error fault =>
        simp only [hd]
        exact hstops
    | ok d =>
        simp only [hd, dispatch_eq]
        have hrequest : c.lookupRequest method address body token = c.finished method d body :=
          lookupRequest_eq hd
        cases hq : c.finished method d body with
        | error fault => exact hstops
        | ok q =>
            rw [hq] at hrequest
            have hsent := (hready token rfl).keeps_request (hlookup token q hrequest)
              (bearers_lookupRequest htidy hrequest)
            have hfinished : (sendFinished (.ok q)).Keeps tokenRules s fun res s' =>
                ∃ reply : Reply, res = reply.outcome q ∧
                  s' = if reply.isRefusal then .refused q else .over :=
              hsent.map fun reply _ h => ⟨reply, rfl, h⟩
            refine hfinished.bind ?_
            rintro _ _ ⟨reply, rfl, rfl⟩
            -- Only an answer has a status, and only an answer is a refusal.
            cases reply with
            | lost => exact keeps_pure trivial
            | late => exact keeps_pure trivial
            | answer a => exact (keeps_observe q a).map fun _ _ h => h

end Client

namespace Call

open Exchange

/-- **Every call keeps to the protocol.** -/
theorem keeps_perform {c : Client} (htidy : IsTidy c.headers) (call : Call) :
    (call.perform c).Keeps tokenRules .fresh fun _ s => s.Stops := by
  -- All lookups but searches without a filter are one request.
  have hexchange : ∀ {α : Type} {r : Json.Reader α} {method : Method} {address body : String},
      call.parts? c = some (method, address, body) →
      (c.exchange r method address body).Keeps tokenRules .fresh fun _ s => s.Stops :=
    fun hparts => keeps_exchange htidy fun token q hq => not_asksForToken hparts hq
  have hlist : ∀ {α : Type} {operation : Operation} {r : Json.Reader α} {collection : Collection}
      {method : ListMethod} {filter : Filter} {page : Page},
      call.parts? c = listParts? c collection method filter page →
      (c.list operation r collection method filter page).Keeps tokenRules .fresh
        fun _ s => s.Stops := by
    intro α operation r collection method filter page hparts
    rw [list_eq, ← hparts]
    cases hp : call.parts? c with
    | none => exact keeps_pure trivial
    | some parts => exact (hexchange hp).map fun _ _ h => h
  cases call with
  | getUser id => exact ((hexchange rfl).map fun _ _ h => h).map fun _ _ h => h
  | getGroup id => exact ((hexchange rfl).map fun _ _ h => h).map fun _ _ h => h
  | listUsers method filter page => exact (hlist rfl).map fun _ _ h => h
  | listGroups method filter page => exact (hlist rfl).map fun _ _ h => h
  | forget => exact ⟨rfl, trivial⟩

end Call

end ScimLookup
