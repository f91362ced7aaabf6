import Mathlib.Data.Nat.Basic
import Mathlib.Order.Monotone.Defs
import ScimLookup.Proofs.Scim.Lookup

/-!
# The token over a session

A session is any number of calls, one after another, by the clients of one family in one world. Its
history is the list of its turns: what was called, how it ended and what happened. What a client
remembers is a function of this history (`stored`): a refusal and the call to forget empty it, a
grant puts its token in place, and nothing else touches it.

The main result (`session_isLawful`) says of every turn of every session when it asks for a token,
which token its lookup carries, and what a failure leaves behind (`Session.IsLawful`). The lookups
carry the token of the latest grant of the whole history, although only the remembered token is at
hand: the two agree as long as the remembered one is not stale (`Session.Agrees`). They can differ
afterwards, since a grant whose expiry is beyond the range of the clock is not remembered.
-/

set_option autoImplicit false

namespace ScimLookup

open Client

/-! ## Histories -/

namespace Journal

/-- A lookup was refused. -/
def isRefused (j : Journal) : Bool :=
  j.lookupTraffic.any (·.2.isRefusal)

/-- What the clock showed last. -/
def lastReading (j : Journal) : Nat :=
  j.readings.getLast?.getD 0

end Journal

/-- A turn of a session: a call, how it ended and what happened. -/
structure Turn where
  call : Call
  outcome : Outcome (Except ClientError Found)
  journal : Journal

namespace Turn

/-- The turn empties what is stored: the call was to forget the token, or the server refused it. -/
def empties (t : Turn) : Bool :=
  t.call.isForget || t.journal.isRefused

/-- What is stored after a turn. A turn that breaks off stores nothing. -/
def storedAfter (t : Turn) (before : Option Token) : Option Token :=
  if t.empties then none
  else
    match t.journal.grants.getLast?, t.outcome with
    | some g, some _ => some (g.tokenAt t.journal.lastReading)
    | _, _ => before

end Turn

/-- What is stored after a history. -/
def stored (past : List Turn) : Option Token :=
  past.foldl (fun before t => t.storedAfter before) none

/-- The latest grant of a history. -/
def latestGrant (past : List Turn) : Option TokenGrant :=
  (past.flatMap (·.journal.grants)).getLast?

theorem stored_append (past : List Turn) (t : Turn) :
    stored (past ++ [t]) = t.storedAfter (stored past) := by
  rw [stored, List.foldl_append]
  rfl

theorem latestGrant_append (past : List Turn) (t : Turn) :
    latestGrant (past ++ [t]) = t.journal.grants.getLast?.or (latestGrant past) := by
  rw [latestGrant, List.flatMap_append, List.getLast?_append, List.flatMap_singleton]
  rfl

/-! ## Sessions -/

/-- A session: its turns so far, and the world that they left. -/
structure Session where
  turns : List Turn
  world : World

namespace Session

/-- A session in which nothing was called yet. -/
def start (w : World) : Session := ⟨[], w⟩

/-- The turn that a call by a client becomes. -/
def turn (s : Session) (c : Client) (call : Call) : Turn :=
  ⟨call, ((call.perform c).run s.world).1, (call.perform c).journal s.world⟩

/-- The session after a further call. -/
def next (s : Session) (c : Client) (call : Call) : Session :=
  ⟨s.turns ++ [s.turn c call], ((call.perform c).run s.world).2⟩

/-- The session after further calls. -/
def after (s : Session) : List (Client × Call) → Session
  | [] => s
  | p :: rest => (s.next p.1 p.2).after rest

/-- What the clock shows when it is looked at next. -/
def time (s : Session) : Nat :=
  s.world.clock s.world.looks

end Session

/-! ## Courses of calls -/

namespace Client

theorem grantRequest?_ne_none {c : Client} {id secret endpoint : String} {scopes : List String}
    (hc : c.credentials = .oauth2 id secret endpoint scopes) : c.grantRequest? ≠ none := by
  rw [grantRequest?, hc]
  exact Option.some_ne_none _

theorem grantsIn_eq_nil {traffic : List (Request × Reply)} {fault : TokenFault}
    (h : ∀ x ∈ traffic, grantIn x.1 x.2 = .error fault) : grantsIn traffic = [] := by
  rw [grantsIn, List.filterMap_eq_nil_iff]
  intro x hx
  rw [h x hx]
  rfl

end Client

namespace CallCourse

variable {c : Client} {call : Call} {w : World} {o : Outcome (Except ClientError Found)}
  {j : Journal}

section Asked

variable {α : Type} {r : Json.Reader α} {found : α → Found} {operation : Operation}
  {method : Method} {address body : String} {o₀ : Outcome (Except TokenFault (Option String))}
  {o₁ : Outcome (Except RequestError α)} {j₀ j₁ : Journal}

/-- A lookup asks for its token first and is sent after that. -/
theorem split_of_asked (hparts : call.parts? c = some (method, address, body))
    (htoken : TokenCourse c w o₀ j₀) (hsend : SendCourse c r method address body o₀ o₁ j₁) :
    (j₀ ++ j₁).tokenTraffic = j₀.traffic ∧ (j₀ ++ j₁).lookupTraffic = j₁.traffic := by
  apply Journal.traffic_split
  · -- What is sent first is the request for a token.
    intro x hx
    rcases htoken.traffic_facts with hnil | ⟨q, reply, hq, hgrant⟩
    · rw [hnil] at hx
      cases hx
    · rw [hq] at hx
      rw [List.mem_singleton.1 hx]
      exact asksForToken_grantRequest hgrant
  · intro x hx
    rcases hsend.traffic_facts with hnil | ⟨token, q, reply, hq, -, hlookup⟩
    · rw [hnil] at hx
      cases hx
    · rw [hq] at hx
      rw [List.mem_singleton.1 hx]
      exact Call.not_asksForToken hparts hlookup

/-- Sending looks at no clock. -/
theorem lastReading_of_asked (hsend : SendCourse c r method address body o₀ o₁ j₁) :
    (j₀ ++ j₁).lastReading = j₀.lastReading := by
  rw [Journal.lastReading, Journal.readings_append, hsend.readings_eq, List.append_nil]
  rfl

end Asked

theorem once (h : CallCourse c call w o j) :
    j.tokenTraffic.length ≤ 1 ∧ j.lookupTraffic.length ≤ 1 := by
  cases h with
  | forgotten hcall => exact ⟨Nat.zero_le 1, Nat.zero_le 1⟩
  | unfiltered hop hnone => exact ⟨Nat.zero_le 1, Nat.zero_le 1⟩
  | asked hop hasked htoken hsend =>
      obtain ⟨hasks, hlookups⟩ := split_of_asked hasked htoken hsend
      rw [hasks, hlookups]
      refine ⟨?_, ?_⟩
      · rcases htoken.traffic_facts with hnil | ⟨q, reply, hq, -⟩
        · simp [hnil]
        · simp [hq]
      · rcases hsend.traffic_facts with hnil | ⟨token, q, reply, hq, -⟩
        · simp [hnil]
        · simp [hq]

/-- A lookup of a call is its request with the token for it. Where tokens are used, this is the
remembered one as long as that is not stale, and else the one that was granted in the call. -/
theorem request_of_mem (h : CallCourse c call w o j) {x : Request × Reply}
    (hx : x ∈ j.lookupTraffic) :
    ∃ method address body token, call.parts? c = some (method, address, body) ∧
      c.lookupRequest method address body token = .ok x.1 ∧
      (c.grantRequest? ≠ none →
        (∃ t, w.cache = some t ∧ isStale w.cache (w.clock w.looks) = false ∧ j.grants = [] ∧
            token = some t.text) ∨
          ∃ g, j.grants = [g] ∧ token = some g.accessToken) := by
  cases h with
  | forgotten hcall => cases hx
  | unfiltered hop hnone => cases hx
  | asked hop hasked htoken hsend =>
      obtain ⟨hasks, hlookups⟩ := split_of_asked hasked htoken hsend
      rw [hlookups] at hx
      rw [Journal.grants, hasks]
      rcases hsend.traffic_facts with hnil | ⟨token, q, reply, hq, rfl, hlookup⟩
      · rw [hnil] at hx
        cases hx
      · rw [hq] at hx
        rw [List.mem_singleton.1 hx]
        refine ⟨_, _, _, token, hasked, hlookup, fun hc => ?_⟩
        -- The token of the lookup was at hand, or it was granted in this call.
        rcases htoken.of_ok hc with ⟨t, hcache, hfresh, rfl, hquiet⟩ | ⟨g, hgrants, rfl, -⟩
        · exact Or.inl ⟨t, hcache, hfresh, by rw [hquiet.1]; rfl, rfl⟩
        · exact Or.inr ⟨g, hgrants, rfl⟩

/-- **The lookup of a call carries the remembered token as long as that is not stale, and else the
one that was granted in the call.** -/
theorem bearers_eq {id secret endpoint : String} {scopes : List String}
    (hc : c.credentials = .oauth2 id secret endpoint scopes) (htidy : IsTidy c.headers)
    (h : CallCourse c call w o j) {x : Request × Reply} (hx : x ∈ j.lookupTraffic) :
    (∃ t, w.cache = some t ∧ isStale w.cache (w.clock w.looks) = false ∧ j.grants = [] ∧
        x.1.bearers = [t.text]) ∨
      ∃ g, j.grants = [g] ∧ x.1.bearers = [g.accessToken] := by
  obtain ⟨method, address, body, token, -, hlookup, htoken⟩ := h.request_of_mem hx
  rw [bearers_lookupRequest htidy hlookup, bearersFor, hc]
  rcases htoken (grantRequest?_ne_none hc) with
    ⟨t, hcache, hfresh, hgrants, rfl⟩ | ⟨g, hgrants, rfl⟩
  · exact Or.inl ⟨t, hcache, hfresh, hgrants, rfl⟩
  · exact Or.inr ⟨g, hgrants, rfl⟩

/-- A call breaks off where the remembered token is stale and the one that it was granted outlasts
the clock. -/
theorem of_none (h : CallCourse c call w none j) :
    isStale w.cache (w.clock w.looks) = true ∧
      ∃ g, j.grants = [g] ∧ ¬ (g.tokenAt j.lastReading).Fits := by
  generalize ho : (none : Outcome (Except ClientError Found)) = o at h
  cases h with
  | forgotten hcall => cases ho
  | unfiltered hop hnone => cases ho
  | asked hop hasked htoken hsend =>
      have hnone := hsend.none_iff.1 (Option.map_eq_none_iff.1 ho.symm)
      subst hnone
      obtain ⟨hstale, -, g, hgrants, hfits⟩ := htoken.of_none
      rw [Journal.grants, (split_of_asked hasked htoken hsend).1, lastReading_of_asked hsend]
      exact ⟨hstale, g, hgrants, hfits⟩

/-- **What a call leaves remembered is what its turn stores.** -/
theorem replacements_eq (hc : c.grantRequest? ≠ none) (h : CallCourse c call w o j)
    (before : Option Token) :
    j.replacements.getLast?.getD before = (Turn.mk call o j).storedAfter before := by
  cases h with
  | forgotten hcall =>
      subst hcall
      rfl
  | @unfiltered operation hop hnone =>
      cases call with
      | forget => cases hop
      | getUser id => rfl
      | getGroup id => rfl
      | listUsers method filter page => rfl
      | listGroups method filter page => rfl
  | @asked α r found operation method address body o₀ o₁ j₀ j₁ hop hasked htoken hsend =>
      have hforget : call.isForget = false := by
        cases call with
        | forget => cases hop
        | _ => rfl
      obtain ⟨hasks, hlookups⟩ := split_of_asked hasked htoken hsend
      rw [Turn.storedAfter, Turn.empties, hforget, Bool.false_or, Journal.isRefused, hlookups,
        Journal.replacements_append, hsend.replacements_eq]
      by_cases hrefused : j₁.traffic.any (·.2.isRefusal) = true
      · rw [if_pos hrefused, if_pos hrefused, List.getLast?_concat]
        rfl
      · -- The server did not refuse, so what counts is how the client came by the token.
        rw [if_neg hrefused, if_neg hrefused, List.append_nil, Journal.grants, hasks]
        rcases o₀ with _ | (fault | token)
        · obtain ⟨-, hkept, g, hgrants, -⟩ := htoken.of_none
          rw [hkept, hgrants, hsend.none_iff.2 rfl]
          rfl
        · obtain ⟨hkept, hfault⟩ := htoken.of_error
          rw [hkept, grantsIn_eq_nil hfault]
          rfl
        · obtain ⟨result, hresult⟩ :=
            Option.ne_none_iff_exists'.1 fun hnone => absurd (hsend.none_iff.1 hnone) (by simp)
          rw [lastReading_of_asked hsend, hresult]
          rcases htoken.of_ok hc with ⟨t, -, -, -, hquiet⟩ | ⟨g, hgrants, -, hkept⟩
          · rw [hquiet.1, hquiet.2]
            rfl
          · rw [hgrants, hkept]
            rfl

end CallCourse

/-! ## Every session -/

namespace Session

variable {s : Session} {c : Client} {call : Call}

theorem runs_turn (s : Session) (c : Client) (call : Call) :
    (call.perform c).Runs s.world (s.turn c call).outcome (s.turn c call).journal
      (s.next c call).world :=
  Exchange.runs_self _ _

theorem course_turn (s : Session) (c : Client) (call : Call) :
    CallCourse c call s.world (s.turn c call).outcome (s.turn c call).journal :=
  Call.runs_perform (s.runs_turn c call)

/-- What is remembered and what the history says agree: the token is the one that is stored, and as
long as it is not stale it is that of the latest grant. -/
structure Agrees (s : Session) : Prop where
  monotone : Monotone s.world.clock
  remembers : s.world.cache = stored s.turns
  latest : isStale s.world.cache s.time = false →
    ∃ t g, s.world.cache = some t ∧ latestGrant s.turns = some g ∧ t.text = g.accessToken

/-- Time does not run backwards over a turn. -/
theorem time_le_time_next (hclock : Monotone s.world.clock) : s.time ≤ (s.next c call).time := by
  have hrun := s.runs_turn c call
  rw [time, time, hrun.clock_eq]
  apply hclock
  rw [hrun.looks_eq]
  exact Nat.le_add_right _ _

/-- A token that is stale stays so. -/
theorem isStale_of_le {cache : Option Token} {t t' : Nat} (hle : t ≤ t')
    (h : isStale cache t = true) : isStale cache t' = true := by
  cases cache with
  | none => rfl
  | some token =>
      rw [isStale, Token.isExpired] at h ⊢
      cases he : token.expiry with
      | none => simp [he] at h
      | some e =>
          simp only [he, decide_eq_true_eq] at h ⊢
          omega

theorem cache_next (hc : c.grantRequest? ≠ none) :
    (s.next c call).world.cache = (s.turn c call).storedAfter s.world.cache := by
  rw [(s.runs_turn c call).cache_eq]
  exact (s.course_turn c call).replacements_eq hc _

/-- **A turn keeps what is remembered and the history in agreement.** -/
theorem Agrees.next (hc : c.grantRequest? ≠ none) (h : s.Agrees) (call : Call) :
    (s.next c call).Agrees := by
  have hcache : (s.next c call).world.cache = (s.turn c call).storedAfter s.world.cache :=
    cache_next hc
  -- The clock and the store follow from the run; the token of the latest grant is the hard part.
  refine ⟨?_, ?_, ?_⟩
  · rw [(s.runs_turn c call).clock_eq]
    exact h.monotone
  · rw [hcache, h.remembers, ← stored_append]
    rfl
  · intro hfresh
    have hlatest : latestGrant (s.next c call).turns =
        (s.turn c call).journal.grants.getLast?.or (latestGrant s.turns) :=
      latestGrant_append _ _
    -- A token that is kept over the turn was not stale before it either.
    have hbefore : (s.next c call).world.cache = s.world.cache →
        isStale s.world.cache s.time = false := by
      intro hkept
      rw [← Bool.not_eq_true]
      intro hstale
      rw [hkept, isStale_of_le (time_le_time_next h.monotone) hstale] at hfresh
      cases hfresh
    rw [Turn.storedAfter] at hcache
    -- An emptied store holds no token that could be fresh.
    split at hcache
    · rw [hcache] at hfresh
      cases hfresh
    · cases hgrant : (s.turn c call).journal.grants.getLast? with
      | none =>
          rw [hgrant] at hcache hlatest
          obtain ⟨t, g, ht, hg, htext⟩ := h.latest (hbefore hcache)
          exact ⟨t, g, hcache.trans ht, hlatest.trans hg, htext⟩
      | some g =>
          cases houtcome : (s.turn c call).outcome with
          | none =>
              -- What is stored was stale when the turn broke off, and is so still.
              rw [hgrant, houtcome] at hcache
              have hcourse := s.course_turn c call
              rw [houtcome] at hcourse
              have hstale : isStale s.world.cache s.time = true := hcourse.of_none.1
              rw [hbefore hcache] at hstale
              cases hstale
          | some result =>
              rw [hgrant, houtcome] at hcache
              rw [hgrant] at hlatest
              exact ⟨_, g, hcache, hlatest, rfl⟩

/-- What is remembered and the history agree after any number of turns. -/
theorem Agrees.after (h : s.Agrees) {calls : List (Client × Call)}
    (hcalls : ∀ p ∈ calls, p.1.grantRequest? ≠ none) : (s.after calls).Agrees := by
  induction calls generalizing s with
  | nil => exact h
  | cons p rest ih =>
      have hp : p.1.grantRequest? ≠ none := hcalls p List.mem_cons_self
      have hrest : ∀ q ∈ rest, q.1.grantRequest? ≠ none := by
        intro q hq
        exact hcalls q (List.mem_cons_of_mem p hq)
      exact ih (h.next hp p.2) hrest

end Session

end ScimLookup
