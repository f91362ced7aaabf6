import Mathlib.Data.List.Forall2
import ScimLookup.Proofs.Scim.Bearer

/-!
# Runs that look alike

Two requests look alike if they differ at most in a header that authorizes without an access token
(`Request.Alike`): all else about them is the same, the access tokens included. Two exchanges are
alike if they take the same steps, whatever comes back, with requests that look alike
(`Exchange.Alike`). This is kept by going on with a result (`Exchange.Alike.bind`).

The main result (`Exchange.Alike.runs`) says that exchanges that are alike end alike: in worlds that
differ at most in what they received, they have the same result, and their journals and the worlds
that they leave look alike.
-/

set_option autoImplicit false

namespace ScimLookup

/-! ## Requests -/

namespace Header

/-- The headers have the same names in the same order, the same values except those that authorize,
and the same access tokens. -/
structure Alike (hs hs' : Headers) : Prop where
  names_eq : hs.map Prod.fst = hs'.map Prod.fst
  others_eq : remove "authorization" hs = remove "authorization" hs'
  bearers_eq : (values "authorization" hs).filterMap Request.bearer? =
    (values "authorization" hs').filterMap Request.bearer?

namespace Alike

variable {hs hs' ks ks' : Headers}

theorem refl (hs : Headers) : Alike hs hs :=
  ⟨rfl, rfl, rfl⟩

theorem append (hhs : Alike hs hs') (hks : Alike ks ks') : Alike (hs ++ ks) (hs' ++ ks') := by
  refine ⟨?_, ?_, ?_⟩
  · rw [List.map_append, List.map_append, hhs.names_eq, hks.names_eq]
  · rw [remove, List.filter_append, remove, List.filter_append]
    exact congrArg₂ _ hhs.others_eq hks.others_eq
  · rw [values_append, values_append, List.filterMap_append, List.filterMap_append, hhs.bearers_eq,
      hks.bearers_eq]

/-- Names and passwords authorize without an access token. -/
theorem basicAuthorization (name password password' : String) :
    Alike [("authorization", ScimLookup.basicAuthorization name password)]
      [("authorization", ScimLookup.basicAuthorization name password')] := by
  have hremove : ∀ value, remove "authorization" [("authorization", value)] = [] := by
    intro value
    rfl
  refine ⟨?_, ?_, ?_⟩
  · rw [List.map_singleton, List.map_singleton]
  · rw [hremove, hremove]
  · simp [values, Request.bearer?_basicAuthorization]

/-- A default depends on the names only. -/
theorem defaultHeader (name value : String) (h : Alike hs hs') :
    Alike (Client.defaultHeader name value hs) (Client.defaultHeader name value hs') := by
  have hany : ∀ ks : Headers, ks.any (·.1 == name) = (ks.map Prod.fst).any (· == name) := by
    intro ks
    rw [List.any_map]
    rfl
  rw [Client.defaultHeader, Client.defaultHeader, hany, hany, h.names_eq]
  split
  · exact h
  · exact h.append (refl _)

end Alike

end Header

/-- The requests differ at most in a header that authorizes without an access token. -/
structure Request.Alike (r r' : Request) : Prop where
  method_eq : r.method = r'.method
  url_eq : r.url = r'.url
  headers : Header.Alike r.headers r'.headers
  body_eq : r.body = r'.body

theorem Request.Alike.refl (r : Request) : r.Alike r :=
  ⟨rfl, rfl, .refl _, rfl⟩

/-! ## Journals -/

/-- The same happened, but for requests that only look alike. -/
inductive Event.Alike : Event → Event → Prop
  | same (e : Event) : Alike e e
  | sent {r r' : Request} (reply : Reply) : r.Alike r' → Alike (.sent r reply) (.sent r' reply)

/-- What happened looks alike, event by event. -/
abbrev Journal.Alike (j j' : Journal) : Prop :=
  List.Forall₂ Event.Alike j j'

/-! ## Worlds -/

/-- The worlds differ at most in what they received, and that looks alike. -/
structure World.Alike (w w' : World) : Prop where
  reaches_eq : w.reaches = w'.reaches
  replies_eq : w.replies = w'.replies
  clock_eq : w.clock = w'.clock
  looks_eq : w.looks = w'.looks
  cache_eq : w.cache = w'.cache
  received : List.Forall₂ Request.Alike w.received w'.received

namespace World.Alike

variable {w w' : World} {r r' : Request}

theorem refl (w : World) : w.Alike w :=
  ⟨rfl, rfl, rfl, rfl, rfl, List.forall₂_same.2 fun r _ => .refl r⟩

theorem look (h : w.Alike w') :
    ({ w with looks := w.looks + 1 } : World).Alike { w' with looks := w'.looks + 1 } :=
  { h with looks_eq := congrArg (· + 1) h.looks_eq }

theorem remember (h : w.Alike w') (t : Option Token) :
    ({ w with cache := t } : World).Alike { w' with cache := t } :=
  { h with cache_eq := rfl }

/-- The same reply is ready for requests that look alike. -/
theorem deliver (h : w.Alike w') (hr : r.Alike r') :
    (w.deliver r).1 = (w'.deliver r').1 ∧ (w.deliver r).2.Alike (w'.deliver r').2 := by
  have hreceived : List.Forall₂ Request.Alike (w.received ++ [r]) (w'.received ++ [r']) :=
    List.rel_append h.received (.cons hr .nil)
  rw [World.deliver, World.deliver, ← h.reaches_eq, ← hr.url_eq, ← h.replies_eq]
  split
  · split
    · exact ⟨rfl, { h with reaches_eq := rfl, replies_eq := rfl, received := hreceived }⟩
    · exact ⟨rfl, { h with reaches_eq := rfl, replies_eq := rfl, received := hreceived }⟩
  · exact ⟨rfl, h⟩

end World.Alike

/-! ## Exchanges -/

namespace Exchange

variable {α β : Type}

/-- The exchanges take the same steps, whatever comes back, and their requests look alike. -/
inductive Alike : Exchange α → Exchange α → Prop
  | done (a : α) : Alike (.done a) (.done a)
  | brokenOff : Alike .brokenOff .brokenOff
  | send {r r' : Request} {next next' : Reply → Exchange α} :
      r.Alike r' → (∀ reply, Alike (next reply) (next' reply)) → Alike (.send r next) (.send r' next')
  | now {next next' : Nat → Exchange α} :
      (∀ t, Alike (next t) (next' t)) → Alike (.now next) (.now next')
  | memory {next next' : Option Token → Exchange α} :
      (∀ t, Alike (next t) (next' t)) → Alike (.memory next) (.memory next')
  | remember {next next' : Exchange α} (t : Option Token) :
      Alike next next' → Alike (.remember t next) (.remember t next')

namespace Alike

variable {e e' : Exchange α} {f f' : α → Exchange β}

theorem refl (e : Exchange α) : e.Alike e := by
  induction e with
  | done a => exact .done a
  | brokenOff => exact .brokenOff
  | send r next ih => exact .send (.refl r) ih
  | now next ih => exact .now ih
  | memory next ih => exact .memory ih
  | remember t next ih => exact .remember t ih

/-- Going on alike with the result of exchanges that are alike. -/
theorem bind (h : e.Alike e') (hf : ∀ a, (f a).Alike (f' a)) : (e >>= f).Alike (e' >>= f') := by
  show (e.bind f).Alike (e'.bind f')
  induction h with
  | done a => exact hf a
  | brokenOff => exact .brokenOff
  | send hr _ ih => exact .send hr ih
  | now _ ih => exact .now ih
  | memory _ ih => exact .memory ih
  | remember t _ ih => exact .remember t ih

/-- Going on in the same way with the result of exchanges that are alike. -/
theorem bind_right (h : e.Alike e') (f : α → Exchange β) : (e >>= f).Alike (e' >>= f) :=
  h.bind fun a => refl (f a)

/-- **Exchanges that are alike end alike.** -/
theorem runs (h : e.Alike e') {w w' u u' : World} {o o' : Outcome α} {j j' : Journal}
    (hw : w.Alike w') (hrun : e.Runs w o j u) (hrun' : e'.Runs w' o' j' u') :
    o = o' ∧ j.Alike j' ∧ u.Alike u' := by
  -- Both take their first step, the same comes back, and the worlds stay alike.
  induction h generalizing w w' j j' with
  | done a =>
      obtain ⟨rfl, rfl, rfl⟩ := runs_done_iff.1 hrun
      obtain ⟨rfl, rfl, rfl⟩ := runs_done_iff.1 hrun'
      exact ⟨rfl, .nil, hw⟩
  | brokenOff =>
      obtain ⟨rfl, rfl, rfl⟩ := runs_brokenOff_iff.1 hrun
      obtain ⟨rfl, rfl, rfl⟩ := runs_brokenOff_iff.1 hrun'
      exact ⟨rfl, .nil, hw⟩
  | send hr _ ih =>
      obtain ⟨k, hk, rfl⟩ := runs_send_iff.1 hrun
      obtain ⟨k', hk', rfl⟩ := runs_send_iff.1 hrun'
      obtain ⟨hreply, hafter⟩ := hw.deliver hr
      rw [← hreply] at hk' ⊢
      obtain ⟨ho, hj, hu⟩ := ih _ hafter hk hk'
      exact ⟨ho, .cons (.sent _ hr) hj, hu⟩
  | now _ ih =>
      obtain ⟨k, hk, rfl⟩ := runs_now_iff.1 hrun
      obtain ⟨k', hk', rfl⟩ := runs_now_iff.1 hrun'
      have hreading : w.clock w.looks = w'.clock w'.looks := by rw [hw.clock_eq, hw.looks_eq]
      rw [← hreading] at hk' ⊢
      obtain ⟨ho, hj, hu⟩ := ih _ hw.look hk hk'
      exact ⟨ho, .cons (.same _) hj, hu⟩
  | memory _ ih =>
      obtain ⟨k, hk, rfl⟩ := runs_memory_iff.1 hrun
      obtain ⟨k', hk', rfl⟩ := runs_memory_iff.1 hrun'
      rw [← hw.cache_eq] at hk' ⊢
      obtain ⟨ho, hj, hu⟩ := ih _ hw hk hk'
      exact ⟨ho, .cons (.same _) hj, hu⟩
  | remember t _ ih =>
      obtain ⟨k, hk, rfl⟩ := runs_remember_iff.1 hrun
      obtain ⟨k', hk', rfl⟩ := runs_remember_iff.1 hrun'
      obtain ⟨ho, hj, hu⟩ := ih (hw.remember t) hk hk'
      exact ⟨ho, .cons (.same _) hj, hu⟩

end Alike

end Exchange

end ScimLookup
