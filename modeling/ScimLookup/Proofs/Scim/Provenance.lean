import ScimLookup.Proofs.Scim.Lookup

/-!
# Where tokens come from

A token that a client sends was remembered when the run began, or was granted earlier in the run
(`Journal.IsSourced`). This is kept by running one exchange after another (`KeepsSources.bind`), and
it holds of each lookup of a client (`keepsSources_exchange`), so that it holds of whatever is built
from lookups. A run that begins with no token remembered sends none but those granted in it.
-/

set_option autoImplicit false

namespace ScimLookup

/-! ## Sources -/

namespace Journal

/-- The tokens that were granted. -/
def tokens (j : Journal) : List String :=
  j.grants.map (·.accessToken)

theorem tokens_append (j k : Journal) : (j ++ k).tokens = j.tokens ++ k.tokens := by
  rw [tokens, grants_append, List.map_append]
  rfl

/-- Each token that is sent was held before or is granted earlier in the journal. -/
def IsSourced (held : List String) (j : Journal) : Prop :=
  ∀ (j₁ : Journal) (q : Request) (reply : Reply) (j₂ : Journal), j = j₁ ++ .sent q reply :: j₂ →
    ∀ token ∈ q.bearers, token ∈ held ++ j₁.tokens

namespace IsSourced

variable {held : List String} {j k : Journal}

/-- A journal in which no token is sent. -/
theorem of_bearers_eq_nil (h : ∀ x ∈ j.traffic, x.1.bearers = []) : j.IsSourced held := by
  rintro j₁ q reply j₂ rfl token htoken
  have hmem : (q, reply) ∈ traffic (j₁ ++ .sent q reply :: j₂) := by simp
  rw [h _ hmem] at htoken
  cases htoken

theorem of_traffic_eq_nil (h : j.traffic = []) : j.IsSourced held := by
  apply of_bearers_eq_nil
  intro x hx
  rw [h] at hx
  cases hx

/-- What is granted in a journal can be sent in what follows. -/
theorem append (hj : j.IsSourced held) (hk : k.IsSourced (held ++ j.tokens)) :
    (j ++ k).IsSourced held := by
  intro j₁ q reply j₂ heq token htoken
  -- Either the request stands in the second journal, or it stands in the first.
  rcases List.append_eq_append_iff.1 heq with ⟨a, rfl, hrest⟩ | ⟨a, rfl, hrest⟩
  · rw [tokens_append, ← List.append_assoc]
    exact hk a q reply j₂ hrest token htoken
  · cases a with
    | nil =>
        -- The request is the first one of the second journal.
        have hfirst : k = [] ++ .sent q reply :: j₂ := by simpa using hrest.symm
        have hheld := hk [] q reply j₂ hfirst token htoken
        simpa [tokens, grants, tokenTraffic, Client.grantsIn] using hheld
    | cons e a =>
        injection hrest with he hrest
        subst he
        exact hj j₁ q reply a rfl token htoken

end IsSourced

end Journal

/-- The token that is remembered is among these. -/
def World.Holds (w : World) (held : List String) : Prop :=
  ∀ t, w.cache = some t → t.text ∈ held

theorem World.holds_of_cache_eq_none {w : World} (h : w.cache = none) : w.Holds [] := by
  intro t ht
  rw [h] at ht
  cases ht

namespace Exchange

variable {α β : Type}

/-- Running the exchange sends and remembers no token but those that were held before and those
that are granted on the way. -/
structure KeepsSources (e : Exchange α) : Prop where
  keeps : ∀ {w w' : World} {o : Outcome α} {j : Journal} {held : List String},
    e.Runs w o j w' → w.Holds held → j.IsSourced held ∧ w'.Holds (held ++ j.tokens)

namespace KeepsSources

theorem pure (a : α) : (Pure.pure a : Exchange α).KeepsSources := by
  refine ⟨?_⟩
  intro w w' o j held h hheld
  obtain ⟨-, rfl, rfl⟩ := runs_pure_iff.1 h
  refine ⟨.of_traffic_eq_nil rfl, ?_⟩
  intro t ht
  exact List.mem_append_left _ (hheld t ht)

/-- **One exchange after another keeps to the sources if both do.** -/
theorem bind {e : Exchange α} {f : α → Exchange β} (he : e.KeepsSources)
    (hf : ∀ a, (f a).KeepsSources) : (e >>= f).KeepsSources := by
  refine ⟨?_⟩
  intro w w' o j held h hheld
  rcases runs_bind_iff.1 h with ⟨a, j₁, w₁, j₂, hfirst, hsecond, rfl⟩ | ⟨-, hfirst⟩
  · obtain ⟨hsourced₁, hheld₁⟩ := he.keeps hfirst hheld
    obtain ⟨hsourced₂, hheld₂⟩ := (hf a).keeps hsecond hheld₁
    refine ⟨hsourced₁.append hsourced₂, ?_⟩
    rw [Journal.tokens_append, ← List.append_assoc]
    exact hheld₂
  · exact he.keeps hfirst hheld

theorem map {e : Exchange α} (he : e.KeepsSources) (f : α → β) :
    (e >>= fun a => Pure.pure (f a)).KeepsSources :=
  he.bind fun a => .pure (f a)

theorem forget : (setToken none).KeepsSources := by
  refine ⟨?_⟩
  intro w w' o j held h hheld
  obtain ⟨-, rfl, rfl⟩ := runs_setToken_iff.1 h
  refine ⟨.of_traffic_eq_nil rfl, ?_⟩
  intro t ht
  cases ht

end KeepsSources

end Exchange

/-! ## Lookups -/

namespace Client

open Exchange Json

variable {α : Type} {c : Client}

theorem mem_bearersFor {token : Option String} {text : String} (h : text ∈ c.bearersFor token) :
    token = some text := by
  rw [bearersFor] at h
  split at h
  · exact Option.mem_toList.1 h
  · cases h

/-- **A lookup sends no token but the one remembered or one that it is granted.** -/
theorem keepsSources_exchange (htidy : IsTidy c.headers) (r : Reader α) (method : Method)
    (address body : String) : (c.exchange r method address body).KeepsSources := by
  refine ⟨?_⟩
  intro w w' o j held h hheld
  have hcache := h.cache_eq
  obtain ⟨o₀, j₀, j₁, htoken, hsend, rfl⟩ := runs_exchange h
  have hasks : ∀ x ∈ j₀.traffic, c.grantRequest? = some (.ok x.1) := by
    intro x hx
    rcases htoken.traffic_facts with hnil | ⟨q, reply, hq, hgrant⟩
    · rw [hnil] at hx
      cases hx
    · rw [hq] at hx
      rw [List.mem_singleton.1 hx]
      exact hgrant
  have hgrants : j₀.grants = grantsIn j₀.traffic :=
    Journal.grants_eq fun x hx => asksForToken_grantRequest (hasks x hx)
  have hgranted : ∀ g ∈ grantsIn j₀.traffic, g.accessToken ∈ j₀.tokens := by
    intro g hg
    rw [Journal.tokens, hgrants]
    exact List.mem_map_of_mem hg
  refine ⟨Journal.IsSourced.append ?_ ?_, ?_⟩
  · -- What is sent on the way to the token carries none.
    exact .of_bearers_eq_nil fun x hx => bearers_grantRequest (hasks x hx)
  · -- Only the lookup itself carries a token, and it is the one that the client came by.
    intro k q reply k' heq text htext
    apply List.mem_append_left
    have hmem : (q, reply) ∈ j₁.traffic := by rw [heq]; simp
    rcases hsend.traffic_facts with hnil | ⟨token, q', reply', hq, rfl, hlookup⟩
    · rw [hnil] at hmem
      cases hmem
    · rw [hq] at hmem
      cases List.mem_singleton.1 hmem
      rw [bearers_lookupRequest htidy hlookup] at htext
      have hsome := mem_bearersFor htext
      subst hsome
      rcases htoken.source_of_ok with ⟨t, ht, rfl⟩ | ⟨g, hg, rfl⟩
      · exact List.mem_append_left _ (hheld t ht)
      · exact List.mem_append_right _ (hgranted g hg)
  · -- What is remembered afterwards was put in place last, and a refusal puts nothing in place.
    intro t ht
    rw [Journal.tokens_append]
    rw [hcache, Journal.replacements_append] at ht
    cases hlast : (j₀.replacements ++ j₁.replacements).getLast? with
    | none =>
        rw [hlast] at ht
        exact List.mem_append_left _ (hheld t ht)
    | some last =>
        rw [hlast] at ht
        change last = some t at ht
        subst ht
        rcases List.mem_append.1 (List.mem_of_getLast? hlast) with hmem | hmem
        · obtain ⟨g, hg, htext⟩ := htoken.mem_replacements hmem
          rw [← htext]
          exact List.mem_append_right _ (List.mem_append_left _ (hgranted g hg))
        · rw [hsend.replacements_eq] at hmem
          split at hmem
          · cases List.mem_singleton.1 hmem
          · cases hmem

theorem keepsSources_getOne (htidy : IsTidy c.headers) (operation : Operation) (r : Reader α)
    (collection : Collection) (id : String) : (c.getOne operation r collection id).KeepsSources :=
  (keepsSources_exchange htidy _ _ _ _).map _

theorem keepsSources_list (htidy : IsTidy c.headers) (operation : Operation) (r : Reader α)
    (collection : Collection) (method : ListMethod) (filter : Filter) (page : Page) :
    (c.list operation r collection method filter page).KeepsSources := by
  rw [list]
  split
  · exact .pure _
  · exact (keepsSources_exchange htidy _ _ _ _).map _

end Client

end ScimLookup
