import ScimLookup.Proofs.Scim.TokenStages

/-!
# A token shared by interleaved calls

Calls on the clients of one family may be under way at the same time. They share the remembered
token, but nothing keeps one from stepping in between the steps of another: several may ask for a
token at once, and a late grant replaces a newer one or comes after the token was forgotten.

Every call keeps to the rules for tokens, so the log of calls that are interleaved in any way is
lawful. In a lawful log a token in hand or remembered was granted before
(`Log.Lawful.mem_granted`), and a token that is granted but not yet remembered is in no other hand
(`Log.Lawful.alone`). So a token that was refused is spent once the refusal is handled: nothing
brings it back (`Log.Lawful.spent`).

The main result (`shared_token_safe`) puts this together for every schedule.
-/

set_option autoImplicit false

namespace ScimLookup

open Client

/-! ## Grants in a log -/

namespace Log

variable {ι : Type}

/-- The access tokens that were granted, in the order in which the grants came. -/
def granted (l : Log ι) : List String :=
  l.filterMap fun x => x.2.grant?

theorem granted_append (l₁ l₂ : Log ι) : granted (l₁ ++ l₂) = l₁.granted ++ l₂.granted :=
  List.filterMap_append

theorem granted_snoc (l : Log ι) (i : ι) (act : Act) :
    granted (l ++ [(i, act)]) = l.granted ++ act.grant?.toList := by
  rw [granted_append]
  cases h : act.grant? with
  | none => simp [granted, h]
  | some token => simp [granted, h]

/-- A token that comes with a further step was not granted before, if all grants differ. -/
theorem not_mem_granted {l : Log ι} {i : ι} {act : Act} {token : String}
    (hnodup : (granted (l ++ [(i, act)])).Nodup) (hgrant : act.grant? = some token) :
    token ∉ l.granted := by
  rw [granted_snoc, hgrant] at hnodup
  obtain ⟨-, -, hdiffer⟩ := List.nodup_append.1 hnodup
  intro hmem
  exact hdiffer token hmem token (List.mem_singleton_self token) rfl

theorem nodup_of_append {l₁ l₂ : Log ι} (hnodup : (granted (l₁ ++ l₂)).Nodup) :
    l₁.granted.Nodup := by
  rw [granted_append] at hnodup
  exact (List.nodup_append.1 hnodup).1

/-- The log ends with a call that forgets the token because its request, which carried `token`, was
refused. -/
def Handles (l : Log ι) (token : String) : Prop :=
  ∃ l₁ l₂ i q reply, l = (l₁ ++ (i, .received q reply) :: l₂) ++ [(i, .remembered none)] ∧
    (∀ x ∈ l₂, x.1 ≠ i) ∧ reply.isRefusal = true ∧ token ∈ q.bearers

end Log

/-! ## Lawful logs -/

namespace Log

variable {ι : Type} [DecidableEq ι]

/-- What may come of a further step for the token in the hand of a call. -/
theorem has_snoc {l : Log ι} {i k : ι} {act : Act} {token : String}
    (hallows : (l.stage tokenRules i).Allows act)
    (hhas : (stage tokenRules (l ++ [(i, act)]) k).Has token) :
    (l.stage tokenRules k).Has token ∨
      k = i ∧ (act.grant? = some token ∨ ∃ u, act = .recalled (some u) ∧ u.text = token) := by
  by_cases hk : k = i
  · subst hk
    rw [stage_snoc_self] at hhas
    exact (Stage.has_after hallows hhas).imp_right fun h => ⟨rfl, h⟩
  · rw [stage_snoc_of_ne _ _ _ hk] at hhas
    exact Or.inl hhas

/-- What may come of a further step for a token that is granted and not remembered yet. -/
theorem granted_stage_snoc {l : Log ι} {i k : ι} {act : Act} {token : String}
    (hallows : (l.stage tokenRules i).Allows act)
    (hgranted : stage tokenRules (l ++ [(i, act)]) k = .granted token) :
    l.stage tokenRules k = .granted token ∨ k = i ∧ act.grant? = some token := by
  by_cases hk : k = i
  · subst hk
    rw [stage_snoc_self] at hgranted
    exact (Stage.granted_after hallows hgranted).imp_right fun h => ⟨rfl, h⟩
  · rw [stage_snoc_of_ne _ _ _ hk] at hgranted
    exact Or.inl hgranted

/-- What may come of a further step for the remembered token. -/
theorem cache_snoc_eq_some {l : Log ι} {i : ι} {act : Act} {u : Token}
    (hallows : (l.stage tokenRules i).Allows act) (hcache : cache (l ++ [(i, act)]) = some u) :
    l.cache = some u ∨ act = .remembered (some u) ∧ l.stage tokenRules i = .granted u.text := by
  rw [cache_snoc] at hcache
  cases act with
  | remembered t =>
      cases hcache
      exact Or.inr ⟨rfl, Stage.eq_granted_of_remembered hallows⟩
  | _ => exact Or.inl hcache

namespace Lawful

variable {l : Log ι}

/-- **A token in hand or remembered was granted before.** -/
theorem mem_granted (h : l.Lawful tokenRules) :
    (∀ i token, (l.stage tokenRules i).Has token → token ∈ l.granted) ∧
      ∀ u, l.cache = some u → u.text ∈ l.granted := by
  -- By induction on the log: a step hands a token on, or its grant is the step.
  induction h with
  | nil => exact ⟨fun i token hhas => hhas.elim, fun u hu => by cases hu⟩
  | @snoc l i act hlawful hallows hrecalled ih =>
      obtain ⟨hheld, hcached⟩ := ih
      have hold : ∀ {token}, token ∈ l.granted → token ∈ granted (l ++ [(i, act)]) := by
        intro token hmem
        rw [granted_snoc]
        exact List.mem_append_left _ hmem
      refine ⟨?_, ?_⟩
      · intro k token hhas
        rcases has_snoc hallows hhas with hhas | ⟨rfl, hgrant | ⟨u, rfl, rfl⟩⟩
        · exact hold (hheld k token hhas)
        · rw [granted_snoc, hgrant]
          exact List.mem_append_right _ (List.mem_singleton_self token)
        · exact hold (hcached u (hrecalled _ rfl).symm)
      · intro u hu
        rcases cache_snoc_eq_some hallows hu with hu | ⟨rfl, hstage⟩
        · exact hold (hcached u hu)
        · exact hold (hheld i u.text (by rw [hstage]; rfl))

/-- **A token that is granted and not remembered yet is in no other hand**, and it is not the
remembered one, if all grants differ. -/
theorem alone (h : l.Lawful tokenRules) (hnodup : l.granted.Nodup) {i : ι} {token : String}
    (hi : l.stage tokenRules i = .granted token) :
    (∀ u, l.cache = some u → u.text ≠ token) ∧
      ∀ k, k ≠ i → ¬ (l.stage tokenRules k).Has token := by
  induction h with
  | nil => cases hi
  | @snoc l j act hlawful hallows hrecalled ih =>
      obtain ⟨hheld, hcached⟩ := hlawful.mem_granted
      rcases granted_stage_snoc hallows hi with hbefore | ⟨rfl, hgrant⟩
      · -- The token was granted earlier, so no step but that of its own call can spread it.
        obtain ⟨hcache, hothers⟩ := ih (nodup_of_append hnodup) hbefore
        have hmem : token ∈ l.granted := hheld i token (by rw [hbefore]; rfl)
        refine ⟨?_, ?_⟩
        · intro u hu
          rcases cache_snoc_eq_some hallows hu with hu | ⟨rfl, hstage⟩
          · exact hcache u hu
          · rintro rfl
            by_cases hj : j = i
            · subst hj
              rw [stage_snoc_self, hstage] at hi
              cases hi
            · exact hothers j hj (by rw [hstage]; rfl)
        · intro k hk hhas
          rcases has_snoc hallows hhas with hhas | ⟨rfl, hgrant | ⟨u, rfl, rfl⟩⟩
          · exact hothers k hk hhas
          · exact not_mem_granted hnodup hgrant hmem
          · exact hcache u (hrecalled _ rfl).symm rfl
      · -- The grant is the step, and nobody can have a token that was not granted before.
        have hnew := not_mem_granted hnodup hgrant
        refine ⟨?_, ?_⟩
        · intro u hu
          rcases cache_snoc_eq_some hallows hu with hu | ⟨rfl, -⟩
          · rintro rfl
            exact hnew (hcached u hu)
          · cases hgrant
        · intro k hk hhas
          rcases has_snoc hallows hhas with hhas | ⟨rfl, -⟩
          · exact hnew (hheld k token hhas)
          · exact hk rfl

end Lawful

/-- Since the log `l₁` the token is out of use: it is neither remembered nor about to be, and no
call that has looked since has it in hand. -/
structure Spent (l₁ l₂ : Log ι) (token : String) : Prop where
  granted : token ∈ (l₁ ++ l₂).granted
  cache_ne : ∀ u, (l₁ ++ l₂).cache = some u → u.text ≠ token
  stage_ne : ∀ i, (l₁ ++ l₂).stage tokenRules i ≠ .granted token
  not_has : ∀ k t, (k, .recalled t) ∈ l₂ → ¬ ((l₁ ++ l₂).stage tokenRules k).Has token

/-- The call that forgets a token after a refusal has had it in hand until then. -/
theorem Handles.exists_stage {l : Log ι} {token : String} (h : l.Lawful tokenRules)
    (hhandles : l.Handles token) :
    ∃ (l' : Log ι) (i : ι) (q : Request), l = l' ++ [(i, .remembered none)] ∧
      l'.stage tokenRules i = .refused q ∧ token ∈ q.bearers := by
  obtain ⟨l₁, l₂, i, q, reply, rfl, hothers, hrefusal, hmem⟩ := hhandles
  obtain ⟨-, hallows, -⟩ := h.of_append.at_step
  have hq := Stage.not_asksForToken_of_mem hallows hmem
  refine ⟨_, i, q, rfl, ?_, hmem⟩
  -- The others may step in between, but the stage of the call stays where the refusal put it.
  rw [List.append_cons, stage_append_of_forall_ne _ _ hothers, stage_snoc_self]
  exact Stage.after_refusal hallows hq hrefusal

namespace Lawful

variable {l₁ l₂ : Log ι} {token : String}

theorem spent_of_handles (h : l₁.Lawful tokenRules) (hnodup : l₁.granted.Nodup)
    (hhandles : l₁.Handles token) : Spent l₁ [] token := by
  obtain ⟨l, i, q, rfl, hrefused, hmem⟩ := hhandles.exists_stage h
  obtain ⟨hlawful, hallows, -⟩ := h.of_snoc
  have hhas : (l.stage tokenRules i).Has token := by
    rw [hrefused]
    exact hmem
  have hgranted : token ∈ (l ++ [(i, Act.remembered none)]).granted := by
    rw [granted_append]
    exact List.mem_append_left _ (hlawful.mem_granted.1 i token hhas)
  refine ⟨?_, ?_, ?_, ?_⟩
  · rwa [List.append_nil]
  · intro u hu
    rw [List.append_nil, cache_snoc] at hu
    cases hu
  · intro k hk
    rw [List.append_nil] at hk
    rcases granted_stage_snoc hallows hk with hk | ⟨-, hgrant⟩
    · -- It would be alone with the token, but the refused call has it too.
      have hne : i ≠ k := by
        rintro rfl
        rw [hrefused] at hk
        cases hk
      exact (hlawful.alone (nodup_of_append hnodup) hk).2 i hne hhas
    · cases hgrant
  · intro k t hk
    cases hk

/-- **A token that was refused stays out of use**, whatever is done after the refusal was handled,
if all grants differ. -/
theorem spent (h : (l₁ ++ l₂).Lawful tokenRules) (hnodup : (l₁ ++ l₂).granted.Nodup)
    (hhandles : l₁.Handles token) : Spent l₁ l₂ token := by
  -- By induction on what is done afterwards.
  induction l₂ using List.reverseRecOn with
  | nil =>
      rw [List.append_nil] at h hnodup
      exact h.spent_of_handles hnodup hhandles
  | append_singleton l₂ x ih =>
      obtain ⟨i, act⟩ := x
      rw [← List.append_assoc] at h hnodup
      obtain ⟨hlawful, hallows, hrecalled⟩ := h.of_snoc
      obtain ⟨hgranted, hcache, hstage, hnot⟩ := ih hlawful (nodup_of_append hnodup)
      have hnew : act.grant? ≠ some token := fun hgrant => not_mem_granted hnodup hgrant hgranted
      refine ⟨?_, ?_, ?_, ?_⟩
      · rw [← List.append_assoc, granted_append]
        exact List.mem_append_left _ hgranted
      · intro u hu
        rw [← List.append_assoc] at hu
        rcases cache_snoc_eq_some hallows hu with hu | ⟨-, hi⟩
        · exact hcache u hu
        · rintro rfl
          exact hstage i hi
      · intro k hk
        rw [← List.append_assoc] at hk
        rcases granted_stage_snoc hallows hk with hk | ⟨-, hgrant⟩
        · exact hstage k hk
        · exact hnew hgrant
      · intro k t hk hhas
        rw [← List.append_assoc] at hhas
        rcases has_snoc hallows hhas with hbefore | ⟨rfl, hgrant | ⟨u, rfl, hu⟩⟩
        · rcases List.mem_append.1 hk with hk | hk
          · exact hnot k t hk hbefore
          · -- The call looks for the first time, and had nothing in hand before.
            cases List.mem_singleton.1 hk
            exact Stage.not_has_of_recalled hallows hbefore
        · exact hnew hgrant
        · exact hcache u (hrecalled _ rfl).symm hu

end Lawful

end Log

/-! ## Any calls in any order -/

/-- What calls do, each on its client, that take their steps by the choices of a schedule. -/
def Call.log {ι : Type} [DecidableEq ι] (calls : ι → Client × Call) (schedule : List (Choice ι)) :
    Log ι :=
  (Crowd.run (fun i => (calls i).2.perform (calls i).1) schedule).1

/-- **A refused token is not used again, in whatever order the calls take their steps.** Any number
of calls is made on clients of one family. Every token that is sent was granted before. A call whose
lookup was refused forgets the token with its next step. And if all granted tokens differ, then
once a call has handled a refusal of a request that carried a token, no call that looks at what is
remembered afterwards sends that token. -/
theorem shared_token_safe {root : Client} (hnew : root.IsNew) {ι : Type} [DecidableEq ι]
    {calls : ι → Client × Call} (hcalls : ∀ i, root.Family (calls i).1)
    (schedule : List (Choice ι)) :
    (∀ (l₁ l₂ : Log ι) i q token, Call.log calls schedule = l₁ ++ (i, .sent q) :: l₂ →
        token ∈ q.bearers → token ∈ l₁.granted) ∧
      (∀ (l₁ l₂ : Log ι) q reply (c : Choice ι),
        Call.log calls schedule = l₁ ++ (c.turn, .received q reply) :: l₂ →
        (∀ x ∈ l₂, x.1 ≠ c.turn) → ¬ q.AsksForToken → reply.isRefusal = true →
        Call.log calls (schedule ++ [c]) =
          Call.log calls schedule ++ [(c.turn, .remembered none)]) ∧
      ((Call.log calls schedule).granted.Nodup →
        ∀ (l₁ l₂ l₃ : Log ι) k t q token,
          Call.log calls schedule = l₁ ++ l₂ ++ (k, .recalled t) :: l₃ → l₁.Handles token →
          (k, .sent q) ∈ l₃ → token ∉ q.bearers) := by
  have hkeeps : ∀ i, ((calls i).2.perform (calls i).1).Keeps tokenRules .fresh fun _ s => s.Stops :=
    fun i => Call.keeps_perform ((hcalls i).isTidy hnew) (calls i).2
  have hfits := Crowd.fits_run hkeeps schedule
  have hlawful : (Call.log calls schedule).Lawful tokenRules := hfits.lawful
  refine ⟨?_, ?_, ?_⟩
  · intro l₁ l₂ i q token hlog hmem
    rw [hlog] at hlawful
    obtain ⟨hbefore, hallows, -⟩ := hlawful.at_step
    exact hbefore.mem_granted.1 i token (Stage.has_of_sent hallows hmem)
  · intro l₁ l₂ q reply c hlog hothers hq hrefusal
    rw [hlog] at hlawful
    obtain ⟨-, hallows, -⟩ := hlawful.at_step
    have hstage : (Call.log calls schedule).stage tokenRules c.turn = .refused q := by
      rw [hlog, List.append_cons, Log.stage_append_of_forall_ne _ _ hothers, Log.stage_snoc_self]
      exact Stage.after_refusal hallows hq hrefusal
    have hstop : ¬ tokenRules.Stops ((Call.log calls schedule).stage tokenRules c.turn) := by
      rw [hstage]
      exact id
    obtain ⟨act, hstep, hact⟩ := hfits.exists_step hstop
    have hforget : act = .remembered none := by
      refine Stage.eq_forget_of_refused (q := q) ?_
      rw [← hstage]
      exact hact
    rw [Call.log, Crowd.run_snoc, hstep, hforget]
    rfl
  · intro hnodup l₁ l₂ l₃ k t q token hlog hhandles hsent hmem
    obtain ⟨m₁, m₂, rfl⟩ := List.append_of_mem hsent
    -- Up to the moment when the call sends, the token stays out of use.
    have hcut : Call.log calls schedule =
        (l₁ ++ (l₂ ++ (k, .recalled t) :: m₁)) ++ (k, .sent q) :: m₂ := by
      rw [hlog]
      simp
    rw [hcut] at hlawful hnodup
    obtain ⟨hbefore, hallows, -⟩ := hlawful.at_step
    have hspent := hbefore.spent (Log.nodup_of_append hnodup) hhandles
    exact hspent.not_has k t (by simp) (Stage.has_of_sent hallows hmem)

/-- Two calls that ask for a token at once, and a third one that looks when the token of one was
refused and has replaced that of the other. -/
theorem shared_token_safe_of_refused :
    let root := plain "http://[::1]/scim" (.oauth2 "id" "secret" "http://[::1]/token" [])
    let aimed := { root with baseUrl := trimSlashes "http://[::2]/scim" }
    let calls : Fin 3 → Client × Call := fun i =>
      [(root, .getUser "a"), (aimed, .getUser "b"), (root, .getGroup "c")][i]
    let grant := fun token => Reply.answer
      ⟨.ok, some (Utf8.ofString ("\x7b\x22access_token\x22:\x22" ++ token ++ "\x22\x7d"))⟩
    let refusal := Reply.answer ⟨.unauthorized, some []⟩
    let turns : List (Fin 3 × Reply) :=
      [(0, .lost), (0, .lost), (1, .lost), (1, .lost), (1, grant "t1"), (0, grant "t0"),
        (0, .lost), (1, .lost), (1, .lost), (1, refusal), (1, .lost), (2, .lost), (2, .lost),
        (2, grant "t2"), (2, .lost), (2, .lost), (0, .lost)]
    let log := Call.log calls (turns.map fun x => ⟨x.1, x.2, 0⟩)
    log.granted = ["t1", "t0", "t2"] ∧ Log.Handles (log.take 11) "t1" ∧
      ∀ (l₂ l₃ : Log (Fin 3)) k t q, log = log.take 11 ++ l₂ ++ (k, .recalled t) :: l₃ →
        (k, .sent q) ∈ l₃ → "t1" ∉ q.bearers := by
  intro root aimed calls grant refusal turns log
  have hgranted : log.granted = ["t1", "t0", "t2"] := by decide +kernel
  have hhandles : Log.Handles (log.take 11) "t1" := by
    let lookup := aimed.lookupRequest .get "http://[::2]/scim/Users/b" "" (some "t1")
    refine ⟨log.take 9, [], 1, lookup.toOption.get (by decide +kernel), refusal, ?_, ?_, rfl, ?_⟩
    · decide +kernel
    · intro x hx
      cases hx
    · decide +kernel
  have hcalls : ∀ i, root.Family (calls i).1 := by
    have haimed : root.Family aimed := Family.root.aimedAt (t := ⟨some "http://[::2]/scim", []⟩) rfl
    rintro ⟨_ | _ | _ | n, hn⟩
    · exact .root
    · exact haimed
    · exact .root
    · omega
  refine ⟨hgranted, hhandles, ?_⟩
  intro l₂ l₃ k t q hlog
  exact (shared_token_safe (.plain _ _) hcalls _).2.2 (by rw [hgranted]; decide) _ l₂ l₃ k t q "t1"
    hlog hhandles

end ScimLookup
