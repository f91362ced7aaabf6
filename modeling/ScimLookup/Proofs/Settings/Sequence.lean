import ScimLookup.Json.Reader

/-!
# Computations in stages

A computation that can fail runs through stages, and each of them can be looked at by itself: it
fails with an error, or it does not. The computation as a whole fails as the first stage that fails
(`GoesThrough`), and this is a law for computations that run one after the other
(`GoesThrough.bind`).
-/

set_option autoImplicit false

namespace ScimLookup

section Stages

variable {σ ε α β : Type} {fails fails' : σ → ε → Prop} {stage : σ} {stages before after : List σ}
  {x : Except ε α} {f : α → Except ε β} {a : α} {e : ε}

/-- The first of several stages that fails, fails with an error. -/
inductive FirstFails (fails : σ → ε → Prop) : List σ → ε → Prop
  | here {stage : σ} {rest : List σ} {e : ε} : fails stage e → FirstFails fails (stage :: rest) e
  | later {stage : σ} {rest : List σ} {e : ε} :
      (∀ e', ¬ fails stage e') → FirstFails fails rest e → FirstFails fails (stage :: rest) e

/-- A first stage that fails is a stage that fails, and there is one where any fails. -/
theorem exists_firstFails_iff :
    (∃ e, FirstFails fails stages e) ↔ ∃ stage ∈ stages, ∃ e, fails stage e := by
  constructor
  · rintro ⟨e, h⟩
    induction h with
    | here h => exact ⟨_, List.mem_cons_self, _, h⟩
    | later _ _ ih =>
        obtain ⟨stage, hmem, hfails⟩ := ih
        exact ⟨stage, List.mem_cons_of_mem _ hmem, hfails⟩
  · rintro ⟨stage, hmem, e, h⟩
    induction stages with
    | nil => cases hmem
    | cons first rest ih =>
        by_cases hfirst : ∃ e', fails first e'
        · obtain ⟨e', hfirst⟩ := hfirst
          exact ⟨e', .here hfirst⟩
        · have hrest : stage ∈ rest :=
            (List.mem_cons.1 hmem).resolve_left fun heq => hfirst ⟨e, heq ▸ h⟩
          obtain ⟨e', hlater⟩ := ih hrest
          exact ⟨e', .later (not_exists.1 hfirst) hlater⟩

/-- The first of two lists of stages that fails is in the second one if none of the first does. -/
theorem firstFails_append_iff :
    FirstFails fails (before ++ after) e ↔
      FirstFails fails before e ∨
        (∀ stage ∈ before, ∀ e', ¬ fails stage e') ∧ FirstFails fails after e := by
  induction before with
  | nil =>
      constructor
      · intro h
        exact Or.inr ⟨List.forall_mem_nil _, h⟩
      · rintro (h | ⟨-, h⟩)
        · cases h
        · exact h
  | cons first rest ih =>
      constructor
      · intro h
        cases h with
        | here h => exact Or.inl (.here h)
        | later hfirst h =>
            rcases ih.1 h with h | ⟨hrest, h⟩
            · exact Or.inl (.later hfirst h)
            · exact Or.inr ⟨List.forall_mem_cons.2 ⟨hfirst, hrest⟩, h⟩
      · rintro (h | ⟨hnone, h⟩)
        · cases h with
          | here h => exact .here h
          | later hfirst h => exact .later hfirst (ih.2 (Or.inl h))
        · obtain ⟨hfirst, hrest⟩ := List.forall_mem_cons.1 hnone
          exact .later hfirst (ih.2 (Or.inr ⟨hrest, h⟩))

/-- A computation goes through stages: it fails with an error exactly where the first stage that
fails does so with this error. -/
def GoesThrough (fails : σ → ε → Prop) (stages : List σ) (x : Except ε α) : Prop :=
  ∀ e, x = .error e ↔ FirstFails fails stages e

namespace GoesThrough

/-- **What goes through stages succeeds exactly when none of them fails.** -/
theorem exists_ok_iff (h : GoesThrough fails stages x) :
    (∃ a, x = .ok a) ↔ ∀ stage ∈ stages, ∀ e, ¬ fails stage e := by
  have hfails : (∃ e, x = .error e) ↔ ∃ stage ∈ stages, ∃ e, fails stage e :=
    (exists_congr h).trans exists_firstFails_iff
  constructor
  · rintro ⟨a, ha⟩ stage hmem e hstage
    obtain ⟨e', he'⟩ := hfails.2 ⟨stage, hmem, e, hstage⟩
    rw [ha] at he'
    cases he'
  · intro hnone
    cases hx : x with
    | ok a => exact ⟨a, rfl⟩
    | error e =>
        obtain ⟨stage, hmem, e', hstage⟩ := hfails.1 ⟨e, hx⟩
        exact absurd hstage (hnone stage hmem e')

/-- What succeeds goes through stages that do not fail. -/
theorem ok (h : ∀ stage ∈ stages, ∀ e, ¬ fails stage e) (a : α) :
    GoesThrough fails stages (.ok a) := by
  intro e
  constructor
  · intro he
    cases he
  · intro hfirst
    obtain ⟨stage, hmem, e', hstage⟩ := exists_firstFails_iff.1 ⟨e, hfirst⟩
    exact absurd hstage (h stage hmem e')

/-- A stage that cannot fail may stand before the others. -/
theorem skip (hstage : ∀ e, ¬ fails stage e) (h : GoesThrough fails stages x) :
    GoesThrough fails (stage :: stages) x := by
  intro e
  constructor
  · intro he
    exact .later hstage ((h e).1 he)
  · intro hfirst
    cases hfirst with
    | here hfails => exact absurd hfails (hstage e)
    | later _ hlater => exact (h e).2 hlater

/-- Stages that cannot fail may stand behind the others. -/
theorem skip_last (h : GoesThrough fails before x)
    (hafter : ∀ stage ∈ after, ∀ e, ¬ fails stage e) : GoesThrough fails (before ++ after) x := by
  intro e
  rw [h e, firstFails_append_iff]
  constructor
  · exact Or.inl
  · rintro (hfirst | ⟨-, hfirst⟩)
    · exact hfirst
    · obtain ⟨stage, hmem, e', hstage⟩ := exists_firstFails_iff.1 ⟨e, hfirst⟩
      exact absurd hstage (hafter stage hmem e')

/-- What fails as one stage does goes through this stage. -/
theorem single (h : ∀ e, x = .error e ↔ fails stage e) : GoesThrough fails [stage] x := by
  intro e
  constructor
  · intro he
    exact .here ((h e).1 he)
  · intro hfirst
    cases hfirst with
    | here hfails => exact (h e).2 hfails
    | later _ hlater => cases hlater

/-- **What is done in two steps goes through the stages of the first and then of the second.** -/
theorem bind (hx : GoesThrough fails before x)
    (hf : ∀ a, x = .ok a → GoesThrough fails after (f a)) :
    GoesThrough fails (before ++ after) (x >>= f) := by
  intro e
  rw [firstFails_append_iff]
  cases hresult : x with
  | error e' =>
      have hbefore : FirstFails fails before e' := (hx e').1 hresult
      constructor
      · intro he
        cases he
        exact Or.inl hbefore
      · rintro (hfirst | ⟨hnone, -⟩)
        · have he := (hx e).2 hfirst
          rw [hresult] at he
          cases he
          rfl
        · obtain ⟨a, ha⟩ := hx.exists_ok_iff.2 hnone
          rw [hresult] at ha
          cases ha
  | ok a =>
      have hnone := hx.exists_ok_iff.1 ⟨a, hresult⟩
      constructor
      · intro he
        exact Or.inr ⟨hnone, (hf a hresult e).1 he⟩
      · rintro (hfirst | ⟨-, hlater⟩)
        · have he := (hx e).2 hfirst
          rw [hresult] at he
          cases he
        · exact (hf a hresult e).2 hlater

/-- A last step that cannot fail takes no stage. -/
theorem bind_ok (hx : GoesThrough fails stages x) (hf : ∀ a, x = .ok a → ∃ b, f a = .ok b) :
    GoesThrough fails stages (x >>= f) := by
  rw [← List.append_nil stages]
  refine hx.bind fun a ha => ?_
  obtain ⟨b, hb⟩ := hf a ha
  rw [hb]
  exact .ok (List.forall_mem_nil _) b

/-- A check is a stage before what comes of passing it. -/
theorem check {p : Prop} [Decidable p] (hstage : ∀ e', fails stage e' ↔ p ∧ e' = e)
    (hx : ¬ p → GoesThrough fails stages x) :
    GoesThrough fails (stage :: stages) (if p then .error e else x) := by
  by_cases hp : p
  · rw [if_pos hp]
    intro e'
    constructor
    · intro he'
      cases he'
      exact .here ((hstage e).2 ⟨hp, rfl⟩)
    · intro hfirst
      cases hfirst with
      | here hfails => rw [((hstage e').1 hfails).2]
      | later hpassed _ => exact absurd ((hstage e).2 ⟨hp, rfl⟩) (hpassed e)
  · rw [if_neg hp]
    exact skip (fun e' hfails => hp ((hstage e').1 hfails).1) (hx hp)

/-- Stages that fail alike can stand for one another. -/
theorem congr (h : ∀ stage e, fails stage e ↔ fails' stage e) (hx : GoesThrough fails stages x) :
    GoesThrough fails' stages x := by
  have heq : fails = fails' := funext fun stage => funext fun e => propext (h stage e)
  rwa [← heq]

end GoesThrough

/-- Errors are put into other words step by step. -/
theorem mapError_bind {ε' : Type} (g : ε → ε') :
    (x >>= f).mapError g = x.mapError g >>= fun a => (f a).mapError g := by
  cases x with
  | error e => rfl
  | ok a => rfl

theorem ok_of_mapError {ε' : Type} {g : ε → ε'} (h : x.mapError g = .ok a) : x = .ok a := by
  cases x with
  | error e => cases h
  | ok a' =>
      cases h
      rfl

end Stages

end ScimLookup
