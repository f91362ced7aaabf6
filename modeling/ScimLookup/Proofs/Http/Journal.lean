import ScimLookup.Http.Exchange

/-!
# Journals of runs

A journal lists what happens while an exchange runs in a world: each request with what came back for
it, each look at the clock, and each time the token is recalled or replaced. A request is listed
whether or not the server is reached, so an empty journal means that nothing was even attempted.

`Exchange.Runs e w o j w'` says that `e`, run in `w`, ends as `o` with the journal `j` and leaves
`w'`. Every exchange runs in exactly one way (`runs_self`, `Runs.unique`), and a run of two
exchanges in a row is a run of the first and then of the second (`runs_bind_iff`). What a world is
after a run can be read off the journal: the requests that the server received are those of the
journal that reach it (`Runs.received_eq`), and the token is the one remembered last
(`Runs.cache_eq`).
-/

set_option autoImplicit false

namespace ScimLookup

/-- What happens in a run. -/
inductive Event where
  | sent (r : Request) (reply : Reply)
  | looked (t : Nat)
  | recalled (t : Option Token)
  | remembered (t : Option Token)
deriving DecidableEq, Repr

/-- What happened, in order. -/
abbrev Journal := List Event

namespace Journal

/-- The requests, each with what came back for it. -/
def traffic (j : Journal) : List (Request × Reply) :=
  j.filterMap fun
    | .sent r reply => some (r, reply)
    | _ => none

/-- What the clock showed. -/
def readings (j : Journal) : List Nat :=
  j.filterMap fun
    | .looked t => some t
    | _ => none

/-- The tokens that were put in place, `none` for one that was forgotten. -/
def replacements (j : Journal) : List (Option Token) :=
  j.filterMap fun
    | .remembered t => some t
    | _ => none

/-- Nothing was sent and the token stayed in place. -/
def IsQuiet (j : Journal) : Prop :=
  j.traffic = [] ∧ j.replacements = []

@[simp] theorem traffic_append (j k : Journal) : traffic (j ++ k) = traffic j ++ traffic k :=
  List.filterMap_append

@[simp] theorem readings_append (j k : Journal) : readings (j ++ k) = readings j ++ readings k :=
  List.filterMap_append

@[simp] theorem replacements_append (j k : Journal) :
    replacements (j ++ k) = replacements j ++ replacements k :=
  List.filterMap_append

section Events

variable (j : Journal)

@[simp] theorem traffic_nil : traffic [] = [] := rfl
@[simp] theorem readings_nil : readings [] = [] := rfl
@[simp] theorem replacements_nil : replacements [] = [] := rfl

@[simp] theorem traffic_sent (r : Request) (reply : Reply) :
    traffic (.sent r reply :: j) = (r, reply) :: traffic j := rfl

@[simp] theorem readings_sent (r : Request) (reply : Reply) :
    readings (.sent r reply :: j) = readings j := rfl

@[simp] theorem replacements_sent (r : Request) (reply : Reply) :
    replacements (.sent r reply :: j) = replacements j := rfl

@[simp] theorem traffic_remembered (t : Option Token) :
    traffic (.remembered t :: j) = traffic j := rfl

@[simp] theorem readings_remembered (t : Option Token) :
    readings (.remembered t :: j) = readings j := rfl

@[simp] theorem replacements_remembered (t : Option Token) :
    replacements (.remembered t :: j) = t :: replacements j := rfl

end Events

end Journal

/-! ## Worlds after a request -/

namespace World

@[simp] theorem deliver_clock (w : World) (r : Request) : (w.deliver r).2.clock = w.clock := by
  rw [deliver]
  split
  · split <;> rfl
  · rfl

@[simp] theorem deliver_looks (w : World) (r : Request) : (w.deliver r).2.looks = w.looks := by
  rw [deliver]
  split
  · split <;> rfl
  · rfl

@[simp] theorem deliver_cache (w : World) (r : Request) : (w.deliver r).2.cache = w.cache := by
  rw [deliver]
  split
  · split <;> rfl
  · rfl

@[simp] theorem deliver_reaches (w : World) (r : Request) :
    (w.deliver r).2.reaches = w.reaches := by
  rw [deliver]
  split
  · split <;> rfl
  · rfl

theorem deliver_received (w : World) (r : Request) :
    (w.deliver r).2.received = w.received ++ (if w.reaches r.url then [r] else []) := by
  rw [deliver]
  split
  · split <;> rfl
  · simp

end World

/-! ## Runs -/

namespace Exchange

variable {α β : Type}

/-- What happens when an exchange runs in a world. -/
def journal : Exchange α → World → Journal
  | .done _, _ => []
  | .brokenOff, _ => []
  | .send r next, w =>
    .sent r (w.deliver r).1 :: (next (w.deliver r).1).journal (w.deliver r).2
  | .now next, w =>
    .looked (w.clock w.looks) ::
      (next (w.clock w.looks)).journal { w with looks := w.looks + 1 }
  | .memory next, w => .recalled w.cache :: (next w.cache).journal w
  | .remember t next, w => .remembered t :: next.journal { w with cache := t }

/-- The exchange, run in `w`, ends as `o` with the journal `j` and leaves `w'`. -/
structure Runs (e : Exchange α) (w : World) (o : Outcome α) (j : Journal) (w' : World) : Prop where
  run_eq : e.run w = (o, w')
  journal_eq : e.journal w = j

/-- Every exchange runs. -/
theorem runs_self (e : Exchange α) (w : World) :
    e.Runs w (e.run w).1 (e.journal w) (e.run w).2 :=
  ⟨rfl, rfl⟩

/-- An exchange that ends in one way runs so. -/
theorem runs_of_fst_run {e : Exchange α} {w : World} {o : Outcome α} (h : (e.run w).1 = o) :
    e.Runs w o (e.journal w) (e.run w).2 := by
  rw [← h]
  exact runs_self e w

namespace Runs

variable {e : Exchange α} {w w₁ w₂ : World} {o₁ o₂ : Outcome α} {j₁ j₂ : Journal}

/-- An exchange runs in one way only. -/
theorem unique (h₁ : e.Runs w o₁ j₁ w₁) (h₂ : e.Runs w o₂ j₂ w₂) : o₁ = o₂ ∧ j₁ = j₂ ∧ w₁ = w₂ := by
  have hrun := h₁.run_eq.symm.trans h₂.run_eq
  have hjournal := h₁.journal_eq.symm.trans h₂.journal_eq
  exact ⟨congrArg Prod.fst hrun, hjournal, congrArg Prod.snd hrun⟩

end Runs

theorem runs_done_iff {a : α} {w w' : World} {o : Outcome α} {j : Journal} :
    (done a).Runs w o j w' ↔ o = some a ∧ j = [] ∧ w = w' := by
  constructor
  · rintro ⟨hrun, rfl⟩
    cases hrun
    exact ⟨rfl, rfl, rfl⟩
  · rintro ⟨rfl, rfl, rfl⟩
    exact ⟨rfl, rfl⟩

theorem runs_pure_iff {a : α} {w w' : World} {o : Outcome α} {j : Journal} :
    (pure a : Exchange α).Runs w o j w' ↔ o = some a ∧ j = [] ∧ w = w' :=
  runs_done_iff

theorem runs_brokenOff_iff {w w' : World} {o : Outcome α} {j : Journal} :
    (brokenOff : Exchange α).Runs w o j w' ↔ o = none ∧ j = [] ∧ w = w' := by
  constructor
  · rintro ⟨hrun, rfl⟩
    cases hrun
    exact ⟨rfl, rfl, rfl⟩
  · rintro ⟨rfl, rfl, rfl⟩
    exact ⟨rfl, rfl⟩

theorem runs_send_iff {r : Request} {next : Reply → Exchange α} {w w' : World} {o : Outcome α}
    {j : Journal} :
    (send r next).Runs w o j w' ↔
      ∃ k, (next (w.deliver r).1).Runs (w.deliver r).2 o k w' ∧
        j = .sent r (w.deliver r).1 :: k := by
  constructor
  · rintro ⟨hrun, rfl⟩
    exact ⟨_, ⟨hrun, rfl⟩, rfl⟩
  · rintro ⟨k, ⟨hrun, rfl⟩, rfl⟩
    exact ⟨hrun, rfl⟩

theorem runs_now_iff {next : Nat → Exchange α} {w w' : World} {o : Outcome α} {j : Journal} :
    (now next).Runs w o j w' ↔
      ∃ k, (next (w.clock w.looks)).Runs { w with looks := w.looks + 1 } o k w' ∧
        j = .looked (w.clock w.looks) :: k := by
  constructor
  · rintro ⟨hrun, rfl⟩
    exact ⟨_, ⟨hrun, rfl⟩, rfl⟩
  · rintro ⟨k, ⟨hrun, rfl⟩, rfl⟩
    exact ⟨hrun, rfl⟩

theorem runs_memory_iff {next : Option Token → Exchange α} {w w' : World} {o : Outcome α}
    {j : Journal} :
    (memory next).Runs w o j w' ↔
      ∃ k, (next w.cache).Runs w o k w' ∧ j = .recalled w.cache :: k := by
  constructor
  · rintro ⟨hrun, rfl⟩
    exact ⟨_, ⟨hrun, rfl⟩, rfl⟩
  · rintro ⟨k, ⟨hrun, rfl⟩, rfl⟩
    exact ⟨hrun, rfl⟩

theorem runs_remember_iff {t : Option Token} {next : Exchange α} {w w' : World} {o : Outcome α}
    {j : Journal} :
    (remember t next).Runs w o j w' ↔
      ∃ k, next.Runs { w with cache := t } o k w' ∧ j = .remembered t :: k := by
  constructor
  · rintro ⟨hrun, rfl⟩
    exact ⟨_, ⟨hrun, rfl⟩, rfl⟩
  · rintro ⟨k, ⟨hrun, rfl⟩, rfl⟩
    exact ⟨hrun, rfl⟩

theorem runs_request_iff {r : Request} {w w' : World} {o : Outcome Reply} {j : Journal} :
    (request r).Runs w o j w' ↔
      o = some (w.deliver r).1 ∧ j = [.sent r (w.deliver r).1] ∧ w' = (w.deliver r).2 := by
  rw [request, runs_send_iff]
  simp only [runs_done_iff]
  constructor
  · rintro ⟨k, ⟨rfl, rfl, rfl⟩, rfl⟩
    exact ⟨rfl, rfl, rfl⟩
  · rintro ⟨rfl, rfl, rfl⟩
    exact ⟨[], ⟨rfl, rfl, rfl⟩, rfl⟩

theorem runs_clock_iff {w w' : World} {o : Outcome Nat} {j : Journal} :
    clock.Runs w o j w' ↔
      o = some (w.clock w.looks) ∧ j = [.looked (w.clock w.looks)] ∧
        w' = { w with looks := w.looks + 1 } := by
  rw [clock, runs_now_iff]
  simp only [runs_done_iff]
  constructor
  · rintro ⟨k, ⟨rfl, rfl, rfl⟩, rfl⟩
    exact ⟨rfl, rfl, rfl⟩
  · rintro ⟨rfl, rfl, rfl⟩
    exact ⟨[], ⟨rfl, rfl, rfl⟩, rfl⟩

theorem runs_token_iff {w w' : World} {o : Outcome (Option Token)} {j : Journal} :
    token.Runs w o j w' ↔ o = some w.cache ∧ j = [.recalled w.cache] ∧ w = w' := by
  rw [token, runs_memory_iff]
  simp only [runs_done_iff]
  constructor
  · rintro ⟨k, ⟨rfl, rfl, rfl⟩, rfl⟩
    exact ⟨rfl, rfl, rfl⟩
  · rintro ⟨rfl, rfl, rfl⟩
    exact ⟨[], ⟨rfl, rfl, rfl⟩, rfl⟩

theorem runs_setToken_iff {t : Option Token} {w w' : World} {o : Outcome Unit} {j : Journal} :
    (setToken t).Runs w o j w' ↔
      o = some () ∧ j = [.remembered t] ∧ w' = { w with cache := t } := by
  rw [setToken, runs_remember_iff]
  simp only [runs_done_iff]
  constructor
  · rintro ⟨k, ⟨rfl, rfl, rfl⟩, rfl⟩
    exact ⟨rfl, rfl, rfl⟩
  · rintro ⟨rfl, rfl, rfl⟩
    exact ⟨[], ⟨rfl, rfl, rfl⟩, rfl⟩

/-- Running on with the result of an exchange. -/
theorem run_bind (e : Exchange α) (f : α → Exchange β) (w : World) :
    (e >>= f).run w =
      match e.run w with
      | (some a, w') => (f a).run w'
      | (none, w') => (none, w') := by
  show (e.bind f).run w = _
  -- By induction on the exchange: what goes on after an event runs in the world that it leaves.
  induction e generalizing w with
  | done a => rfl
  | brokenOff => rfl
  | send r next ih => exact ih _ _
  | now next ih => exact ih _ _
  | memory next ih => exact ih _ _
  | remember t next ih => exact ih _

theorem journal_bind (e : Exchange α) (f : α → Exchange β) (w : World) :
    (e >>= f).journal w =
      e.journal w ++
        match e.run w with
        | (some a, w') => (f a).journal w'
        | (none, _) => [] := by
  show (e.bind f).journal w = _
  -- Both sides list the first event and then go on alike.
  induction e generalizing w with
  | done a => rfl
  | brokenOff => rfl
  | send r next ih => exact congrArg _ (ih _ _)
  | now next ih => exact congrArg _ (ih _ _)
  | memory next ih => exact congrArg _ (ih _ _)
  | remember t next ih => exact congrArg _ (ih _)

/-- **A run of two exchanges in a row.** Where the first one breaks off the second one never
starts. -/
theorem runs_bind_iff {e : Exchange α} {f : α → Exchange β} {w w' : World} {o : Outcome β}
    {j : Journal} :
    (e >>= f).Runs w o j w' ↔
      (∃ a j₁ w₁ j₂, e.Runs w (some a) j₁ w₁ ∧ (f a).Runs w₁ o j₂ w' ∧ j = j₁ ++ j₂) ∨
        (o = none ∧ e.Runs w none j w') := by
  constructor
  · rintro ⟨hrun, rfl⟩
    rw [run_bind] at hrun
    rw [journal_bind]
    rcases hw : e.run w with ⟨a, w₁⟩
    rw [hw] at hrun
    -- The second exchange runs only if the first one has a result.
    cases a with
    | none =>
        cases hrun
        exact Or.inr ⟨rfl, hw, by simp⟩
    | some a => exact Or.inl ⟨a, _, w₁, _, ⟨hw, rfl⟩, ⟨hrun, rfl⟩, rfl⟩
  · rintro (⟨a, j₁, w₁, j₂, ⟨hrun, rfl⟩, ⟨hnext, rfl⟩, rfl⟩ | ⟨rfl, hrun, rfl⟩)
    · refine ⟨?_, ?_⟩
      · rw [run_bind, hrun]
        exact hnext
      · rw [journal_bind, hrun]
    · refine ⟨?_, ?_⟩
      · rw [run_bind, hrun]
      · rw [journal_bind, hrun, List.append_nil]

/-- Three exchanges in a row. -/
theorem bind_bind {γ : Type} (e : Exchange α) (f : α → Exchange β) (g : β → Exchange γ) :
    ((e >>= f) >>= g) = e >>= fun a => f a >>= g := by
  show (e.bind _).bind _ = e.bind _
  induction e with
  | done a => rfl
  | brokenOff => rfl
  | send r next ih => exact congrArg (send r) (funext ih)
  | now next ih => exact congrArg now (funext ih)
  | memory next ih => exact congrArg memory (funext ih)
  | remember t next ih => exact congrArg (remember t) ih

/-- A result that is put into another form twice. -/
theorem map_map {γ : Type} (e : Exchange α) (f : α → β) (g : β → γ) :
    ((e >>= fun a => pure (f a)) >>= fun b => pure (g b)) = e >>= fun a => pure (g (f a)) :=
  bind_bind e (fun a => pure (f a)) (fun b => pure (g b))

/-- A run whose result is put into another form. -/
theorem runs_map_iff {e : Exchange α} {f : α → β} {w w' : World} {o : Outcome β} {j : Journal} :
    (e >>= fun a => pure (f a)).Runs w o j w' ↔ ∃ o', e.Runs w o' j w' ∧ o = o'.map f := by
  rw [runs_bind_iff]
  constructor
  · rintro (⟨a, j₁, w₁, j₂, hrun, hpure, rfl⟩ | ⟨rfl, hrun⟩)
    · obtain ⟨rfl, rfl, rfl⟩ := runs_pure_iff.1 hpure
      rw [List.append_nil]
      exact ⟨_, hrun, rfl⟩
    · exact ⟨none, hrun, rfl⟩
  · rintro ⟨o', hrun, rfl⟩
    cases o' with
    | none => exact Or.inr ⟨rfl, hrun⟩
    | some a =>
        exact Or.inl ⟨a, j, w', [], hrun, runs_pure_iff.2 ⟨rfl, rfl, rfl⟩, (List.append_nil j).symm⟩

/-! ## Worlds after a run -/

namespace Runs

variable {e : Exchange α} {w w' : World} {o : Outcome α} {j : Journal}

/-- A run neither changes the clock nor what is reached, and looks at the clock as often as its
journal says. -/
theorem world_facts (h : e.Runs w o j w') :
    w'.clock = w.clock ∧ w'.reaches = w.reaches ∧ w'.looks = w.looks + j.readings.length := by
  induction e generalizing w j with
  | done a =>
      obtain ⟨-, rfl, rfl⟩ := runs_done_iff.1 h
      exact ⟨rfl, rfl, rfl⟩
  | brokenOff =>
      obtain ⟨-, rfl, rfl⟩ := runs_brokenOff_iff.1 h
      exact ⟨rfl, rfl, rfl⟩
  | send r next ih =>
      obtain ⟨k, hk, rfl⟩ := runs_send_iff.1 h
      obtain ⟨hc, hr, hl⟩ := ih _ hk
      refine ⟨by rw [hc, World.deliver_clock], by rw [hr, World.deliver_reaches], ?_⟩
      rw [hl, World.deliver_looks]
      rfl
  | now next ih =>
      obtain ⟨k, hk, rfl⟩ := runs_now_iff.1 h
      obtain ⟨hc, hr, hl⟩ := ih _ hk
      refine ⟨hc, hr, ?_⟩
      rw [hl]
      -- The one event that moves the count.
      simp only [Journal.readings, List.filterMap_cons, List.length_cons]
      omega
  | memory next ih =>
      obtain ⟨k, hk, rfl⟩ := runs_memory_iff.1 h
      exact (ih _ hk :)
  | remember t next ih =>
      obtain ⟨k, hk, rfl⟩ := runs_remember_iff.1 h
      exact (ih hk :)

theorem clock_eq (h : e.Runs w o j w') : w'.clock = w.clock :=
  h.world_facts.1

theorem looks_eq (h : e.Runs w o j w') : w'.looks = w.looks + j.readings.length :=
  h.world_facts.2.2

/-- **The server receives the requests of the journal that reach it.** -/
theorem received_eq (h : e.Runs w o j w') :
    w'.received = w.received ++ (j.traffic.map Prod.fst).filter fun r => w.reaches r.url := by
  induction e generalizing w j with
  | done a =>
      obtain ⟨-, rfl, rfl⟩ := runs_done_iff.1 h
      simp [Journal.traffic]
  | brokenOff =>
      obtain ⟨-, rfl, rfl⟩ := runs_brokenOff_iff.1 h
      simp [Journal.traffic]
  | send r next ih =>
      obtain ⟨k, hk, rfl⟩ := runs_send_iff.1 h
      rw [ih _ hk, World.deliver_received, World.deliver_reaches]
      simp only [Journal.traffic, List.filterMap_cons, List.map_cons, List.filter_cons]
      -- The request is received if its address is reached, and reaching never changes.
      by_cases hr : w.reaches r.url <;> simp [hr]
  | now next ih =>
      obtain ⟨k, hk, rfl⟩ := runs_now_iff.1 h
      exact (ih _ hk :)
  | memory next ih =>
      obtain ⟨k, hk, rfl⟩ := runs_memory_iff.1 h
      exact (ih _ hk :)
  | remember t next ih =>
      obtain ⟨k, hk, rfl⟩ := runs_remember_iff.1 h
      exact (ih hk :)

/-- **The token after a run is the one remembered last**, or the one that was there before. -/
theorem cache_eq (h : e.Runs w o j w') : w'.cache = j.replacements.getLast?.getD w.cache := by
  induction e generalizing w j with
  | done a =>
      obtain ⟨-, rfl, rfl⟩ := runs_done_iff.1 h
      rfl
  | brokenOff =>
      obtain ⟨-, rfl, rfl⟩ := runs_brokenOff_iff.1 h
      rfl
  | send r next ih =>
      obtain ⟨k, hk, rfl⟩ := runs_send_iff.1 h
      rw [ih _ hk, World.deliver_cache]
      rfl
  | now next ih =>
      obtain ⟨k, hk, rfl⟩ := runs_now_iff.1 h
      exact (ih _ hk :)
  | memory next ih =>
      obtain ⟨k, hk, rfl⟩ := runs_memory_iff.1 h
      exact (ih _ hk :)
  | remember t next ih =>
      obtain ⟨k, hk, rfl⟩ := runs_remember_iff.1 h
      rw [ih hk]
      simp [Journal.replacements, List.getLast?_cons]

end Runs

end Exchange

end ScimLookup
