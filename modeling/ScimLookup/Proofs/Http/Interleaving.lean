import Mathlib.Data.List.Induction
import Mathlib.Logic.Function.Basic
import ScimLookup.Http.Exchange

/-!
# Interleaved exchanges

A crowd is any number of exchanges under way that share one remembered token. They take their steps
in any order: a choice says which exchange takes its next step, what comes back for its request if
it waits for that, and what the clock shows if it looks. Sending a request and receiving what comes
back are two steps, so that others may step in between (`Crowd.run`). The log of a crowd lists who
took which step.

A protocol is an automaton over the steps of one exchange. An exchange keeps to a protocol if each
step that it may ever take is allowed at the stage that it has reached, and it stops only where that
is allowed (`Exchange.Keeps`). This is closed under going on with a result (`Exchange.Keeps.bind`),
so it is shown part by part, with no thought of the others.

The main result (`Crowd.fits_run`) says that in a crowd whose exchanges all keep to a protocol the
log is lawful, whatever the order of the steps: each step is allowed at the stage that the exchange
has reached by its own steps, and each recalled token is the one remembered last by any of them.
-/

set_option autoImplicit false

namespace ScimLookup

/-! ## Steps and logs -/

/-- A step of an exchange among others. -/
inductive Act where
  | sent (r : Request)
  | received (r : Request) (reply : Reply)
  | looked (t : Nat)
  | recalled (t : Option Token)
  | remembered (t : Option Token)
deriving DecidableEq, Repr

/-- The token that is remembered after a step. -/
def Act.cacheAfter (cache : Option Token) : Act → Option Token
  | .remembered t => t
  | _ => cache

/-- The steps that were taken, in order, and by whom. -/
abbrev Log (ι : Type) := List (ι × Act)

/-- An automaton over the steps of one exchange. -/
structure Protocol (σ : Type) where
  /-- The stage at which an exchange starts. -/
  start : σ
  /-- The step may be taken at the stage. -/
  Allows : σ → Act → Prop
  /-- The stage after a step. -/
  after : σ → Act → σ
  /-- An exchange may stop at the stage. -/
  Stops : σ → Prop

namespace Log

variable {ι σ : Type}

/-- The token that is remembered after the steps of a log. -/
def cache (l : Log ι) : Option Token :=
  l.foldl (fun cache x => x.2.cacheAfter cache) none

@[simp] theorem cache_snoc (l : Log ι) (i : ι) (act : Act) :
    cache (l ++ [(i, act)]) = act.cacheAfter l.cache :=
  List.foldl_append

variable [DecidableEq ι]

/-- The steps that one exchange has taken. -/
def acts (l : Log ι) (i : ι) : List Act :=
  (l.filter fun x => decide (x.1 = i)).map Prod.snd

/-- The stage that an exchange has reached by its own steps. -/
def stage (p : Protocol σ) (l : Log ι) (i : ι) : σ :=
  (l.acts i).foldl p.after p.start

/-- Each step is allowed at the stage of who takes it, and what is recalled was remembered last. -/
inductive Lawful (p : Protocol σ) : Log ι → Prop
  | nil : Lawful p []
  | snoc {l : Log ι} {i : ι} {act : Act} :
      Lawful p l → p.Allows (l.stage p i) act → (∀ t, act = .recalled t → t = l.cache) →
      Lawful p (l ++ [(i, act)])

variable (p : Protocol σ)

@[simp] theorem stage_snoc_self (l : Log ι) (i : ι) (act : Act) :
    stage p (l ++ [(i, act)]) i = p.after (l.stage p i) act := by
  simp [stage, acts, List.filter_append]

theorem stage_snoc_of_ne (l : Log ι) {i k : ι} (act : Act) (h : k ≠ i) :
    stage p (l ++ [(i, act)]) k = l.stage p k := by
  simp [stage, acts, List.filter_append, h.symm]

/-- Steps of others do not bring an exchange to another stage. -/
theorem stage_append_of_forall_ne (l₁ : Log ι) {l₂ : Log ι} {i : ι} (h : ∀ x ∈ l₂, x.1 ≠ i) :
    stage p (l₁ ++ l₂) i = l₁.stage p i := by
  have hnone : l₂.filter (fun x => decide (x.1 = i)) = [] :=
    List.filter_eq_nil_iff.2 fun x hx => by simpa using h x hx
  rw [stage, acts, List.filter_append, hnone, List.append_nil]
  rfl

namespace Lawful

variable {p}

/-- What a lawful log says of its last step. -/
theorem of_snoc {l : Log ι} {i : ι} {act : Act} (h : Lawful p (l ++ [(i, act)])) :
    Lawful p l ∧ p.Allows (l.stage p i) act ∧ ∀ t, act = .recalled t → t = l.cache := by
  generalize hl : l ++ [(i, act)] = l' at h
  cases h with
  | nil => simp at hl
  | snoc hlawful hallows hrecalled =>
      obtain ⟨rfl, hlast⟩ := List.append_inj' hl rfl
      cases hlast
      exact ⟨hlawful, hallows, hrecalled⟩

/-- The start of a lawful log is lawful. -/
theorem of_append {l₁ l₂ : Log ι} (h : Lawful p (l₁ ++ l₂)) : Lawful p l₁ := by
  induction l₂ using List.reverseRecOn with
  | nil => rwa [List.append_nil] at h
  | append_singleton l₂ x ih =>
      rw [← List.append_assoc] at h
      exact ih h.of_snoc.1

/-- What a lawful log says of a step anywhere in it. -/
theorem at_step {l₁ l₂ : Log ι} {i : ι} {act : Act} (h : Lawful p (l₁ ++ (i, act) :: l₂)) :
    Lawful p l₁ ∧ p.Allows (l₁.stage p i) act ∧ ∀ t, act = .recalled t → t = l₁.cache := by
  rw [List.append_cons] at h
  exact h.of_append.of_snoc

end Lawful

end Log

/-! ## Crowds -/

/-- Where an exchange stands: it can go on, or it waits for what comes back for its request. -/
inductive Stance (α : Type) where
  | ready (e : Exchange α)
  | waiting (r : Request) (next : Reply → Exchange α)

/-- Whose turn it is, what comes back for a request and what the clock shows. -/
structure Choice (ι : Type) where
  turn : ι
  reply : Reply
  time : Nat

/-- The next step from a stance, and the stance after it, unless the exchange is over. -/
def Stance.step {α : Type} (cache : Option Token) (reply : Reply) (time : Nat) :
    Stance α → Option (Act × Stance α)
  | .ready (.done _) => none
  | .ready .brokenOff => none
  | .ready (.send r next) => some (.sent r, .waiting r next)
  | .ready (.now next) => some (.looked time, .ready (next time))
  | .ready (.memory next) => some (.recalled cache, .ready (next cache))
  | .ready (.remember t next) => some (.remembered t, .ready next)
  | .waiting r next => some (.received r reply, .ready (next reply))

/-- Exchanges under way, and the token that they share. -/
structure Crowd (ι α : Type) where
  stance : ι → Stance α
  cache : Option Token

namespace Crowd

variable {ι α : Type}

/-- Exchanges none of which has begun. -/
def start (e : ι → Exchange α) : Crowd ι α :=
  ⟨fun i => .ready (e i), none⟩

variable [DecidableEq ι]

/-- Add the step of a choice to a log. Nothing happens where that exchange is over. -/
def advance (x : Log ι × Crowd ι α) (c : Choice ι) : Log ι × Crowd ι α :=
  match (x.2.stance c.turn).step x.2.cache c.reply c.time with
  | none => x
  | some (act, next) =>
    (x.1 ++ [(c.turn, act)], ⟨Function.update x.2.stance c.turn next, act.cacheAfter x.2.cache⟩)

/-- What exchanges do that take their steps by the choices of a schedule, and where it leaves
them. -/
def run (e : ι → Exchange α) (schedule : List (Choice ι)) : Log ι × Crowd ι α :=
  schedule.foldl advance ([], start e)

theorem run_snoc (e : ι → Exchange α) (schedule : List (Choice ι)) (c : Choice ι) :
    run e (schedule ++ [c]) = advance (run e schedule) c :=
  List.foldl_append

end Crowd

/-! ## Keeping to a protocol -/

namespace Exchange

variable {α β σ : Type} (p : Protocol σ)

/-- Each step that the exchange may ever take from the stage `s` is allowed by the protocol. If it
is done with a result then `Q` holds of the result and the stage, and it breaks off only where it
may stop. -/
def Keeps : Exchange α → σ → (α → σ → Prop) → Prop
  | .done a, s, Q => Q a s
  | .brokenOff, s, _ => p.Stops s
  | .send r next, s, Q =>
    p.Allows s (.sent r) ∧ ∀ reply, p.Allows (p.after s (.sent r)) (.received r reply) ∧
      (next reply).Keeps (p.after (p.after s (.sent r)) (.received r reply)) Q
  | .now next, s, Q => ∀ t, p.Allows s (.looked t) ∧ (next t).Keeps (p.after s (.looked t)) Q
  | .memory next, s, Q =>
    ∀ t, p.Allows s (.recalled t) ∧ (next t).Keeps (p.after s (.recalled t)) Q
  | .remember t next, s, Q =>
    p.Allows s (.remembered t) ∧ next.Keeps (p.after s (.remembered t)) Q

variable {p}

section Steps

variable {s : σ}

theorem keeps_pure {a : α} {Q : α → σ → Prop} (h : Q a s) : (pure a : Exchange α).Keeps p s Q :=
  h

theorem keeps_request {r : Request} {Q : Reply → σ → Prop} (hsent : p.Allows s (.sent r))
    (hreceived : ∀ reply, p.Allows (p.after s (.sent r)) (.received r reply) ∧
      Q reply (p.after (p.after s (.sent r)) (.received r reply))) :
    (request r).Keeps p s Q :=
  ⟨hsent, hreceived⟩

theorem keeps_clock {Q : Nat → σ → Prop}
    (h : ∀ t, p.Allows s (.looked t) ∧ Q t (p.after s (.looked t))) : clock.Keeps p s Q :=
  h

theorem keeps_token {Q : Option Token → σ → Prop}
    (h : ∀ t, p.Allows s (.recalled t) ∧ Q t (p.after s (.recalled t))) : token.Keeps p s Q :=
  h

theorem keeps_setToken {t : Option Token} {Q : Unit → σ → Prop}
    (hallows : p.Allows s (.remembered t)) (hafter : Q () (p.after s (.remembered t))) :
    (setToken t).Keeps p s Q :=
  ⟨hallows, hafter⟩

end Steps

/-- **Going on with the result of an exchange keeps to the protocol if both parts do.** -/
theorem Keeps.bind {e : Exchange α} {f : α → Exchange β} {s : σ} {Q : α → σ → Prop}
    {R : β → σ → Prop} (h : e.Keeps p s Q) (hf : ∀ a s', Q a s' → (f a).Keeps p s' R) :
    (e >>= f).Keeps p s R := by
  show (e.bind f).Keeps p s R
  induction e generalizing s with
  | done a => exact hf a s h
  | brokenOff => exact h
  | send r next ih => exact ⟨h.1, fun reply => ⟨(h.2 reply).1, ih reply (h.2 reply).2⟩⟩
  | now next ih => exact fun t => ⟨(h t).1, ih t (h t).2⟩
  | memory next ih => exact fun t => ⟨(h t).1, ih t (h t).2⟩
  | remember t next ih => exact ⟨h.1, ih h.2⟩

/-- A result in another form. -/
theorem Keeps.map {e : Exchange α} {f : α → β} {s : σ} {Q : α → σ → Prop} {R : β → σ → Prop}
    (h : e.Keeps p s Q) (hf : ∀ a s', Q a s' → R (f a) s') :
    (e >>= fun a => Pure.pure (f a)).Keeps p s R :=
  h.bind fun a s' hq => keeps_pure (hf a s' hq)

end Exchange

namespace Stance

variable {α σ : Type} {p : Protocol σ}

/-- Going on from the stance keeps to the protocol. -/
def Keeps (p : Protocol σ) : Stance α → σ → Prop
  | .ready e, s => e.Keeps p s fun _ => p.Stops
  | .waiting r next, s => ∀ reply, p.Allows s (.received r reply) ∧
      (next reply).Keeps p (p.after s (.received r reply)) fun _ => p.Stops

variable {stance : Stance α} {s : σ} {cache : Option Token} {reply : Reply} {time : Nat}

/-- **One step**: it is allowed, what is recalled is the shared token, and going on from there keeps
to the protocol. -/
theorem Keeps.step {next : Stance α} {act : Act} (h : stance.Keeps p s)
    (hstep : stance.step cache reply time = some (act, next)) :
    p.Allows s act ∧ next.Keeps p (p.after s act) ∧ ∀ t, act = .recalled t → t = cache := by
  cases stance with
  | ready e =>
      cases e with
      | done a => cases hstep
      | brokenOff => cases hstep
      | send r next =>
          cases hstep
          exact ⟨h.1, h.2, fun t ht => by cases ht⟩
      | now next =>
          cases hstep
          exact ⟨(h time).1, (h time).2, fun t ht => by cases ht⟩
      | memory next =>
          cases hstep
          exact ⟨(h cache).1, (h cache).2, fun t ht => by cases ht; rfl⟩
      | remember t next =>
          cases hstep
          exact ⟨h.1, h.2, fun t ht => by cases ht⟩
  | waiting r next =>
      cases hstep
      exact ⟨(h reply).1, (h reply).2, fun t ht => by cases ht⟩

/-- An exchange that may not stop where it is has a next step. -/
theorem Keeps.stops_of_step_eq_none (h : stance.Keeps p s)
    (hstep : stance.step cache reply time = none) : p.Stops s := by
  cases stance with
  | ready e =>
      cases e with
      | done a => exact h
      | brokenOff => exact h
      | _ => cases hstep
  | waiting r next => cases hstep

end Stance

/-! ## Lawful logs -/

namespace Crowd

variable {ι α σ : Type} [DecidableEq ι]

/-- The log is lawful, and the crowd is where the log says. -/
structure Fits (p : Protocol σ) (x : Log ι × Crowd ι α) : Prop where
  lawful : x.1.Lawful p
  cache_eq : x.2.cache = x.1.cache
  keeps : ∀ i, (x.2.stance i).Keeps p (x.1.stage p i)

variable {p : Protocol σ} {x : Log ι × Crowd ι α}

theorem Fits.advance (h : Fits p x) (c : Choice ι) : Fits p (advance x c) := by
  rw [Crowd.advance]
  split
  · exact h
  · rename_i act next hstep
    obtain ⟨hallows, hnext, hrecalled⟩ := (h.keeps c.turn).step hstep
    refine ⟨h.lawful.snoc hallows fun t ht => (hrecalled t ht).trans h.cache_eq, ?_, ?_⟩
    · rw [Log.cache_snoc, h.cache_eq]
    · intro i
      show (Function.update x.2.stance c.turn next i).Keeps p
        (Log.stage p (x.1 ++ [(c.turn, act)]) i)
      -- Only the exchange whose turn it was has moved.
      by_cases hi : i = c.turn
      · subst hi
        rw [Function.update_self, Log.stage_snoc_self]
        exact hnext
      · rw [Function.update_of_ne hi, Log.stage_snoc_of_ne p _ _ hi]
        exact h.keeps i

/-- **Exchanges that keep to a protocol have a lawful log, in whatever order they take their
steps.** -/
theorem fits_run {e : ι → Exchange α} (h : ∀ i, (e i).Keeps p p.start fun _ => p.Stops)
    (schedule : List (Choice ι)) : Fits p (run e schedule) := by
  induction schedule using List.reverseRecOn with
  | nil => exact ⟨.nil, rfl, h⟩
  | append_singleton schedule c ih =>
      rw [run_snoc]
      exact ih.advance c

/-- An exchange that may not stop where it is takes a step at its turn. -/
theorem Fits.exists_step (h : Fits p x) {c : Choice ι} (hstop : ¬ p.Stops (x.1.stage p c.turn)) :
    ∃ act, (Crowd.advance x c).1 = x.1 ++ [(c.turn, act)] ∧ p.Allows (x.1.stage p c.turn) act := by
  cases hstep : (x.2.stance c.turn).step x.2.cache c.reply c.time with
  | none => exact absurd ((h.keeps c.turn).stops_of_step_eq_none hstep) hstop
  | some y =>
      refine ⟨y.1, ?_, ((h.keeps c.turn).step hstep).1⟩
      rw [Crowd.advance, hstep]

end Crowd

end ScimLookup
