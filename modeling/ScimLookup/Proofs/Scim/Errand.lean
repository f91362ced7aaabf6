import ScimLookup.Proofs.Scim.Ending

/-!
# Errands

An errand is done by lookups, one after another. Which lookup comes next may depend on what the ones
before have found, and the first one that fails ends the errand. How an errand ends is therefore
told by its lookups (`Errand.Course.failed_iff`, `Errand.Course.brokenOff_iff`,
`Errand.Course.succeeded_iff`), and so is the status of an answer that refuses it: it is that of the
last answer of all (`Errand.Course.lastStatus?_eq_iff`).
-/

set_option autoImplicit false

namespace ScimLookup

open Exchange

/-! ## Lookups -/

/-- A call that looks something up. -/
structure Quest where
  call : Call
  operation : Operation
  isLookup : call.operation? = some operation

namespace Quest

/-- Look up a user. -/
def user (id : String) : Quest := ⟨.getUser id, .getUser, rfl⟩

/-- Look up a group. -/
def group (id : String) : Quest := ⟨.getGroup id, .getGroup, rfl⟩

/-- List users. -/
def users (method : ListMethod) (filter : Filter) (page : Page) : Quest :=
  ⟨.listUsers method filter page, .listUsers, rfl⟩

/-- List groups. -/
def groups (method : ListMethod) (filter : Filter) (page : Page) : Quest :=
  ⟨.listGroups method filter page, .listGroups, rfl⟩

/-- What is found. -/
abbrev Result (q : Quest) : Type := q.call.Result

/-- Look it up. -/
def ask (c : Client) (q : Quest) : Exchange (Except ClientError q.Result) := q.call.ask c

end Quest

/-- A lookup that a client begins in a world. -/
structure Attempt where
  client : Client
  quest : Quest
  world : World

/-! ## Attempts -/

namespace Attempt

variable {a : Attempt}

/-- How the lookup ends. -/
def outcome (a : Attempt) : Outcome (Except ClientError a.quest.Result) :=
  ((a.quest.ask a.client).run a.world).1

/-- What happens. -/
def journal (a : Attempt) : Journal := (a.quest.ask a.client).journal a.world

/-- The lookup ends in the way of a result. -/
def Ends (a : Attempt) (result : Except RequestError a.quest.Result) : Prop :=
  a.quest.call.Ends a.client a.world a.journal result

/-- The lookup ends in the way of a failure. -/
def Fails (a : Attempt) (cause : RequestError) : Prop := a.Ends (.error cause)

/-- The lookup is granted a token that outlasts the clock. -/
def Overruns (a : Attempt) : Prop :=
  ∃ g, a.journal.grants = [g] ∧ ¬ (g.tokenAt a.journal.lastReading).Fits

theorem settled (a : Attempt) : a.quest.call.IsSettled a.client a.quest.operation a.world :=
  Call.isSettled_of_lookup a.quest.isLookup a.client a.world

theorem outcome_of_runs {c : Client} {quest : Quest} {w w' : World} {j : Journal}
    {o : Outcome (Except ClientError quest.Result)} (h : (quest.ask c).Runs w o j w') :
    (Attempt.mk c quest w).outcome = o :=
  congrArg Prod.fst h.run_eq

/-- How a lookup ends is told by what happens. -/
theorem outcome_eq_ok_iff {v : a.quest.Result} : a.outcome = some (.ok v) ↔ a.Ends (.ok v) :=
  a.settled.ends_iff (.ok v)

theorem outcome_eq_error_iff {cause : RequestError} :
    a.outcome = some (.error (.failed a.quest.operation cause)) ↔ a.Fails cause :=
  a.settled.ends_iff (.error cause)

theorem outcome_eq_none_iff : a.outcome = none ↔ a.Overruns := a.settled.breaks_iff

/-- A lookup that finds something does not fail. -/
theorem not_fails_of_found {v : a.quest.Result} (h : a.outcome = some (.ok v))
    (cause : RequestError) : ¬ a.Fails cause := by
  rw [← outcome_eq_error_iff, h]
  intro hsame
  cases hsame

/-- A lookup fails for one cause only. -/
theorem fails_iff_of_failed {operation : Operation} {cause cause' : RequestError}
    (h : a.outcome = some (.error (.failed operation cause))) : a.Fails cause' ↔ cause = cause' := by
  rw [← outcome_eq_error_iff, h]
  obtain ⟨cause'', hnamed⟩ := a.settled.named _ h
  cases hnamed
  simp

theorem not_fails_of_none (h : a.outcome = none) (cause : RequestError) : ¬ a.Fails cause := by
  rw [← outcome_eq_error_iff, h]
  intro hsame
  cases hsame

end Attempt

/-! ## The last answer -/

namespace Reply

/-- The status of an answer. -/
def status? : Reply → Option Status
  | .answer a => some a.status
  | _ => none

end Reply

namespace Journal

/-- The status of the last answer to a lookup. -/
def lastStatus? (j : Journal) : Option Status :=
  (j.lookupTraffic.filterMap (·.2.status?)).getLast?

theorem lookupTraffic_append (j k : Journal) :
    (j ++ k).lookupTraffic = j.lookupTraffic ++ k.lookupTraffic := by
  rw [lookupTraffic, traffic_append, List.filter_append]
  rfl

theorem lastStatus?_append (j k : Journal) :
    (j ++ k).lastStatus? = k.lastStatus?.or j.lastStatus? := by
  rw [lastStatus?, lookupTraffic_append, List.filterMap_append, List.getLast?_append]
  rfl

end Journal

/-- **An answer with another status than the expected one is the last one exactly where the lookup
fails for it.** -/
theorem Attempt.lastStatus?_eq_iff {a : Attempt} {status : Status} (hstatus : status ≠ .ok) :
    a.journal.lastStatus? = some status ↔ ∃ body, a.Fails (.unexpectedStatus status body) := by
  constructor
  · intro hlast
    -- There is one lookup at most, so that its answer is the last one.
    have honce : a.journal.lookupTraffic.length ≤ 1 := a.settled.once.2
    rw [Journal.lastStatus?] at hlast
    match hsent : a.journal.lookupTraffic with
    | [] =>
        rw [hsent] at hlast
        cases hlast
    | [(q, .lost)] =>
        rw [hsent] at hlast
        cases hlast
    | [(q, .late)] =>
        rw [hsent] at hlast
        cases hlast
    | [(q, .answer answer)] =>
        rw [hsent] at hlast
        cases hlast
        exact ⟨_, .refused hsent hstatus⟩
    | x :: y :: rest =>
        rw [hsent] at honce
        simp at honce
  · rintro ⟨body, hfails⟩
    cases hfails with
    | refused hsent _ =>
        rw [Journal.lastStatus?]
        rw [show a.journal.lookupTraffic = _ from hsent]
        rfl

/-! ## Errands -/

/-- Lookups, one after another, each of which may depend on what the ones before have found. -/
inductive Errand (α : Type) where
  | done (a : α)
  | look (quest : Quest) (next : quest.Result → Errand α)

namespace Errand

variable {α β : Type} {c : Client}

/-- Do an errand. The first lookup that fails ends it. -/
def run (c : Client) : Errand α → Exchange (Except ClientError α)
  | .done a => pure (.ok a)
  | .look quest next => quest.ask c >>= fun
    | .error e => pure (.error e)
    | .ok v => (next v).run c

/-- Put what comes of an errand into another form. -/
def map (f : α → β) : Errand α → Errand β
  | .done a => .done (f a)
  | .look quest next => .look quest fun v => (next v).map f

/-- The lookups that an errand comes to. -/
def attempts (c : Client) : Errand α → World → List Attempt
  | .done _, _ => []
  | .look quest next, w =>
    ⟨c, quest, w⟩ ::
      match (quest.ask c).run w with
      | (some (.ok v), w') => (next v).attempts c w'
      | _ => []

theorem run_map (f : α → β) (e : Errand α) :
    (e.map f).run c = e.run c >>= fun found => pure (found.map f) := by
  induction e with
  | done a => rfl
  | look quest next ih =>
      rw [map, run, run, bind_bind]
      refine congrArg (Exchange.bind _) (funext fun result => ?_)
      cases result with
      | error e => rfl
      | ok v => exact ih v

/-- The ways in which an errand goes: the lookups that it comes to, what happens, and how it
ends. -/
inductive Course (c : Client) :
    Errand α → World → List Attempt → Journal → Outcome (Except ClientError α) → Prop
  /-- Nothing is left to look up. -/
  | done {a : α} {w : World} : Course c (.done a) w [] [] (some (.ok a))
  /-- A lookup finds what it is for, and the errand goes on with that. -/
  | found {quest : Quest} {next : quest.Result → Errand α} {w w' : World} {v : quest.Result}
      {j js : Journal} {as : List Attempt} {o : Outcome (Except ClientError α)} :
      (quest.ask c).Runs w (some (.ok v)) j w' → Course c (next v) w' as js o →
      Course c (.look quest next) w (⟨c, quest, w⟩ :: as) (j ++ js) o
  /-- A lookup fails. -/
  | failed {quest : Quest} {next : quest.Result → Errand α} {w w' : World} {cause : RequestError}
      {j : Journal} :
      (quest.ask c).Runs w (some (.error (.failed quest.operation cause))) j w' →
      Course c (.look quest next) w [⟨c, quest, w⟩] j
        (some (.error (.failed quest.operation cause)))
  /-- A lookup breaks off. -/
  | brokenOff {quest : Quest} {next : quest.Result → Errand α} {w w' : World} {j : Journal} :
      (quest.ask c).Runs w none j w' → Course c (.look quest next) w [⟨c, quest, w⟩] j none

/-- **Every errand goes one of the courses.** -/
theorem course_of_runs {e : Errand α} {w w' : World} {j : Journal}
    {o : Outcome (Except ClientError α)} (h : (e.run c).Runs w o j w') :
    Course c e w (e.attempts c w) j o := by
  induction e generalizing w j with
  | done a =>
      obtain ⟨rfl, rfl, -⟩ := runs_pure_iff.1 h
      exact .done
  | look quest next ih =>
      rw [run] at h
      rw [attempts]
      -- What comes of the first lookup decides how the errand goes on.
      rcases runs_bind_iff.1 h with ⟨result, j₁, w₁, j₂, hask, hnext, rfl⟩ | ⟨rfl, hask⟩
      · rw [hask.run_eq]
        cases result with
        | error e =>
            obtain ⟨rfl, rfl, -⟩ := runs_pure_iff.1 hnext
            obtain ⟨cause, rfl⟩ :=
              (Attempt.mk c quest w).settled.named e (Attempt.outcome_of_runs hask)
            rw [List.append_nil]
            exact .failed hask
        | ok v => exact .found hask (ih v hnext)
      · rw [hask.run_eq]
        exact .brokenOff hask

section Courses

variable {e : Errand α} {w : World} {as : List Attempt} {j : Journal}
  {o : Outcome (Except ClientError α)}

namespace Course

/-- What happens is what happens in the lookups. -/
theorem journal_eq (h : Course c e w as j o) : j = as.flatMap Attempt.journal := by
  induction h with
  | done => rfl
  | found hask _ ih => rw [List.flatMap_cons, ← ih, Attempt.journal, hask.journal_eq]
  | failed hask => rw [List.flatMap_singleton, Attempt.journal, hask.journal_eq]
  | brokenOff hask => rw [List.flatMap_singleton, Attempt.journal, hask.journal_eq]

/-- **An errand fails exactly where one of its lookups does**, for the same cause. -/
theorem failed_iff (h : Course c e w as j o) (cause : RequestError) :
    (∃ operation, o = some (.error (.failed operation cause))) ↔ ∃ a ∈ as, a.Fails cause := by
  induction h with
  | done => simp
  | @found quest next w w' v j js as o hask _ ih =>
      have hfound := Attempt.outcome_of_runs hask
      simp only [ih, List.mem_cons, exists_eq_or_imp]
      rw [or_iff_right (Attempt.not_fails_of_found hfound cause)]
  | @failed quest next w w' cause' j hask =>
      have hfailed := Attempt.outcome_of_runs hask
      simp [Attempt.fails_iff_of_failed hfailed]
  | @brokenOff quest next w w' j hask =>
      have hnone := Attempt.outcome_of_runs hask
      simp [Attempt.not_fails_of_none hnone]

/-- **An errand breaks off exactly where one of its lookups does.** -/
theorem brokenOff_iff (h : Course c e w as j o) : o = none ↔ ∃ a ∈ as, a.Overruns := by
  simp only [← Attempt.outcome_eq_none_iff]
  induction h with
  | done => simp
  | @found quest next w w' v j js as o hask _ ih =>
      have hfound := Attempt.outcome_of_runs hask
      simp [ih, hfound]
  | @failed quest next w w' cause j hask =>
      have hfailed := Attempt.outcome_of_runs hask
      simp [hfailed]
  | @brokenOff quest next w w' j hask =>
      have hnone := Attempt.outcome_of_runs hask
      simp [hnone]

/-- **An errand succeeds exactly where all of its lookups find what they are for.** -/
theorem succeeded_iff (h : Course c e w as j o) :
    (∃ found, o = some (.ok found)) ↔ ∀ a ∈ as, ∃ v, a.Ends (.ok v) := by
  simp only [← Attempt.outcome_eq_ok_iff]
  induction h with
  | done => simp
  | @found quest next w w' v j js as o hask _ ih =>
      have hfound := Attempt.outcome_of_runs hask
      rw [ih, List.forall_mem_cons]
      simp [hfound]
  | @failed quest next w w' cause j hask =>
      have hfailed := Attempt.outcome_of_runs hask
      simp [hfailed]
  | @brokenOff quest next w w' j hask =>
      have hnone := Attempt.outcome_of_runs hask
      simp [hnone]

/-- An errand fails under the name of a lookup. -/
theorem named (h : Course c e w as j o) {error : ClientError} (ho : o = some (.error error)) :
    ∃ operation cause, error = .failed operation cause := by
  induction h with
  | done => cases ho
  | found _ _ ih => exact ih ho
  | failed _ =>
      cases ho
      exact ⟨_, _, rfl⟩
  | brokenOff _ => cases ho

/-- **An answer with another status than the expected one is the last one exactly where the errand
fails for it.** -/
theorem lastStatus?_eq_iff (h : Course c e w as j o) {status : Status} (hstatus : status ≠ .ok) :
    j.lastStatus? = some status ↔
      ∃ operation body, o = some (.error (.failed operation (.unexpectedStatus status body))) := by
  have hlast : j.lastStatus? = some status ↔
      ∃ body, ∃ a ∈ as, a.Fails (.unexpectedStatus status body) := by
    induction h with
    | done => simp [Journal.lastStatus?, Journal.lookupTraffic]
    | @found quest next w w' v j js as o hask _ ih =>
        -- What is found comes with the expected status, so it is some later answer.
        have hfound := Attempt.outcome_of_runs hask
        have hfirst : (Attempt.mk c quest w).journal = j := hask.journal_eq
        have hother : j.lastStatus? ≠ some status := by
          rw [← hfirst, ne_eq, Attempt.lastStatus?_eq_iff hstatus, not_exists]
          exact fun body => Attempt.not_fails_of_found hfound _
        simp only [List.mem_cons, exists_eq_or_imp, Attempt.not_fails_of_found hfound, false_or]
        rw [← ih, Journal.lastStatus?_append]
        cases js.lastStatus? with
        | none => simp [hother]
        | some status' => simp
    | @failed quest next w w' cause j hask =>
        have hfirst : (Attempt.mk c quest w).journal = j := hask.journal_eq
        simp [← hfirst, Attempt.lastStatus?_eq_iff hstatus]
    | @brokenOff quest next w w' j hask =>
        have hfirst : (Attempt.mk c quest w).journal = j := hask.journal_eq
        simp [← hfirst, Attempt.lastStatus?_eq_iff hstatus]
  rw [hlast]
  constructor
  · rintro ⟨body, hfails⟩
    obtain ⟨operation, ho⟩ := (h.failed_iff _).2 hfails
    exact ⟨operation, body, ho⟩
  · rintro ⟨operation, body, ho⟩
    exact ⟨body, (h.failed_iff _).1 ⟨operation, ho⟩⟩

end Course

end Courses

end Errand

end ScimLookup
