import ScimLookup.Proofs.Command.Venture

/-!
# What the exit code tells

The program ends with an exit code that tells what happened. `Output.Tells` says this of each code,
in terms of what was found in the surroundings and of what was sent and came back: of the lookups
that the task came to (`Task.attempts`) and of the status of the last answer. The main result
(`exitCode_tells`) is that every run on words that come to a task ends so, unless it breaks off, and
that is where a lookup was granted a token that outlasts the clock.
-/

set_option autoImplicit false

namespace ScimLookup

/-- The world in which a program starts: nothing has happened, and the server has its replies
ready. -/
def World.atStart (reaches : Url → Bool) (replies : List Reply) (clock : Nat → Nat) : World :=
  { World.fresh reaches clock with replies := replies }

namespace Attempt

/-- No token can be had for the lookup. -/
def IsTokenless (a : Attempt) : Prop := ∃ fault, a.Fails (.auth fault)

/-- The lookup cannot be built or sent, gets no answer, or an expected answer that cannot be read to
its end. -/
def IsUnserved (a : Attempt) : Prop := ∃ fault, a.Fails (.transport fault)

/-- The answer is expected, and holds no document of the wanted kind. -/
def IsUndecodable (a : Attempt) : Prop := ∃ fault, a.Fails (.invalidResponse fault)

/-- The lookup is a search without a filter. -/
def IsUnfiltered (a : Attempt) : Prop := a.Fails .noFilter

/-- A status for which a lookup fails is not the expected one. -/
theorem ne_ok_of_fails {a : Attempt} {status : Status} {body : String}
    (h : a.Fails (.unexpectedStatus status body)) : status ≠ .ok := by
  cases h with
  | refused _ hstatus => exact hstatus

end Attempt

namespace Errand

/-- An errand of one lookup ends as that lookup. -/
theorem outcome_look_done {β : Type} (c : Client) (quest : Quest) (f : quest.Result → β)
    (w : World) :
    (((Errand.look quest fun v => .done (f v)).run c).run w).1 =
      (Attempt.mk c quest w).outcome.map fun found => found.map f := by
  rw [run, Attempt.outcome, Exchange.run_bind]
  rcases (quest.ask c).run w with ⟨_ | (e | v), w'⟩
  · rfl
  · rfl
  · rfl

end Errand

/-! ## Exit codes of causes -/

namespace RequestError

variable {cause : RequestError}

/-- A status leads to one of three exit codes. -/
theorem exitCode_unexpectedStatus (status : Status) (body : String) :
    ((unexpectedStatus status body).exitCode = 2 ∧ (status.code = 401 ∨ status.code = 403)) ∨
      ((unexpectedStatus status body).exitCode = 5 ∧ 500 ≤ status.code) ∨
      ((unexpectedStatus status body).exitCode = 4 ∧ status.code ≠ 401 ∧ status.code ≠ 403 ∧
        status.code < 500) := by
  rw [exitCode]
  split
  · exact Or.inl ⟨rfl, ‹_›⟩
  · split
    · exact Or.inr (Or.inl ⟨rfl, ‹_›⟩)
    · exact Or.inr (Or.inr ⟨rfl, by omega⟩)

theorem exitCode_eq_two_iff : cause.exitCode = 2 ↔ (∃ fault, cause = .auth fault) ∨
    ∃ status body, cause = .unexpectedStatus status body ∧
      (status.code = 401 ∨ status.code = 403) := by
  cases cause with
  | unexpectedStatus status body =>
      have hcode := exitCode_unexpectedStatus status body
      simp
      omega
  | _ => simp [exitCode]

theorem exitCode_eq_three_iff : cause.exitCode = 3 ↔ ∃ fault, cause = .transport fault := by
  cases cause with
  | unexpectedStatus status body =>
      have hcode := exitCode_unexpectedStatus status body
      simp
      omega
  | _ => simp [exitCode]

theorem exitCode_eq_four_iff : cause.exitCode = 4 ↔
    (cause = .noFilter ∨ ∃ fault, cause = .invalidResponse fault) ∨
      ∃ status body, cause = .unexpectedStatus status body ∧ status.code ≠ 401 ∧
        status.code ≠ 403 ∧ status.code < 500 := by
  cases cause with
  | unexpectedStatus status body =>
      have hcode := exitCode_unexpectedStatus status body
      simp
      omega
  | _ => simp [exitCode]

theorem exitCode_eq_five_iff : cause.exitCode = 5 ↔
    ∃ status body, cause = .unexpectedStatus status body ∧ 500 ≤ status.code := by
  cases cause with
  | unexpectedStatus status body =>
      have hcode := exitCode_unexpectedStatus status body
      simp
      omega
  | _ => simp [exitCode]

theorem exitCode_bounds (cause : RequestError) : 2 ≤ cause.exitCode ∧ cause.exitCode ≤ 5 := by
  cases cause with
  | unexpectedStatus status body =>
      have hcode := exitCode_unexpectedStatus status body
      omega
  | _ => simp [exitCode]

end RequestError

namespace Command

open Exchange

namespace Task

/-- The lookups that a task comes to. -/
def attempts (s : Surroundings) (task : Task) (w : World) : List Attempt :=
  match task.venture s with
  | .error _ => []
  | .ok v => v.errand.attempts v.client w

/-- No group has the name that is asked for, or several have it. -/
inductive IsMiscounted (s : Surroundings) (w : World) : Task → Prop
  | intro {i : Inquiry} {name yaml : String} {serving : Serving} {client : Client}
      {groups : Listing Group} :
      i.subject = .group name → s.text i.config = .ok yaml → Serving.ofYaml s yaml = .ok serving →
      (Service.mk (some serving)).prepare .getGroup (some name) (.ofEntries i.context) =
        .ok (serving, client) →
      (Attempt.mk client (.groups serving.params.listMethod
        (.equals serving.params.groupAttribute name) .unbounded) w).Ends (.ok groups) →
      groups.resources.length ≠ 1 → IsMiscounted s w (.inquire i)

end Task

/-- What the output of a task tells: what happened, by its exit code. -/
structure Output.Tells (out : Output) (s : Surroundings) (task : Task) (w : World) (j : Journal) :
    Prop where
  /-- 0: the task has a result, and that is what is printed. -/
  succeeded_iff : out.exitCode = 0 ↔ ((task.run s).run w).1 = some (.ok out.result)
  /-- Nothing is printed as a result otherwise. -/
  silent : out.exitCode ≠ 0 → out.result = ""
  /-- 1: what the task is configured with does not serve, -/
  unready_iff : out.exitCode = 1 ↔ task.IsUnready s
  /-- and then nothing was sent. -/
  unsent : out.exitCode = 1 → j.traffic = []
  /-- 2: a token could not be had, or the last answer refused the credentials. -/
  denied_iff : out.exitCode = 2 ↔ (∃ a ∈ task.attempts s w, a.IsTokenless) ∨
    ∃ status, j.lastStatus? = some status ∧ (status.code = 401 ∨ status.code = 403)
  /-- 3: a lookup was not served. -/
  unserved_iff : out.exitCode = 3 ↔ ∃ a ∈ task.attempts s w, a.IsUnserved
  /-- 4: what is asked for is refused, or not found, or the server has no use for it. -/
  unfound_iff : out.exitCode = 4 ↔ task.IsRefused s ∨ task.IsMiscounted s w ∨
    (∃ a ∈ task.attempts s w, a.IsUnfiltered ∨ a.IsUndecodable) ∨
    ∃ status, j.lastStatus? = some status ∧ status ≠ .ok ∧ status.code ≠ 401 ∧
      status.code ≠ 403 ∧ status.code < 500
  /-- 5: the last answer was that the server failed. -/
  broken_iff : out.exitCode = 5 ↔ ∃ status, j.lastStatus? = some status ∧ 500 ≤ status.code
  /-- There is no other code. -/
  within : out.exitCode ≤ 5

/-! ## What is found and not told -/

namespace Inquiry

theorem single_eq_error_iff (name : String) (groups : List Group) :
    (∃ e, Service.single name groups = .error e) ↔ groups.length ≠ 1 := by
  match groups with
  | [] => simp [Service.single]
  | [group] => simp [Service.single]
  | group :: group' :: rest => simp [Service.single]

/-- What an inquiry comes to with the service that it has passed the checks of. -/
theorem ventureFor_eq_ok {i : Inquiry} {serving : Serving} {v : Venture}
    (h : i.ventureFor serving = .ok v) :
    ∃ client, (Service.mk (some serving)).prepare i.resolution.question i.resolution.subject
        i.resolution.context = .ok (serving, client) ∧
      v = {
        client := client
        Finding := i.resolution.Finding
        errand := i.resolution.errand serving
        report := fun e => .service (.lookup i.resolution.question e)
        print := fun found => ((i.resolution.read found).mapError .service).map i.output } := by
  rw [ventureFor] at h
  cases hready : (Service.mk (some serving)).prepare i.resolution.question i.resolution.subject
      i.resolution.context with
  | error e =>
      rw [hready] at h
      cases h
  | ok ready =>
      obtain ⟨serving', client⟩ := ready
      obtain ⟨hserving, -⟩ := Service.prepare_ok hready
      cases hserving
      rw [hready] at h
      cases h
      exact ⟨client, rfl, rfl⟩

/-- The errand for a group by its name finds something that is not told exactly where it finds not
exactly one group. -/
theorem exists_print_eq_error_iff {i : Inquiry} {name : String} (hname : i.subject = .group name)
    {serving : Serving} {client : Client} {w : World} :
    (∃ found e, (((i.resolution.errand serving).run client).run w).1 = some (.ok found) ∧
        i.resolution.read found = .error e) ↔
      ∃ groups : Listing Group, (Attempt.mk client (.groups serving.params.listMethod
          (.equals serving.params.groupAttribute name) .unbounded) w).Ends (.ok groups) ∧
        groups.resources.length ≠ 1 := by
  obtain ⟨config, context, json, subject⟩ := i
  cases hname
  let attempt : Attempt := ⟨client, .groups serving.params.listMethod
    (.equals serving.params.groupAttribute name) .unbounded, w⟩
  have hrun : ((((resolution ⟨config, context, json, .group name⟩).errand serving).run client).run
      w).1 = attempt.outcome.map fun found => found.map fun groups : Listing Group =>
        groups.resources :=
    Errand.outcome_look_done client attempt.quest (fun groups : Listing Group => groups.resources) w
  have hread : ∀ groups : List Group,
      (∃ e, (resolution ⟨config, context, json, .group name⟩).read groups = .error e) ↔
        groups.length ≠ 1 := by
    intro groups
    refine Iff.trans ?_ (single_eq_error_iff name groups)
    show (∃ e, (Service.single name groups).map _ = .error e) ↔ _
    cases Service.single name groups with
    | error e => simp [Except.map]
    | ok response => simp [Except.map]
  constructor
  · rintro ⟨found, e, hfound, he⟩
    rw [hrun] at hfound
    obtain ⟨result, houtcome, hmap⟩ := Option.map_eq_some_iff.1 hfound
    cases result with
    | error e' => cases hmap
    | ok groups =>
        cases hmap
        exact ⟨groups, Attempt.outcome_eq_ok_iff.1 houtcome, (hread groups.resources).1 ⟨e, he⟩⟩
  · rintro ⟨groups, hends, hlength⟩
    obtain ⟨e, he⟩ := (hread groups.resources).2 hlength
    refine ⟨groups.resources, e, ?_, he⟩
    rw [hrun, show attempt.outcome = some (.ok groups) from Attempt.outcome_eq_ok_iff.2 hends]
    rfl

/-- Only what is found for the name of a group is not told. -/
theorem exists_name_of_read {i : Inquiry} {found : i.resolution.Finding} {e : ServiceError}
    (h : i.resolution.read found = .error e) : ∃ name, i.subject = .group name := by
  obtain ⟨config, context, json, subject⟩ := i
  cases subject with
  | group name => exact ⟨name, rfl⟩
  | _ => cases h

end Inquiry

/-- The venture of a lookup reports errors of the client, and tells whatever is found. -/
theorem Lookup.ventureFor_facts {l : Lookup} {c : Client} {v : Venture}
    (h : l.ventureFor c = .ok v) :
    v.report = .client ∧ ∀ found e, v.print found ≠ .error e := by
  have hquest : ∀ quest print, (Venture.ofQuest c quest print).report = .client ∧
      ∀ found e, (Venture.ofQuest c quest print).print found ≠ .error e :=
    fun quest print => ⟨rfl, fun found e => nofun⟩
  have hone : ∀ f : String → Venture, l.requiredId.map f = .ok v → ∃ id, f id = v := by
    intro f hf
    cases hid : l.requiredId with
    | error e' =>
        rw [hid] at hf
        cases hf
    | ok id =>
        rw [hid] at hf
        cases hf
        exact ⟨id, rfl⟩
  rw [ventureFor] at h
  cases haction : l.action with
  | getUser =>
      simp only [haction] at h
      obtain ⟨id, rfl⟩ := hone _ h
      exact hquest _ _
  | listUsers =>
      simp only [haction] at h
      cases h
      exact hquest _ _
  | getGroup =>
      simp only [haction] at h
      obtain ⟨id, rfl⟩ := hone _ h
      exact hquest _ _
  | listGroups =>
      simp only [haction] at h
      cases h
      exact hquest _ _

namespace Task

variable {s : Surroundings} {task : Task} {w : World}

/-- A task that goes on its errand for a question has read its configuration. -/
theorem venture_inquire_eq_ok {i : Inquiry} {v : Venture} (h : (inquire i).venture s = .ok v) :
    ∃ yaml serving, s.text i.config = .ok yaml ∧ Serving.ofYaml s yaml = .ok serving ∧
      i.ventureFor serving = .ok v := by
  cases hyaml : s.text i.config with
  | error fault =>
      rw [venture, hyaml] at h
      cases h
  | ok yaml =>
      rw [venture_inquire hyaml] at h
      cases hserving : Serving.ofYaml s yaml with
      | error e =>
          rw [hserving] at h
          cases h
      | ok serving =>
          rw [hserving] at h
          exact ⟨yaml, serving, rfl, hserving, h⟩

/-- A task that goes on its errand for a lookup has a client. -/
theorem venture_look_eq_ok {l : Lookup} {v : Venture} (h : (look l).venture s = .ok v) :
    ∃ c, l.ventureFor c = .ok v := by
  rw [venture] at h
  cases hc : l.client s with
  | error e =>
      rw [hc] at h
      cases h
  | ok c =>
      rw [hc] at h
      exact ⟨c, h⟩

/-- A task that goes on its errand is ready and not refused. -/
theorem passes_of_venture {v : Venture} (h : task.venture s = .ok v) :
    ¬ task.IsUnready s ∧ ¬ task.IsRefused s := by
  rw [isUnready_iff, isRefused_iff, h]
  constructor
  · rintro ⟨e, he, -⟩
    cases he
  · rintro ⟨e, he, -⟩
    cases he

/-- A failed lookup leads to its own exit code. -/
theorem exitCode_report {v : Venture} (h : task.venture s = .ok v) (e : ClientError) :
    (v.report e).exitCode = e.exitCode := by
  cases task with
  | look l =>
      obtain ⟨c, hventure⟩ := venture_look_eq_ok h
      rw [(Lookup.ventureFor_facts hventure).1]
      rfl
  | inquire i =>
      obtain ⟨yaml, serving, -, -, hventure⟩ := venture_inquire_eq_ok h
      obtain ⟨client, -, rfl⟩ := Inquiry.ventureFor_eq_ok hventure
      rfl

/-- What is found and not told leads to the exit code for what is asked. -/
theorem exitCode_of_print {v : Venture} (h : task.venture s = .ok v) {found : v.Finding}
    {e : CommandError} (hprint : v.print found = .error e) : e.exitCode = 4 := by
  cases task with
  | look l =>
      obtain ⟨c, hventure⟩ := venture_look_eq_ok h
      exact absurd hprint ((Lookup.ventureFor_facts hventure).2 found e)
  | inquire i =>
      obtain ⟨yaml, serving, -, -, hventure⟩ := venture_inquire_eq_ok h
      obtain ⟨client, -, rfl⟩ := Inquiry.ventureFor_eq_ok hventure
      cases hread : i.resolution.read found with
      | error e' =>
          simp only [hread] at hprint
          cases hprint
          cases i.resolution.isMiscount_of_read found e' hread with
          | none name => rfl
          | several name => rfl
      | ok answer =>
          simp only [hread] at hprint
          cases hprint

/-- **Something is found and not told exactly where not exactly one group has the name that is asked
for.** -/
theorem isMiscounted_iff :
    IsMiscounted s w task ↔ ∃ v found e, task.venture s = .ok v ∧
      ((v.errand.run v.client).run w).1 = some (.ok found) ∧ v.print found = .error e := by
  constructor
  · rintro ⟨hsubject, hyaml, hserving, hready, hends, hlength⟩
    rename_i i name yaml serving client groups
    obtain ⟨found, e, hfound, hread⟩ :=
      (Inquiry.exists_print_eq_error_iff hsubject).2 ⟨groups, hends, hlength⟩
    obtain ⟨hquestion, htext, hcontext⟩ := i.resolution_facts
    rw [hsubject] at hquestion htext
    have hready' : (Service.mk (some serving)).prepare i.resolution.question i.resolution.subject
        i.resolution.context = .ok (serving, client) := by
      rw [hquestion, htext, hcontext]
      exact hready
    have hventure : (inquire i).venture s = _ := venture_inquire_ok hyaml hserving
    rw [Inquiry.ventureFor, hready'] at hventure
    refine ⟨_, found, .service e, hventure, hfound, ?_⟩
    simp only [hread]
    rfl
  · rintro ⟨v, found, e, hventure, hfound, hprint⟩
    cases task with
    | look l =>
        obtain ⟨c, hventure⟩ := venture_look_eq_ok hventure
        exact absurd hprint ((Lookup.ventureFor_facts hventure).2 found e)
    | inquire i =>
        obtain ⟨yaml, serving, hyaml, hserving, hventure⟩ := venture_inquire_eq_ok hventure
        obtain ⟨client, hready, rfl⟩ := Inquiry.ventureFor_eq_ok hventure
        cases hread : i.resolution.read found with
        | error e' =>
            obtain ⟨name, hname⟩ := Inquiry.exists_name_of_read hread
            obtain ⟨groups, hends, hlength⟩ :=
              (Inquiry.exists_print_eq_error_iff hname).1 ⟨found, e', hfound, hread⟩
            obtain ⟨hquestion, htext, hcontext⟩ := i.resolution_facts
            rw [hquestion, htext, hcontext, hname] at hready
            exact .intro hname hyaml hserving hready hends hlength
        | ok answer =>
            simp only [hread] at hprint
            cases hprint

end Task

/-! ## Outputs -/

namespace Output

/-- The output for what comes of a task. -/
def ofOutcome (coloured : Bool) : Except CommandError String → Output
  | .ok text => ofResult text
  | .error e => ofError coloured e

section Tells

variable {s : Surroundings} {task : Task} {w : World} {j : Journal}

/-- The cause for which a lookup of a task has failed, if one has: no other has failed, and the
last answer has another status than the expected one only for that cause. -/
structure FailsFor (s : Surroundings) (task : Task) (w : World) (j : Journal)
    (cause? : Option RequestError) : Prop where
  fails_iff : ∀ cause, (∃ a ∈ task.attempts s w, a.Fails cause) ↔ cause? = some cause
  last_iff : ∀ status, status ≠ .ok →
    (j.lastStatus? = some status ↔ ∃ body, cause? = some (.unexpectedStatus status body))

namespace FailsFor

variable {cause? : Option RequestError} (h : FailsFor s task w j cause?)

include h

/-- A kind of failures. -/
theorem exists_iff {β : Type} (f : β → RequestError) :
    (∃ a ∈ task.attempts s w, ∃ x, a.Fails (f x)) ↔ ∃ x, cause? = some (f x) := by
  simp only [← h.fails_iff]
  constructor
  · rintro ⟨a, ha, x, hfails⟩
    exact ⟨x, a, ha, hfails⟩
  · rintro ⟨x, a, ha, hfails⟩
    exact ⟨a, ha, x, hfails⟩

/-- A kind of answers. -/
theorem exists_last_iff {p : Status → Prop} (hp : ∀ status, p status → status ≠ .ok) :
    (∃ status, j.lastStatus? = some status ∧ p status) ↔
      ∃ status body, cause? = some (.unexpectedStatus status body) ∧ p status := by
  constructor
  · rintro ⟨status, hlast, hstatus⟩
    obtain ⟨body, hcause⟩ := (h.last_iff status (hp status hstatus)).1 hlast
    exact ⟨status, body, hcause, hstatus⟩
  · rintro ⟨status, body, hcause, hstatus⟩
    exact ⟨status, (h.last_iff status (hp status hstatus)).2 ⟨body, hcause⟩, hstatus⟩

theorem denied_iff : ((∃ a ∈ task.attempts s w, a.IsTokenless) ∨
    ∃ status, j.lastStatus? = some status ∧ (status.code = 401 ∨ status.code = 403)) ↔
      ∃ cause, cause? = some cause ∧ cause.exitCode = 2 := by
  simp only [Attempt.IsTokenless, h.exists_iff RequestError.auth]
  rw [h.exists_last_iff (by rintro status hcode rfl; simp [Status.ok] at hcode)]
  simp only [RequestError.exitCode_eq_two_iff]
  cases cause? with
  | none => simp
  | some cause => simp

theorem unserved_iff : (∃ a ∈ task.attempts s w, a.IsUnserved) ↔
    ∃ cause, cause? = some cause ∧ cause.exitCode = 3 := by
  simp only [Attempt.IsUnserved, h.exists_iff RequestError.transport]
  simp only [RequestError.exitCode_eq_three_iff]
  cases cause? with
  | none => simp
  | some cause => simp

theorem unfound_iff : ((∃ a ∈ task.attempts s w, a.IsUnfiltered ∨ a.IsUndecodable) ∨
    ∃ status, j.lastStatus? = some status ∧ status ≠ .ok ∧ status.code ≠ 401 ∧
      status.code ≠ 403 ∧ status.code < 500) ↔
      ∃ cause, cause? = some cause ∧ cause.exitCode = 4 := by
  have hkinds : (∃ a ∈ task.attempts s w, a.IsUnfiltered ∨ a.IsUndecodable) ↔
      cause? = some .noFilter ∨ ∃ fault, cause? = some (.invalidResponse fault) := by
    rw [← h.fails_iff, ← h.exists_iff]
    simp only [and_or_left, exists_or]
    rfl
  have hother : ∀ status body, cause? = some (.unexpectedStatus status body) → status ≠ .ok := by
    intro status body hcause
    obtain ⟨a, -, hfails⟩ := (h.fails_iff _).2 hcause
    exact Attempt.ne_ok_of_fails hfails
  rw [hkinds, h.exists_last_iff fun status hstatus => hstatus.1]
  simp only [RequestError.exitCode_eq_four_iff]
  constructor
  · rintro ((hcause | ⟨fault, hcause⟩) | ⟨status, body, hcause, -, hcode⟩)
    · exact ⟨_, hcause, Or.inl (Or.inl rfl)⟩
    · exact ⟨_, hcause, Or.inl (Or.inr ⟨fault, rfl⟩)⟩
    · exact ⟨_, hcause, Or.inr ⟨status, body, rfl, hcode⟩⟩
  · rintro ⟨cause, hcause, (rfl | ⟨fault, rfl⟩) | ⟨status, body, rfl, hcode⟩⟩
    · exact Or.inl (Or.inl hcause)
    · exact Or.inl (Or.inr ⟨fault, hcause⟩)
    · exact Or.inr ⟨status, body, hcause, hother status body hcause, hcode⟩

theorem broken_iff : (∃ status, j.lastStatus? = some status ∧ 500 ≤ status.code) ↔
    ∃ cause, cause? = some cause ∧ cause.exitCode = 5 := by
  rw [h.exists_last_iff (by rintro status hcode rfl; simp [Status.ok] at hcode)]
  simp only [RequestError.exitCode_eq_five_iff]
  cases cause? with
  | none => simp
  | some cause => simp

end FailsFor

/-- What the output of a task tells where a lookup has failed. -/
theorem tells_of_failed {out : Output} {cause : RequestError} {v : Venture}
    (h : FailsFor s task w j (some cause)) (hventure : task.venture s = .ok v)
    (hfound : ¬ ∃ found, ((v.errand.run v.client).run w).1 = some (.ok found))
    (hcode : out.exitCode = cause.exitCode) (hresult : out.result = "")
    (herror : ((task.run s).run w).1 ≠ some (.ok out.result)) : out.Tells s task w j := by
  have hbounds := cause.exitCode_bounds
  obtain ⟨hready, hasked⟩ := Task.passes_of_venture hventure
  have hcounted : ¬ task.IsMiscounted s w := by
    rw [Task.isMiscounted_iff]
    rintro ⟨v', found, e, hventure', hrun, -⟩
    rw [hventure] at hventure'
    cases hventure'
    exact hfound ⟨found, hrun⟩
  have hcauses : ∀ n, out.exitCode = n ↔ ∃ cause', some cause = some cause' ∧ cause'.exitCode = n := by
    intro n
    simp [hcode]
  refine
    { succeeded_iff := ⟨fun hzero => by omega, fun hok => absurd hok herror⟩
      silent := fun _ => hresult
      unready_iff := ⟨fun hone => by omega, fun hunready => absurd hunready hready⟩
      unsent := fun hone => by omega
      denied_iff := (hcauses 2).trans h.denied_iff.symm
      unserved_iff := (hcauses 3).trans h.unserved_iff.symm
      unfound_iff := ?_
      broken_iff := (hcauses 5).trans h.broken_iff.symm
      within := by omega }
  rw [or_iff_right hasked, or_iff_right hcounted]
  exact (hcauses 4).trans h.unfound_iff.symm

/-- What the output of a task tells where no lookup has failed. -/
theorem tells_of_unfailed {out : Output} (h : FailsFor s task w j none)
    (hcode : out.exitCode = 0 ∨ out.exitCode = 1 ∨ out.exitCode = 4)
    (hsucceeded : out.exitCode = 0 ↔ ((task.run s).run w).1 = some (.ok out.result))
    (hsilent : out.exitCode ≠ 0 → out.result = "") (hunready : out.exitCode = 1 ↔ task.IsUnready s)
    (hunsent : out.exitCode = 1 → j.traffic = [])
    (hunfound : out.exitCode = 4 ↔ task.IsRefused s ∨ task.IsMiscounted s w) :
    out.Tells s task w j := by
  have hnone : ∀ n, ¬ ∃ cause, none = some cause ∧ RequestError.exitCode cause = n := by simp
  refine
    { succeeded_iff := hsucceeded
      silent := hsilent
      unready_iff := hunready
      unsent := hunsent
      denied_iff := iff_of_false (by omega) (mt h.denied_iff.1 (hnone 2))
      unserved_iff := iff_of_false (by omega) (mt h.unserved_iff.1 (hnone 3))
      unfound_iff := ?_
      broken_iff := iff_of_false (by omega) (mt h.broken_iff.1 (hnone 5))
      within := by omega }
  rw [hunfound, ← or_assoc, or_iff_left (mt h.unfound_iff.1 (hnone 4))]

/-- The cause for which an errand has failed, if it has. -/
def causeOf {α : Type} (o : Outcome (Except ClientError α)) : Option RequestError :=
  match o with
  | some (.error e) => e.cause?
  | _ => none

theorem causeOf_eq_some_iff {α : Type} {o : Outcome (Except ClientError α)} {cause : RequestError} :
    causeOf o = some cause ↔ ∃ operation, o = some (.error (.failed operation cause)) := by
  rcases o with _ | (e | a)
  · simp [causeOf]
  · cases e with
    | failed operation cause' => simp [causeOf, ClientError.cause?]
    | _ => simp [causeOf, ClientError.cause?]
  · simp [causeOf]

theorem lastStatus?_of_traffic {j' : Journal} (h : j.traffic = j'.traffic) :
    j.lastStatus? = j'.lastStatus? := by
  rw [Journal.lastStatus?, Journal.lookupTraffic, h]
  rfl

/-- A task fails for the cause for which its errand does. -/
theorem failsFor_of_course {v : Venture} {j' : Journal} {o : Outcome (Except ClientError v.Finding)}
    (hventure : task.venture s = .ok v)
    (h : Errand.Course v.client v.errand w (v.errand.attempts v.client w) j' o)
    (htraffic : j.traffic = j'.traffic) : FailsFor s task w j (causeOf o) := by
  have hattempts : task.attempts s w = v.errand.attempts v.client w := by
    rw [Task.attempts, hventure]
  refine ⟨?_, ?_⟩
  · intro cause
    rw [hattempts, ← h.failed_iff cause, causeOf_eq_some_iff]
  · intro status hstatus
    rw [lastStatus?_of_traffic htraffic, h.lastStatus?_eq_iff hstatus]
    simp only [causeOf_eq_some_iff]
    exact exists_comm

/-- A task that does not go on its errand has no failed lookup. -/
theorem failsFor_of_error {e : CommandError} (hventure : task.venture s = .error e)
    (htraffic : j.traffic = []) : FailsFor s task w j none := by
  have hattempts : task.attempts s w = [] := by
    rw [Task.attempts, hventure]
  refine ⟨?_, ?_⟩
  · simp [hattempts]
  · intro status _
    simp [Journal.lastStatus?, Journal.lookupTraffic, htraffic]

/-- What is told by the output of a task that does not go on its errand. -/
theorem tells_of_error {coloured : Bool} {e : CommandError} (hventure : task.venture s = .error e)
    (houtcome : ((task.run s).run w).1 = some (.error e)) (htraffic : j.traffic = []) :
    (ofError coloured e).Tells s task w j := by
  have hcounted : ¬ task.IsMiscounted s w := by
    rw [Task.isMiscounted_iff, hventure]
    simp
  have hkind := Task.kind_of_venture hventure
  have hcode : (ofError coloured e).exitCode = e.exitCode := rfl
  refine tells_of_unfailed (failsFor_of_error hventure htraffic) (by omega) ?_ (fun _ => rfl) ?_
    (fun _ => htraffic) ?_
  · rw [houtcome]
    simp
    omega
  · rw [Task.isUnready_iff, hventure]
    simp [hcode]
  · rw [or_iff_left hcounted, Task.isRefused_iff, hventure]
    simp [hcode]

/-- What is told by the output of a task that has found what its errand is for. -/
theorem tells_of_found {coloured : Bool} {v : Venture} {found : v.Finding}
    (hventure : task.venture s = .ok v)
    (hfound : ((v.errand.run v.client).run w).1 = some (.ok found))
    (houtcome : ((task.run s).run w).1 = some (v.print found)) (h : FailsFor s task w j none) :
    (ofOutcome coloured (v.print found)).Tells s task w j := by
  obtain ⟨hready, hasked⟩ := Task.passes_of_venture hventure
  have hcounted : task.IsMiscounted s w ↔ ∃ e, v.print found = .error e := by
    rw [Task.isMiscounted_iff]
    constructor
    · rintro ⟨v', found', e, hventure', hfound', hprint⟩
      rw [hventure] at hventure'
      cases hventure'
      rw [hfound] at hfound'
      cases hfound'
      exact ⟨e, hprint⟩
    · rintro ⟨e, hprint⟩
      exact ⟨v, found, e, hventure, hfound, hprint⟩
  cases hprint : v.print found with
  | error e =>
      have hcode : (ofOutcome coloured (.error e)).exitCode = 4 :=
        Task.exitCode_of_print hventure hprint
      rw [hprint] at houtcome hcounted
      refine tells_of_unfailed h (by omega) ?_ (fun _ => rfl)
        ⟨fun hone => by omega, fun hunready => absurd hunready hready⟩ (fun hone => by omega)
        ⟨fun _ => Or.inr (hcounted.2 ⟨e, rfl⟩), fun _ => hcode⟩
      rw [houtcome, hcode]
      simp
  | ok text =>
      have hcode : (ofOutcome coloured (.ok text)).exitCode = 0 := rfl
      rw [hprint] at houtcome hcounted
      refine tells_of_unfailed h (by omega) ⟨fun _ => houtcome, fun _ => hcode⟩
        (fun hne => absurd hcode hne) ⟨fun hone => by omega, fun hunready => absurd hunready hready⟩
        (fun hone => by omega) ?_
      rw [or_iff_right hasked, hcounted, hcode]
      simp

end Tells

end Output

/-! ## Runs -/

/-- What holds of the run of a task in the world in which the program starts. -/
structure Task.RunTells (s : Surroundings) (task : Task) (w : World) (run : Exchange Output) : Prop
    where
  /-- The output tells what happened. -/
  output : ∀ out, (run.run w).1 = some out → out.Tells s task w (run.journal w)
  /-- There is none exactly where a lookup is granted a token that outlasts the clock. -/
  brokenOff_iff : (run.run w).1 = none ↔ ∃ a ∈ task.attempts s w, a.Overruns

theorem Invocation.run_eq (s : Surroundings) (i : Invocation) :
    i.run s = i.task.run s >>= fun result => pure (Output.ofOutcome (coloured s) result) := by
  rw [run]
  refine congrArg (Exchange.bind _) (funext fun result => ?_)
  cases result with
  | error e => rfl
  | ok text => rfl

/-- A task that goes on its errand, as the errand goes. -/
theorem Task.runTells_of_venture {s : Surroundings} {task : Task} {w w' : World} {v : Venture}
    {j j' : Journal} {o : Outcome (Except CommandError String)} (hventure : task.venture s = .ok v)
    (hrun : (task.run s).Runs w o j w') (hventured : v.run.Runs w o j' w')
    (htraffic : j.traffic = j'.traffic) (coloured : Bool) :
    (∀ result, o = some result → (Output.ofOutcome coloured result).Tells s task w j) ∧
      (o = none ↔ ∃ a ∈ task.attempts s w, a.Overruns) := by
  have houtcome : ((task.run s).run w).1 = o := congrArg Prod.fst hrun.run_eq
  have hattempts : task.attempts s w = v.errand.attempts v.client w := by
    rw [attempts, hventure]
  obtain ⟨o', herrand, rfl⟩ := runs_map_iff.1 hventured
  have hcourse := Errand.course_of_runs herrand
  have hended : ((v.errand.run v.client).run w).1 = o' := congrArg Prod.fst herrand.run_eq
  have hfails := Output.failsFor_of_course hventure hcourse htraffic
  refine ⟨?_, ?_⟩
  · intro result hresult
    obtain ⟨found, rfl, rfl⟩ := Option.map_eq_some_iff.1 hresult
    cases found with
    | error e =>
        obtain ⟨operation, cause, rfl⟩ := hcourse.named rfl
        refine Output.tells_of_failed hfails hventure ?_ ?_ rfl ?_
        · rw [hended]
          simp
        · exact exitCode_report hventure (.failed operation cause)
        · rw [houtcome]
          exact nofun
    | ok found => exact Output.tells_of_found hventure hended houtcome hfails
  · rw [Option.map_eq_none_iff, hcourse.brokenOff_iff, hattempts]

/-- A task that is run where no token is remembered. -/
theorem Task.runTells_of_runs {s : Surroundings} {task : Task} {w w' : World} {j : Journal}
    {o : Outcome (Except CommandError String)} (hcache : w.cache = none)
    (hrun : (task.run s).Runs w o j w') (coloured : Bool) :
    (∀ result, o = some result → (Output.ofOutcome coloured result).Tells s task w j) ∧
      (o = none ↔ ∃ a ∈ task.attempts s w, a.Overruns) := by
  rcases Task.runs hcache hrun with
    ⟨e, hventure, rfl, htraffic⟩ | ⟨v, j', hventure, hventured, htraffic⟩
  · refine ⟨?_, by simp [attempts, hventure]⟩
    intro result hresult
    cases hresult
    exact Output.tells_of_error hventure (congrArg Prod.fst hrun.run_eq) htraffic
  · exact runTells_of_venture hventure hrun hventured htraffic coloured

/-- **The exit code of the program tells what happened**, for all words that come to a task, in all
surroundings, and whatever the server does. -/
theorem exitCode_tells {s : Surroundings} {words : List String} {i : Invocation}
    (hwords : Invocation.ofWords s.env words = .ok i) (reaches : Url → Bool) (replies : List Reply)
    (clock : Nat → Nat) :
    i.task.RunTells s (.atStart reaches replies clock) (runWords s words) := by
  have hprogram : runWords s words =
      i.task.run s >>= fun result => pure (Output.ofOutcome (coloured s) result) := by
    rw [runWords, hwords, ← Invocation.run_eq]
  rw [hprogram]
  obtain ⟨o, hrun, ho⟩ := runs_map_iff.1 (runs_self
    (i.task.run s >>= fun result => pure (Output.ofOutcome (coloured s) result))
    (.atStart reaches replies clock))
  obtain ⟨houtput, hbroken⟩ := Task.runTells_of_runs rfl hrun (coloured s)
  refine ⟨?_, ?_⟩
  · intro out hout
    rw [ho] at hout
    obtain ⟨result, hresult, rfl⟩ := Option.map_eq_some_iff.1 hout
    exact houtput result hresult
  · rw [ho, Option.map_eq_none_iff]
    exact hbroken

/-- A search without a filter is told by its own exit code. -/
theorem exitCode_tells_unfiltered :
    let words := ["client", "--action", "list-users", "--host", "http://[::1]/scim", "--client-id",
      "id", "--client-secret", "secret", "--use-http-post"]
    let l : Lookup := {
      action := .listUsers
      host := "http://[::1]/scim"
      clientId := "id"
      secret := some "secret"
      certificate := none
      byPost := true
      id := none
      cursor := none
      count := 100
      displayName := none
      timeout := 30
      json := false }
    let w := World.atStart (fun _ => true) [] fun _ => 0
    Invocation.ofWords Surroundings.none.env words = .ok ⟨0, .look l⟩ ∧
      (Task.look l).RunTells .none w (runWords .none words) ∧
        ((runWords .none words).run w).1.map Output.exitCode = some 4 := by
  intro words l w
  have hwords : Invocation.ofWords Surroundings.none.env words = .ok ⟨0, .look l⟩ := by
    decide +kernel
  refine ⟨hwords, ?_, by decide +kernel⟩
  exact exitCode_tells hwords (fun _ => true) [] fun _ => 0

/-- A token is granted for the longest time that can be said, and the program ends without any of
its exit codes, although its words come to a task. -/
theorem runWords_of_endlessGrant :
    let yaml := "host: http://[::1]/scim\nauth:\n  type: oauth2\n  clientId: id\n" ++
      "  clientSecret: secret\n  tokenEndpoint: http://[::1]/token\n"
    let s : Surroundings := { Surroundings.none with file := fun _ => .ok (Utf8.ofString yaml) }
    let words := ["plugin", "--config", "plugin.yaml", "all-groups"]
    let grant := Utf8.ofString
      "\x7b\x22access_token\x22:\x22t\x22,\x22expires_in\x22:18446744073709551615\x7d"
    let groups := Utf8.ofString "\x7b\x22Resources\x22:[]\x7d"
    let w := World.atStart (fun _ => true)
      [.answer ⟨.ok, some grant⟩, .answer ⟨.ok, some groups⟩] fun _ => 0
    Invocation.ofWords s.env words = .ok ⟨0, .inquire ⟨"plugin.yaml", [], false, .allGroups⟩⟩ ∧
      ((runWords s words).run w).1 = none := by
  intro yaml s words grant groups w
  have hnone : ((runWords s words).run w).1.isNone = true := by decide +kernel
  exact ⟨by decide +kernel, Option.isNone_iff_eq_none.1 hnone⟩

end Command

end ScimLookup
