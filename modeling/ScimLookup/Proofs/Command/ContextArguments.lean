import ScimLookup.Command.Invocation
import ScimLookup.Proofs.Command.ContextEntry
import ScimLookup.Proofs.Command.Reading

/-!
# Arguments that make a context

The words of an inquiry carry arguments among other words (`Inquiry.Carries`). Taking the other
words is the same whatever entries were noted before, so words with arguments come to what the words
without them come to, and the arguments to the entries (`Inquiry.arrival?_of_carries`).

The main result (`arguments_make_context`) says of whole command lines which arguments are accepted,
and which context is handed over then.
-/

set_option autoImplicit false

namespace ScimLookup.Command

/-! ## Words that carry arguments -/

namespace Inquiry

/-- The option for an entry of the context. -/
def contextFlag : String := "--auth-context"

/-- The option for the path of the configuration. -/
def configFlag : String := "--config"

/-- The words that give an argument: it stands in one word with its option, or in a word of its own.
There it must not look like an option, for then it would be one and no argument. -/
inductive Gives (text : String) : List String → Prop where
  | joined : Gives text [contextFlag ++ "=" ++ text]
  | apart : Word.IsPlain text → Gives text [contextFlag, text]

/-- A word that gives no argument, needs no value behind it and does not end the options. -/
structure IsOther (word : String) : Prop where
  command : word ∉ commands
  divider : word ≠ "--"
  config : word ≠ configFlag
  apart : word ≠ contextFlag
  joined : ∀ text, word ≠ contextFlag ++ "=" ++ text

/-- The words of an inquiry, the arguments that they carry in front of the command below, and the
words without these. -/
inductive Carries : (words arguments bare : List String) → Prop where
  /-- A command below is named, and the words behind it belong to it. -/
  | command {word : String} (rest : List String) :
      word ∈ commands → Carries (word :: rest) [] (word :: rest)
  | argument {text : String} {front words arguments bare : List String} :
      Gives text front → Carries words arguments bare →
      Carries (front ++ words) (text :: arguments) bare
  /-- The path of the configuration in a word of its own. -/
  | config (path : String) {words arguments bare : List String} :
      Carries words arguments bare →
      Carries (configFlag :: path :: words) arguments (configFlag :: path :: bare)
  | other {word : String} {words arguments bare : List String} :
      IsOther word → Carries words arguments bare →
      Carries (word :: words) arguments (word :: bare)

/-- The words without the arguments carry none. -/
theorem Carries.bare {words arguments bare : List String} (h : Carries words arguments bare) :
    Carries bare [] bare := by
  induction h with
  | command rest hword => exact .command rest hword
  | argument _ _ ih => exact ih
  | config path _ ih => exact .config path ih
  | other hother _ ih => exact .other hother ih

/-! ## Taking the words -/

/-- A draft with other entries. -/
def Draft.withContext (es : List (String × String)) (d : Draft) : Draft :=
  { d with context := es }

/-- Note an argument behind the entries that are there, if it is an entry. -/
def Draft.note (d : Draft) (text : String) : Option Draft := do
  return d.withContext (d.context ++ [← entry? text])

/-- Note the path of the configuration, if there is none yet. -/
def Draft.setConfig (d : Draft) (path : String) : Option Draft := do
  return { d with config := ← once d.config (← path? path) }

end Inquiry

/-- A draft with other entries. -/
def Progress.withContext (es : List (String × String)) (p : Progress Inquiry.Draft) :
    Progress Inquiry.Draft :=
  { p with draft := p.draft.withContext es }

/-- A draft with other entries. -/
def Arrival.withContext (es : List (String × String)) (a : Arrival Inquiry.Draft) :
    Arrival Inquiry.Draft :=
  { a with draft := a.draft.withContext es }

namespace Inquiry

open Grammar Reading

theorem isPlain_of_mem_commands : ∀ word ∈ commands, Word.IsPlain word := by decide

theorem valued_context (name : String) : (grammar name).Valued "auth-context" Draft.note where
  option_eq := rfl
  own := by decide
  whole := by decide
  apart := isPlain_of_mem_commands

theorem valued_config (name : String) : (grammar name).Valued "config" Draft.setConfig where
  option_eq := rfl
  own := by decide
  whole := by decide
  apart := isPlain_of_mem_commands

theorem option_cases (other : String) :
    other = "config" ∨ other = "auth-context" ∨ other = "json" ∨ option other = none := by
  rw [option.eq_def]
  split
  · simp
  · simp
  · simp
  · simp

theorem setConfig_withContext (d : Draft) (path : String) (es : List (String × String)) :
    (d.withContext es).setConfig path = (d.setConfig path).map (Draft.withContext es) := by
  rw [Draft.setConfig, Draft.setConfig, Draft.withContext]
  cases path? path with
  | none => rfl
  | some path =>
      cases d.config with
      | none => rfl
      | some old => rfl

theorem flags_withContext (name : String) (es : List (String × String)) (cs : List Char)
    (p : Progress Draft) :
    (grammar name).flags (p.withContext es) cs =
      ((grammar name).flags p cs).map (Progress.withContext es) := by
  induction cs generalizing p with
  | nil => rfl
  | cons c cs ih =>
      rw [flags, flags]
      split
      · exact ih p.louder
      · split
        · rfl
        · split
          · rfl
          · rfl

/-- An option other than that of the context, with its value if it takes one, is taken alike
whatever the entries are. -/
theorem takeOption_withContext (name : String) {other : String} {value : Option String}
    (hcontext : other ≠ "auth-context") (hconfig : other = "config" → value ≠ none)
    (p : Progress Draft) :
    ∃ x : Except Halt (Progress Draft), ∀ es,
      (grammar name).takeOption (p.withContext es) other value =
        (x.map (Progress.withContext es)).map .ready := by
  rcases option_cases other with rfl | rfl | rfl | hnone
  · cases value with
    | none => exact (hconfig rfl rfl).elim
    | some path =>
        refine ⟨p.after (p.draft.setConfig path), fun es => ?_⟩
        rw [(valued_config name).takeOption_eq]
        show ((p.withContext es).after ((p.draft.withContext es).setConfig path)).map _ = _
        rw [setConfig_withContext]
        cases p.draft.setConfig path with
        | none => rfl
        | some d => rfl
  · exact (hcontext rfl).elim
  · cases value with
    | some text => exact ⟨.error .misuse, fun es => rfl⟩
    | none =>
        refine ⟨p.after ((onceTrue p.draft.json).map fun b => { p.draft with json := b }),
          fun es => ?_⟩
        show ((p.withContext es).after ((onceTrue p.draft.json).bind _)).map _ = _
        cases onceTrue p.draft.json with
        | none => rfl
        | some b => rfl
  · -- What is left are the options that every grammar has, and words that are none.
    have hgrammar : (grammar name).option other = none := hnone
    by_cases hverbose : other = "verbose" ∧ value = none
    · obtain ⟨rfl, rfl⟩ := hverbose
      exact ⟨.ok p.louder, fun es => rfl⟩
    · by_cases hversion : other = "version" ∧ value = none
      · obtain ⟨rfl, rfl⟩ := hversion
        exact ⟨.error (.version name), fun es => rfl⟩
      · by_cases hhelp : other = "help" ∧ value = none
        · obtain ⟨rfl, rfl⟩ := hhelp
          exact ⟨.error .help, fun es => rfl⟩
        · have hmisuse : ∀ p, (grammar name).takeOption p other value = .error .misuse := by
            intro p
            simp [takeOption, hverbose, hversion, hhelp, hgrammar]
          exact ⟨.error .misuse, fun es => hmisuse _⟩

/-- Any other word is taken alike whatever the entries are. -/
theorem take_withContext (name : String) {word : String} (h : IsOther word) (p : Progress Draft) :
    ∃ x : Except Halt (Progress Draft), ∀ es,
      (grammar name).take (.ready (p.withContext es)) word =
        (x.map (Progress.withContext es)).map .ready := by
  cases hword : Word.ofText word with
  | divider => exact (h.divider (Word.eq_of_ofText_divider hword)).elim
  | plain text =>
      refine ⟨.error .misuse, fun es => ?_⟩
      simp only [take, hword]
      rfl
  | flags cs =>
      refine ⟨(grammar name).flags p cs, fun es => ?_⟩
      simp only [take, hword, flags_withContext]
  | option other value =>
      have hspelled := Word.eq_of_ofText_option hword
      simp only [take, hword]
      apply takeOption_withContext
      · rintro rfl
        cases value with
        | none => exact h.apart hspelled
        | some text => exact h.joined text hspelled
      · rintro rfl rfl
        exact h.config hspelled

/-! ## Words with arguments and words without -/

section Arrivals

variable {name : String}

/-- An argument is noted behind the entries before it, if it is an entry. -/
theorem arrival?_of_gives {text : String} {front : List String} (h : Gives text front)
    (p : Progress Draft) (es : List (String × String)) (words : List String) :
    arrival? ((grammar name).read (.ready (p.withContext es)) (front ++ words)) =
      entry? text >>= fun e =>
        arrival? ((grammar name).read (.ready (p.withContext (es ++ [e]))) words) := by
  have hnote : ((p.withContext es).draft.note text).bind (fun d =>
      arrival? ((grammar name).read (.ready { p.withContext es with draft := d }) words)) =
      entry? text >>= fun e =>
        arrival? ((grammar name).read (.ready (p.withContext (es ++ [e]))) words) := by
    rw [Draft.note]
    cases entry? text with
    | none => rfl
    | some e => rfl
  rw [← hnote]
  cases h with
  | joined => exact (valued_context name).arrival?_joined _ text words
  | apart htext => exact (valued_context name).arrival?_apart _ htext words

/-- The path of the configuration is taken alike whatever the entries are. -/
theorem arrival?_config (name path : String) (p : Progress Draft) :
    ∃ x : Option (Progress Draft), ∀ es words,
      arrival? ((grammar name).read (.ready (p.withContext es)) (configFlag :: path :: words)) =
        x.bind fun p' => arrival? ((grammar name).read (.ready (p'.withContext es)) words) := by
  by_cases hpath : Word.IsPlain path
  · refine ⟨(p.draft.setConfig path).map fun d => { p with draft := d }, fun es words => ?_⟩
    refine ((valued_config name).arrival?_apart (p.withContext es) hpath words).trans ?_
    show ((p.draft.withContext es).setConfig path).bind _ = _
    rw [setConfig_withContext]
    cases p.draft.setConfig path with
    | none => rfl
    | some d => rfl
  · refine ⟨none, fun es words => ?_⟩
    exact (valued_config name).arrival?_alone (p.withContext es) (by simpa using hpath)

variable {words arguments bare : List String}

/-- **What words come to follows from the arguments that they carry and the words without these**:
each argument has to be an entry, and the entries come into the draft one after another. -/
theorem arrival?_of_carries (h : Carries words arguments bare) (p : Progress Draft)
    (es : List (String × String)) :
    arrival? ((grammar name).read (.ready (p.withContext es)) words) =
      (arrival? ((grammar name).read (.ready (p.withContext [])) bare)).bind fun a =>
        (arguments.mapM entry?).map fun new => a.withContext (es ++ new) := by
  -- Both readings go through the same phases, but for the entries: those noted already differ from
  -- word to word, so the induction is over all of them.
  induction h generalizing p es with
  | command rest hword =>
      rw [read_command hword, read_command hword]
      simp [arrival?, Arrival.withContext, Progress.withContext, Draft.withContext]
  | @argument text _ _ arguments _ hgives _ ih =>
      rw [arrival?_of_gives hgives, List.mapM_cons]
      cases entry? text with
      | none => simp
      | some e =>
          rw [Option.bind_eq_bind, Option.bind_some, ih]
          refine Option.bind_congr fun a _ => ?_
          cases arguments.mapM entry? with
          | none => rfl
          | some new => simp
  | config path _ ih =>
      obtain ⟨x, hx⟩ := arrival?_config name path p
      rw [hx, hx]
      cases x with
      | none => rfl
      | some p' => exact ih p' es
  | other hother _ ih =>
      obtain ⟨x, hx⟩ := take_withContext name hother p
      rw [read_cons_of_notMem hother.command, read_cons_of_notMem hother.command, hx, hx]
      cases x with
      | error halt => rfl
      | ok p' => exact ih p' es

/-- What is reached behind any other word is reached from the words behind it. -/
theorem IsOther.exists_after {word : String} (h : IsOther word) {p : Progress Draft}
    (harrival : (arrival? ((grammar name).read (.ready p) (word :: words))).isSome) :
    ∃ p', (arrival? ((grammar name).read (.ready p') words)).isSome := by
  obtain ⟨x, hx⟩ := take_withContext name h p
  have htake : (grammar name).take (.ready p) word = _ := hx p.draft.context
  rw [read_cons_of_notMem h.command, htake] at harrival
  cases x with
  | error halt => cases harrival
  | ok p' => exact ⟨_, harrival⟩

/-- Nothing is reached behind the divider. -/
theorem arrival?_dashes (p : Progress Draft) (words : List String) :
    arrival? ((grammar name).read (.ready p) ("--" :: words)) = none := by
  have hcommand : "--" ∉ (grammar name).commands := by
    show "--" ∉ commands
    decide
  rw [read_cons_of_notMem hcommand]
  exact arrival?_divided (fun _ _ => rfl) p words

/-- **Words that reach a command below carry arguments**, or none, among other words. -/
theorem exists_carries : ∀ (words : List String) (p : Progress Draft),
    (arrival? ((grammar name).read (.ready p) words)).isSome →
      ∃ arguments bare, Carries words arguments bare
  | [], _, h => by simp [Grammar.read, finish, arrival?] at h
  | word :: rest, p, h => by
      -- Behind each kind of word the command is still reached, so what follows carries arguments.
      by_cases hcommand : word ∈ commands
      · exact ⟨[], word :: rest, .command rest hcommand⟩
      by_cases hcontext : word = contextFlag
      · subst hcontext
        obtain ⟨text, rest, p', rfl, htext, hrest⟩ := (valued_context name).exists_after_alone h
        obtain ⟨arguments, bare, hcarries⟩ := exists_carries rest p' hrest
        exact ⟨text :: arguments, bare, .argument (.apart htext) hcarries⟩
      by_cases hconfig : word = configFlag
      · subst hconfig
        obtain ⟨path, rest, p', rfl, -, hrest⟩ := (valued_config name).exists_after_alone h
        obtain ⟨arguments, bare, hcarries⟩ := exists_carries rest p' hrest
        exact ⟨arguments, configFlag :: path :: bare, .config path hcarries⟩
      by_cases hjoined : ∃ text, word = contextFlag ++ "=" ++ text
      · obtain ⟨text, rfl⟩ := hjoined
        obtain ⟨p', hrest⟩ := (valued_context name).exists_after_joined h
        obtain ⟨arguments, bare, hcarries⟩ := exists_carries rest p' hrest
        exact ⟨text :: arguments, bare, .argument .joined hcarries⟩
      by_cases hdivider : word = "--"
      · subst hdivider
        rw [arrival?_dashes] at h
        cases h
      · have hother : IsOther word :=
          ⟨hcommand, hdivider, hconfig, hcontext, not_exists.1 hjoined⟩
        obtain ⟨p', hrest⟩ := hother.exists_after h
        obtain ⟨arguments, bare, hcarries⟩ := exists_carries rest p' hrest
        exact ⟨arguments, word :: bare, .other hother hcarries⟩

end Arrivals

/-! ## Inquiries with other entries -/

/-- An inquiry with other entries. -/
def withContext (es : List (String × String)) (i : Inquiry) : Inquiry :=
  { i with context := es }

theorem ofDraft?_withContext (env : String → Except VariableFault String) (d : Draft)
    (subject : Subject) (es : List (String × String)) :
    ofDraft? env (d.withContext es) subject = (ofDraft? env d subject).map (withContext es) := by
  rw [ofDraft?, ofDraft?, Draft.withContext]
  cases d.config with
  | some path => rfl
  | none =>
      cases variablePath? env with
      | none => rfl
      | some path => rfl

end Inquiry

/-! ## Command lines -/

namespace Invocation

open Inquiry Reading

/-- The name of the command for inquiries. -/
def inquiryName : String := programName ++ "-" ++ inquiryWord

/-- What the words of an inquiry come to. -/
def arrivalOf? (words : List String) : Option (Arrival Inquiry.Draft) :=
  arrival? ((Inquiry.grammar inquiryName).read (.ready ⟨0, {}⟩) words)

/-- The words of an inquiry are accepted where they reach a complete question and nothing is missing
from the draft. -/
theorem readInquiry_eq_ok_iff {env : String → Except VariableFault String} {verbosity : Nat}
    {words : List String} {invocation : Invocation} :
    readInquiry env verbosity words = .ok invocation ↔
      ∃ a inner subject i, arrivalOf? words = some a ∧
        readSubject inquiryName a.command a.rest = .ok (inner, some subject) ∧
        ofDraft? env a.draft subject = some i ∧
        invocation = ⟨verbosityOf verbosity (verbosityOf a.verbosity inner), .inquire i⟩ := by
  rw [readInquiry, arrivalOf?, ← inquiryName]
  constructor
  · intro h
    obtain ⟨reading, hreading, h⟩ := ok_of_bind h
    cases reading with
    | ended p => cases h
    | below outer draft word rest =>
        obtain ⟨⟨inner, subject⟩, hsubject, h⟩ := ok_of_bind h
        obtain ⟨i, hi, h⟩ := ok_of_bind h
        cases h
        -- A refused draft and a question that lacks its operand are misuses at this point.
        rcases draft with _ | d
        · cases hi
        · rcases subject with _ | subject
          · cases hi
          · refine ⟨⟨outer, d, word, rest⟩, inner, subject, i, ?_, hsubject, ?_, rfl⟩
            · rw [hreading]
              rfl
            · change orMisuse (ofDraft? env d subject) = .ok i at hi
              cases hdraft : ofDraft? env d subject with
              | none => simp [hdraft, orMisuse] at hi
              | some j => simpa [hdraft, orMisuse] using hi
  · rintro ⟨a, inner, subject, i, harrival, hsubject, hdraft, rfl⟩
    rw [arrival?_eq_some_iff.1 harrival]
    show (readSubject inquiryName a.command a.rest >>= _) = _
    rw [hsubject]
    show (orMisuse (ofDraft? env a.draft subject) >>= _) = _
    rw [hdraft]
    rfl

section Lines

variable {env : String → Except VariableFault String} {above words arguments bare : List String}

/-- Words without arguments leave the draft without entries. -/
theorem withContext_nil_of_arrivalOf? (h : Carries words arguments bare) {a : Arrival Draft}
    (ha : arrivalOf? bare = some a) : a.withContext [] = a := by
  have hbare : arrivalOf? bare = (arrivalOf? bare).bind fun a => some (a.withContext []) :=
    arrival?_of_carries h.bare ⟨0, {}⟩ []
  rw [ha, Option.bind_some] at hbare
  exact (Option.some_inj.1 hbare).symm

/-- The words of an inquiry are accepted if they are accepted without the arguments that they carry,
and each of these is an entry. The entries are then the context. -/
theorem readInquiry_of_carries (h : Carries words arguments bare) {verbosity v : Nat}
    {i : Inquiry} :
    readInquiry env verbosity words = .ok ⟨v, .inquire i⟩ ↔
      arguments.mapM entry? = some i.context ∧
        readInquiry env verbosity bare = .ok ⟨v, .inquire (i.withContext [])⟩ := by
  have hwords : arrivalOf? words = (arrivalOf? bare).bind fun a =>
      (arguments.mapM entry?).map fun es => a.withContext es :=
    arrival?_of_carries h ⟨0, {}⟩ []
  rw [readInquiry_eq_ok_iff, readInquiry_eq_ok_iff]
  constructor
  · rintro ⟨a, inner, subject, j, harrival, hsubject, hdraft, hj⟩
    cases hj
    rw [hwords] at harrival
    obtain ⟨b, hb, hmap⟩ := Option.bind_eq_some_iff.1 harrival
    obtain ⟨es, hes, rfl⟩ := Option.map_eq_some_iff.1 hmap
    change ofDraft? env (b.draft.withContext es) subject = some i at hdraft
    rw [ofDraft?_withContext] at hdraft
    obtain ⟨j, hj, rfl⟩ := Option.map_eq_some_iff.1 hdraft
    -- The inquiry is made of a draft without entries, so it has none itself.
    have hnone : j.withContext [] = j := by
      have hdraft' : b.draft.withContext [] = b.draft :=
        congrArg Arrival.draft (withContext_nil_of_arrivalOf? h hb)
      have hsame := hj
      rw [← hdraft', ofDraft?_withContext, hj] at hsame
      exact Option.some_inj.1 hsame
    refine ⟨hes, b, inner, subject, j, hb, hsubject, hj, ?_⟩
    show (⟨_, .inquire (j.withContext [])⟩ : Invocation) = _
    rw [hnone]
    rfl
  · rintro ⟨hes, a, inner, subject, j, ha, hsubject, hdraft, hj⟩
    cases hj
    refine ⟨a.withContext i.context, inner, subject, i, ?_, hsubject, ?_, rfl⟩
    · rw [hwords, ha, hes]
      rfl
    · show ofDraft? env (a.draft.withContext i.context) subject = some i
      rw [ofDraft?_withContext, hdraft]
      rfl

/-- The command line of an inquiry: its words behind those of the program. -/
def inquiryLine (above words : List String) : List String :=
  above ++ inquiryWord :: words

/-- What stands above the words of an inquiry decides without them whether they are reached. -/
theorem ofWords_inquiryLine (env : String → Except VariableFault String)
    (h : ∀ word ∈ above, word ∉ grammar.commands) :
    ∃ x : Except Halt Nat, ∀ words,
      ofWords env (inquiryLine above words) =
        x >>= fun verbosity => readInquiry env verbosity words := by
  have hword : inquiryWord ∈ grammar.commands := by decide
  have hread := fun words => Grammar.read_append h (.ready ⟨0, ()⟩) (inquiryWord :: words)
  cases hphase : above.foldlM grammar.take (.ready ⟨0, ()⟩) with
  | error halt =>
      refine ⟨.error halt, fun words => ?_⟩
      rw [ofWords, inquiryLine, hread, hphase]
      rfl
  | ok phase =>
      have hstart : (Phase.ready (⟨0, ()⟩ : Progress Unit)).IsOpen := trivial
      have hopen : phase.IsOpen :=
        invariant_of_foldlM (fun _ _ _ hp => Grammar.isOpen_of_take (fun _ => rfl) hp) hstart hphase
      -- The inquiry is reached where an option could stand, and is an operand behind the divider.
      cases phase with
      | ready p =>
          refine ⟨.ok p.verbosity, fun words => ?_⟩
          rw [ofWords, inquiryLine, hread, hphase]
          show (grammar.read (.ready p) (inquiryWord :: words) >>= _) = _
          rw [Grammar.read_command hword]
          rfl
      | divided p =>
          refine ⟨.error .misuse, fun words => ?_⟩
          rw [ofWords, inquiryLine, hread, hphase]
          rfl
      | awaiting p step => exact hopen.elim
      | refused p => exact hopen.elim

/-- The command line of an inquiry comes to an inquiry, and not before its question is reached. -/
theorem exists_inquiry_of_ofWords (habove : ∀ word ∈ above, word ∉ grammar.commands)
    {invocation : Invocation} (h : ofWords env (inquiryLine above words) = .ok invocation) :
    ∃ v i, invocation = ⟨v, .inquire i⟩ ∧ (arrivalOf? words).isSome := by
  obtain ⟨x, hx⟩ := ofWords_inquiryLine env habove
  rw [hx] at h
  obtain ⟨verbosity, -, hread⟩ := ok_of_bind h
  obtain ⟨a, inner, subject, i, ha, -, -, rfl⟩ := readInquiry_eq_ok_iff.1 hread
  exact ⟨_, i, rfl, by simp [ha]⟩

theorem ofWords_of_carries (habove : ∀ word ∈ above, word ∉ grammar.commands)
    (h : Carries words arguments bare) {v : Nat} {i : Inquiry} :
    ofWords env (inquiryLine above words) = .ok ⟨v, .inquire i⟩ ↔
      arguments.mapM entry? = some i.context ∧
        ofWords env (inquiryLine above bare) = .ok ⟨v, .inquire (i.withContext [])⟩ := by
  obtain ⟨x, hx⟩ := ofWords_inquiryLine env habove
  rw [hx, hx]
  cases x with
  | error halt =>
      constructor
      · rintro ⟨⟩
      · rintro ⟨-, ⟨⟩⟩
  | ok verbosity => exact readInquiry_of_carries h

end Lines

end Invocation

/-! ## What is handed over -/

section Handover

open Inquiry Invocation

/-- An inquiry hands a context over: whatever is configured from its file is asked with that. -/
def Inquiry.HandsOver (i : Inquiry) (c : Context) : Prop :=
  ∀ (s : Surroundings) (yaml : String), i.find s yaml = do
    match ← Service.unconfigured.configure s yaml with
    | (.error e, _) => return .error e
    | (.ok _, service) => Inquiry.ask service c i.subject

/-- **Arguments make the context.** Whatever else stands on a command line, the arguments on it are
accepted if each of them is an entry. The inquiry then hands over the context that holds what the
last argument with each key says, and is otherwise the one of the command line without arguments.
Every command line of an inquiry that is accepted carries its arguments, or none, in this way. -/
theorem arguments_make_context (env : String → Except VariableFault String) (above : List String)
    (habove : ∀ word ∈ above, word ∉ grammar.commands) :
    (∀ words invocation, ofWords env (inquiryLine above words) = .ok invocation →
      ∃ arguments bare, Carries words arguments bare) ∧
    ∀ words arguments bare, Carries words arguments bare →
      ((∃ invocation, ofWords env (inquiryLine above words) = .ok invocation) ↔
        (∃ invocation, ofWords env (inquiryLine above bare) = .ok invocation) ∧
          ∀ text ∈ arguments, IsEntry text) ∧
      ∀ invocation, ofWords env (inquiryLine above words) = .ok invocation →
        ∃ i c, invocation.task = .inquire i ∧ i.HandsOver c ∧ HoldsLast c arguments ∧
          ofWords env (inquiryLine above bare) =
            .ok { invocation with task := .inquire (i.withContext []) } := by
  refine ⟨fun words invocation hline => ?_, fun words arguments bare hcarries => ⟨⟨?_, ?_⟩, ?_⟩⟩
  · obtain ⟨_, _, _, harrival⟩ := exists_inquiry_of_ofWords habove hline
    exact exists_carries words _ harrival
  · rintro ⟨invocation, hline⟩
    obtain ⟨v, i, rfl, -⟩ := exists_inquiry_of_ofWords habove hline
    obtain ⟨hentries, hbare⟩ := (ofWords_of_carries habove hcarries).1 hline
    refine ⟨⟨_, hbare⟩, fun text htext => ?_⟩
    exact exists_entry?_eq_iff.1 ((mapM_eq_some_iff.1 hentries).1 text htext)
  · rintro ⟨⟨invocation, hbare⟩, hentries⟩
    obtain ⟨v, i, rfl, -⟩ := exists_inquiry_of_ofWords habove hbare
    have hall : arguments.mapM entry? = some (arguments.filterMap entry?) :=
      mapM_eq_some_iff.2 ⟨fun text htext => exists_entry?_eq_iff.2 (hentries text htext), rfl⟩
    -- The words without arguments come to an inquiry without entries, and that is all that differs.
    obtain ⟨-, hnone⟩ := (ofWords_of_carries habove hcarries.bare).1 hbare
    refine ⟨⟨v, .inquire (i.withContext (arguments.filterMap entry?))⟩, ?_⟩
    exact (ofWords_of_carries habove hcarries).2 ⟨hall, hnone⟩
  · intro invocation hline
    obtain ⟨v, i, rfl, -⟩ := exists_inquiry_of_ofWords habove hline
    obtain ⟨hentries, hbare⟩ := (ofWords_of_carries habove hcarries).1 hline
    obtain ⟨hall, hcontext⟩ := mapM_eq_some_iff.1 hentries
    refine ⟨i, .ofEntries i.context, rfl, fun s yaml => rfl, ?_, hbare⟩
    rw [hcontext]
    exact holdsLast_ofEntries fun text htext => exists_entry?_eq_iff.1 (hall text htext)

/-- Arguments with spaces and equals signs on both sides of the first one, two of them with the same
key but for spaces; and an argument with a blank key. -/
theorem arguments_make_context_spaced :
    let bare := ["--config", "plugin.yaml", "all-groups"]
    let words := ["--auth-context= tenant =a=b", "--config", "plugin.yaml", "--auth-context",
      "host= x=", "--auth-context", "tenant= c ", "all-groups"]
    Carries words [" tenant =a=b", "host= x=", "tenant= c "] bare ∧
      (∃ i c, ofWords (fun _ => .error .missing) (inquiryLine ["-v"] words) = .ok ⟨1, .inquire i⟩ ∧
        i.HandsOver c ∧ c.get? "tenant" = some " c " ∧ c.get? "host" = some " x=" ∧
        c.get? " tenant " = none) ∧
      ∀ invocation, ofWords (fun _ => .error .missing)
        (inquiryLine ["-v"] ("--auth-context= =b" :: bare)) ≠ .ok invocation := by
  intro bare words
  obtain ⟨-, hdecide⟩ := arguments_make_context (fun _ => .error .missing) ["-v"] (by decide)
  have hbare : ofWords (fun _ => .error .missing) (inquiryLine ["-v"] bare) =
      .ok ⟨1, .inquire ⟨"plugin.yaml", [], false, .allGroups⟩⟩ := rfl
  have htenant : Gives " tenant =a=b" ["--auth-context= tenant =a=b"] := .joined
  have hhost : Gives "host= x=" ["--auth-context", "host= x="] := .apart (by decide)
  have hlast : Gives "tenant= c " ["--auth-context", "tenant= c "] := .apart (by decide)
  have hblank : Gives " =b" ["--auth-context= =b"] := .joined
  have hgroups : Carries ["all-groups"] [] ["all-groups"] := .command [] (by decide)
  have hcarries : Carries words [" tenant =a=b", "host= x=", "tenant= c "] bare :=
    .argument htenant (.config "plugin.yaml" (.argument hhost (.argument hlast hgroups)))
  have htenantCut : IsCut " tenant =a=b" " tenant " "a=b" := ⟨rfl, by decide⟩
  have hhostCut : IsCut "host= x=" "host" " x=" := ⟨rfl, by decide⟩
  have hlastCut : IsCut "tenant= c " "tenant" " c " := ⟨rfl, by decide⟩
  have hblankCut : IsCut " =b" " " "b" := ⟨rfl, by decide⟩
  have hentries : ∀ text ∈ [" tenant =a=b", "host= x=", "tenant= c "], IsEntry text := by
    simp only [List.forall_mem_cons]
    exact ⟨⟨_, _, htenantCut, by decide⟩, ⟨_, _, hhostCut, by decide⟩,
      ⟨_, _, hlastCut, by decide⟩, List.forall_mem_nil _⟩
  obtain ⟨⟨-, haccepted⟩, hcontext⟩ := hdecide words _ bare hcarries
  obtain ⟨⟨v, task⟩, hline⟩ := haccepted ⟨⟨_, hbare⟩, hentries⟩
  obtain ⟨i, c, rfl, hover, hholds, hrest⟩ := hcontext _ hline
  refine ⟨hcarries, ⟨i, c, ?_, hover, ?_, ?_, ?_⟩, ?_⟩
  · -- The verbosity is that of the command line without arguments.
    obtain ⟨hv, -⟩ := Invocation.mk.inj (Except.ok.inj (hbare.symm.trans hrest))
    subst hv
    exact hline
  · exact (hholds.get?_eq_some_iff _ _).2
      ⟨[_, _], _, [], _, rfl, hlastCut, by decide, List.forall_mem_nil _⟩
  · refine (hholds.get?_eq_some_iff _ _).2 ⟨[_], _, [_], _, rfl, hhostCut, by decide, ?_⟩
    simp only [List.forall_mem_cons, hlastCut.hasKey_iff]
    exact ⟨by decide, List.forall_mem_nil _⟩
  · apply (hholds.get?_eq_none_iff _).2
    simp only [List.forall_mem_cons, htenantCut.hasKey_iff, hhostCut.hasKey_iff,
      hlastCut.hasKey_iff]
    exact ⟨by decide, by decide, by decide, List.forall_mem_nil _⟩
  · intro invocation hrefused
    have hcarries' := Carries.argument hblank (.config "plugin.yaml" hgroups)
    obtain ⟨-, hentry⟩ := (hdecide _ _ bare hcarries').1.1 ⟨invocation, hrefused⟩
    obtain ⟨front, back, hcut, hnonblank⟩ := hentry " =b" List.mem_cons_self
    obtain ⟨rfl, rfl⟩ := hcut.unique hblankCut
    exact absurd hnonblank (by decide)

end Handover

end ScimLookup.Command
