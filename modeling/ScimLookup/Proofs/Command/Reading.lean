import ScimLookup.Command.Grammar

/-!
# Words taken one after another

What a word is can be told from its spelling (`Word.ofText_option_value`), and only what is spelled
as an option is one (`Word.eq_of_ofText_option`). A grammar takes words from left to right, so words
in front that name no command lead to a phase in which the others are taken
(`Grammar.read_append`). What counts in the end is what is known where a command below is named
(`Reading.arrival?`): this is the same whether an option has its value in its own word or in the
next one (`Grammar.Valued.arrival?_joined`, `Grammar.Valued.arrival?_apart`).
-/

set_option autoImplicit false

namespace ScimLookup.Command

/-! ## Spelling -/

namespace Word

/-- A text that does not look like an option: a dash stands in front only if it stands alone. -/
def IsPlain (text : String) : Prop :=
  text.toList.head? = some '-' → text = "-"

instance (text : String) : Decidable (IsPlain text) :=
  inferInstanceAs (Decidable (_ → _))

theorem ofText_of_isPlain {text : String} (h : IsPlain text) : ofText text = .plain text := by
  have hone : text.toList.head? = some '-' → text.toList = ['-'] := by
    intro hdash
    rw [h hdash]
    rfl
  rw [ofText]
  split
  -- In the first three cases something follows a dash, and such a text is not plain.
  · simp_all
  · simp_all
  · simp_all
  · rfl

theorem isPlain_of_ofText {s text : String} (h : ofText s = .plain text) : IsPlain s := by
  rw [ofText] at h
  split at h
  · cases h
  · rw [ofOption] at h
    split at h
    · cases h
    · cases h
  · cases h
  · rename_i hflags
    intro hdash
    apply String.toList_injective
    cases hs : s.toList with
    | nil => simp [hs] at hdash
    | cons c cs =>
        obtain rfl : c = '-' := by simpa [hs] using hdash
        cases cs with
        | nil => rfl
        | cons d cs => exact (hflags d cs hs).elim

theorem eq_of_ofText_divider {s : String} (h : ofText s = .divider) : s = "--" := by
  rw [ofText] at h
  split at h
  · rename_i hs
    exact String.toList_injective hs
  · rw [ofOption] at h
    split at h
    · cases h
    · cases h
  · cases h
  · cases h

/-- An option is spelled by its name behind two dashes, with its value behind an equals sign. -/
theorem eq_of_ofText_option {s name : String} {value : Option String}
    (h : ofText s = .option name value) :
    s = "--" ++ name ++ (value.map ("=" ++ ·)).getD "" := by
  rw [ofText] at h
  split at h
  · cases h
  · rename_i cs _ hs
    apply String.toList_injective
    rw [ofOption] at h
    split at h
    · rename_i hcut
      cases h
      rw [hs, (cutAt?_eq_some_iff.1 hcut).1]
      simp
    · cases h
      simp [hs]
  · cases h
  · cases h

/-- What two dashes stand before is an option, unless nothing follows. -/
theorem ofText_of_dashes {s : String} {cs : List Char} (h : s.toList = '-' :: '-' :: cs)
    (hne : cs ≠ []) : ofText s = ofOption cs := by
  rw [ofText, h]
  cases cs with
  | nil => exact (hne rfl).elim
  | cons c cs => rfl

theorem ofText_option_alone {name : String} (h : '=' ∉ name.toList) (hne : name ≠ "") :
    ofText ("--" ++ name) = .option name none := by
  have hcut : cutAt? '=' name.toList = none := by
    cases hsome : cutAt? '=' name.toList with
    | none => rfl
    | some parts =>
        have hname := (cutAt?_eq_some_iff.1 hsome).1
        exact (h (by simp [hname])).elim
  have hdashes : ("--" ++ name).toList = '-' :: '-' :: name.toList := by simp
  rw [ofText_of_dashes hdashes (by simpa using hne), ofOption, hcut]
  simp

theorem ofText_option_value {name : String} (h : '=' ∉ name.toList) (value : String) :
    ofText ("--" ++ name ++ "=" ++ value) = .option name (some value) := by
  have hcut : cutAt? '=' (name.toList ++ '=' :: value.toList) = some (name, value) :=
    cutAt?_eq_some_iff.2 ⟨rfl, h⟩
  have hdashes : ("--" ++ name ++ "=" ++ value).toList =
      '-' :: '-' :: (name.toList ++ '=' :: value.toList) := by
    simp
  rw [ofText_of_dashes hdashes (by simp), ofOption, hcut]

end Word

/-! ## Reading -/

namespace Grammar

section Words

variable {δ : Type} {g : Grammar δ} {word : String}

/-- A word is taken unless it names a command where a command may stand. -/
theorem read_cons {phase : Phase δ} (h : word ∈ g.commands → beforeCommand? phase = none)
    (rest : List String) :
    g.read phase (word :: rest) = g.take phase word >>= fun phase => g.read phase rest := by
  -- The commands are looked up first. No command is reached here, also where the word names one.
  have hnone : (if g.commands.contains word then beforeCommand? phase else none) = none := by
    split
    · rename_i hmem
      exact h (by simpa using hmem)
    · rfl
  rw [read, hnone]
  cases g.take phase word with
  | error halt => rfl
  | ok phase => rfl

theorem read_cons_of_notMem (h : word ∉ g.commands) (phase : Phase δ) (rest : List String) :
    g.read phase (word :: rest) = g.take phase word >>= fun phase => g.read phase rest :=
  read_cons (fun hmem => (h hmem).elim) rest

/-- The name of a command is reached where an option could stand. -/
theorem read_command (h : word ∈ g.commands) (p : Progress δ) (rest : List String) :
    g.read (.ready p) (word :: rest) = .ok (.below p.verbosity (some p.draft) word rest) := by
  have hmem : g.commands.contains word = true := by simpa using h
  rw [read, hmem]
  rfl

/-- **Words that name no command are taken one after another.** -/
theorem read_append {front : List String} (h : ∀ word ∈ front, word ∉ g.commands)
    (phase : Phase δ) (words : List String) :
    g.read phase (front ++ words) =
      front.foldlM g.take phase >>= fun phase => g.read phase words := by
  induction front generalizing phase with
  | nil => rfl
  | cons word front ih =>
      rw [List.cons_append, read_cons_of_notMem (h word List.mem_cons_self), List.foldlM_cons]
      cases g.take phase word with
      | error halt => rfl
      | ok phase => exact ih (fun word hword => h word (List.mem_cons_of_mem _ hword)) phase

end Words

end Grammar

/-! ## Phases without values -/

/-- No value is awaited, and none was refused. -/
def Phase.IsOpen {δ : Type} : Phase δ → Prop
  | .ready _ => True
  | .divided _ => True
  | .awaiting _ _ => False
  | .refused _ => False

/-- A grammar without options of its own never awaits a value. -/
theorem Grammar.isOpen_of_take {δ : Type} {g : Grammar δ} (hoption : ∀ name, g.option name = none)
    {phase phase' : Phase δ} {word : String} (h : phase.IsOpen)
    (htake : g.take phase word = .ok phase') : phase'.IsOpen := by
  have hmap : ∀ {f : Progress δ → Phase δ} {x : Except Halt (Progress δ)},
      x.map f = .ok phase' → ∃ p, phase' = f p := by
    intro f x hx
    cases x with
    | error halt => cases hx
    | ok p =>
        cases hx
        exact ⟨p, rfl⟩
  cases phase with
  | ready p =>
      rw [take] at htake
      split at htake
      · cases htake
        trivial
      · -- The options that are left are those that every grammar has, and they take no value.
        rw [takeOption.eq_def, hoption] at htake
        split at htake
        · cases htake
          trivial
        · split at htake
          · cases htake
          · split at htake
            · cases htake
            · cases htake
      · obtain ⟨p', rfl⟩ := hmap htake
        trivial
      · obtain ⟨p', rfl⟩ := hmap htake
        trivial
  | divided p =>
      obtain ⟨p', rfl⟩ := hmap htake
      trivial
  | awaiting p step => exact h.elim
  | refused p => exact h.elim

/-! ## Arrival at a command -/

/-- What is known where a command below is named. -/
structure Arrival (δ : Type) where
  verbosity : Nat
  draft : δ
  command : String
  /-- The words behind the command. -/
  rest : List String

namespace Reading

variable {δ : Type} {g : Grammar δ}

/-- What is known where the words reach a command below, if nothing was refused before. -/
def arrival? : Except Halt (Reading δ) → Option (Arrival δ)
  | .ok (.below verbosity (some draft) command rest) => some ⟨verbosity, draft, command, rest⟩
  | _ => none

theorem arrival?_eq_some_iff {reading : Except Halt (Reading δ)} {a : Arrival δ} :
    arrival? reading = some a ↔
      reading = .ok (.below a.verbosity (some a.draft) a.command a.rest) := by
  constructor
  · intro h
    match reading with
    | .ok (.below verbosity (some draft) command rest) =>
        cases h
        rfl
  · rintro rfl
    rfl

/-- A command right behind a refused value is no arrival, and any other word is a misuse there. -/
theorem arrival?_refused (p : Progress δ) (words : List String) :
    arrival? (g.read (.refused p) words) = none := by
  cases words with
  | nil => rfl
  | cons word rest =>
      rw [Grammar.read]
      by_cases hmem : g.commands.contains word
      · rw [if_pos hmem]
        rfl
      · rw [if_neg hmem]
        rfl

/-- No command is reached behind the divider, where operands stand. -/
theorem arrival?_divided (h : ∀ d text, g.operand d text = none) (p : Progress δ)
    (words : List String) : arrival? (g.read (.divided p) words) = none := by
  cases words with
  | nil => rfl
  | cons word rest =>
      rw [Grammar.read_cons (fun _ => rfl), Grammar.take, h]
      rfl

end Reading

/-! ## Options with a value -/

/-- An option of a grammar that takes a value: its name, and the step that its value leads to. -/
structure Grammar.Valued {δ : Type} (g : Grammar δ) (name : String)
    (step : δ → String → Option δ) : Prop where
  option_eq : g.option name = some (.value step)
  /-- The name is none of those that every grammar has. -/
  own : name ≠ "verbose" ∧ name ≠ "version" ∧ name ≠ "help"
  /-- The name can be told from a value behind it, and from the divider. -/
  whole : '=' ∉ name.toList ∧ name ≠ ""
  /-- The names of commands do not look like options. -/
  apart : ∀ command ∈ g.commands, Word.IsPlain command

namespace Grammar.Valued

open Reading

variable {δ : Type} {g : Grammar δ} {name : String} {step : δ → String → Option δ}

theorem takeOption_eq (h : g.Valued name step) (p : Progress δ) (value : Option String) :
    g.takeOption p name value =
      match value with
      | some v => (p.after (step p.draft v)).map .ready
      | none => .ok (.awaiting p step) := by
  obtain ⟨hverbose, hversion, hhelp⟩ := h.own
  cases value with
  | none => simp [takeOption, hverbose, hversion, hhelp, h.option_eq]
  | some v => simp [takeOption, hverbose, hversion, hhelp, h.option_eq]

/-- A word that is an option names no command. -/
theorem notMem_commands (h : g.Valued name step) {word other : String} {value : Option String}
    (hword : Word.ofText word = .option other value) : word ∉ g.commands := by
  intro hmem
  rw [Word.ofText_of_isPlain (h.apart word hmem)] at hword
  cases hword

/-- The step is made with the value that stands in the word of the option. -/
theorem arrival?_joined (h : g.Valued name step) (p : Progress δ) (value : String)
    (words : List String) :
    arrival? (g.read (.ready p) (("--" ++ name ++ "=" ++ value) :: words)) =
      (step p.draft value).bind fun d =>
        arrival? (g.read (.ready { p with draft := d }) words) := by
  have hword := Word.ofText_option_value h.whole.1 value
  have htake : g.take (.ready p) ("--" ++ name ++ "=" ++ value) =
      (p.after (step p.draft value)).map .ready := by
    simp only [take, hword]
    exact h.takeOption_eq p (some value)
  rw [read_cons_of_notMem (h.notMem_commands hword), htake]
  cases step p.draft value with
  | none => rfl
  | some d => rfl

/-- Behind the option alone its value is awaited. -/
theorem read_alone (h : g.Valued name step) (p : Progress δ) (words : List String) :
    g.read (.ready p) (("--" ++ name) :: words) = g.read (.awaiting p step) words := by
  have hword := Word.ofText_option_alone h.whole.1 h.whole.2
  have htake : g.take (.ready p) ("--" ++ name) = .ok (.awaiting p step) := by
    simp only [take, hword]
    exact h.takeOption_eq p none
  rw [read_cons_of_notMem (h.notMem_commands hword), htake]
  rfl

/-- The step is made with the value that stands in a word of its own, which may be the name of a
command. -/
theorem arrival?_apart (h : g.Valued name step) (p : Progress δ) {value : String}
    (hvalue : Word.IsPlain value) (words : List String) :
    arrival? (g.read (.ready p) (("--" ++ name) :: value :: words)) =
      (step p.draft value).bind fun d =>
        arrival? (g.read (.ready { p with draft := d }) words) := by
  rw [h.read_alone, read_cons (fun _ => rfl), take, Word.ofText_of_isPlain hvalue, takeValue]
  cases step p.draft value with
  | none => exact arrival?_refused p words
  | some d => rfl

/-- Nothing is reached where the value is missing. -/
theorem arrival?_alone (h : g.Valued name step) (p : Progress δ) {words : List String}
    (hwords : ∀ value ∈ words.head?, ¬ Word.IsPlain value) :
    arrival? (g.read (.ready p) (("--" ++ name) :: words)) = none := by
  rw [h.read_alone]
  cases words with
  | nil => rfl
  | cons value words =>
      rw [read_cons (fun _ => rfl), take]
      cases hvalue : Word.ofText value with
      | plain text => exact (hwords value rfl (Word.isPlain_of_ofText hvalue)).elim
      | divider => rfl
      | option name value => rfl
      | flags letters => rfl

/-- What is reached behind an option with its value is reached from the words behind it. -/
theorem exists_after_joined (h : g.Valued name step) {p : Progress δ} {value : String}
    {words : List String}
    (harrival : (arrival? (g.read (.ready p) (("--" ++ name ++ "=" ++ value) :: words))).isSome) :
    ∃ p', (arrival? (g.read (.ready p') words)).isSome := by
  rw [h.arrival?_joined] at harrival
  cases hstep : step p.draft value with
  | none => simp [hstep] at harrival
  | some d => exact ⟨_, by simpa [hstep] using harrival⟩

/-- Where something is reached behind the option alone, its value follows. -/
theorem exists_after_alone (h : g.Valued name step) {p : Progress δ} {words : List String}
    (harrival : (arrival? (g.read (.ready p) (("--" ++ name) :: words))).isSome) :
    ∃ value rest p', words = value :: rest ∧ Word.IsPlain value ∧
      (arrival? (g.read (.ready p') rest)).isSome := by
  by_cases hwords : ∃ value rest, words = value :: rest ∧ Word.IsPlain value
  · obtain ⟨value, rest, rfl, hvalue⟩ := hwords
    rw [h.arrival?_apart p hvalue] at harrival
    cases hstep : step p.draft value with
    | none => simp [hstep] at harrival
    | some d => exact ⟨value, rest, _, rfl, hvalue, by simpa [hstep] using harrival⟩
  · -- Without a value the words reach nothing.
    rw [h.arrival?_alone p] at harrival
    · cases harrival
    · intro value hvalue hplain
      obtain ⟨rest, rfl⟩ := List.head?_eq_some_iff.1 hvalue
      exact hwords ⟨value, rest, rfl, hplain⟩

end Grammar.Valued

end ScimLookup.Command
