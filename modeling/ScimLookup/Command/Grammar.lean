import ScimLookup.Command.Word

/-!
# Reading a command line

A grammar says what the words of one command mean: each option is a step on a draft of what is to
be done, and so is each operand; a step may refuse. Words are taken from left to right until they
end or one of them names a command below, whose own grammar takes the rest. Every grammar has a
flag that makes the program more talkative and may be repeated, one that asks for the version and
one that asks for an explanation. Where there are commands below, one of them asks for that too.

Such a request is met as soon as it is read, so only what stands before it can be a misuse. One
thing is later than it looks: a value that is refused right before the name of a command is a misuse
only after the words of that command were read.
-/

set_option autoImplicit false

namespace ScimLookup.Command

/-- Why reading stops. -/
inductive Halt where
  /-- The version of a command is asked for. -/
  | version (command : String)
  /-- An explanation is asked for. -/
  | help
  /-- The words make no sense. -/
  | misuse
deriving DecidableEq, Repr

/-- What an option means. -/
inductive Effect (δ : Type) where
  | flag (step : δ → Option δ)
  | value (step : δ → String → Option δ)

/-- What the words of a command mean. -/
structure Grammar (δ : Type) where
  /-- The command, behind the commands above it. -/
  name : String
  option : String → Option (Effect δ)
  operand : δ → String → Option δ
  /-- The commands below. -/
  commands : List String

/-- A draft, and how often the program was asked to talk more. -/
structure Progress (δ : Type) where
  verbosity : Nat
  draft : δ

/-- Where reading stands between two words. -/
inductive Phase (δ : Type) where
  /-- Any word may follow. -/
  | ready (p : Progress δ)
  /-- The value of an option follows. -/
  | awaiting (p : Progress δ) (step : δ → String → Option δ)
  /-- The value of an option was refused. -/
  | refused (p : Progress δ)
  /-- Operands follow. -/
  | divided (p : Progress δ)

/-- What the words of a command come to. -/
inductive Reading (δ : Type) where
  /-- The words end. -/
  | ended (p : Progress δ)
  /-- A command below is named. There is no draft if the value right before was refused. -/
  | below (verbosity : Nat) (draft : Option δ) (command : String) (rest : List String)

namespace Progress

/-- One more request to talk. -/
def louder {δ : Type} (p : Progress δ) : Progress δ :=
  { p with verbosity := p.verbosity + 1 }

/-- The draft after a step. -/
def after {δ : Type} (p : Progress δ) : Option δ → Except Halt (Progress δ)
  | some d => .ok { p with draft := d }
  | none => .error .misuse

end Progress

namespace Grammar

/-- Take a cluster of short flags. -/
def flags {δ : Type} (g : Grammar δ) (p : Progress δ) : List Char → Except Halt (Progress δ)
  | [] => .ok p
  | c :: cs =>
    if c = 'v' then g.flags p.louder cs
    else if c = 'V' then .error (.version g.name)
    else if c = 'h' then .error .help
    else .error .misuse

/-- Take an option, with its value if that stands in the same word. -/
def takeOption {δ : Type} (g : Grammar δ) (p : Progress δ) (name : String) (value : Option String) :
    Except Halt (Phase δ) :=
  if name = "verbose" && value.isNone then .ok (.ready p.louder)
  else if name = "version" && value.isNone then .error (.version g.name)
  else if name = "help" && value.isNone then .error .help
  else
    match g.option name, value with
    | some (.flag step), none => (p.after (step p.draft)).map .ready
    | some (.value step), some v => (p.after (step p.draft v)).map .ready
    | some (.value step), none => .ok (.awaiting p step)
    | _, _ => .error .misuse

/-- Take the value that an option waits for. -/
def takeValue {δ : Type} (p : Progress δ) (step : δ → String → Option δ) :
    Word → Except Halt (Phase δ)
  | .plain text =>
    match step p.draft text with
    | some d => .ok (.ready { p with draft := d })
    | none => .ok (.refused p)
  | _ => .error .misuse

/-- Take a word that names no command. -/
def take {δ : Type} (g : Grammar δ) : Phase δ → String → Except Halt (Phase δ)
  | .ready p, word =>
    match Word.ofText word with
    | .divider => .ok (.divided p)
    | .option name value => g.takeOption p name value
    | .flags cs => (g.flags p cs).map .ready
    | .plain text => (p.after (g.operand p.draft text)).map .ready
  | .awaiting p step, word => takeValue p step (Word.ofText word)
  | .refused _, _ => .error .misuse
  | .divided p, word => (p.after (g.operand p.draft word)).map .divided

/-- The phase in which a word may name a command, with what is known then. -/
def beforeCommand? {δ : Type} : Phase δ → Option (Nat × Option δ)
  | .ready p => some (p.verbosity, some p.draft)
  | .refused p => some (p.verbosity, none)
  | _ => none

/-- The end of the words. -/
def finish {δ : Type} : Phase δ → Except Halt (Reading δ)
  | .ready p => .ok (.ended p)
  | .divided p => .ok (.ended p)
  | _ => .error .misuse

/-- Take the words that follow a phase. -/
def read {δ : Type} (g : Grammar δ) (phase : Phase δ) : List String → Except Halt (Reading δ)
  | [] => finish phase
  | word :: rest =>
    -- The value of an option and what stands behind the divider name no command.
    match if g.commands.contains word then beforeCommand? phase else none with
    | some (verbosity, draft) => .ok (.below verbosity draft word rest)
    | none =>
      match g.take phase word with
      | .ok phase => g.read phase rest
      | .error halt => .error halt

/-- Take the words of a command that has none below. -/
def readLast {δ : Type} (g : Grammar δ) (p : Progress δ) (words : List String) :
    Except Halt (Progress δ) :=
  match g.read (.ready p) words with
  | .ok (.ended p) => .ok p
  | .ok (.below ..) => .error .misuse
  | .error halt => .error halt

end Grammar

/-- The command that explains the others. -/
def helpWord : String := "help"

/-- What the words behind that command come to, where `commands` are those that it explains: each
word has to name one that is below the one before. -/
def explain (below : String → List String) (commands : List String) : List String → Halt
  | [] => .help
  | word :: rest =>
    if commands.contains word then explain below (below word) rest else .misuse

/-- Give a field its value, which must not have one yet. -/
def once {α : Type} (old : Option α) (new : α) : Option (Option α) :=
  match old with
  | none => some (some new)
  | some _ => none

/-- Set a flag, which must not be set yet. -/
def onceTrue (old : Bool) : Option Bool :=
  if old then none else some true

end ScimLookup.Command
