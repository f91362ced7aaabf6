import ScimLookup.Command.Inquiry
import ScimLookup.Command.Lookup

/-!
# Invocations of the program

The program is called with words and finds files and variables around it. The words come to a
command, to a request for the version or for an explanation, or to nothing; a command prints its
result or the report of its error, and the exit code says what happened:

* 0 for a result, a version or an explanation,
* 1 where nothing could be asked,
* 2 where the credentials were refused or the words make no sense,
* 3 where the server was not reached,
* 4 where the question was refused,
* 5 where the server failed.
-/

set_option autoImplicit false

namespace ScimLookup.Command

/-! ## Words -/

/-- The name of the program. -/
def programName : String := "idm-scim"

/-- The version of the program. -/
def programVersion : String := "0.1.0"

/-- What the program is to do. -/
inductive Task where
  | look (l : Lookup)
  | inquire (i : Inquiry)
deriving DecidableEq, Repr

/-- What the words come to. -/
structure Invocation where
  /-- How often the program was asked to talk more, where it was asked last. -/
  verbosity : Nat
  task : Task
deriving DecidableEq, Repr

/-- The least urgent messages that are logged. -/
def logLevel (verbosity : Nat) : String :=
  match verbosity with
  | 0 => "warn"
  | 1 => "info"
  | 2 => "debug"
  | _ => "trace"

namespace Invocation

/-- The command for lookups. -/
def lookupWord : String := "client"

/-- The command for inquiries. -/
def inquiryWord : String := "plugin"

/-- The grammar of the program. -/
def grammar : Grammar Unit where
  name := programName
  option _ := none
  operand _ _ := none
  commands := [lookupWord, inquiryWord, helpWord]

/-- The commands below a command of the program. -/
def commandsBelow (word : String) : List String :=
  if word = inquiryWord then Inquiry.commands else []

/-- The request to talk that counts: the one further below, if there is any. -/
def verbosityOf (above below : Nat) : Nat :=
  if below = 0 then above else below

/-- What is there, or else a misuse. -/
def orMisuse {α : Type} : Option α → Except Halt α
  | some a => .ok a
  | none => .error .misuse

/-- Read the words of a lookup. -/
def readLookup (env : String → Except VariableFault String) (verbosity : Nat)
    (words : List String) : Except Halt Invocation := do
  let p ← (Lookup.grammar (programName ++ "-" ++ lookupWord)).readLast ⟨0, {}⟩ words
  let l ← orMisuse (Lookup.ofDraft? env p.draft)
  return ⟨verbosityOf verbosity p.verbosity, .look l⟩

/-- Read the words of an inquiry. -/
def readInquiry (env : String → Except VariableFault String) (verbosity : Nat)
    (words : List String) : Except Halt Invocation := do
  let name := programName ++ "-" ++ inquiryWord
  match ← (Inquiry.grammar name).read (.ready ⟨0, {}⟩) words with
  | .ended _ => .error .misuse
  | .below outer draft word rest =>
    -- The words of the question come first: they may ask for its version.
    let (inner, subject) ← Inquiry.readSubject name word rest
    let i ← orMisuse do Inquiry.ofDraft? env (← draft) (← subject)
    return ⟨verbosityOf verbosity (verbosityOf outer inner), .inquire i⟩

/-- Read the words of the program. -/
def ofWords (env : String → Except VariableFault String) (words : List String) :
    Except Halt Invocation := do
  match ← grammar.read (.ready ⟨0, ()⟩) words with
  | .ended _ => .error .misuse
  | .below verbosity _ word rest =>
    if word = lookupWord then readLookup env verbosity rest
    else if word = inquiryWord then readInquiry env verbosity rest
    else throw (explain commandsBelow grammar.commands rest)

end Invocation

/-! ## Running -/

/-- What a run leaves behind. -/
structure Output where
  exitCode : Nat
  /-- What is printed as the result. -/
  result : String
  /-- What is printed as the report of an error. -/
  report : String
deriving DecidableEq, Repr

namespace Output

/-- The output for a result. -/
def ofResult (text : String) : Output := ⟨0, text, ""⟩

/-- The output for an error. -/
def ofError (coloured : Bool) (e : CommandError) : Output :=
  ⟨e.exitCode, "", e.report coloured⟩

/-- How the program is called. -/
def usage : String :=
  "Usage: " ++ programName ++ " client --action ACTION --host URL --client-id ID [OPTIONS]\n" ++
  "       " ++ programName ++ " plugin --config FILE [--auth-context KEY=VALUE]... [--json]\n" ++
  "           get-group NAME | all-groups | users-for-group ID | groups-for-user ID\n"

/-- The output for words that come to no command. -/
def ofHalt : Halt → Output
  | .version command => ofResult (command ++ " " ++ programVersion ++ "\n")
  | .help => ofResult usage
  | .misuse => ⟨2, "", usage⟩

end Output

/-- Run a task: what it prints. -/
def Task.run (s : Surroundings) : Task → Exchange (Except CommandError String)
  | .look l => l.run s
  | .inquire i => i.run s

/-- The variable that asks for plain reports, whatever its value. -/
def plainVariable : String := "NO_COLOR"

/-- Reports are coloured unless a variable with a text asks for plain ones. -/
def coloured (s : Surroundings) : Bool :=
  !(s.env plainVariable).isOk

/-- Run an invocation. -/
def Invocation.run (s : Surroundings) (i : Invocation) : Exchange Output := do
  match ← i.task.run s with
  | .ok text => return .ofResult text
  | .error e => return .ofError (coloured s) e

/-- Run the program. -/
def runWords (s : Surroundings) (words : List String) : Exchange Output :=
  match Invocation.ofWords s.env words with
  | .ok i => i.run s
  | .error halt => return .ofHalt halt

end ScimLookup.Command
