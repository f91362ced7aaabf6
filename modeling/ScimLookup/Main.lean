import ScimLookup.Command.Needs

/-!
# The program

The outer layer of the program: it gathers the files and variables that the run looks at, runs it,
and prints what the run leaves behind. It has no connection of its own, so every request that is
built ends unsent.
-/

set_option autoImplicit false

namespace ScimLookup.Command

/-- The number of an error of the system, which may be given as the negative of a word. -/
def errorNumber (code : UInt32) : Nat :=
  if code.toNat < 0x80000000 then code.toNat else 0x100000000 - code.toNat

/-- Why a file could not be read, from what the system says. -/
def faultOf : IO.Error → FileFault
  | .noFileOrDirectory .. => .notFound
  | .inappropriateType _ code _ => if errorNumber code = 20 then .notDirectory else .isDirectory
  | .invalidArgument _ code _ => if errorNumber code = 36 then .nameTooLong else .nullInPath
  | e => .refused (toString e)

/-- Read a file. -/
def readFile (path : String) : IO (Except FileFault Bytes) := do
  try
    return .ok (← IO.FS.readBinFile path).toList
  catch e =>
    return .error (faultOf e)

/-- Gather surroundings in which everything that is needed is known. -/
def gather (needs : Needs) : IO Surroundings := do
  let files ← needs.paths.mapM fun path => return (path, ← readFile path)
  let texts ← needs.names.mapM fun name => return (name, ← IO.getEnv name)
  return {
    file := fun path => (files.lookup path).getD (.error .notFound)
    env := fun name =>
      match (texts.lookup name).join with
      | some text => .ok text
      | none => .error .missing
    connector := .standard }

/-- Gather the surroundings of a task. -/
def gatherFor (task : Task) : IO Surroundings := do
  let own := standingNeeds.join ⟨task.paths, []⟩
  gather (own.join (task.references (← gather own)))

/-- Run the program with its words. -/
def perform (words : List String) : IO (Outcome Output) := do
  let standing ← gather standingNeeds
  let around ← match Invocation.ofWords standing.env words with
    | .ok i => gatherFor i.task
    | .error _ => pure standing
  let start ← IO.monoNanosNow
  return ((runWords around words).run (.fresh (fun _ => false) fun _ => start)).1

end ScimLookup.Command

/-- Run the program and print what it leaves behind. -/
def main (words : List String) : IO UInt32 := do
  match ← ScimLookup.Command.perform words with
  | some output =>
    IO.print output.result
    IO.eprint output.report
    return output.exitCode.toUInt32
  | none => return 101
