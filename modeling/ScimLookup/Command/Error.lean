import ScimLookup.Host.Error

/-!
# Errors of the program

Why a command fails, with the words, the exit code and the advice for each cause, and how it is
reported: in red and yellow, or plainly.
-/

set_option autoImplicit false

namespace ScimLookup.Command

/-- Why a command fails. -/
inductive CommandError where
  /-- The id is not given or blank. -/
  | idRequired
  /-- The file of the configuration cannot be read. -/
  | unreadableConfig (path : String) (fault : FileFault)
  /-- The client cannot be made, or its lookup failed. -/
  | client (error : ClientError)
  /-- The service cannot do what it is asked. -/
  | service (error : ServiceError)
deriving DecidableEq, Repr

namespace CommandError

/-- The words for an error. -/
def message : CommandError → String
  | .idRequired => "Invalid input: --id is required for this action"
  | .unreadableConfig path fault =>
    "Configuration error: cannot read " ++ path ++ ": " ++ fault.message
  | .client error => error.message
  | .service error => error.message

/-- The exit code that an error leads to. -/
def exitCode : CommandError → Nat
  | .idRequired => 4
  | .unreadableConfig .. => 1
  | .client error => error.exitCode
  | .service error => error.exitCode

/-- What to look at: the credentials if they were refused, the host if it was not reached. -/
def advice? (e : CommandError) : Option String :=
  if e.exitCode = 2 then some "Check the client id, secret or certificate for the SCIM server."
  else if e.exitCode = 3 then some "Check the host and that the SCIM server is reachable."
  else none

/-- A heading in a colour of the terminal. -/
def heading (coloured : Bool) (colour text : String) : String :=
  if coloured then "\x1b[" ++ colour ++ "m" ++ text ++ "\x1b[0m" else text

/-- The report of an error. -/
def report (coloured : Bool) (e : CommandError) : String :=
  heading coloured "31" "Error:" ++ " " ++ e.message ++ "\n" ++
    match e.advice? with
    | some advice => "\n" ++ heading coloured "33" "Suggestion:" ++ " " ++ advice ++ "\n"
    | none => ""

end CommandError

end ScimLookup.Command
