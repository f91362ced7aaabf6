import ScimLookup.Text.Quoted
import ScimLookup.Tls.Connector

/-!
# Surroundings

What a program finds around it: files by their paths, variables by their names, and what sets its
connections up. All of it is given as functions, so that what depends on it is a function of them.
-/

set_option autoImplicit false

namespace ScimLookup

/-- Why a file cannot be read. -/
inductive FileFault where
  /-- There is nothing under the path. -/
  | notFound
  /-- The path names a directory. -/
  | isDirectory
  /-- The path goes through a file. -/
  | notDirectory
  /-- The path or one of its names is too long. -/
  | nameTooLong
  /-- The path holds a null character. -/
  | nullInPath
  /-- The file is wanted as text and is no UTF-8. -/
  | notText
  /-- The system refuses for another reason. -/
  | refused (reason : String)
deriving DecidableEq, Repr

/-- The words for a fault. -/
def FileFault.message : FileFault → String
  | .notFound => "No such file or directory (os error 2)"
  | .isDirectory => "Is a directory (os error 21)"
  | .notDirectory => "Not a directory (os error 20)"
  | .nameTooLong => "File name too long (os error 36)"
  | .nullInPath => "file name contained an unexpected NUL byte"
  | .notText => "stream did not contain valid UTF-8"
  | .refused reason => reason

/-- Why a variable has no text. -/
inductive VariableFault where
  /-- There is no variable of this name. -/
  | missing
  /-- The value is no UTF-8. -/
  | notText (value : Bytes)
deriving DecidableEq, Repr

/-- The words for a fault. -/
def VariableFault.message : VariableFault → String
  | .missing => "environment variable not found"
  | .notText value => "environment variable was not valid unicode: " ++ Text.quotedBytes value

/-- Files, variables, and a connector. -/
structure Surroundings where
  /-- The content of the file under a path. -/
  file : String → Except FileFault Bytes
  /-- The text of a variable. -/
  env : String → Except VariableFault String
  /-- What sets connections up. -/
  connector : Connector

namespace Surroundings

/-- The content of a file as text. -/
def text (s : Surroundings) (path : String) : Except FileFault String := do
  match Utf8.toString? (← s.file path) with
  | some t => return t
  | none => throw .notText

/-- No files and no variables. -/
def none : Surroundings where
  file _ := .error .notFound
  env _ := .error .missing
  connector := .standard

end Surroundings

end ScimLookup
