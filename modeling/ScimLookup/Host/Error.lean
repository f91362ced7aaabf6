import ScimLookup.Settings.Source

/-!
# Errors of the service

Why a question of the host has no answer, with the words and the exit code for each cause.
-/

set_option autoImplicit false

namespace ScimLookup

/-- The questions of the host. -/
inductive Question where
  | getGroup
  | getAllGroups
  | getUsersForGroup
  | getGroupsForUser
deriving DecidableEq, Repr

/-- What is said when the lookups for a question fail. -/
def Question.failure : Question → String
  | .getGroup => "failed to get group"
  | .getAllGroups => "failed to get all groups"
  | .getUsersForGroup => "failed to get users for group"
  | .getGroupsForUser => "failed to get groups for user"

/-- Why the service cannot do what it is asked. -/
inductive ServiceError where
  /-- No configuration was applied. -/
  | notConfigured
  /-- A configuration cannot be applied. -/
  | configure (error : ConfigError)
  /-- The name or id in the question is blank. -/
  | noId
  | groupNotFound (name : String)
  | multipleGroups (name : String)
  /-- The context lacks a key that the configuration uses. -/
  | missingContextField (key : String)
  /-- The lookups for a question failed. -/
  | lookup (question : Question) (error : ClientError)
deriving DecidableEq, Repr

namespace ServiceError

/-- The words for an error. -/
def message : ServiceError → String
  | .notConfigured => "no scim client exists"
  | .configure error => "failed to configure plugin: " ++ error.message
  | .noId => "no filter id provided"
  | .groupNotFound name => "group '" ++ name ++ "' does not exist"
  | .multipleGroups name => "multiple groups match '" ++ name ++ "'"
  | .missingContextField key => "auth context has no value for '" ++ key ++ "'"
  | .lookup question error => question.failure ++ ": " ++ error.message

/-- The exit code that an error leads to. -/
def exitCode : ServiceError → Nat
  | .notConfigured => 1
  | .configure error => error.exitCode
  | .noId => 4
  | .groupNotFound _ => 4
  | .multipleGroups _ => 4
  | .missingContextField _ => 4
  | .lookup _ error => error.exitCode

end ServiceError

end ScimLookup
