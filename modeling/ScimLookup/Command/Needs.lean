import ScimLookup.Command.Invocation

/-!
# What a run looks at

The paths and the variables that a run looks at, so that they can be gathered beforehand. Which
variables the program reads is known at once, which files it opens follows from its words, and what
a configuration refers to follows from its text.
-/

set_option autoImplicit false

namespace ScimLookup

/-- Paths of files and names of variables. -/
structure Needs where
  paths : List String
  names : List String
deriving DecidableEq, Repr

namespace Needs

/-- The needs of two things together. -/
def join (a b : Needs) : Needs :=
  ⟨a.paths ++ b.paths, a.names ++ b.names⟩

/-- What a source refers to. -/
def ofSource : Source → Needs
  | .file path => ⟨[path], []⟩
  | .env name => ⟨[], [name]⟩
  | .literal _ => ⟨[], []⟩
  | .embedded _ => ⟨[], []⟩

/-- What a list of sources refers to. -/
def ofSources (sources : List Source) : Needs :=
  sources.foldr (fun source needs => (ofSource source).join needs) ⟨[], []⟩

end Needs

/-- The sources in credentials. -/
def AuthMode.sources : AuthMode → List Source
  | .basic id secret => id :: secret.toList
  | .mtls id certificate key => [id, certificate, key]
  | .oauth2 id secret endpoint _ => id :: endpoint :: secret.toList

/-- The sources in parameters. -/
def ParamSources.sources (p : ParamSources) : List Source :=
  [p.groupAttribute, p.userAttribute, p.groupMembersAttribute, p.listMethod,
    p.allowSearchUsersByGroup].filterMap id

/-- The sources in a configuration. -/
def Configuration.sources (c : Configuration) : List Source :=
  c.host :: c.auth.sources ++ c.roots.toList ++ c.params.sources

namespace Command

/-- What every run looks at. -/
def standingNeeds : Needs :=
  ⟨[], [Lookup.hostVariable, Lookup.clientIdVariable, Lookup.secretVariable,
    Inquiry.configVariable, plainVariable]⟩

/-- The files that a task opens itself. -/
def Task.paths : Task → List String
  | .look l =>
    match l.certificate with
    | some (certificate, key) => [certificate, key]
    | none => []
  | .inquire i => [i.config]

/-- What the configuration of a task refers to, in surroundings with the files that the task opens.
-/
def Task.references (s : Surroundings) : Task → Needs
  | .look _ => ⟨[], []⟩
  | .inquire i =>
    match (s.text i.config).toOption.bind fun yaml => (Configuration.ofYaml yaml).toOption with
    | some c => .ofSources c.sources
    | none => ⟨[], []⟩

end Command

end ScimLookup
