import ScimLookup.Scim.Error
import ScimLookup.Text.Blank
import ScimLookup.Yaml.Value

/-!
# Sources of values

A setting is given in place or by a reference: to a value in the reference itself, to a file, or to
a variable. A reference is a map that says under `source` which of the three it is and has the one
field that this needs, or a list of these two things. Everything else is a value in place.

Loading a source gives a text. A file counts without the ends of lines behind its text, and only
scalars have a text.
-/

set_option autoImplicit false

namespace ScimLookup

/-! ## Errors -/

/-- Why a source has no text. -/
inductive SourceFault where
  | notScalar
  | unreadable (path : String) (fault : FileFault)
  | noVariable (name : String) (fault : VariableFault)
deriving DecidableEq, Repr

/-- The words for a fault. -/
def SourceFault.message : SourceFault → String
  | .notScalar => "expected a scalar value"
  | .unreadable path fault => "cannot read " ++ path ++ ": " ++ fault.message
  | .noVariable name fault => "environment variable " ++ name ++ ": " ++ fault.message

/-- Why a configuration cannot be used. What is wrong with a text that is no configuration is not
put into words: the wording says `<yaml>` in its place. -/
inductive ConfigError where
  | yaml
  | source (field : String) (fault : SourceFault)
  | invalidParam (name value : String)
  | client (error : ClientError)
deriving DecidableEq, Repr

namespace ConfigError

/-- The words for an error. -/
def message : ConfigError → String
  | .yaml => "failed to parse yaml configuration: <yaml>"
  | .source field fault => "failed loading " ++ field ++ ": " ++ fault.message
  | .invalidParam name value => "invalid value '" ++ value ++ "' for " ++ name
  | .client error => error.message

/-- The exit code that an error leads to. -/
def exitCode : ConfigError → Nat
  | .client error => error.exitCode
  | _ => 1

end ConfigError

/-! ## Sources -/

/-- Where the text of a setting is. -/
inductive Source where
  | literal (value : Yaml.Value)
  | embedded (value : Yaml.Value)
  | file (path : String)
  | env (name : String)
deriving Repr

namespace Source

/-- The kinds of references. -/
inductive Place where
  | embedded
  | file
  | env
deriving DecidableEq, Repr

/-- The kind that a value names, by its word or its number. -/
def place? : Yaml.Value → Option Place
  | .text s => [("embedded", .embedded), ("file", .file), ("env", .env)].lookup s
  | .int n => do [(0, .embedded), (1, .file), (2, .env)].lookup (← n.natural?)
  | _ => none

/-- The field that a kind needs. -/
def Place.field : Place → String
  | .embedded => "value"
  | .file => "path"
  | .env => "name"

/-- The reference of a kind with the value of its field. -/
def reference? : Place → Yaml.Value → Option Source
  | .embedded, v => if v.isTidy then some (.embedded v) else none
  | .file, .text path => some (.file path)
  | .env, .text name => some (.env name)
  | _, _ => none

/-- Whether a key is that of the field, by its word or its number; `none` for a key that no field
can have. -/
def isField? (name : String) : Yaml.Value → Option Bool
  | .text s => some (s = name)
  | .int n => n.natural?.map (· = 0)
  | _ => none

/-- A key says which kind of reference the map is. -/
def isKind : Yaml.Value → Bool
  | .text s => s = "source"
  | _ => false

/-- The reference that a value is, if it is one. -/
def asReference? : Yaml.Value → Option Source
  | .map entries => do
    match entries.filter (isKind ·.1) with
    | [(_, kind)] => do
      let place ← place? kind
      let others := entries.filter (!isKind ·.1)
      let marks ← others.mapM (isField? place.field ·.1)
      match (others.zip marks).filter (·.2) with
      | [((_, v), _)] => reference? place v
      | _ => none
    | _ => none
  | .list [kind, v] => do reference? (← place? kind) v
  | _ => none

/-- The source that a value is. A map with a key twice is none. -/
def ofValue? (v : Yaml.Value) : Option Source :=
  match asReference? v with
  | some s => some s
  | none => if v.isTidy then some (.literal v) else none

/-- A source that stands for nothing. -/
def optional? : Yaml.Value → Option (Option Source)
  | .null => some none
  | v => (ofValue? v).map some

/-- The text in place. -/
def ofText (s : String) : Source :=
  .literal (.text s)

/-! ## Loading -/

/-- The end of a line. -/
def isLineEnd (c : Char) : Bool :=
  c == '\n' || c == '\x0d'

/-- The text of a source, which is for the setting `field`. -/
def load (s : Surroundings) (field : String) : Source → Except ConfigError String
  | .literal v => scalar v
  | .embedded v => scalar v
  | .file path =>
    match s.text path with
    | .ok t => .ok (Text.trimEnd isLineEnd t)
    | .error fault => .error (.source field (.unreadable path fault))
  | .env name =>
    match s.env name with
    | .ok t => .ok t
    | .error fault => .error (.source field (.noVariable name fault))
where
  /-- The text of a value. -/
  scalar (v : Yaml.Value) : Except ConfigError String :=
    match v.scalarText? with
    | some t => .ok t
    | none => .error (.source field .notScalar)

end Source

end ScimLookup
