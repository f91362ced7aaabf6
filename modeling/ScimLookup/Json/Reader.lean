import ScimLookup.Json.Document

/-!
# Reading documents as values

A reader takes a document and gives a value of some type or the first fault from the left. A
document of another type is a mismatch, but only after it has been looked at as far as the reading
of that document goes: a damaged string stays malformed where a number is wanted.

Objects are read by records. A record lists its fields, and for each the name, the reader of its
value, and what stands in when it is left out. The members are taken in the order in which they
come: a member of no field is skipped, a second member of one field is a mismatch. An array stands
for the object whose fields have its items in order; then a missing field is one that the array is
too short for.
-/

set_option autoImplicit false

namespace ScimLookup.Json

/-- A way to read documents as values of a type. -/
abbrev Reader (α : Type) := Doc → Except Fault α

/-- The fault of a document that has another type than the wanted one. -/
def Doc.refusal : Doc → Fault
  | .missing f => f
  | .misspelt f => f
  | .number n => match n.value with | .error f => f | .ok _ => .mismatch
  | .string q => match q.text with | .error f => f | .ok _ => .mismatch
  | _ => .mismatch

namespace Reader

/-! ## Readers of simple types -/

/-- A string. -/
def text : Reader String
  | .string q => q.text
  | d => .error d.refusal

/-- A truth value. -/
def bool : Reader Bool
  | .bool b => .ok b
  | d => .error d.refusal

/-- A whole number within bounds. -/
def wholeIn (low high : Int) : Reader Int
  | .number n => do
    match ← n.value with
    | .whole k => if low ≤ k ∧ k ≤ high then return k else throw .mismatch
    | .other => throw .mismatch
  | d => .error d.refusal

/-- A word of 32 bits. -/
def word32 : Reader UInt32 := fun d =>
  (wholeIn 0 0xFFFFFFFF d).map fun k => .ofNat k.toNat

/-- A word of 64 bits. -/
def word64 : Reader UInt64 := fun d =>
  (wholeIn 0 0xFFFFFFFFFFFFFFFF d).map fun k => .ofNat k.toNat

/-- A word of 64 bits with a sign. -/
def signed64 : Reader Int64 := fun d =>
  (wholeIn (-0x8000000000000000) 0x7FFFFFFFFFFFFFFF d).map .ofInt

/-- A value or `null`. -/
def optional {α : Type} (r : Reader α) : Reader (Option α)
  | .null => .ok none
  | d => (r d).map some

/-- A reader that gives no value. -/
def checked {α : Type} (r : Reader α) (d : Doc) : Except Fault Unit := do
  let _ ← r d

/-- An array of values. -/
def list {α : Type} (r : Reader α) : Reader (List α)
  | .array items fault => do
    let xs ← items.mapM r
    raise fault
    return xs
  | d => .error d.refusal

/-- The name of a member. -/
def name : Reader String
  | .string q => q.text
  | .missing f => .error f
  | _ => .error .malformed

/-- One member of an object with free names. -/
def entry {α : Type} (r : Reader α) (m : Doc × Doc) : Except Fault (String × α) := do
  let name ← name m.1
  let x ← r m.2
  return (name, x)

/-- An object with free names, in the order of its members. -/
def entries {α : Type} (r : Reader α) : Reader (List (String × α))
  | .object members fault => do
    let xs ← members.mapM (entry r)
    raise fault
    return xs
  | d => .error d.refusal

end Reader

/-! ## Records -/

/-- The two shapes in which a record is written. -/
inductive Shape where
  | named
  | positional
deriving DecidableEq, Repr

/-- A way to read objects: the fields with their checks, and the value that the found fields make.
-/
structure Record (α : Type) where
  /-- The names of the fields and the checks of their values, in order. -/
  fields : List (String × (Doc → Except Fault Unit))
  /-- The value, from the documents found under the names. -/
  build : Shape → (String → Option Doc) → Except Fault α

namespace Record

/-- A record without fields. -/
protected def pure {α : Type} (a : α) : Record α :=
  ⟨[], fun _ _ => .ok a⟩

/-- The fields of two records, one after the other. -/
protected def seq {α β : Type} (f : Record (α → β)) (x : Record α) : Record β :=
  ⟨f.fields ++ x.fields, fun shape find => do
    let g ← f.build shape find
    let a ← x.build shape find
    return g a⟩

instance : Pure Record := ⟨Record.pure⟩

instance : Seq Record := ⟨fun f x => Record.seq f (x ())⟩

instance : Functor Record := ⟨fun f x => Record.seq (Record.pure f) x, fun a x =>
  Record.seq (Record.pure (Function.const _ a)) x⟩

/-- A field. Where it is left out, `absent` says what stands in. -/
def field {α : Type} (name : String) (r : Reader α) (absent : Shape → Option α) : Record α :=
  ⟨[(name, r.checked)], fun shape find =>
    match find name with
    | some d => r d
    | none =>
      match absent shape with
      | some a => .ok a
      | none => .error .mismatch⟩

/-- A field that must be there. -/
def required {α : Type} (name : String) (r : Reader α) : Record α :=
  field name r fun _ => none

/-- A field with a default. -/
def defaulted {α : Type} (name : String) (r : Reader α) (a : α) : Record α :=
  field name r fun _ => some a

/-- A field that may be `null` or left out. -/
def optional {α : Type} (name : String) (r : Reader α) : Record (Option α) :=
  defaulted name r.optional none

/-- A field that may be `null` or left out of an object, but not out of an array. -/
def nullable {α : Type} (name : String) (r : Reader α) : Record (Option α) :=
  field name r.optional fun
    | .named => some none
    | .positional => none

/-- Check the members of an object from left to right, when the fields `seen` have come. -/
def checkMembers {α : Type} (r : Record α) (seen : List String) :
    List (Doc × Doc) → Except Fault Unit
  | [] => .ok ()
  | (nameDoc, d) :: ms => do
    let name ← Reader.name nameDoc
    match r.fields.lookup name with
    | none => do
      d.skip
      checkMembers r seen ms
    | some check =>
      if name ∈ seen then throw .mismatch
      else do
        check d
        checkMembers r (name :: seen) ms

/-- The document under a name. -/
def findMember (name : String) : List (Doc × Doc) → Option Doc
  | [] => none
  | (.string q, d) :: ms =>
    match q.text with
    | .ok s => if s = name then some d else findMember name ms
    | .error _ => findMember name ms
  | _ :: ms => findMember name ms

/-- Check the items of an array against the fields in order. -/
def checkItems : List (String × (Doc → Except Fault Unit)) → List Doc → Option Fault →
    Except Fault Unit
  | (_, check) :: fs, d :: ds, fault => do
    check d
    checkItems fs ds fault
  | [], _ :: _, _ => .error .malformed
  | _, [], fault => raise fault

/-- The item that stands for a field. -/
def findItem (name : String) : List (String × (Doc → Except Fault Unit)) → List Doc → Option Doc
  | (n, _) :: fs, d :: ds => if n = name then some d else findItem name fs ds
  | _, _ => none

/-- The reader of a record. -/
def reader {α : Type} (r : Record α) : Reader α
  | .object members fault => do
    r.checkMembers [] members
    raise fault
    r.build .named fun name => findMember name members
  | .array items fault => do
    checkItems r.fields items fault
    r.build .positional fun name => findItem name r.fields items
  | d => .error d.refusal

end Record

/-! ## Choices -/

/-- One of several words, as a string or as the name of a member with the value `null`. -/
def choice {α : Type} (words : List (String × α)) : Reader α
  | .string q => do pick (← q.text)
  | .object ((name, d) :: ms) fault => do
    let a ← pick (← Reader.text name)
    match d with
    | .null => pure ()
    | d => throw d.refusal
    if !ms.isEmpty then throw .malformed
    raise fault
    return a
  | .object [] fault => .error (fault.getD .malformed)
  | .missing f => .error f
  | _ => .error .malformed
where
  /-- The value of a word. -/
  pick (word : String) : Except Fault α :=
    match words.lookup word with
    | some a => .ok a
    | none => .error .mismatch

/-! ## Whole documents -/

/-- The value that a text holds, with nothing but white space after it. -/
def Reader.ofBytes {α : Type} (r : Reader α) (bs : Bytes) : Except Fault α := do
  let doc := Document.ofBytes bs
  let a ← r doc.value
  if doc.complete then return a else throw .malformed

end ScimLookup.Json
