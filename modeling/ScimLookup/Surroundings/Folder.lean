import ScimLookup.Surroundings.Basic
import ScimLookup.Text.Pieces

/-!
# Folders

A working directory as data: files and directories under names. A path is followed name by name from
the working directory. The names `.` and `..` and empty names are steps of their own; each step but
the first must start in a directory, so a slash behind a file's name is a fault. Above the working
directory nothing is known but that there are directories.
-/

set_option autoImplicit false

namespace ScimLookup

/-- What stands under a name. -/
inductive FolderEntry where
  | file (content : Bytes)
  | directory
deriving DecidableEq, Repr

/-- A working directory: entries under the names that lead to them. -/
structure Folder where
  entries : List (List String × FolderEntry)
deriving DecidableEq, Repr

namespace Folder

/-- The names of a path. -/
def names (path : String) : List String :=
  (Text.pieces '/' path.toList).map String.ofList

/-- A step that leads nowhere. -/
def isIdle (name : String) : Bool :=
  name = "" || name = "."

/-- A folder of files and directories under paths. -/
def ofPaths (es : List (String × FolderEntry)) : Folder :=
  ⟨es.map fun e => ((names e.1).filter (!isIdle ·), e.2)⟩

/-- Put a file under a path, in place of what is there. -/
def write (f : Folder) (path : String) (content : Bytes) : Folder :=
  let place := (names path).filter (!isIdle ·)
  ⟨f.entries.filter (·.1 != place) ++ [(place, .file content)]⟩

/-- What stands at a place. Every beginning of a place with an entry is a directory. -/
def at? (f : Folder) (place : List String) : Option FolderEntry :=
  if place.isEmpty then some .directory
  else
    match f.entries.lookup place with
    | some e => some e
    | none => if f.entries.any fun e => place.isPrefixOf e.1 then some .directory else none

/-- Where a walk stands: at a place below the working directory, or above it. -/
inductive Standing where
  | below (place : List String)
  | above
deriving DecidableEq, Repr

/-- The longest name in bytes. -/
def longestName : Nat := 255

/-- The longest path in bytes. -/
def longestPath : Nat := 4095

/-- One step of a walk. -/
def step (f : Folder) (s : Standing) (name : String) : Except FileFault Standing :=
  match s with
  | .above => if isIdle name || name = ".." then .ok .above else .error .notFound
  | .below place =>
    match f.at? place with
    | none => .error .notFound
    | some (.file _) => .error .notDirectory
    | some .directory =>
      if isIdle name then .ok s
      else if name = ".." then .ok (if place.isEmpty then .above else .below place.dropLast)
      else if name.utf8ByteSize > longestName then .error .nameTooLong
      else if (f.at? (place ++ [name])).isSome then .ok (.below (place ++ [name]))
      else .error .notFound

/-- The content of the file under a path. -/
def read (f : Folder) (path : String) : Except FileFault Bytes := do
  if path.toList.any (· == '\x00') then throw .nullInPath
  if path.isEmpty then throw .notFound
  if path.utf8ByteSize > longestPath then throw .nameTooLong
  let start := if path.startsWith "/" then .above else .below []
  match ← (names path).foldlM f.step start with
  | .above => throw .isDirectory
  | .below place =>
    match f.at? place with
    | some (.file content) => return content
    | _ => throw .isDirectory

/-- The surroundings of a folder and a list of names with their texts. -/
def surroundings (f : Folder) (texts : List (String × String)) : Surroundings where
  file := f.read
  env name :=
    match texts.lookup name with
    | some text => .ok text
    | none => .error .missing
  connector := .standard

end Folder

end ScimLookup
