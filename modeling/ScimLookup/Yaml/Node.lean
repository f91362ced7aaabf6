import ScimLookup.Yaml.Token

/-!
# Nodes

A YAML document as a tree: scalars, lists and maps, each perhaps with an anchor and a tag, and
aliases that stand for an anchored node. A text holds one document at most; lines that end it may
follow, and nothing else. Nodes that are left out are empty plain scalars.

Tags are written short by handles. A handle stands for the text that a directive gives it; the two
usual handles need none.
-/

set_option autoImplicit false

namespace ScimLookup.Yaml

/-- The properties of a node. -/
structure Properties where
  anchor : Option String
  tag : Option Tag
deriving DecidableEq, Repr

/-- A node whose aliases are of a type. -/
inductive Node (α : Type) where
  | alias (target : α)
  | scalar (p : Properties) (text : String) (style : Style)
  | list (p : Properties) (items : List (Node α))
  | map (p : Properties) (entries : List (Node α × Node α))
deriving Repr

namespace Node

/-- No properties. -/
def bare : Properties := ⟨none, none⟩

/-- A node that is left out. -/
def empty {α : Type} : Node α := .scalar bare "" .plain

/-- A node as it is written: aliases are names. -/
abbrev Named := Node String

/-! ## Tags -/

/-- What handles stand for. -/
abbrev Handles := List (String × Tag)

/-- What the tags of the usual types begin with. -/
def usualLead : Tag := Utf8.ofString "tag:yaml.org,2002:"

/-- The usual handles. -/
def usualHandles : Handles := [("!", Utf8.ofString "!"), ("!!", usualLead)]

/-- The full form of a tag. -/
def fullTag? (handles : Handles) (handle : String) (suffix : Tag) : Option Tag :=
  if handle.isEmpty then some suffix else (handles.lookup handle).map (· ++ suffix)

/-- The directives before a document: at most one version, which must be a known one, and handles,
none of them twice. -/
def directives? (version : Bool) (handles : Handles) :
    List Token → Option (Handles × List Token)
  | .version major minor :: ts =>
    if version || major ≠ 1 || (minor ≠ 1 && minor ≠ 2) then none
    else directives? true handles ts
  | .tagRule handle lead :: ts =>
    if (handles.lookup handle).isSome then none
    else directives? version (handles ++ [(handle, lead)]) ts
  | ts => some (handles, ts)

/-- A tag token as a full tag. -/
def readTag? (handles : Handles) : List Token → Option (Option Tag × List Token)
  | .tag handle suffix :: ts => (fullTag? handles handle suffix).map fun t => (some t, ts)
  | ts => some (none, ts)

/-- An anchor token as a name. -/
def readAnchor : List Token → Option String × List Token
  | .anchor name :: ts => (some name, ts)
  | ts => (none, ts)

/-- The properties of a node: an anchor and a tag in any order. -/
def properties? (handles : Handles) (ts : List Token) : Option (Properties × List Token) := do
  match ts with
  | .anchor name :: ts => do
    let (tag, ts) ← readTag? handles ts
    some (⟨some name, tag⟩, ts)
  | ts => do
    let (tag, ts) ← readTag? handles ts
    if tag.isNone then some (bare, ts)
    else
      let (anchor, ts) := readAnchor ts
      some (⟨anchor, tag⟩, ts)

/-! ## Trees -/

/-- Where a node may be: in a block, as a part of a map in a block, or inside brackets. -/
inductive Place where
  | block
  | mapPart
  | flow
deriving DecidableEq

mutual

/-- A node. The first argument bounds the number of steps, here and below. -/
def read (h : Handles) : Nat → Place → List Token → Option (Named × List Token)
  | 0, _, _ => none
  | fuel + 1, place, ts =>
    match ts with
    | .alias name :: ts => some (.alias name, ts)
    | ts => do
      let (p, ts) ← properties? h ts
      match ts with
      | .scalar text style :: ts => some (.scalar p text style, ts)
      | .flowList :: ts => do
        let (items, ts) ← readFlowItems h fuel true ts
        some (.list p items, ts)
      | .flowMap :: ts => do
        let (entries, ts) ← readFlowEntries h fuel true ts
        some (.map p entries, ts)
      | ts =>
        match place, ts with
        | .mapPart, .entry :: ts => do
          let (items, ts) ← readLooseItems h fuel (.entry :: ts)
          some (.list p items, ts)
        | .flow, _ => leftOut p ts
        | _, .blockList :: ts => do
          let (items, ts) ← readItems h fuel ts
          some (.list p items, ts)
        | _, .blockMap :: ts => do
          let (entries, ts) ← readEntries h fuel ts
          some (.map p entries, ts)
        | _, _ => leftOut p ts
where
  /-- A node with properties only. -/
  leftOut (p : Properties) (ts : List Token) : Option (Named × List Token) :=
    if p.anchor.isSome || p.tag.isSome then some (.scalar p "" .plain, ts) else none

/-- A node, or an empty one before a token of `ends`. -/
def readUnless (h : Handles) : Nat → Place → (Token → Bool) → List Token →
    Option (Named × List Token)
  | 0, _, _, _ => none
  | fuel + 1, place, ends, ts =>
    match ts with
    | [] => if place = .flow then none else some (empty, [])
    | t :: ts => if ends t then some (empty, t :: ts) else read h fuel place (t :: ts)

/-- The items of a list in a block. -/
def readItems (h : Handles) : Nat → List Token → Option (List Named × List Token)
  | 0, _ => none
  | fuel + 1, ts =>
    match ts with
    | .entry :: ts => do
      let (n, ts) ← readUnless h fuel .block (fun t => t = .entry || t = .blockEnd) ts
      let (ns, ts) ← readItems h fuel ts
      some (n :: ns, ts)
    | .blockEnd :: ts => some ([], ts)
    | _ => none

/-- The items of a list that is no deeper than the map it is in. -/
def readLooseItems (h : Handles) : Nat → List Token → Option (List Named × List Token)
  | 0, _ => none
  | fuel + 1, ts =>
    match ts with
    | .entry :: ts => do
      let (n, ts) ← readUnless h fuel .block
        (fun t => t = .entry || t = .key || t = .value || t = .blockEnd) ts
      let (ns, ts) ← readLooseItems h fuel ts
      some (n :: ns, ts)
    | ts => some ([], ts)

/-- The entries of a map in a block. -/
def readEntries (h : Handles) : Nat → List Token → Option (List (Named × Named) × List Token)
  | 0, _ => none
  | fuel + 1, ts =>
    match ts with
    | .key :: ts => do
      let ends (t : Token) : Bool := t = .key || t = .value || t = .blockEnd
      let (k, ts) ← readUnless h fuel .mapPart ends ts
      let (v, ts) ← match ts with
        | .value :: ts => readUnless h fuel .mapPart ends ts
        | ts => some (empty, ts)
      let (es, ts) ← readEntries h fuel ts
      some ((k, v) :: es, ts)
    | .blockEnd :: ts => some ([], ts)
    | _ => none

/-- The items of a list in brackets; before all but the first stands a comma. -/
def readFlowItems (h : Handles) : Nat → Bool → List Token → Option (List Named × List Token)
  | 0, _, _ => none
  | fuel + 1, first, ts =>
    match ts with
    | .flowListEnd :: ts => some ([], ts)
    | ts => do
      let ts ← if first then some ts else match ts with
        | .comma :: ts => some ts
        | _ => none
      match ts with
      | .flowListEnd :: ts => some ([], ts)
      | .key :: ts => do
        let (e, ts) ← readPair h fuel ts
        let (ns, ts) ← readFlowItems h fuel false ts
        some (.map bare [e] :: ns, ts)
      | ts => do
        let (n, ts) ← read h fuel .flow ts
        let (ns, ts) ← readFlowItems h fuel false ts
        some (n :: ns, ts)

/-- An item of a list in brackets that is a key and a value. A key that is left out takes the token
behind it along. -/
def readPair (h : Handles) : Nat → List Token → Option ((Named × Named) × List Token)
  | 0, _ => none
  | fuel + 1, ts => do
    let (k, ts) ← match ts with
      | .value :: ts => some (empty, ts)
      | .comma :: ts => some (empty, ts)
      | .flowListEnd :: ts => some (empty, ts)
      | ts => read h fuel .flow ts
    let (v, ts) ← match ts with
      | .value :: ts => readUnless h fuel .flow (fun t => t = .comma || t = .flowListEnd) ts
      | ts => some (empty, ts)
    some ((k, v), ts)

/-- The entries of a map in brackets; before all but the first stands a comma. -/
def readFlowEntries (h : Handles) : Nat → Bool → List Token →
    Option (List (Named × Named) × List Token)
  | 0, _, _ => none
  | fuel + 1, first, ts =>
    match ts with
    | .flowMapEnd :: ts => some ([], ts)
    | ts => do
      let ts ← if first then some ts else match ts with
        | .comma :: ts => some ts
        | _ => none
      match ts with
      | .flowMapEnd :: ts => some ([], ts)
      | .key :: ts => do
        let (k, ts) ← readUnless h fuel .flow
          (fun t => t = .value || t = .comma || t = .flowMapEnd) ts
        let (v, ts) ← match ts with
          | .value :: ts => readUnless h fuel .flow (fun t => t = .comma || t = .flowMapEnd) ts
          | ts => some (empty, ts)
        let (es, ts) ← readFlowEntries h fuel false ts
        some ((k, v) :: es, ts)
      | ts => do
        let (k, ts) ← read h fuel .flow ts
        let (es, ts) ← readFlowEntries h fuel false ts
        some ((k, empty) :: es, ts)

end

/-! ## Documents -/

/-- The token is a line that ends a document. -/
def isEnd (t : Token) : Bool :=
  t = .documentEnd

/-- The content of a document behind its opening line. -/
def content? (h : Handles) (ts : List Token) : Option (Named × List Token) :=
  let ends (t : Token) : Bool := match t with
    | .version _ _ => true
    | .tagRule _ _ => true
    | t => t = .documentStart || t = .documentEnd
  match ts with
  | [] => some (empty, [])
  | t :: ts => if ends t then some (empty, t :: ts) else read h (4 * ts.length + 8) .block (t :: ts)

/-- The document at the front of the tokens. -/
def front? (ts : List Token) : Option (Named × List Token) :=
  let opens : Bool := match ts with
    | .version _ _ :: _ => true
    | .tagRule _ _ :: _ => true
    | .documentStart :: _ => true
    | _ => false
  if opens then do
    let (handles, ts) ← directives? false [] ts
    match ts with
    | .documentStart :: ts => content? (handles ++ usualHandles) ts
    | _ => none
  else read usualHandles (4 * ts.length + 8) .block ts

/-- The document of a text: `none` if the text is no YAML, and no node if there is no document. -/
def ofText? (s : String) : Option (Option Named) := do
  let ts ← tokens? s.toList
  if ts.isEmpty then some none
  else
    let (n, ts) ← front? ts
    if ts.all isEnd then some (some n) else none

end Node

end ScimLookup.Yaml
