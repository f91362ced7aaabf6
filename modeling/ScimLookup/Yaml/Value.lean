import ScimLookup.Number.Shortest
import ScimLookup.Yaml.Node

/-!
# Values

What the nodes of a document mean. A plain scalar is null, a truth value, a number or else text; the
usual tags ask for one of them, and every other scalar is text. An alias means the node with its
anchor that was begun last, and the text is refused where aliases are followed too often or
collections are nested too deep.

Anchors are told apart by numbers: an anchor gets as its number how many names there are before it.
So a name that is used again takes a new number, and a later name may take the same one.
-/

set_option autoImplicit false

namespace ScimLookup.Yaml

/-- A whole number as it is written: below zero or not, and how far from it. Zero may have the
sign of the numbers below it. -/
structure Whole where
  negative : Bool
  magnitude : Nat
deriving Repr

namespace Whole

/-- The number. -/
def toInt (n : Whole) : Int :=
  if n.negative then -(n.magnitude : Int) else n.magnitude

/-- A number without the sign of the numbers below zero. Only such a number counts anything. -/
def natural? (n : Whole) : Option Nat :=
  if n.negative then none else some n.magnitude

end Whole

/-- A value. -/
inductive Value where
  | null
  | bool (b : Bool)
  | int (n : Whole)
  | float (d : Double)
  | text (s : String)
  | list (items : List Value)
  | map (entries : List (Value × Value))
deriving Repr

namespace Value

/-! ## Numbers as text -/

/-- Digits before the point up to sixteen places, zeros behind it down to four, and exponents
beyond. -/
def layout : Shortest.Layout := ⟨16, -4⟩

/-- The numeral of a number that is not whole. -/
def floatText : Double → String
  | .nan => ".nan"
  | .infinite negative => if negative then "-.inf" else ".inf"
  | .finite negative m e => layout.text negative m e

/-- The text of a value that is no collection. -/
def scalarText? : Value → Option String
  | .null => some ""
  | .bool b => some (if b then "true" else "false")
  | .int n => some (Decimal.text n.toInt)
  | .float d => some (floatText d)
  | .text s => some s
  | .list _ => none
  | .map _ => none

/-! ## Sameness -/

/-- Two numbers that are not whole are the same: equal, or both no number. -/
def sameFloat : Double → Double → Bool
  | .nan, .nan => true
  | x, y => x.same y

mutual

/-- Two values are the same. The order of the entries of a map does not count. The first argument
bounds the depth. -/
def same : Nat → Value → Value → Bool
  | _, .null, .null => true
  | _, .bool a, .bool b => a == b
  | _, .int a, .int b => a.toInt == b.toInt
  | _, .float a, .float b => sameFloat a b
  | _, .text a, .text b => a == b
  | fuel + 1, .list as, .list bs => sameItems fuel as bs
  | fuel + 1, .map as, .map bs => as.length == bs.length && as.all fun a => sameEntry fuel a bs
  | _, _, _ => false

/-- Two lists are the same item by item. -/
def sameItems : Nat → List Value → List Value → Bool
  | _, [], [] => true
  | fuel, a :: as, b :: bs => same fuel a b && sameItems fuel as bs
  | _, _, _ => false

/-- An entry is among others. -/
def sameEntry : Nat → Value × Value → List (Value × Value) → Bool
  | _, _, [] => false
  | fuel, a, b :: bs => (same fuel a.1 b.1 && same fuel a.2 b.2) || sameEntry fuel a bs

end

/-- The deepest nesting of collections. -/
def deepest : Nat := 128

/-- Some key comes twice. -/
def hasTwinKeys : List (Value × Value) → Bool
  | [] => false
  | e :: es => es.any (fun f => same deepest e.1 f.1) || hasTwinKeys es

mutual

/-- No map in the value has a key twice. -/
def isTidy : Value → Bool
  | .list items => areTidy items
  | .map entries => entriesTidy entries && !hasTwinKeys entries
  | _ => true

/-- No map in the values has a key twice. -/
def areTidy : List Value → Bool
  | [] => true
  | v :: vs => v.isTidy && areTidy vs

/-- No map in the entries has a key twice. -/
def entriesTidy : List (Value × Value) → Bool
  | [] => true
  | e :: es => entryTidy e && entriesTidy es

/-- No map in the entry has a key twice. -/
def entryTidy : Value × Value → Bool
  | (k, v) => k.isTidy && v.isTidy

end

end Value

/-! ## Plain scalars -/

namespace Plain

/-- The words for null. -/
def isNull (s : String) : Bool :=
  s = "null" || s = "Null" || s = "NULL" || s = "~"

/-- The words for truth values. -/
def bool? (s : String) : Option Bool :=
  if s = "true" || s = "True" || s = "TRUE" then some true
  else if s = "false" || s = "False" || s = "FALSE" then some false
  else none

/-- The value of digits to a base, of which there is at least one. -/
def natIn? (base : Nat) (cs : List Char) : Option Nat :=
  if cs.isEmpty then none
  else cs.foldlM (fun acc c => do
    let d ← Percent.hexValue? c.toNat
    if d < base then some (acc * base + d) else none) 0

/-- Digits with a zero at the front are no number. -/
def isPadded (cs : List Char) : Bool :=
  let ds := match cs with
    | '-' :: ds => ds
    | '+' :: ds => ds
    | ds => ds
  decide (1 < ds.length) && ds.head? == some '0' && ds.all Decimal.isDigit

/-- A natural number behind its sign. -/
def unsigned? : List Char → Option Nat
  | '0' :: 'x' :: ds => natIn? 16 ds
  | '0' :: 'o' :: ds => natIn? 8 ds
  | '0' :: 'b' :: ds => natIn? 2 ds
  | ds => natIn? 10 ds

/-- A whole number of any size. -/
def int? (cs : List Char) : Option Whole :=
  if isPadded cs then none
  else
    match cs with
    | '-' :: ds => (unsigned? ds).map (⟨true, ·⟩)
    | '+' :: ds => (unsigned? ds).map (⟨false, ·⟩)
    | ds => (unsigned? ds).map (⟨false, ·⟩)

/-- A whole number has 64 bits, with a sign if it is negative. -/
def fits (n : Whole) : Bool :=
  decide (-0x8000000000000000 ≤ n.toInt ∧ n.toInt ≤ 0xFFFFFFFFFFFFFFFF)

/-- A whole number has 128 bits, with a sign if it is negative. -/
def fitsTwice (n : Whole) : Bool :=
  decide (-0x80000000000000000000000000000000 ≤ n.toInt ∧
    n.toInt ≤ 0xFFFFFFFFFFFFFFFFFFFFFFFFFFFFFFFF)

/-- The exponent of a decimal numeral: nothing, or a sign and digits behind a letter. -/
def exponent? : List Char → Option Int
  | [] => some 0
  | c :: cs =>
    if c = 'e' ∨ c = 'E' then
      match cs with
      | '-' :: ds => (Decimal.ofDigits? ds).map fun n => -n
      | '+' :: ds => (Decimal.ofDigits? ds).map Int.ofNat
      | ds => (Decimal.ofDigits? ds).map Int.ofNat
    else none

/-- A decimal numeral behind its sign. -/
def decimal? (negative : Bool) (cs : List Char) : Option Double := do
  let whole := cs.takeWhile Decimal.isDigit
  let rest := cs.dropWhile Decimal.isDigit
  let (fraction, rest) := match rest with
    | '.' :: rest => (rest.takeWhile Decimal.isDigit, rest.dropWhile Decimal.isDigit)
    | rest => ([], rest)
  let e ← exponent? rest
  if whole.isEmpty && fraction.isEmpty then none
  else some (.ofDecimal negative (Decimal.value (whole ++ fraction)) (e - fraction.length))

/-- A finite number in decimal. -/
def finite? (cs : List Char) : Option Double := do
  let d ← match cs with
    | '-' :: cs => decimal? true cs
    | cs => decimal? false cs
  if d.isInfinite then none else some d

/-- The words for infinity. -/
def isInfinity (cs : List Char) : Bool :=
  cs == ['.', 'i', 'n', 'f'] || cs == ['.', 'I', 'n', 'f'] || cs == ['.', 'I', 'N', 'F']

/-- The words for no number. -/
def isNoNumber (cs : List Char) : Bool :=
  cs == ['.', 'n', 'a', 'n'] || cs == ['.', 'N', 'a', 'N'] || cs == ['.', 'N', 'A', 'N']

/-- A number that is not whole. -/
def float? (cs : List Char) : Option Double :=
  match cs with
  | '+' :: '+' :: _ => none
  | '+' :: '-' :: _ => none
  | '+' :: cs => if isInfinity cs then some (.infinite false) else finite? cs
  | '-' :: ds => if isInfinity ds then some (.infinite true) else finite? cs
  | cs =>
    if isInfinity cs then some (.infinite false)
    else if isNoNumber cs then some .nan
    else finite? cs

/-- What a plain scalar means. A whole number that is too long for 64 bits and not for 128 is
refused. -/
def value? (s : String) : Option Value :=
  let cs := s.toList
  if s.isEmpty || isNull s then some .null
  else
    match bool? s with
    | some b => some (.bool b)
    | none =>
      match (int? cs).filter fitsTwice with
      | some n => if fits n then some (.int n) else none
      | none =>
        if isPadded cs then some (.text s)
        else
          match float? cs with
          | some d => some (.float d)
          | none => some (.text s)

end Plain

/-! ## Scalars -/

namespace Tag

/-- The tag of a usual type. -/
def usual (name : String) : Tag :=
  Node.usualLead ++ Utf8.ofString name

/-- A tag that begins with the mark of the tags of one's own. -/
def isMarked (t : Tag) : Bool :=
  (Utf8.ofString "!").isPrefixOf t

/-- A tag of one's own, which no value here has. It is the mark alone, or the mark and a text. -/
def isOwn (t : Tag) : Bool :=
  t.isMarked && (Utf8.decode? t).isSome

end Tag

/-- What a scalar with the tag of a usual type means, or nothing if it is not of the type; `none`
for any other tag. -/
def taggedValue? (tag : Tag) (text : String) : Option (Option Value) :=
  if tag = .usual "bool" then some ((Plain.bool? text).map .bool)
  else if tag = .usual "int" then some (((Plain.int? text.toList).filter Plain.fits).map .int)
  else if tag = .usual "float" then some ((Plain.float? text.toList).map .float)
  else if tag = .usual "null" then some (if Plain.isNull text then some .null else none)
  else none

/-- The node has a tag of its own. -/
def hasOwnTag (p : Properties) : Bool :=
  p.tag.any Tag.isOwn

/-- What a scalar means. Behind the mark of the tags of one's own, bytes that are no text make no
tag. -/
def scalarValue? (p : Properties) (text : String) (style : Style) : Option Value :=
  if hasOwnTag p then none
  else
    let untagged := if style = .plain then Plain.value? text else some (.text text)
    match p.tag with
    | some tag =>
      if tag.isMarked then untagged else (taggedValue? tag text).getD (some (.text text))
    | none => untagged

/-! ## Aliases -/

/-- What a walk over the nodes has met: the numbers of the names, how many anchors there were, and
the anchored nodes by their numbers, each with its place in the order of beginnings. -/
structure Anchors where
  names : List (String × Nat)
  count : Nat
  nodes : List (Nat × Nat × Node Nat)

namespace Anchors

/-- Nothing met. -/
def none : Anchors := ⟨[], 0, []⟩

/-- Begin a node with an anchor: its number and its place. -/
def begin (a : Anchors) (name : String) : Nat × Nat × Anchors :=
  let n := a.names.length
  let names := if (a.names.lookup name).isSome
    then a.names.map fun e => if e.1 = name then (name, n) else e
    else a.names ++ [(name, n)]
  (n, a.count, { a with names, count := a.count + 1 })

/-- Keep an anchored node unless one with its number was begun later. -/
def keep (a : Anchors) (n place : Nat) (node : Node Nat) : Anchors :=
  match a.nodes.lookup n with
  | some (p, _) =>
    if place < p then a
    else { a with nodes := (n, place, node) :: a.nodes.filter (·.1 != n) }
  | .none => { a with nodes := (n, place, node) :: a.nodes }

/-- The node with a number. -/
def node? (a : Anchors) (n : Nat) : Option (Node Nat) :=
  (a.nodes.lookup n).map (·.2)

/-- Begin a node that may have an anchor. -/
def enter (a : Anchors) (p : Properties) : Option (Nat × Nat) × Anchors :=
  match p.anchor with
  | some name =>
    let (n, place, a) := a.begin name
    (some (n, place), a)
  | .none => (.none, a)

/-- End a node that may have an anchor. -/
def leave (a : Anchors) (mark : Option (Nat × Nat)) (node : Node Nat) : Anchors :=
  match mark with
  | some (n, place) => a.keep n place node
  | .none => a

end Anchors

mutual

/-- A node whose aliases are numbers. -/
def linked : Node.Named → Anchors → Option (Node Nat × Anchors)
  | .alias name, a => (a.names.lookup name).map fun n => (.alias n, a)
  | .scalar p text style, a =>
    let (mark, a) := a.enter p
    let node : Node Nat := .scalar p text style
    some (node, a.leave mark node)
  | .list p items, a => do
    let (mark, a) := a.enter p
    let (items, a) ← linkedItems items a
    let node : Node Nat := .list p items
    some (node, a.leave mark node)
  | .map p entries, a => do
    let (mark, a) := a.enter p
    let (entries, a) ← linkedEntries entries a
    let node : Node Nat := .map p entries
    some (node, a.leave mark node)

/-- Nodes whose aliases are numbers. -/
def linkedItems : List Node.Named → Anchors → Option (List (Node Nat) × Anchors)
  | [], a => some ([], a)
  | n :: ns, a => do
    let (n, a) ← linked n a
    let (ns, a) ← linkedItems ns a
    some (n :: ns, a)

/-- Entries whose aliases are numbers. -/
def linkedEntries : List (Node.Named × Node.Named) → Anchors →
    Option (List (Node Nat × Node Nat) × Anchors)
  | [], a => some ([], a)
  | e :: es, a => do
    let (e, a) ← linkedEntry e a
    let (es, a) ← linkedEntries es a
    some (e :: es, a)

/-- An entry whose aliases are numbers. -/
def linkedEntry : Node.Named × Node.Named → Anchors → Option ((Node Nat × Node Nat) × Anchors)
  | (k, v), a => do
    let (k, a) ← linked k a
    let (v, a) ← linked v a
    some ((k, v), a)

end

mutual

/-- How many parts a node has: itself, the ends of collections, and the parts inside. -/
def Node.size {α : Type} : Node α → Nat
  | .alias _ => 1
  | .scalar _ _ _ => 1
  | .list _ items => 2 + sizeOfItems items
  | .map _ entries => 2 + sizeOfEntries entries

/-- How many parts nodes have. -/
def sizeOfItems {α : Type} : List (Node α) → Nat
  | [] => 0
  | n :: ns => n.size + sizeOfItems ns

/-- How many parts entries have. -/
def sizeOfEntries {α : Type} : List (Node α × Node α) → Nat
  | [] => 0
  | e :: es => sizeOfEntry e + sizeOfEntries es

/-- How many parts an entry has. -/
def sizeOfEntry {α : Type} : Node α × Node α → Nat
  | (k, v) => k.size + v.size

end

/-- A document: its root, if it has one, its anchored nodes, and how often aliases may be followed.
-/
structure Document where
  root : Option (Node Nat)
  anchors : Anchors
  allowance : Nat

/-- How often aliases may be followed, for each part of the document. -/
def allowancePerPart : Nat := 100

/-- The document of a text. -/
def Document.ofText? (s : String) : Option Document := do
  match ← Node.ofText? s with
  | none => some ⟨none, .none, 0⟩
  | some n => do
    let (root, anchors) ← linked n .none
    some ⟨some root, anchors, allowancePerPart * root.size⟩

/-! ## Reading -/

/-- A reading, which spends from how often aliases may be followed. -/
abbrev Reading := StateT Nat Option

namespace Reading

/-- A reading that is refused. -/
def refuse {α : Type} : Reading α := fun _ => none

/-- A reading from what may be refused. -/
def from? {α : Type} : Option α → Reading α
  | some a => pure a
  | none => refuse

/-- The node that is meant: itself, or the one that an alias stands for. -/
def target (a : Anchors) : Node Nat → Reading (Node Nat)
  | .alias n => do
    let left ← get
    if left = 0 then refuse
    else do
      set (left - 1)
      from? (a.node? n)
  | n => pure n

/-- The value of a node, with `depth` levels of collections to go. -/
def value (a : Anchors) (depth : Nat) (n : Node Nat) : Reading Value := do
  match ← target a n with
  | .alias _ => refuse
  | .scalar p text style => from? (scalarValue? p text style)
  | .list p items =>
    match depth with
    | 0 => refuse
    | depth + 1 =>
      if hasOwnTag p then refuse else return .list (← items.mapM (value a depth))
  | .map p entries =>
    match depth with
    | 0 => refuse
    | depth + 1 =>
      if hasOwnTag p then refuse
      else return .map (← entries.mapM fun e => return (← value a depth e.1, ← value a depth e.2))

/-- The text of a scalar of any kind. -/
def text (a : Anchors) (n : Node Nat) : Reading String := do
  match ← target a n with
  | .scalar _ text _ => return text
  | _ => refuse

/-- A natural number of 64 bits. -/
def word (a : Anchors) (n : Node Nat) : Reading Nat := do
  match ← target a n with
  | .scalar p text style =>
    if style = .plain || (style = .literal && p.tag = some (.usual "int")) then
      from? (((Plain.int? text.toList).filter Plain.fits).bind Whole.natural?)
    else refuse
  | _ => refuse

/-- A scalar that stands for nothing. -/
def isAbsent? (p : Properties) (text : String) (style : Style) : Option Bool :=
  if style ≠ .plain then some false
  else
    match p.tag with
    | some tag =>
      if tag = .usual "null" then if Plain.isNull text then some true else none
      else some false
    | none => some (text.isEmpty || Plain.isNull text)

/-- What `read` gives, or nothing for a scalar that stands for nothing. -/
def optional {α : Type} (a : Anchors) (read : Node Nat → Reading α) (n : Node Nat) :
    Reading (Option α) := do
  let n ← target a n
  match n with
  | .scalar p text style => do
    if ← from? (isAbsent? p text style) then return none else return some (← read n)
  | n => return some (← read n)

/-- The entries of a map, under their names, with the depth that is left inside. -/
def fields (a : Anchors) (depth : Nat) (n : Node Nat) :
    Reading (Nat × List (String × Node Nat)) := do
  match ← target a n with
  | .map _ entries =>
    match depth with
    | 0 => refuse
    | depth + 1 => do
      let named ← entries.mapM fun e => do return (← text a e.1, e.2)
      return (depth, named)
  | .scalar _ text style => if text.isEmpty && style = .plain then return (depth, []) else refuse
  | _ => refuse

/-- No name but those that are not known comes twice. -/
def noTwins (known : List String) (named : List (String × Node Nat)) : Reading Unit :=
  let names := (named.map (·.1)).filter (known.contains ·)
  if names.eraseDups.length = names.length then pure () else refuse

end Reading

end ScimLookup.Yaml
