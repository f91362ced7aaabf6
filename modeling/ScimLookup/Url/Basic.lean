import ScimLookup.Text.Blank
import ScimLookup.Url.Form
import ScimLookup.Url.Host

/-!
# Addresses

Addresses read as the URL standard has it. Blanks at the ends and line breaks inside are dropped.
Behind the scheme comes the authority, with user, password, host and port, and behind it path, query
and fragment, each up to the first character that opens the next: a host ends before `/`, `?` or
`#`, a path before `?` or `#`, and a query before `#`. Characters that a part may not hold are
escaped byte by byte.

The segments of a path are taken in order: `.` adds nothing, `..` takes the last one back unless it
names a drive, and both leave an empty segment when they come last. Schemes that name servers need a
host, count backslashes as slashes, and always have a path. The path of a file has no empty segments
at its front, and where it begins with a drive there is no host.
-/

set_option autoImplicit false

namespace ScimLookup

/-- The path of an address: segments, each behind a slash, or a text of its own. -/
inductive UrlPath where
  | segments (ss : List String)
  | plain (text : String)
deriving DecidableEq, Repr

/-- An address. Each part is kept in its escaped form. -/
structure Url where
  scheme : String
  username : String
  password : Option String
  /-- Behind two slashes; `none` where there is no authority at all. -/
  host : Option Host
  /-- There is an authority, if only an empty one. -/
  hasAuthority : Bool
  port : Option Nat
  path : UrlPath
  query : Option String
  fragment : Option String
deriving DecidableEq, Repr

namespace Url

/-! ## Characters -/

/-- Escaped in every part: characters outside printable ASCII. -/
def isControl : Char → Bool := Host.isControl

/-- Escaped in a fragment. -/
def isFragmentEscaped (c : Char) : Bool :=
  isControl c || c == ' ' || c == '\x22' || c == '<' || c == '>' || c == '\x60'

/-- Escaped in a path. -/
def isPathEscaped (c : Char) : Bool :=
  isFragmentEscaped c || c == '#' || c == '?' || c == '\x7b' || c == '\x7d'

/-- Escaped in a user or a password. -/
def isUserEscaped (c : Char) : Bool :=
  isPathEscaped c || c == '/' || c == ':' || c == ';' || c == '=' || c == '@' || c == '[' ||
    c == '\\' || c == ']' || c == '^' || c == '|'

/-- Escaped in a query, where `special` says that the scheme names servers. -/
def isQueryEscaped (special : Bool) (c : Char) : Bool :=
  isControl c || c == ' ' || c == '\x22' || c == '#' || c == '<' || c == '>' ||
    (special && c == '\x27')

/-- Between a path and what follows. -/
def endsPath (c : Char) : Bool :=
  c == '?' || c == '#'

/-- A separator in a path. -/
def isSlash (special : Bool) (c : Char) : Bool :=
  c == '/' || (special && c == '\\')

/-- Between an authority and what follows. -/
def endsAuthority (special : Bool) (c : Char) : Bool :=
  isSlash special c || endsPath c

/-! ## Schemes -/

/-- A character of a scheme behind the first. -/
def isSchemeChar (c : Char) : Bool :=
  c.isAlphanum || c == '+' || c == '-' || c == '.'

/-- The port that a scheme stands for. -/
def standardPort (scheme : String) : Option Nat :=
  [("http", 80), ("https", 443), ("ws", 80), ("wss", 443), ("ftp", 21)].lookup scheme

/-- The scheme names servers. -/
def isServerScheme (scheme : String) : Bool :=
  (standardPort scheme).isSome

/-- The scheme and what follows its colon. -/
def splitScheme : List Char → Option (String × List Char)
  | [] => none
  | c :: cs =>
    if c.isAlpha then
      match (c :: cs).dropWhile isSchemeChar with
      | ':' :: rest => some (Text.lower (.ofList ((c :: cs).takeWhile isSchemeChar)), rest)
      | _ => none
    else none

/-! ## Authorities -/

/-- The text before the last `@`, and what follows it. -/
def splitUser (cs : List Char) : Option (List Char × List Char) :=
  if cs.contains '@' then
    let rev := cs.reverse
    some ((rev.dropWhile (· ≠ '@')).drop 1 |>.reverse, (rev.takeWhile (· ≠ '@')).reverse)
  else none

/-- The escaped form of a user or a password. -/
def userText (cs : List Char) : String :=
  .ofList (Percent.encode isUserEscaped cs)

/-- User and password. A password that is there but empty is none. -/
def userParts (cs : List Char) : String × Option String :=
  let password := (cs.dropWhile (· ≠ ':')).drop 1
  (userText (cs.takeWhile (· ≠ ':')),
    if password.isEmpty then none else some (userText password))

/-- The text of a host: up to a colon outside brackets. -/
def hostLength (inside : Bool) : List Char → Nat
  | [] => 0
  | c :: cs =>
    if c = ':' ∧ !inside then 0
    else hostLength (c = '[' || (inside && c ≠ ']')) cs + 1

/-- The port behind a colon: absent, standard or a number of 16 bits. What follows the digits must
be nothing, or a backslash. -/
def port? (scheme : String) (cs : List Char) : Option (Option Nat × List Char) :=
  let ds := cs.takeWhile Decimal.isDigit
  let rest := cs.dropWhile Decimal.isDigit
  let n := Decimal.value ds
  if n > 65535 || (rest ≠ [] && rest.head? ≠ some '\\') then none
  else some (if ds.isEmpty || standardPort scheme = some n then none else some n, rest)

/-- The parts of an authority. -/
structure Authority where
  username : String
  password : Option String
  host : Option Host
  port : Option Nat
  /-- What belongs to the path. -/
  rest : List Char

/-- The host as its scheme wants it. -/
def hostFor? (special : Bool) (cs : List Char) : Option (Option Host) :=
  if special then (Host.ofServer? cs).map some else Host.ofOther? cs

/-- Read an authority. -/
def authority? (scheme : String) (following : Bool) (cs : List Char) : Option Authority := do
  let special := isServerScheme scheme
  let (user, server) := (splitUser cs).getD ([], cs)
  let named := (splitUser cs).isSome
  let n := hostLength false server
  let hostText := server.take n
  let portText := server.drop n
  let host ← hostFor? special hostText
  let (username, password) := userParts user
  if host.isNone && (!portText.isEmpty || (named && following) || !username.isEmpty ||
      password.isSome) then none
  else
    let (port, rest) ← port? scheme (portText.drop 1)
    some ⟨username, password, host, port, rest⟩

/-! ## Paths -/

/-- The escaped form of a segment. -/
def segmentText (cs : List Char) : String :=
  .ofList (Percent.encode isPathEscaped cs)

/-- A segment that stands for the place it is in. -/
def isHere (s : String) : Bool :=
  s = "." || Text.lower s = "%2e"

/-- A segment that stands for the place above. -/
def isAbove (s : String) : Bool :=
  s = ".." || Text.lower s = ".%2e" || Text.lower s = "%2e." || Text.lower s = "%2e%2e"

/-- The pieces of a path between its slashes. -/
def pathPieces (special : Bool) : List Char → List (List Char)
  | [] => [[]]
  | c :: cs =>
    match pathPieces special cs with
    | [] => [[c]]
    | p :: ps => if isSlash special c then [] :: p :: ps else (c :: p) :: ps

/-- A letter and a colon or a bar, which name a drive. -/
def isDrive : List Char → Bool
  | [c, d] => c.isAlpha && (d == ':' || d == '|')
  | _ => false

/-- A segment that is not taken back: the name of a drive, alone or before a backslash. -/
def isFixed (s : String) : Bool :=
  isDrive (s.toList.takeWhile (· ≠ '\\'))

/-- The segments of the place above. -/
def above (done : List String) : List String :=
  if done.getLast?.any isFixed then done else done.dropLast

/-- Follow segments from the ones already there. -/
def follow (done : List String) : List String → List String
  | [] => done
  | [s] =>
    if isAbove s then above done ++ [""]
    else if isHere s then done ++ [""]
    else done ++ [s]
  | s :: ss =>
    if isAbove s then follow (above done) ss
    else if isHere s then follow done ss
    else follow (done ++ [s]) ss

/-- The segments of a path without its first slash. -/
def segmentsOf (special : Bool) (cs : List Char) : List String :=
  follow [] ((pathPieces special cs).map segmentText)

/-- The path behind an authority. -/
def pathAfter (special : Bool) : List Char → List String
  | [] => if special then [""] else []
  | c :: cs => if isSlash special c then segmentsOf special cs else segmentsOf special (c :: cs)

/-! ## Reading -/

/-- Blank at the ends of an address. -/
def isEdge (c : Char) : Bool :=
  decide (c.toNat ≤ 0x20)

/-- Dropped anywhere in an address. -/
def isBreak (c : Char) : Bool :=
  c == '\t' || c == '\n' || c == '\x0d'

/-- The characters of an address that count. -/
def cleaned (s : String) : List Char :=
  (Text.dropEndWhile isEdge (s.toList.dropWhile isEdge)).filter (!isBreak ·)

/-- The query behind a path. -/
def queryOf (special : Bool) : List Char → Option String
  | '?' :: cs => some (.ofList (Percent.encode (isQueryEscaped special) (cs.takeWhile (· ≠ '#'))))
  | _ => none

/-- The fragment behind a path and a query. -/
def fragmentOf (cs : List Char) : Option String :=
  match cs.dropWhile (· ≠ '#') with
  | _ :: fragment => some (.ofList (Percent.encode isFragmentEscaped fragment))
  | [] => none

/-- An address with an authority. -/
def withAuthority? (scheme : String) (cs : List Char) : Option Url := do
  let special := isServerScheme scheme
  let rest := cs.dropWhile (!endsAuthority special ·)
  let a ← authority? scheme (!rest.isEmpty) (cs.takeWhile (!endsAuthority special ·))
  let rest := a.rest ++ rest
  let tail := rest.dropWhile (!endsPath ·)
  some {
    scheme, username := a.username, password := a.password, host := a.host, hasAuthority := true
    port := a.port
    path := .segments (pathAfter special (rest.takeWhile (!endsPath ·)))
    query := queryOf special tail, fragment := fragmentOf tail }

/-- An address without an authority. -/
def withoutAuthority (scheme : String) (cs : List Char) : Url :=
  let tail := cs.dropWhile (!endsPath ·)
  let path := match cs.takeWhile (!endsPath ·) with
    | '/' :: rest => .segments (segmentsOf false rest)
    | text => .plain (.ofList (Percent.encode isControl text))
  { scheme, username := "", password := none, host := none, hasAuthority := false, port := none
    path, query := queryOf false tail, fragment := fragmentOf tail }

/-- The characters without a slash at the front. -/
def dropSlash : List Char → List Char
  | c :: cs => if isSlash true c then cs else c :: cs
  | [] => []

/-- What follows two slashes at the front, of either kind. -/
def behindAnySlashes : List Char → Option (List Char)
  | a :: b :: cs => if isSlash true a && isSlash true b then some cs else none
  | _ => none

/-- Host and path of a file. A drive is no host, and neither is the machine itself; only behind a
host the first slash is no part of the segments. -/
def fileParts? (cs : List Char) : Option (Option Host × List Char) :=
  match behindAnySlashes cs with
  | none => some (none, dropSlash cs)
  | some cs => do
    let h := cs.takeWhile (!isSlash true ·)
    let rest := cs.dropWhile (!isSlash true ·)
    if isDrive h then some (none, cs)
    else if h.isEmpty then some (none, rest)
    else
      let host ← Host.ofServer? h
      if host = .name "localhost" then some (none, rest) else some (some host, dropSlash rest)

/-- The segments of a path of files: a drive at the front is written with a colon. -/
def fileSegments (cs : List Char) : List String :=
  match segmentsOf true cs with
  | s :: ss => if isDrive s.toList then .ofList (s.toList.take 1 ++ [':']) :: ss else s :: ss
  | [] => []

/-- Segments without empty ones at the front, but with one at least. -/
def trimmedSegments (ss : List String) : List String :=
  match ss.dropWhile String.isEmpty with
  | [] => [""]
  | ss => ss

/-- The address of a file. -/
def file? (cs : List Char) : Option Url := do
  let tail := cs.dropWhile (!endsPath ·)
  let (host, path) ← fileParts? (cs.takeWhile (!endsPath ·))
  let segments := fileSegments path
  some {
    scheme := "file", username := "", password := none
    host := if segments.head?.any fun s => isDrive s.toList then none else host
    hasAuthority := true, port := none, path := .segments (trimmedSegments segments)
    query := queryOf true tail, fragment := fragmentOf tail }

/-- What the characters behind two slashes are, or nothing if there are no two slashes. -/
def behindSlashes : List Char → Option (List Char)
  | '/' :: '/' :: cs => some cs
  | _ => none

/-- Read an address. -/
def parse? (s : String) : Option Url := do
  let (scheme, rest) ← splitScheme (cleaned s)
  if isServerScheme scheme then withAuthority? scheme (rest.dropWhile (isSlash true))
  else if scheme = "file" then file? rest
  else
    match behindSlashes rest with
    | some cs => withAuthority? scheme cs
    | none => some (withoutAuthority scheme rest)

/-! ## Writing -/

/-- The written form of a path. -/
def pathText (u : Url) : String :=
  match u.path with
  | .plain t => t
  | .segments ss =>
    let text := String.join (ss.map ("/" ++ ·))
    if !u.hasAuthority && text.startsWith "//" then "/." ++ text else text

/-- The written form of user and password. -/
def userInfo (u : Url) : String :=
  match u.password with
  | some p => u.username ++ ":" ++ p ++ "@"
  | none => if u.username.isEmpty then "" else u.username ++ "@"

/-- The written form of the authority. -/
def authorityText (u : Url) : String :=
  if u.hasAuthority then
    "//" ++ u.userInfo ++ (u.host.map Host.text).getD "" ++
      (u.port.map fun n => ":" ++ Decimal.text n).getD ""
  else ""

/-- The written form without the fragment. -/
def textBeforeFragment (u : Url) : String :=
  u.scheme ++ ":" ++ u.authorityText ++ u.pathText ++ (u.query.map ("?" ++ ·)).getD ""

/-- The written form. -/
def text (u : Url) : String :=
  u.textBeforeFragment ++ (u.fragment.map ("#" ++ ·)).getD ""

/-! ## Changes -/

/-- The address with a pair more in its query. -/
def addPair (u : Url) (p : String × String) : Url :=
  let pair := String.ofList (Form.encodePair p)
  { u with query := some (match u.query with
    | some "" => pair
    | some q => q ++ "&" ++ pair
    | none => pair) }

/-- A part of the user info as text, if its bytes are text. -/
def userPlain? (s : String) : Option String :=
  Utf8.toString? (Percent.decode (Utf8.ofString s))

/-- User and password of an address, if it names any. -/
def credentials? (u : Url) : Option (String × Option String) := do
  let username ← userPlain? u.username
  let password := u.password.bind userPlain?
  if username.isEmpty && password.isNone then none else some (username, password)

/-- The address without user and password. -/
def withoutUser (u : Url) : Url :=
  { u with username := "", password := none }

/-- The scheme is one that requests are sent with. -/
def isWeb (u : Url) : Bool :=
  u.scheme = "http" || u.scheme = "https"

/-- The longest address that can be sent, in bytes. -/
def longest : Nat := 65534

/-- A character that a host name in a request may not hold. -/
def isUnsendable (c : Char) : Bool :=
  c == '\x22' || c == '\x60' || c == '\x7b' || c == '\x7d'

/-- The address can stand in a request. -/
def isSendable (u : Url) : Bool :=
  u.isWeb && decide (u.text.utf8ByteSize ≤ longest) &&
    !((u.host.map Host.text).getD "").toList.any isUnsendable

end Url

end ScimLookup
