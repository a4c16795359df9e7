import NodeAgent.Url.Basic

/-!
# Reading URLs

URLs are read leniently: blanks around them do not count, tabs and line breaks inside them do not
count, special schemes tolerate missing or superfluous slashes.  Dot segments are resolved while the
path is read.

## Main definitions

* `Url.parse`: reads a URL on its own.
* `Url.join`: reads a URL that may be relative to another one.
* `Url.setPath`, `Url.withTrailingSlash`: changes of the path, which is read anew.
-/

namespace NodeAgent.Url

open Text

/-- Drops tabs and line breaks, which count nowhere. -/
def dropBreaks (cs : List Char) : List Char :=
  cs.filter fun c => c != '\t' && c != '\n' && c != '\r'

/-- Drops what does not count: controls and spaces at both ends, tabs and line breaks anywhere. -/
def strip (s : String) : List Char :=
  let isEdge (c : Char) : Bool := c.toNat ≤ 0x20
  dropBreaks ((s.toList.dropWhile isEdge).reverse.dropWhile isEdge).reverse

/-- Whether a character may stand in a scheme. -/
def isSchemeChar (c : Char) : Bool :=
  c.isAlphanum || c == '+' || c == '-' || c == '.'

/-- The scheme at the front of a URL, in lower case, and what follows its colon. -/
def scheme? (cs : List Char) : Option (String × List Char) :=
  match cs with
  | c :: _ =>
    if c.isAlpha then
      match cs.span isSchemeChar with
      | (scheme, ':' :: rest) => some (String.ofList (scheme.map Char.toLower), rest)
      | _ => none
    else none
  | [] => none

/-- Whether a character separates segments of a path. -/
def isSlash (special : Bool) (c : Char) : Bool :=
  c == '/' || (special && c == '\\')

/-! ## Authority -/

/-- Whether a character ends the authority. -/
def endsAuthority (special : Bool) (c : Char) : Bool :=
  c == '/' || c == '?' || c == '#' || (special && c == '\\')

/-- The parts of a text around its last `@`. -/
def splitAtLastAt (cs : List Char) : Option (List Char × List Char) :=
  match cs.reverse.span (· != '@') with
  | (_, []) => none
  | (after, _ :: before) => some (before.reverse, after.reverse)

/-- The user name and password in front of an `@`, encoded.  An empty password is none. -/
def readUserinfo (cs : List Char) : String × Option String :=
  let write (part : List Char) : String := String.ofList (percentEncode inUserinfo part)
  match cs.span (· != ':') with
  | (user, []) => (write user, none)
  | (user, [_]) => (write user, none)
  | (user, _ :: password) => (write user, some (write password))

/-- The host at the front of an authority, and what follows it.  A colon inside brackets belongs to the
host. -/
def spanHost : Bool → List Char → List Char × List Char
  | _, [] => ([], [])
  | inside, c :: rest =>
    if c == ':' && !inside then ([], c :: rest)
    else
      let inside := if c == '[' then true else if c == ']' then false else inside
      let (host, more) := spanHost inside rest
      (c :: host, more)

/-- Reads the digits of a port.  Without digits there is none, and the default port is none. -/
def readPort (scheme : String) (digits : List Char) : Except UrlError (Option UInt16) :=
  let n := digits.foldl (fun acc c => acc * 10 + (c.toNat - 0x30)) 0
  if 65535 < n then .error .invalidPort
  else if digits.isEmpty || defaultPort? scheme == some n.toUInt16 then .ok none
  else .ok (some n.toUInt16)

/-- Reads what follows `//`, and gives what follows the authority.  `followed` says whether a query or
a fragment comes after it all. -/
def readAuthority (scheme : String) (followed : Bool) (cs : List Char) :
    Except UrlError (Authority × List Char) := do
  let special := isSpecialScheme scheme
  let (all, rest) := cs.span fun c => !endsAuthority special c
  -- Every at sign but the last one belongs to the user information.
  let (userinfo, hostAndPort) := (splitAtLastAt all).getD ([], all)
  if (splitAtLastAt all).isSome && userinfo.isEmpty && hostAndPort.isEmpty
      && (followed || !rest.isEmpty) then
    throw .emptyHost
  let (username, password) := readUserinfo userinfo
  let (hostText, behindHost) := spanHost false hostAndPort
  if special && hostText.isEmpty then throw .emptyHost
  let host ← if special then Host.parse hostText else Host.parseOpaque hostText
  if host == .name "" && (!behindHost.isEmpty || !username.isEmpty || password.isSome) then
    throw .emptyHost
  let (digits, behindPort) := (behindHost.drop 1).span Char.isDigit
  let port ← readPort scheme digits
  if !behindPort.isEmpty && behindPort.head? != some '\\' then throw .invalidPort
  return ({ username, password, host, port }, behindPort ++ rest)

/-! ## Path -/

/-- Whether a segment means "this directory". -/
def isSingleDot (segment : List Char) : Bool :=
  segment == ['.'] || segment == ['%', '2', 'e'] || segment == ['%', '2', 'E']

/-- Whether a segment means "the directory above". -/
def isDoubleDot (segment : List Char) : Bool :=
  match segment with
  | '.' :: rest => isSingleDot rest
  | '%' :: '2' :: e :: rest => (e == 'e' || e == 'E') && isSingleDot rest
  | _ => false

/-- Whether a segment names a drive. -/
def isDrive (segment : List Char) : Bool :=
  match segment with
  | [letter, mark] => letter.isAlpha && (mark == ':' || mark == '|')
  | _ => false

/-- Whether a segment names a drive in its usual form. -/
def isPlainDrive (segment : List Char) : Bool :=
  isDrive segment && segment.getLast? == some ':'

/-- The segments of a path, which end at the slashes. -/
def segments (special : Bool) : List Char → List (List Char)
  | [] => [[]]
  | c :: rest =>
    match segments special rest with
    | [] => [[c]]
    | segment :: more => if isSlash special c then [] :: segment :: more else (c :: segment) :: more

/-- Goes up one directory.  A drive stays. -/
def goUp (file : Bool) : List (List Char) → List (List Char)
  | [drive] => if file && isPlainDrive drive then [drive] else []
  | _ :: before => before
  | [] => []

/-- **Resolves segments** behind a path whose segments are given in reverse.  The last segment has no
slash behind it; a dot segment there leaves the path with a slash at its end. -/
def resolve (file : Bool) : List (List Char) → List (List Char) → List (List Char)
  | done, [] => done.reverse
  | done, segment :: rest =>
    let last := rest.isEmpty
    -- A dot segment at the end still means a directory, so that a slash is left behind.
    if isDoubleDot segment then
      let up := goUp file done
      if last then ([] :: up).reverse else resolve file up rest
    else if isSingleDot segment then
      if last then ([] :: done).reverse else resolve file done rest
    else if file && done.isEmpty && isDrive segment then
      resolve file [segment.take 1 ++ [':']] rest
    else resolve file (segment :: done) rest

/-- The path made of segments, encoded.  The path of a file has no empty segments in front. -/
def writePath (file : Bool) (parts : List (List Char)) : String :=
  let parts := if file then
      match parts.dropWhile List.isEmpty with
      | [] => [[]]
      | kept => kept
    else parts
  String.ofList (parts.flatMap fun p => '/' :: p)

/-- Reads a path behind the segments of another one, which are given in reverse. -/
def readPath (scheme : String) (behind : List (List Char)) (cs : List Char) : String :=
  let special := isSpecialScheme scheme
  let file := isFileScheme scheme
  let encoded := (segments special cs).map (percentEncode inPath)
  writePath file (resolve file behind encoded)

/-- Reads the path behind an authority.  Special schemes always have one. -/
def readPathStart (scheme : String) (cs : List Char) : String :=
  match cs with
  | [] => if isSpecialScheme scheme then "/" else ""
  | c :: rest =>
    if isSlash (isSpecialScheme scheme) c then readPath scheme [] rest else readPath scheme [] cs

/-! ## Query and fragment -/

/-- The parts of a URL: what comes before the query, the query, the fragment. -/
def splitTail (cs : List Char) : List Char × Option (List Char) × Option (List Char) :=
  let (front, fragment) := cs.span (· != '#')
  let (path, query) := front.span (· != '?')
  (path, if query.isEmpty then none else some (query.drop 1),
    if fragment.isEmpty then none else some (fragment.drop 1))

/-- Encodes a query. -/
def writeQuery (scheme : String) (cs : List Char) : String :=
  String.ofList (percentEncode (if isSpecialScheme scheme then inSpecialQuery else inQuery) cs)

/-- Encodes a fragment. -/
def writeFragment (cs : List Char) : String :=
  String.ofList (percentEncode inFragment cs)

/-! ## The whole -/

/-- What is read of a URL before its query. -/
structure Front where
  authority : Option Authority
  path : String

/-- A file URL's host at the front of a text, and what follows it.  A drive is no host. -/
def readFileHost (cs : List Char) : Except UrlError (Host × List Char) := do
  let (hostText, rest) := cs.span fun c => c != '/' && c != '\\'
  if isDrive hostText then return (.name "", cs)
  if hostText.isEmpty then return (.name "", rest)
  let host ← Host.parse hostText
  return (if host == .name "localhost" then .name "" else host, rest)

/-- Reads a file URL behind its scheme. -/
def readFile (cs : List Char) : Except UrlError Front :=
  let local_ : Option Authority := some { host := .name "" }
  match cs with
  | a :: b :: rest =>
    if isSlash true a && isSlash true b then do
      let (host, rest) ← readFileHost rest
      let path := readPathStart "file" rest
      let firstSegment := ((path.toList.drop 1).takeWhile (· != '/'))
      -- A path that starts with a drive is a path of this machine, whatever the host.
      if isPlainDrive firstSegment then return ⟨local_, path⟩
      return ⟨some { host }, path⟩
    else .ok ⟨local_, readPathStart "file" cs⟩
  | _ => .ok ⟨local_, readPathStart "file" cs⟩

/-- Reads what stands between the scheme and the query. -/
def readFront (scheme : String) (followed : Bool) (cs : List Char) : Except UrlError Front :=
  if isFileScheme scheme then readFile cs
  else if isSpecialScheme scheme then do
    let (authority, rest) ← readAuthority scheme followed (cs.dropWhile (isSlash true))
    return ⟨some authority, readPathStart scheme rest⟩
  else
    match cs with
    | '/' :: '/' :: rest => do
      let (authority, rest) ← readAuthority scheme followed rest
      return ⟨some authority, readPathStart scheme rest⟩
    | '/' :: rest => .ok ⟨none, readPath scheme [] rest⟩
    | _ => .ok ⟨none, String.ofList (percentEncode isControl cs)⟩

/-- Reads a URL behind its scheme. -/
def readAbsolute (scheme : String) (cs : List Char) : Except UrlError Url := do
  let (front, query, fragment) := splitTail cs
  let ⟨authority, path⟩ ← readFront scheme (query.isSome || fragment.isSome) front
  return { scheme, authority, path, query := query.map (writeQuery scheme),
           fragment := fragment.map writeFragment }

/-- **Reads a URL.** -/
def parse (s : String) : Except UrlError Url :=
  match scheme? (strip s) with
  | some (scheme, rest) => readAbsolute scheme rest
  | none => .error .relativeWithoutBase

/-- The segments of a path without its last one, in reverse. -/
def directory (path : String) : List (List Char) :=
  (splitOnChar '/' (path.toList.drop 1)).reverse.drop 1

/-- Reads a URL without a scheme, relative to another one. -/
def readRelative (base : Url) (cs : List Char) : Except UrlError Url := do
  let special := isSpecialScheme base.scheme
  let (front, query, fragment) := splitTail cs
  let followed := query.isSome || fragment.isSome
  let fragment := fragment.map writeFragment
  let query := query.map (writeQuery base.scheme)
  match front with
  | [] =>
    if query.isNone then return { base with fragment }
    else return { base with query, fragment }
  | a :: b :: rest =>
    if isSlash special a && isSlash special b then
      let rest := if special then rest.dropWhile (isSlash true) else rest
      let (authority, rest) ← readAuthority base.scheme followed rest
      return { base with authority := some authority, path := readPathStart base.scheme rest,
                         query, fragment }
    else if isSlash special a then
      return { base with path := readPathStart base.scheme front, query, fragment }
    else
      return { base with path := readPath base.scheme (directory base.path) front, query, fragment }
  | [a] =>
    if isSlash special a then
      return { base with path := readPathStart base.scheme front, query, fragment }
    else
      return { base with path := readPath base.scheme (directory base.path) front, query, fragment }

/-- **Reads a URL that may be relative** to another one. -/
def join (base : Url) (s : String) : Except UrlError Url :=
  let cs := strip s
  match scheme? cs with
  | some (scheme, rest) =>
    -- The scheme of the base may be repeated in front of a relative path.
    let slashes := (rest.takeWhile (isSlash true)).length
    if scheme == base.scheme && isSpecialScheme scheme && slashes < 2 && !isFileScheme scheme then
      readRelative base rest
    else readAbsolute scheme rest
  | none =>
    if cs.head? == some '#' then .ok { base with fragment := some (writeFragment (cs.drop 1)) }
    else if base.isOpaque then .error .relativeToOpaque
    else readRelative base cs

/-! ## Changes of the path -/

/-- Reads an opaque path.  It cannot start with a slash, so that one is escaped. -/
def readOpaquePath : List Char → String
  | '/' :: rest => "%2F" ++ String.ofList (percentEncode isControl rest)
  | cs => String.ofList (percentEncode isControl cs)

/-- **The URL with another path**, which is read as the path of a URL is. -/
def setPath (u : Url) (path : String) : Url :=
  let cs := dropBreaks path.toList
  { u with path := if u.isOpaque then readOpaquePath cs else readPathStart u.scheme cs }

/-- **The URL with a slash at the end of its path**, which is put there if need be. -/
def withTrailingSlash (u : Url) : Url :=
  if u.path.endsWith "/" then u else u.setPath (u.path ++ "/")

end NodeAgent.Url
