import DeviceSecurity.Net.Url.Basic
import DeviceSecurity.Text.Basic

/-!
# Reading addresses

`Url.ofText` reads an address as browsers do: leniently, but to one form. Blanks and controls at
the ends and tabs and line ends everywhere are dropped. In the schemes of the web a backslash is a
slash, the host is never empty (but for files) and dot segments are resolved; characters that may
not stand in a part are encoded.
-/

namespace DeviceSecurity.Url

/-! ## What each part encodes -/

/-- Characters that a fragment encodes. -/
def inFragment (c : Char) : Bool := " \"<>\x60".toList.contains c

/-- Characters that a query encodes; only on the web also the apostrophe. -/
def inQuery (web : Bool) (c : Char) : Bool := " \"#<>".toList.contains c || (web && c == '\'')

/-- Characters that a path encodes. -/
def inPath (c : Char) : Bool := inFragment c || "#?\x7b\x7d".toList.contains c

/-- Characters that a user or password encodes. -/
def inUser (c : Char) : Bool := inPath c || "/:;=@[\\]^|".toList.contains c

/-- A part with the characters of a class encoded. -/
def encoded (chosen : Char → Bool) (s : List Char) : String :=
  String.ofList (Percent.encode chosen s)

/-! ## Scheme -/

/-- A character of a scheme. -/
def isSchemeChar (c : Char) : Bool := c.isAlphanum || c == '+' || c == '-' || c == '.'

/-- The scheme in small letters and what follows its colon. -/
def splitScheme? (s : List Char) : Option (String × List Char) :=
  match Text.cut (fun c => !isSchemeChar c) s with
  | (first :: more, ':' :: rest) =>
    if first.isAlpha then some (String.ofList ((first :: more).map Char.toLower), rest) else none
  | _ => none

/-! ## Path -/

/-- A character that separates segments. -/
def isSlash (web : Bool) (c : Char) : Bool := c == '/' || (web && c == '\\')

/-- A segment that stays where it is. -/
def isSingleDot (segment : String) : Bool := [".", "%2e"].contains (Text.lower segment)

/-- A segment that goes up. -/
def isDoubleDot (segment : String) : Bool :=
  ["..", ".%2e", "%2e.", "%2e%2e"].contains (Text.lower segment)

/-- A segment that names a drive: a letter and a colon or bar. -/
def isDrive (segment : List Char) : Bool :=
  match segment with
  | [letter, mark] => letter.isAlpha && (mark == ':' || mark == '|')
  | _ => false

/-- Segments without the last one. The drive that a file's path begins with stays. -/
def shorten (file : Bool) (segments : List String) : List String :=
  match segments with
  | [drive] => if file && isDrive drive.toList then [drive] else []
  | _ => segments.dropLast

/-- Adds a segment to those before it; `final` says that none follows. -/
def addSegment (file : Bool) (before : List String) (segment : String) (final : Bool) :
    List String :=
  if isDoubleDot segment then shorten file before ++ (if final then [""] else [])
  else if isSingleDot segment then before ++ (if final then [""] else [])
  else if file && before.isEmpty && isDrive segment.toList then
    [String.ofList (segment.toList.take 1 ++ [':'])]
  else before ++ [segment]

/-- The segments of a path without its leading slash. -/
def resolve (file : Bool) : (before : List String) → List String → List String
  | before, [] => before
  | before, [segment] => addSegment file before segment true
  | before, segment :: rest => resolve file (addSegment file before segment false) rest

/-- The path of a hierarchical address. On the web it has at least one segment. -/
def segmentsOf (scheme : String) (s : List Char) : List String :=
  let web := isWebScheme scheme
  let rest := match s with
    | c :: rest => if isSlash web c then rest else s
    | [] => []
  if s.isEmpty && !web then []
  else resolve (scheme == "file") [] ((Text.splitBy (isSlash web) rest).map (encoded inPath))

/-! ## Authority -/

/-- The port behind the host, and the rest of the authority. -/
def portOf (scheme : String) (s : List Char) : Except UrlFault (Option Nat × List Char) := do
  match s with
  | ':' :: s =>
    let (digits, rest) := Text.cut (fun c => !c.isDigit) s
    let port ← match Host.number? 10 digits with
      | some port => if port ≤ 65535 then pure port else throw .invalidPort
      | none => throw .invalidPort
    if rest ≠ [] ∧ rest.head? ≠ some '\\' then throw .invalidPort
    return (if digits.isEmpty ∨ defaultPort scheme = some port then none else some port, rest)
  | s => return (none, s)

/-- User and password before the last at sign of an authority, and what is behind it. -/
def splitUser (authority : List Char) : Option (List Char) × List Char :=
  let host := (authority.reverse.takeWhile (· ≠ '@')).reverse
  if host.length = authority.length then (none, authority)
  else (some (authority.take (authority.length - host.length - 1)), host)

/-- The host at the start of a text and the port mark or other text behind it: a colon between
brackets belongs to the host. -/
def spanHost : (bracketed : Bool) → List Char → List Char × List Char
  | _, [] => ([], [])
  | bracketed, c :: rest =>
    if c = ':' ∧ !bracketed then ([], c :: rest)
    else
      let (host, behind) := spanHost (c = '[' ∨ (bracketed ∧ c ≠ ']')) rest
      (c :: host, behind)

/-- Reads the host of a scheme; an empty one is none. -/
def hostOf (scheme : String) (s : List Char) : Except UrlFault (Option Host) := do
  if isWebScheme scheme then
    if s.isEmpty then throw .emptyHost
    return some (← Host.ofWeb s)
  else if s.isEmpty then return none
  else return some (← Host.ofOpaque s)

/-- Reads user, host and port into an address; the result has the text of the authority that is
left over for the path. `final` says that the authority ends the address. -/
def readAuthority (u : Url) (authority : List Char) (final : Bool) :
    Except UrlFault (Url × List Char) := do
  let (user, hostAndPort) := splitUser authority
  if user = some [] ∧ hostAndPort.isEmpty ∧ !final then throw .emptyHost
  let (name, secret) := Text.cut (· == ':') (user.getD [])
  let password := if secret.length ≤ 1 then none else some (encoded inUser (secret.drop 1))
  let u := { u with username := encoded inUser name, password }
  let (host, behind) := spanHost false hostAndPort
  let host ← hostOf u.scheme host
  if host = none ∧ (behind.head? = some ':' ∨ u.hasCredentials) then throw .emptyHost
  let (port, rest) ← portOf u.scheme behind
  return ({ u with host, port }, rest)

/-! ## Parts behind the scheme -/

/-- Reads the path of an address whose authority is read. -/
def readPath (u : Url) (s : List Char) : Url :=
  { u with path := .segments (segmentsOf u.scheme s) }

/-- Reads an address with a host. -/
def readHierarchical (u : Url) (s : List Char) (final : Bool) : Except UrlFault Url := do
  let (authority, path) := Text.cut (isSlash (isWebScheme u.scheme)) s
  let (u, rest) ← readAuthority u authority (final && path.isEmpty)
  return u.readPath (rest ++ path)

/-- Reads the address of a file. `localhost` is no host, and a drive is not on a host. -/
def readFile (u : Url) (s : List Char) : Except UrlFault Url := do
  match s with
  | a :: b :: rest =>
    if isSlash true a && isSlash true b then
      let (name, path) := Text.cut (isSlash true) rest
      if isDrive name then return u.readPath rest
      let host ← if name.isEmpty then pure none else some <$> Host.ofWeb name
      let u := { u with host := if host = some (Host.domain "localhost") then none else host }
      let u := u.readPath path
      match u.path with
      | .segments (first :: _) => return if isDrive first.toList then { u with host := none } else u
      | _ => return u
    else return u.readPath s
  | _ => return u.readPath s

/-- Reads all but query and fragment; `final` says that there are none. -/
def readBody (scheme : String) (s : List Char) (final : Bool) : Except UrlFault Url :=
  let u : Url := { scheme }
  if scheme = "file" then u.readFile s
  else if isWebScheme scheme then u.readHierarchical (s.dropWhile (isSlash true)) final
  else
    match s with
    | '/' :: '/' :: rest => u.readHierarchical rest final
    | '/' :: _ => .ok (u.readPath s)
    | _ => .ok { u with path := .opaqueText (encoded (fun _ => false) s) }

/-! ## Whole addresses -/

/-- A text without blanks and controls at its ends and without tabs and line ends. -/
def cleaned (s : String) : List Char :=
  (Text.trimBy (· ≤ ' ') s.toList).filter fun c => c ≠ '\t' && c ≠ '\n' && c ≠ '\r'

/-- Reads an address. -/
def ofText (s : String) : Except UrlFault Url := do
  let some (scheme, rest) := splitScheme? (cleaned s) | throw .noScheme
  let (body, behind) := Text.cut (fun c => c == '?' || c == '#') rest
  let (query, fragment) := Text.cut (· == '#') behind
  let u ← readBody scheme body behind.isEmpty
  return { u with
    query := if query.isEmpty then none
      else some (encoded (inQuery (isWebScheme scheme)) (query.drop 1))
    fragment := if fragment.isEmpty then none else some (encoded inFragment (fragment.drop 1)) }

end DeviceSecurity.Url
