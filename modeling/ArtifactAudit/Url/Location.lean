import ArtifactAudit.Encoding.Base64
import ArtifactAudit.Number.Literal
import ArtifactAudit.Url.DomainName
import ArtifactAudit.Url.Split

/-!
# Request locations

A location is a URL in the form in which it is requested: every component is
percent-encoded as far as that component demands, scheme and host are in lower
case, an international host name is in its ASCII form, the port is left out when
it is the scheme's own, and the path holds no `.` or `..` segments. `Reference` is
the form before that, as it is cut from a text.

A text that is too long, holds an ASCII control character, or has an unusable
host, port or path has no location. Responses come only from locations that are
the URLs of resources (`Location.checkOrigin`).
-/

set_option autoImplicit false

namespace ArtifactAudit.Url

/-- The most characters a URL or one of its components may have. -/
def lengthLimit : Nat := 65536

/-- Whether the characters may stand in a URL: not too many, and no ASCII
control among them. -/
def isAcceptable (s : List Char) : Bool :=
  s.length ≤ lengthLimit && s.all fun c => 0x20 ≤ c.toNat && c.toNat != 0x7F

/-- A URL as it is cut from a text. -/
structure Reference where
  scheme : List Char
  authority : List Char
  path : List Char
  /-- The query, if there is one. -/
  query : Option (List Char)
  /-- The fragment, if there is one. -/
  fragment : Option (List Char)
  deriving DecidableEq, Repr

namespace Reference

/-- The scheme of a text and what follows its colon. A colon in front belongs to
an empty scheme. -/
def splitScheme (s : List Char) : List Char × List Char :=
  let name := s.takeWhile isSchemeChar
  match s.dropWhile isSchemeChar with
  | ':' :: rest => if name.isEmpty || name.head?.any Char.isAlpha then (name, rest) else ([], s)
  | _ => ([], s)

def ofText? (s : List Char) : Option Reference :=
  if isAcceptable s then
    let (scheme, hierarchy) := splitScheme s
    let (authority, rest) := splitAuthority hierarchy
    let resource := Text.before '#' rest
    some
      { scheme, authority
        path := Text.before '?' resource
        query := Text.after? '?' resource
        fragment := Text.after? '#' rest }
  else none

/-- Whether every component may stand in a URL. -/
def isAcceptable (reference : Reference) : Bool :=
  Url.isAcceptable reference.scheme && Url.isAcceptable reference.authority &&
    Url.isAcceptable reference.path && reference.query.all Url.isAcceptable &&
    reference.fragment.all Url.isAcceptable

end Reference

/-! ## What each component keeps -/

/-- Visible ASCII characters. -/
def isVisible (c : Char) : Bool :=
  0x21 ≤ c.toNat && c.toNat ≤ 0x7E

/-- What a query keeps. -/
def keptInQuery (c : Char) : Bool :=
  isVisible c && !(['"', '#', '<', '>'].contains c)

/-- What a path keeps. -/
def keptInPath (c : Char) : Bool :=
  keptInQuery c && !(['?', '\x60', '\x7b', '\x7d'].contains c)

/-- What a fragment keeps. -/
def keptInFragment (c : Char) : Bool :=
  isVisible c && !(['"', '<', '>', '\x60'].contains c)

/-- What user information keeps. -/
def keptInUser (c : Char) : Bool :=
  keptInPath c && !(['/', ';', '=', '@', '[', '\\', ']', '^', '|'].contains c)

/-- What a host name keeps. -/
def keptInHost (c : Char) : Bool :=
  Percent.isUnreserved c || "!$&'()*+,;=\"%|\\\x60\x7b\x7d".toList.contains c

/-! ## Host, port and path -/

/-- Whether the host consists of four numbers with dots between them, and so is
meant as an IPv4 address. -/
def looksNumeric (host : List Char) : Bool :=
  let numbers := Text.pieces '.' host
  numbers.length == 4 && numbers.all fun number => !number.isEmpty && number.all Text.isAsciiDigit

/-- The host as it is requested. An IPv6 address loses its brackets, and a name
beyond ASCII is written as a domain name in ASCII. -/
def encodeHost? (host : List Char) : Option (List Char) :=
  if host.isEmpty then some []
  else if looksNumeric host then if isIpv4 host then some host else none
  else if host.head? = some '[' ∧ host.getLast? = some ']' ∧ 2 ≤ host.length then
    let address := (host.drop 1).dropLast
    if isIpv6 address then some address else none
  else if host.all Percent.isAscii then some (Percent.encode keptInHost (host.map Char.toLower))
  else DomainName.encode? host

def standardPort? (scheme : List Char) : Option Int :=
  [("ftp", 21), ("http", 80), ("https", 443), ("ws", 80), ("wss", 443)].lookup
    (String.ofList scheme)

/-- The port as it is requested: none when it is the scheme's own. Only a scheme
written in lower case has one. -/
def readPort? (scheme port : List Char) : Option (Option Int) :=
  if port.isEmpty then some none
  else match Number.readWhole (String.ofList port) with
    | .ok number => some (if standardPort? scheme = some number then none else some number)
    | .error _ => none

/-- The user information, host and port texts of an authority. -/
def splitHost (authority : List Char) : List Char × List Char × List Char :=
  let user := (Text.beforeLast? '@' authority).getD []
  let place := Text.afterLast '@' authority
  let host :=
    match place.head?, Text.beforeLast? ']' place with
    | some '[', some bracketed => bracketed ++ [']']
    | _, _ => Text.before ':' place
  let rest := place.drop host.length
  (user, host, if rest.head? = some ':' then rest.drop 1 else rest)

/-- Removes a `.` segment, and with a `..` segment also the one before it,
unless that is the empty one in front. `kept` holds the segments kept so far, the
last one first. -/
def resolveSegments (kept : List (List Char)) : List (List Char) → List (List Char)
  | [] => kept.reverse
  | segment :: rest =>
    if segment = ['.'] then resolveSegments kept rest
    else if segment = ['.', '.'] then
      resolveSegments (if kept = [[]] then kept else kept.drop 1) rest
    else resolveSegments (segment :: kept) rest

/-- A path without `.` and `..` segments. -/
def resolvePath (path : List Char) : List Char :=
  let segments := Text.pieces '/' path
  if segments.contains ['.'] || segments.contains ['.', '.'] then
    Text.joinPieces '/' (resolveSegments [] segments)
  else path

/-! ## Locations -/

/-- A URL in the form in which it is requested. -/
structure Location where
  /-- The scheme, in lower case. -/
  scheme : List Char
  user : List Char
  /-- The host; an IPv6 address stands without brackets. -/
  host : List Char
  /-- The port, unless it is the scheme's own. -/
  port : Option Int
  path : List Char
  /-- The query, if there is one. -/
  query : Option (List Char)
  /-- The fragment, if there is one. -/
  fragment : Option (List Char)
  deriving DecidableEq, Repr

namespace Location

/-- Whether a path may follow: after an authority it is empty or begins with a
slash, and without scheme and authority it begins neither with two slashes nor
with a colon. -/
def allowsPath (hasScheme hasAuthority : Bool) (path : List Char) : Bool :=
  (!hasAuthority || path.isEmpty || path.head? == some '/') &&
    (hasScheme || hasAuthority ||
      !(['/', '/'].isPrefixOf path || [':'].isPrefixOf path))

def ofReference? (reference : Reference) : Option Location :=
  let (user, host, port) := splitHost reference.authority
  (encodeHost? host).bind fun host =>
    (readPort? reference.scheme port).bind fun port =>
      let scheme := reference.scheme.map Char.toLower
      let user := Percent.encode keptInUser user
      let hasScheme := !scheme.isEmpty
      let hasAuthority := !user.isEmpty || !host.isEmpty || port.isSome
      if allowsPath hasScheme hasAuthority reference.path then
        let path :=
          if hasScheme || hasAuthority then resolvePath reference.path else reference.path
        some
          { scheme, user, host, port
            path := Percent.encode keptInPath path
            query := reference.query.map (Percent.encode keptInQuery)
            fragment := reference.fragment.map (Percent.encode keptInFragment) }
      else none

def ofText? (s : List Char) : Option Location :=
  (Reference.ofText? s).bind ofReference?

/-- The authority: user information, host and port. -/
def authority (location : Location) : List Char :=
  (if location.user.isEmpty then [] else location.user ++ ['@']) ++
    (if location.host.contains ':' then '[' :: location.host ++ [']'] else location.host) ++
    (match location.port with
      | some port => ':' :: (toString port).toList
      | none => [])

def text (location : Location) : String :=
  String.ofList
    ((if location.scheme.isEmpty then [] else location.scheme ++ [':']) ++
      (if location.authority.isEmpty then [] else '/' :: '/' :: location.authority) ++
      location.path ++ (location.query.map ('?' :: ·)).getD [] ++
      (location.fragment.map ('#' :: ·)).getD [])

/-- Whether the location can be written in ASCII, as a request demands. -/
def isSendable (location : Location) : Bool :=
  location.text.toList.all Percent.isAscii

/-- The path and the query, as they stand in a request. -/
def target (location : Location) : List Char :=
  (if location.path.isEmpty then ['/'] else location.path) ++
    (location.query.map ('?' :: ·)).getD []

/-- The same place with another path and query. -/
def withResource? (location : Location) (path : List Char) (query : Option (List Char)) :
    Option Location :=
  let reference : Reference :=
    { scheme := location.scheme, authority := location.authority, path, query
      fragment := location.fragment }
  if reference.isAcceptable then ofReference? reference else none

/-- The same place with another path and query, given in one text. -/
def withTarget? (location : Location) (target : List Char) : Option Location :=
  location.withResource? (Text.before '?' target) (Text.after? '?' target)

/-! ### The origin of a response -/

/-- Why a location is not the origin of responses. -/
inductive OriginError where
  /-- No scheme stands in front of the first slash. -/
  | noScheme (location : List Char)
  /-- The location is not the URL of a resource. -/
  | notUrl (error : SplitError)
  deriving DecidableEq, Repr

/-- The message about a location that is no origin. -/
def OriginError.message : OriginError → String
  | noScheme location => "unknown url type: " ++ String.ofList (Text.quote location)
  | notUrl error => error.message

/-- Checks that cookies of a response can be attributed to the location: it must
begin with a scheme, and its components must be those of a URL. An empty fragment
does not count. -/
def checkOrigin (location : Location) : Except OriginError Unit :=
  let written := location.text.toList
  let resource := (Text.beforeLast? '#' written).getD written
  let whole := if (Text.afterLast '#' written).isEmpty then resource else written
  let name := resource.takeWhile fun c => c != '/' && c != ':'
  if name.isEmpty || (resource.drop name.length).head? != some ':' then .error (.noScheme whole)
  else ((split whole).map fun _ => ()).mapError .notUrl

end Location

/-! ## Resolving requests against a base -/

/-- A base URL, to which the paths of requests are appended. -/
structure Base where
  /-- Where the base lies. -/
  location : Location
  deriving DecidableEq, Repr

namespace Base

/-- The base that a text names. Its path and query end in a slash, which is
added when it is missing. -/
def ofText? (s : String) : Option Base :=
  (Location.ofText? s.toList).bind fun location =>
    if location.target.getLast? = some '/' then some ⟨location⟩
    else (location.withTarget? (location.target ++ ['/'])).map Base.mk

/-- The location of a request: the target of the reference is appended to that
of the base. A query that is given replaces all others. -/
def resolve? (base : Base) (reference : List Char) (query : Option (List Char)) :
    Option Location :=
  (Location.ofText? reference).bind fun relative =>
    (base.location.withTarget?
        (base.location.target ++ relative.target.dropWhile (· == '/'))).bind fun location =>
      match query with
      | some query => location.withResource? location.path (some query)
      | none => some location

/-- The credentials in the user information of the base, as they stand in the
header. -/
def credentials? (base : Base) : Option String :=
  let name := Percent.decode (Text.before ':' base.location.user)
  let secret := Percent.decode (Text.after ':' base.location.user)
  if name.isEmpty && secret.isEmpty then none
  else some ("Basic " ++ String.ofList (Base64.encode (Utf8.encode (name ++ ':' :: secret))))

end Base

end ArtifactAudit.Url
