import ArtifactAudit.Encoding.Percent
import ArtifactAudit.Number.Literal
import ArtifactAudit.Url.Address

/-!
# The components of a URL

`split` cuts a text into scheme, authority, path, query and fragment by the
delimiters `:`, `//`, `?` and `#`, and `Components.join` writes the components
down again. Blanks and control characters in front of the text, and tabs and
line ends anywhere in it, do not count.

An authority with brackets must hold an IPv6 address, or an address of a future
version, in them. An authority must not hold a character that stands for a
delimiter in compatibility form. The port is checked on its own.
-/

set_option autoImplicit false

namespace ArtifactAudit

/-! ## Delimiters behind compatibility forms -/

/-- The code points whose compatibility decomposition holds a URL delimiter. -/
def Text.delimiterForms : List Nat :=
  [0x2047, 0x2048, 0x2049, 0x2100, 0x2101, 0x2105, 0x2106, 0x2A74, 0xFE13, 0xFE16, 0xFE55,
    0xFE56, 0xFE5F, 0xFE6B, 0xFF03, 0xFF0F, 0xFF1A, 0xFF1F, 0xFF20]

/-- Whether the character decomposes to a text with a URL delimiter. -/
def Text.hidesDelimiter (c : Char) : Bool :=
  delimiterForms.contains c.toNat

namespace Url

/-- Why a text is not a URL. -/
inductive SplitError where
  /-- The brackets of the authority do not enclose its host. -/
  | brackets
  /-- The bracketed address of a future version is ill-formed. -/
  | futureAddress
  /-- The bracketed host is no address. -/
  | notAddress (host : List Char)
  /-- The bracketed host is an IPv4 address. -/
  | bracketedIpv4
  /-- The authority holds a delimiter in compatibility form. -/
  | hiddenDelimiter (authority : List Char)
  | portNotNumber (port : List Char)
  /-- The port has too many digits. -/
  | portTooLong (digits : Nat)
  /-- The port is too great. -/
  | portOutOfRange
  deriving DecidableEq, Repr

/-- The message about a text that is not a URL. -/
def SplitError.message : SplitError → String
  | brackets => "Invalid IPv6 URL"
  | futureAddress => "IPvFuture address is invalid"
  | notAddress host =>
    String.ofList (Text.quote host) ++ " does not appear to be an IPv4 or IPv6 address"
  | bracketedIpv4 => "An IPv4 address cannot be in brackets"
  | hiddenDelimiter authority =>
    "netloc '" ++ String.ofList authority ++
      "' contains invalid characters under NFKC normalization"
  | portNotNumber port =>
    "Port could not be cast to integer value as " ++ String.ofList (Text.quote port)
  | portTooLong digits => (Number.LiteralError.tooLong digits).message
  | portOutOfRange => "Port out of range 0-65535"

/-- The components of a URL. An absent component is empty. -/
structure Components where
  /-- The scheme, in lower case. -/
  scheme : List Char
  /-- The authority: user information, host and port. -/
  authority : List Char
  path : List Char
  query : List Char
  fragment : List Char
  deriving DecidableEq, Repr

/-- Whether the character may stand in a scheme. -/
def isSchemeChar (c : Char) : Bool :=
  c.isAlphanum || c == '+' || c == '-' || c == '.'

/-- The scheme of a text, in lower case, and what follows its colon. A text
whose part before the first colon is no scheme has none. -/
def splitScheme (s : List Char) : List Char × List Char :=
  let name := Text.before ':' s
  match Text.after? ':' s with
  | some rest =>
    if (name.head?.any Char.isAlpha) && name.all isSchemeChar then (name.map Char.toLower, rest)
    else ([], s)
  | none => ([], s)

/-- Whether the character ends the authority. -/
def endsAuthority (c : Char) : Bool :=
  c == '/' || c == '?' || c == '#'

/-- The authority of what follows the scheme, and the rest. -/
def splitAuthority : List Char → List Char × List Char
  | '/' :: '/' :: rest => (rest.takeWhile (!endsAuthority ·), rest.dropWhile (!endsAuthority ·))
  | s => ([], s)

/-- Whether the host is an address of a future version: `v`, a hexadecimal
version, a dot and at least one more character. -/
def isFutureAddress (host : List Char) : Bool :=
  match host with
  | 'v' :: rest =>
    let version := Text.before '.' rest
    !version.isEmpty && version.all (fun c => (Text.hexValue? c).isSome) &&
      !(Text.after '.' rest).isEmpty
  | _ => false

/-- Checks the host between brackets. -/
def checkBracketedHost (host : List Char) : Except SplitError Unit :=
  if host.head? = some 'v' then
    if isFutureAddress host then .ok () else .error .futureAddress
  else if isIpv4 host then .error .bracketedIpv4
  else if isIpv6 host then .ok ()
  else .error (.notAddress host)

def checkBrackets (authority : List Char) : Except SplitError Unit :=
  let opens := authority.contains '['
  let closes := authority.contains ']'
  if opens != closes then .error .brackets
  else if !opens then .ok ()
  else
    let host := Text.afterLast '@' authority
    match Text.after? '[' host with
    | some bracketed =>
      let rest := Text.after ']' bracketed
      if !(Text.before '[' host).isEmpty then .error .brackets
      else if !rest.isEmpty && rest.head? != some ':' then .error .brackets
      else checkBracketedHost (Text.before ']' bracketed)
    | none => checkBracketedHost (Text.before ':' host)

/-- Checks that an authority means the same after compatibility normalization. -/
def checkForms (authority : List Char) : Except SplitError Unit :=
  if authority.any Text.hidesDelimiter then .error (.hiddenDelimiter authority) else .ok ()

/-- The text that counts: without leading blanks and controls, tabs and line
ends. -/
def significant (s : List Char) : List Char :=
  (s.dropWhile (·.toNat ≤ 0x20)).filter fun c => c != '\t' && c != '\n' && c != '\r'

/-- Cuts a text into the components of a URL. -/
def split (s : List Char) : Except SplitError Components :=
  let (scheme, hierarchy) := splitScheme (significant s)
  let (authority, rest) := splitAuthority hierarchy
  let resource := Text.before '#' rest
  (checkBrackets authority).bind fun _ =>
    (checkForms authority).map fun _ =>
      { scheme, authority
        path := Text.before '?' resource
        query := Text.after '?' resource
        fragment := Text.after '#' rest }

namespace Components

/-- The port of the authority, if it names one. -/
def port (url : Components) : Except SplitError (Option Nat) :=
  let host := Text.afterLast '@' url.authority
  let port := match Text.after? '[' host with
    | some bracketed => Text.after ':' (Text.after ']' bracketed)
    | none => Text.after ':' host
  if port.isEmpty then .ok none
  else if !port.all Text.isAsciiDigit then .error (.portNotNumber port)
  else if Number.digitLimit < port.length then .error (.portTooLong port.length)
  else if 65535 < Number.ofDigits port then .error .portOutOfRange
  else .ok (some (Number.ofDigits port))

/-- The components written as a URL. Empty components leave no delimiter. -/
def join (url : Components) : List Char :=
  (if url.scheme.isEmpty then [] else url.scheme ++ [':']) ++
    (if url.authority.isEmpty then url.path
      else
        '/' :: '/' :: url.authority ++
          (if url.path.isEmpty || url.path.head? == some '/' then url.path else '/' :: url.path)) ++
    (if url.query.isEmpty then [] else '?' :: url.query) ++
    (if url.fragment.isEmpty then [] else '#' :: url.fragment)

end Components

end Url

end ArtifactAudit
