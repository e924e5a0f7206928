import ArtifactAudit.Failure
import ArtifactAudit.Json.Value
import ArtifactAudit.Url.Split

/-!
# Download addresses

The platform hands out signed download addresses whose query is raw or only
partly escaped. Before an address goes into a shell command its query is decoded
once and escaped with nothing kept but unreserved characters, so that no
delimiter of the query can be read as anything else. The path keeps its escapes
and delimiters; what can never stand in a path is escaped. The other components
stay as they are.
-/

set_option autoImplicit false

namespace ArtifactAudit.Url

/-- Whether a path may hold the character: unreserved characters, the delimiters
of a path segment, slashes and the percent sign of an escape. -/
def keepsInPath (c : Char) : Bool :=
  Percent.isUnreserved c || "/%:@!$&'()*+,;=".toList.contains c

/-- A path with everything escaped that a path may not hold. -/
def escapePath (path : List Char) : List Char :=
  Percent.encode keepsInPath path

/-- A query decoded once and escaped anew. -/
def reescapeQuery (query : List Char) : List Char :=
  Percent.encode Percent.isUnreserved (Percent.decode query)

/-- The components with path and query escaped anew. -/
def Components.reescape (url : Components) : Components :=
  { url with path := escapePath url.path, query := reescapeQuery url.query }

/-- The components of a text with a valid port. -/
def splitChecked (s : List Char) : Except SplitError Components :=
  (split s).bind fun url => url.port.map fun _ => url

/-- The download address in the form that is handed to the shell. -/
def normalize (raw : String) : Except Failure String :=
  match splitChecked (Text.strip raw.toList) with
  | .error error =>
    .error (.malformedUrl s!"Cannot parse download URL {Text.quoted raw}: {error.message}")
  | .ok url =>
    if url.scheme.isEmpty || url.authority.isEmpty then
      .error (.malformedUrl s!"Download URL is not absolute: {Text.quoted raw}")
    else .ok (String.ofList url.reescape.join)

/-- The download address that a value of any kind denotes: only texts do. -/
def normalizeValue : Json.Value → Except Failure String
  | .string raw => normalize raw
  | value => .error (.malformedUrl s!"Download URL must be a string, got {value.kind}")

end ArtifactAudit.Url
