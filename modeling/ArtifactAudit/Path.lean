import ArtifactAudit.Text.Cut

/-!
# Paths

A path is written without `.` components, repeated slashes and slashes at the
end. Components `..` stay, since they mean something only in a file system. A
path that begins with exactly two slashes keeps both; more count as one. The
empty path is `.`.
-/

set_option autoImplicit false

namespace ArtifactAudit

/-- A path in normal form. -/
structure Path where
  /-- The slashes in front. -/
  root : List Char
  components : List (List Char)
  deriving DecidableEq, Repr

namespace Path

/-- The path that a text denotes. -/
def ofText (s : String) : Path :=
  let slashes := (s.toList.takeWhile (· == '/')).length
  { root := if slashes = 0 then [] else if slashes = 2 then ['/', '/'] else ['/']
    components := (Text.pieces '/' s.toList).filter fun component =>
      !component.isEmpty && component != ['.'] }

def text (path : Path) : String :=
  match path.root, path.components with
  | [], [] => "."
  | root, components => String.ofList (root ++ Text.joinPieces '/' components)

/-- The last component, empty if there is none. -/
def name (path : Path) : String :=
  String.ofList (path.components.getLast?.getD [])

end Path

end ArtifactAudit
