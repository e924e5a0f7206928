import ArtifactAudit.Path
import ArtifactAudit.Script.Basic

/-!
# Files of a rehearsal

A rehearsal has a working directory of its own with the files it is given, each
under a relative path, and the directories that lead to them. Looking a path up
follows its components one by one; a component `..` leads back, and beyond the
working directory only directories are known. Of absolute paths, those are known
that lead to directories of every system.
-/

set_option autoImplicit false

namespace ArtifactAudit.Rehearsal

/-- A file or a directory. A directory has no content. -/
structure FileEntry where
  /-- The components of the path. -/
  components : List String
  /-- The content of a file. -/
  content : Option (List UInt8)

/-- What a path leads to. -/
inductive Found where
  | nothing
  /-- A file stands where a directory is needed. -/
  | blocked
  /-- A component is too long. -/
  | tooLong
  | directory
  | file (content : List UInt8)

def components (path : String) : List String :=
  (Path.ofText path).components.map String.ofList

/-- What lies at a place in the working directory. -/
def entryAt (entries : List FileEntry) (place : List String) : Found :=
  match entries.find? (·.components == place) with
  | some entry => match entry.content with
    | some content => .file content
    | none => .directory
  | none =>
    if place.isEmpty || entries.any fun entry => place.isPrefixOf entry.components then .directory
    else .nothing

/-- The greatest number of bytes in a component. -/
def componentLimit : Nat := 255

/-- The least number of bytes that is too many for a path. -/
def pathLimit : Nat := 4096

/-- Follows components from a place in a directory that is known. Above the
topmost directory lies itself; above any other one only directories are known. -/
def follow (entries : List FileEntry) (isTop : Bool) : (place : List String) → List String → Found
  | place, [] => entryAt entries place
  | place, name :: rest =>
    match entryAt entries place with
    | .directory =>
      if componentLimit < name.utf8ByteSize then .tooLong
      else if name = ".." then
        if !place.isEmpty || isTop then follow entries isTop place.dropLast rest
        else if rest.all (· == "..") then .directory
        else .nothing
      else follow entries isTop (place ++ [name]) rest
    | .file _ => .blocked
    | other => other

/-- What every system has in its topmost directory. -/
def systemEntries : List FileEntry :=
  (["bin", "boot", "dev", "etc", "home", "lib", "media", "mnt", "opt", "proc", "root", "run",
      "sbin", "srv", "sys", "tmp", "usr", "var"].map fun name =>
    { components := [name], content := none }) ++
    [{ components := ["dev", "null"], content := some [] }]

/-- What a path leads to. -/
def find (entries : List FileEntry) (path : String) : Found :=
  if pathLimit ≤ path.utf8ByteSize then .tooLong
  else if path.isEmpty then .nothing
  else
    let isTop := path.startsWith "/"
    match follow (if isTop then systemEntries else entries) isTop [] (components path) with
    | .file content =>
      if path.endsWith "/" || path.endsWith "/." then .blocked else .file content
    | found => found

/-- What reading a path gives. -/
def content (entries : List FileEntry) (path : String) : FileAnswer :=
  if path.contains '\x00' then .fault (.value "embedded null byte")
  else match find entries path with
    | .nothing => .unreadable ⟨2, "No such file or directory", some path⟩
    | .blocked => .unreadable ⟨20, "Not a directory", some path⟩
    | .directory => .unreadable ⟨21, "Is a directory", some path⟩
    | .tooLong => .unreadable ⟨36, "File name too long", some path⟩
    | .file content => .content content

/-- What looking a path up gives. -/
def status (entries : List FileEntry) (path : String) : FileStatus :=
  if path.contains '\x00' then .fault (.value "stat: embedded null character in path")
  else match find entries path with
    | .directory => .directory
    | .file _ => .file
    | _ => .missing

end ArtifactAudit.Rehearsal
