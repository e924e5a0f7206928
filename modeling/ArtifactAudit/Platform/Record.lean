import ArtifactAudit.Encoding.Utf8
import ArtifactAudit.Json.Reader
import ArtifactAudit.Number.Shortest
import ArtifactAudit.Path
import ArtifactAudit.Platform.Defect

/-!
# Reading records

A record is read from a JSON value field by field. Reading either gives the
record or all its defects, in the order of the fields. Fields that a record does
not have are ignored, and nothing but a text is read as a text.
-/

set_option autoImplicit false

namespace ArtifactAudit.Platform

/-- A value that was read, or its defects. -/
abbrev Checked (α : Type) : Type := Except (List Defect) α

namespace Checked

variable {α β : Type}

/-- A single defect at the place itself. -/
def defect (kind : DefectKind) : Checked α :=
  .error [⟨[], kind⟩]

/-- The result seen from a record that holds the value under `key`. -/
def under (key : String) : Checked α → Checked α
  | .ok value => .ok value
  | .error defects => .error (defects.map (·.under key))

/-- Two results together. The defects of both are kept. -/
def both : Checked α → Checked β → Checked (α × β)
  | .ok a, .ok b => .ok (a, b)
  | .ok _, .error defects => .error defects
  | .error defects, .ok _ => .error defects
  | .error first, .error second => .error (first ++ second)

/-- Reads every item of a list, the first of them at position `index`. -/
def items (read : Json.Value → Checked α) (index : Nat) : List Json.Value → Checked (List α)
  | [] => .ok []
  | item :: rest =>
    (both ((read item).under (toString index)) (items read (index + 1) rest)).map
      fun (first, others) => first :: others

end Checked

/-! ## Kinds of fields -/

/-- A text of at least `least` characters. -/
def readText (least : Nat) : Json.Value → Checked String
  | .string s => if s.length < least then .defect .tooShort else .ok s
  | _ => .defect .notText

/-- A text or nothing. -/
def readOptionalText : Json.Value → Checked (Option String)
  | .null => .ok none
  | value => (readText 0 value).map some

def readList {α : Type} (read : Json.Value → Checked α) : Json.Value → Checked (List α)
  | .array items => .items read 0 items
  | _ => .defect .notList

/-- A path, in normal form. -/
def readPath : Json.Value → Checked Path
  | .string s => .ok (.ofText s)
  | _ => .defect .notPath

/-- The words for true and false, in lower case. -/
def truthWords : List (String × Bool) :=
  [("0", false), ("f", false), ("n", false), ("no", false), ("off", false), ("false", false),
    ("1", true), ("t", true), ("y", true), ("on", true), ("yes", true), ("true", true)]

/-- The truth value that a whole number stands for. Only words of 64 bits are
considered. -/
def truthOfInt (n : Int) : Checked Bool :=
  if n = 0 then .ok false
  else if n = 1 then .ok true
  else if Number.fitsWord n then .defect .noSuchTruth
  else .defect .notTruth

/-- A truth value, or a text or number that stands for one. -/
def readTruth : Json.Value → Checked Bool
  | .bool value => .ok value
  | .string s =>
    match truthWords.lookup (String.ofList (s.toList.map Char.toLower)) with
    | some value => .ok value
    | none => .defect .noSuchTruth
  | .int n => truthOfInt n
  | .float x =>
    match Number.whole? x with
    | some n => if n.natAbs < Number.twoTo 63 then truthOfInt n else .defect .notTruth
    | none => .defect .notTruth
  | _ => .defect .notTruth

/-! ## Fields of records -/

/-- The named values of a record. -/
abbrev Fields : Type := List (String × Json.Value)

/-- A field that must be present. -/
def required {α : Type} (key : String) (read : Json.Value → Checked α) (fields : Fields) :
    Checked α :=
  match fields.lookup key with
  | some value => (read value).under key
  | none => (Checked.defect .missing).under key

/-- A field that may be missing. -/
def optional {α : Type} (key : String) (absent : α) (read : Json.Value → Checked α)
    (fields : Fields) : Checked α :=
  match fields.lookup key with
  | some value => (read value).under key
  | none => .ok absent

def readRecord {α : Type} (read : Fields → Checked α) : Json.Value → Checked α
  | .object fields => read fields
  | _ => .defect .notRecord

/-- A record in the body of a response: UTF-8 text in JSON. -/
def decode {α : Type} (read : Json.Value → Checked α) (body : List UInt8) : Checked α :=
  match (Utf8.decode? body).map (Json.read .body) with
  | some (.ok value) => read value
  | _ => .defect .notJson

end ArtifactAudit.Platform
