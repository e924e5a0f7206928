/-!
# Defects of records

A record of the platform is checked field by field. Each defect says where it
lies and what is wrong there, and all defects of a record are reported together.
-/

set_option autoImplicit false

namespace ArtifactAudit.Platform

/-- What is wrong with a field. -/
inductive DefectKind where
  /-- The field is missing. -/
  | missing
  /-- The field is not a text. -/
  | notText
  /-- The text is too short. -/
  | tooShort
  /-- The field is not a list. -/
  | notList
  /-- The value is not a record. -/
  | notRecord
  /-- The field is not a path. -/
  | notPath
  /-- The field is of a kind that holds no truth values. -/
  | notTruth
  /-- The text or number stands for no truth value. -/
  | noSuchTruth
  /-- The document is not JSON. -/
  | notJson
  deriving DecidableEq, Repr

/-- The short name of a kind of defect. -/
def DefectKind.label : DefectKind → String
  | missing => "missing"
  | notText => "string_type"
  | tooShort => "string_too_short"
  | notList => "list_type"
  | notRecord => "model_type"
  | notPath => "path_type"
  | notTruth => "bool_type"
  | noSuchTruth => "bool_parsing"
  | notJson => "json_invalid"

/-- A defect of a record. -/
structure Defect where
  /-- The field, by the keys and positions that lead to it. -/
  location : List String
  /-- What is wrong there. -/
  kind : DefectKind
  deriving DecidableEq, Repr

namespace Defect

/-- A defect in words: the dotted location, if there is one, and the kind. -/
def text (defect : Defect) : String :=
  if defect.location.isEmpty then defect.kind.label
  else ".".intercalate defect.location ++ " " ++ defect.kind.label

/-- A list of defects in words. -/
def summary (defects : List Defect) : String :=
  "<" ++ "; ".intercalate (defects.map text) ++ ">"

/-- The defect seen from a record that holds the defective one under `key`. -/
def under (key : String) (defect : Defect) : Defect :=
  { defect with location := key :: defect.location }

end Defect

end ArtifactAudit.Platform
