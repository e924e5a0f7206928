import ArtifactAudit.Number.Layout
import ArtifactAudit.Text.Quoted

/-!
# JSON values

An object keeps its fields in the order of first appearance, one field a key.
Whole numbers are exact and numbers with a fraction or an exponent are doubles.
Messages name the kind of a value and show values inside one another.
-/

set_option autoImplicit false

namespace ArtifactAudit.Json

/-- A JSON value. -/
inductive Value where
  /-- The value `null`. -/
  | null
  | bool (value : Bool)
  | int (value : Int)
  /-- A number with a fraction or an exponent. -/
  | float (value : Float)
  | string (value : String)
  /-- A list of values. -/
  | array (items : List Value)
  /-- Named values. -/
  | object (fields : List (String × Value))
  deriving Inhabited

/-- The fields with one set: an existing key keeps its place. -/
def setField (key : String) (value : Value) (fields : List (String × Value)) :
    List (String × Value) :=
  if fields.any (·.1 == key) then
    fields.map fun field => if field.1 == key then (key, value) else field
  else fields ++ [(key, value)]

namespace Value

/-- The value of a field of an object. -/
def field? (value : Value) (key : String) : Option Value :=
  match value with
  | .object fields => fields.lookup key
  | _ => none

/-- The kind of a value, as messages name it. -/
def kind : Value → String
  | .null => "NoneType"
  | .bool _ => "bool"
  | .int _ => "int"
  | .float _ => "float"
  | .string _ => "str"
  | .array _ => "list"
  | .object _ => "dict"

/-- Whether the value is empty: null, false, zero, or without members. -/
def isEmpty : Value → Bool
  | .null => true
  | .bool value => !value
  | .int value => value == 0
  | .float value => value == 0
  | .string value => value.isEmpty
  | .array items => items.isEmpty
  | .object fields => fields.isEmpty

mutual

/-- A value as it is shown inside another one: texts are quoted. -/
def shown : Value → String
  | .null => "None"
  | .bool true => "True"
  | .bool false => "False"
  | .int value => toString value
  | .float value => Number.text value
  | .string value => Text.quoted value
  | .array items => "[" ++ ", ".intercalate (shownItems items) ++ "]"
  | .object fields => "\x7b" ++ ", ".intercalate (shownFields fields) ++ "\x7d"

/-- The members of a list as they are shown. -/
def shownItems : List Value → List String
  | [] => []
  | item :: rest => shown item :: shownItems rest

/-- The fields of an object as they are shown. -/
def shownFields : List (String × Value) → List String
  | [] => []
  | (key, value) :: rest => (Text.quoted key ++ ": " ++ shown value) :: shownFields rest

end

/-- A value as it stands in a message: a text is not quoted. -/
def text : Value → String
  | .string value => value
  | value => shown value

end Value

end ArtifactAudit.Json
