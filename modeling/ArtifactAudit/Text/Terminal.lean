/-!
# Text for a file or a terminal

What is printed to something other than a terminal loses the control sequences
that only a terminal understands, and its line ends are single line feeds.
-/

set_option autoImplicit false

namespace ArtifactAudit.Text

/-- Whether the character belongs to the parameters of a control sequence. -/
def isParameterChar (c : Char) : Bool :=
  ('0' ≤ c && c ≤ '9') || c == ';' || c == '?'

/-- A text without control sequences: an escape character, an opening bracket,
parameters, and a letter. -/
def withoutControlSequences : List Char → List Char
  | [] => []
  | c :: rest =>
    let tail := (rest.drop 1).dropWhile isParameterChar
    if c = '\x1b' ∧ rest.head? = some '[' ∧ tail.head?.any Char.isAlpha then
      withoutControlSequences (tail.drop 1)
    else c :: withoutControlSequences rest
termination_by s => s.length
decreasing_by
  · have shorter := (List.dropWhile_suffix isParameterChar (l := rest.drop 1)).length_le
    simp only [List.length_cons, List.length_drop] at shorter ⊢
    omega
  · simp only [List.length_cons]; omega

/-- A text in which a line feed alone stands for a carriage return and a line
feed. -/
def singleLineFeeds : List Char → List Char
  | '\r' :: '\n' :: rest => '\n' :: singleLineFeeds rest
  | c :: rest => c :: singleLineFeeds rest
  | [] => []

/-- A text as it is printed to a file. -/
def printed (s : String) : String :=
  String.ofList (singleLineFeeds (withoutControlSequences s.toList))

end ArtifactAudit.Text
