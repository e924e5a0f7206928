/-!
# Console markup

Console texts are styled by tags in square brackets. A tag begins with a bracket
and a lower-case letter or one of `#`, `/` and `@`, and ends at the next closing
bracket, with no opening bracket in between. A backslash in front takes the
meaning from a bracket, and a backslash in front of that backslash gives it back:
a tag is active when an even number of backslashes stands before it.

A text from outside is printed without its tags taking effect: the backslashes
before a tag are doubled and one more is added. A single backslash at the end of
the text is doubled too, so that it cannot take the meaning from what follows.
-/

set_option autoImplicit false

namespace ArtifactAudit.Markup

/-! ## Tags -/

/-- Whether a tag may begin with this character after its bracket. -/
def opensTagName (c : Char) : Bool :=
  ('a' ≤ c && c ≤ 'z') || c == '#' || c == '/' || c == '@'

/-- Whether a tag stands at the beginning of the text. -/
def startsTag : List Char → Bool
  | '[' :: c :: rest =>
    opensTagName c && (rest.dropWhile fun c => c != '[' && c != ']').head? == some ']'
  | _ => false

/-- Whether an active tag stands in the text. `active` tells whether an even
number of backslashes stands before it. -/
def hasActiveTagAfter (active : Bool) : List Char → Bool
  | [] => false
  | c :: rest =>
    (active && startsTag (c :: rest)) || hasActiveTagAfter (if c = '\\' then !active else true) rest

/-- Whether an active tag stands in the text. -/
def hasActiveTag (s : List Char) : Bool :=
  hasActiveTagAfter true s

/-! ## Escaping -/

/-- The text with every tag made inactive. -/
def escapeTags : List Char → List Char
  | [] => []
  | c :: rest =>
    if c = '\\' ∧ startsTag (rest.dropWhile (· == '\\')) then '\\' :: c :: escapeTags rest
    else if startsTag (c :: rest) then '\\' :: c :: escapeTags rest
    else c :: escapeTags rest

/-- The text with a single backslash at its end doubled. -/
def closeBackslash (s : List Char) : List Char :=
  if (s.reverse.takeWhile (· == '\\')).length = 1 then s ++ ['\\'] else s

/-- A text from outside, safe to print among markup. -/
def escape (s : String) : String :=
  String.ofList (closeBackslash (escapeTags s.toList))

end ArtifactAudit.Markup
