/-!
# Cutting a text

A separator is a single character. A text is cut at its first or last
occurrence, or at all of them.

Blanks are the characters with the Unicode property White_Space, together with the
four information separators U+001C to U+001F.
-/

set_option autoImplicit false

namespace ArtifactAudit.Text

/-- The text before the first `separator`, all of it when there is none. -/
def before (separator : Char) (s : List Char) : List Char :=
  s.takeWhile (· != separator)

/-- The text after the first `separator`, if there is one. -/
def after? (separator : Char) (s : List Char) : Option (List Char) :=
  match s.dropWhile (· != separator) with
  | [] => none
  | _ :: rest => some rest

/-- The text after the first `separator`, empty when there is none. -/
def after (separator : Char) (s : List Char) : List Char :=
  (after? separator s).getD []

/-- The text after the last `separator`, all of it when there is none. -/
def afterLast (separator : Char) (s : List Char) : List Char :=
  (before separator s.reverse).reverse

/-- The text before the last `separator`, if there is one. -/
def beforeLast? (separator : Char) (s : List Char) : Option (List Char) :=
  (after? separator s.reverse).map List.reverse

/-- The stretches between the separators; a text without one is a single
stretch. -/
def pieces (separator : Char) (s : List Char) : List (List Char) :=
  s.foldr
    (fun c stretches =>
      if c = separator then [] :: stretches
      else match stretches with
        | [] => [[c]]
        | stretch :: rest => (c :: stretch) :: rest)
    [[]]

/-- The stretches joined again, `separator` between each two. -/
def joinPieces (separator : Char) : List (List Char) → List Char
  | [] => []
  | stretch :: rest => stretch ++ rest.flatMap (separator :: ·)

/-- The text without the characters at its end that satisfy `p`. -/
def dropEndWhile (p : Char → Bool) (s : List Char) : List Char :=
  (s.reverse.dropWhile p).reverse

/-- The text without the characters at either end that satisfy `p`. -/
def trimWhile (p : Char → Bool) (s : List Char) : List Char :=
  dropEndWhile p (s.dropWhile p)

/-- What is left of the text after `opening`, if it starts so. -/
def dropOpening? (opening s : List Char) : Option (List Char) :=
  if opening.isPrefixOf s then some (s.drop opening.length) else none

/-- A text without its slashes at the end. -/
def withoutFinalSlashes (s : String) : String :=
  String.ofList (dropEndWhile (· == '/') s.toList)

/-! ## Blanks -/

/-- Whether the character is a blank. -/
def isBlank (c : Char) : Bool :=
  let code := c.toNat
  (0x09 ≤ code && code ≤ 0x0D) || (0x1C ≤ code && code ≤ 0x20) || code == 0x85 || code == 0xA0
    || code == 0x1680 || (0x2000 ≤ code && code ≤ 0x200A) || code == 0x2028 || code == 0x2029
    || code == 0x202F || code == 0x205F || code == 0x3000

/-- The text without the blanks at either end. -/
def strip (s : List Char) : List Char :=
  trimWhile isBlank s

/-- The text without the blanks at either end. -/
def stripped (s : String) : String :=
  String.ofList (strip s.toList)

end ArtifactAudit.Text
