/-!
# Phrases in texts

Command output and log lines are classified by fixed phrases that may stand
anywhere in them. `occursIn` decides whether a phrase stands in a list;
`occursIn_iff` says that this is the infix relation.

The phrases, and the words with which a text is compared in lower case, consist of
ASCII characters. Only three kinds of character have a lower-case form that holds
an ASCII character: the ASCII capitals, the Kelvin sign U+212A, whose form is `k`,
and the dotted capital I U+0130, whose form is `i` followed by U+0307. To such a
phrase every other character looks as it is (`lower`).
-/

set_option autoImplicit false

namespace ArtifactAudit.Text

/-- Whether `phrase` stands in the list as consecutive members. -/
def occursIn {α : Type} [BEq α] (phrase : List α) : List α → Bool
  | [] => phrase.isEmpty
  | x :: rest => phrase.isPrefixOf (x :: rest) || occursIn phrase rest

/-- Occurring in a list is being an infix of it. -/
theorem occursIn_iff {α : Type} [BEq α] [LawfulBEq α] {phrase list : List α} :
    occursIn phrase list = true ↔ phrase <:+: list := by
  induction list with
  | nil => simp [occursIn]
  | cons x rest ih =>
    simp only [occursIn, Bool.or_eq_true, ih, List.isPrefixOf_iff_prefix, List.infix_cons_iff]

/-- Whether the phrase stands somewhere in the text. -/
def mentions (text phrase : String) : Bool :=
  occursIn phrase.toList text.toList

/-! ## Lower case -/

/-- The lower-case form of one character, as far as it can hold an ASCII one. -/
def lowerChar (c : Char) : List Char :=
  if c = '\u212A' then ['k']
  else if c = '\u0130' then ['i', '\u0307']
  else [c.toLower]

/-- The lower-case form of a text, as far as an ASCII phrase can tell. -/
def lower (s : List Char) : List Char :=
  s.flatMap lowerChar

end ArtifactAudit.Text
