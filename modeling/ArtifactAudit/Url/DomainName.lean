import ArtifactAudit.Encoding.Percent
import ArtifactAudit.Encoding.Punycode
import ArtifactAudit.Text.LowerCase
import ArtifactAudit.Url.DomainName.Composition
import ArtifactAudit.Url.DomainName.Context
import ArtifactAudit.Url.DomainName.Direction
import ArtifactAudit.Url.DomainName.Permitted

/-!
# Internationalized domain names

A host name with characters beyond ASCII is requested by its ASCII form: the name
is lowered and cut into labels, and each label that is not ASCII is written in
Punycode after the opening `xn--`. Every label must be one by RFC 5891, that of
an ASCII form included.
-/

set_option autoImplicit false

namespace ArtifactAudit.Url.DomainName

/-- The greatest length of a label in its ASCII form. -/
def labelLimit : Nat := 63

/-- The greatest length of a name, not counting a dot at its end. -/
def nameLimit : Nat := 253

/-- The opening of the ASCII form of a label that is not ASCII. -/
def opening : List Char := ['x', 'n', '-', '-']

/-- Whether the character separates labels. -/
def isDot (c : Char) : Bool :=
  ['.', '\u3002', '\uff0e', '\uff61'].contains c

/-- Whether every character may stand where it stands. `before` holds the
characters before the place, the last one first. -/
def permits (before : List Char) : List Char → Bool
  | [] => true
  | c :: rest =>
    (isPermitted c || contextPermits before c rest) && permits (c :: before) rest

/-- Whether the hyphens of a label are where they may be: not at an end, and not
both at the third and the fourth place. -/
def allowsHyphens (label : List Char) : Bool :=
  label.head? != some '-' && label.getLast? != some '-' &&
    (label.drop 2).take 2 != ['-', '-']

/-- Whether the text is a label. -/
def isLabel (label : List Char) : Bool :=
  !label.isEmpty && label.length ≤ nameLimit + 1 && allowsHyphens label &&
    !label.head?.any isMark && permits [] label && isComposed label && keepsDirection label

/-- Whether a label in ASCII is one, or the form of one. -/
def isAsciiLabel (label : List Char) : Bool :=
  match Text.dropOpening? opening label with
  | some encoded =>
    !encoded.isEmpty && encoded.getLast? != some '-' &&
      (Punycode.decode? encoded).any isLabel
  | none => isLabel label

/-- The ASCII form of a label. -/
def asciiLabel? (label : List Char) : Option (List Char) :=
  let form := if label.all Percent.isAscii then label else opening ++ Punycode.encode label
  let valid := if label.all Percent.isAscii then isAsciiLabel label else isLabel label
  if valid ∧ form.length ≤ labelLimit then some form else none

def labels (name : List Char) : List (List Char) :=
  Text.pieces '.' (name.map fun c => if isDot c then '.' else c)

/-- The ASCII form of a name. A dot at its end stays. -/
def encode? (name : List Char) : Option (List Char) :=
  let lowered := Text.small name
  let pieces := labels lowered
  let rooted := pieces.getLast? == some []
  let limit := nameLimit + if rooted then 1 else 0
  if nameLimit + 1 < lowered.length then none
  else
    ((if rooted then pieces.dropLast else pieces).mapM asciiLabel?).bind fun forms =>
      let form := Text.joinPieces '.' forms ++ if rooted then ['.'] else []
      if forms.isEmpty || limit < form.length then none else some form

end ArtifactAudit.Url.DomainName
