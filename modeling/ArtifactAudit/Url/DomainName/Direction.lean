import ArtifactAudit.Url.DomainName.Mark

/-!
# Writing directions in labels

A label with characters written from the right must be unambiguous when it is
shown between others: `keepsDirection` is the rule of RFC 5893 for one label. The
directions are those of Unicode 14, for the characters of domain names.
-/

set_option autoImplicit false

namespace ArtifactAudit.Url.DomainName

open Text (CodeRun)

/-- How a character behaves in a line of text. -/
inductive Direction where
  /-- A letter written from the left. -/
  | left
  /-- A letter written from the right. -/
  | right
  /-- A letter of the Arabic kind, written from the right. -/
  | arabicLetter
  | europeanNumber
  | arabicNumber
  /-- A mark, which goes with its letter. -/
  | mark
  /-- Any other character: a hyphen, a joiner, or a neutral one. -/
  | neutral
  deriving DecidableEq, Repr

/-- Letters written from the right, and their marks. -/
def rightward : List CodeRun :=
  [⟨0x5D0, 0x5EA, 1⟩, ⟨0x5EF, 0x5F4, 1⟩, ⟨0x7C0, 0x7EA, 1⟩, ⟨0x7F4, 0x7F5, 1⟩, ⟨0x800, 0x815, 1⟩,
    ⟨0x81A, 0x81A, 1⟩, ⟨0x824, 0x824, 1⟩, ⟨0x828, 0x828, 1⟩, ⟨0x840, 0x858, 1⟩,
    ⟨0x10800, 0x10805, 1⟩, ⟨0x10808, 0x10808, 1⟩, ⟨0x1080A, 0x10835, 1⟩, ⟨0x10837, 0x10838, 1⟩,
    ⟨0x1083C, 0x1083C, 1⟩, ⟨0x1083F, 0x10855, 1⟩, ⟨0x10860, 0x10876, 1⟩, ⟨0x10880, 0x1089E, 1⟩,
    ⟨0x108E0, 0x108F2, 1⟩, ⟨0x108F4, 0x108F5, 1⟩, ⟨0x10900, 0x10915, 1⟩, ⟨0x10920, 0x10939, 1⟩,
    ⟨0x10980, 0x109B7, 1⟩, ⟨0x109BE, 0x109BF, 1⟩, ⟨0x10A00, 0x10A00, 1⟩, ⟨0x10A10, 0x10A13, 1⟩,
    ⟨0x10A15, 0x10A17, 1⟩, ⟨0x10A19, 0x10A35, 1⟩, ⟨0x10A60, 0x10A7C, 1⟩, ⟨0x10A80, 0x10A9C, 1⟩,
    ⟨0x10AC0, 0x10AC7, 1⟩, ⟨0x10AC9, 0x10AE4, 1⟩, ⟨0x10B00, 0x10B35, 1⟩, ⟨0x10B40, 0x10B55, 1⟩,
    ⟨0x10B60, 0x10B72, 1⟩, ⟨0x10B80, 0x10B91, 1⟩, ⟨0x10C00, 0x10C48, 1⟩, ⟨0x10CC0, 0x10CF2, 1⟩,
    ⟨0x10E80, 0x10EA9, 1⟩, ⟨0x10EB0, 0x10EB1, 1⟩, ⟨0x10F00, 0x10F1C, 1⟩, ⟨0x10F27, 0x10F27, 1⟩,
    ⟨0x10F70, 0x10F81, 1⟩, ⟨0x10FB0, 0x10FC4, 1⟩, ⟨0x10FE0, 0x10FF6, 1⟩, ⟨0x1E800, 0x1E8C4, 1⟩,
    ⟨0x1E922, 0x1E943, 1⟩, ⟨0x1E94B, 0x1E94B, 1⟩, ⟨0x1E950, 0x1E959, 1⟩]

/-- Letters of the Arabic kind. -/
def arabicLetters : List CodeRun :=
  [⟨0x620, 0x63F, 1⟩, ⟨0x641, 0x64A, 1⟩, ⟨0x66E, 0x66F, 1⟩, ⟨0x671, 0x674, 1⟩, ⟨0x679, 0x6D3, 1⟩,
    ⟨0x6D5, 0x6D5, 1⟩, ⟨0x6E5, 0x6E6, 1⟩, ⟨0x6EE, 0x6EF, 1⟩, ⟨0x6FA, 0x6FF, 1⟩, ⟨0x710, 0x710, 1⟩,
    ⟨0x712, 0x72F, 1⟩, ⟨0x74D, 0x7A5, 1⟩, ⟨0x7B1, 0x7B1, 1⟩, ⟨0x860, 0x86A, 1⟩, ⟨0x870, 0x887, 1⟩,
    ⟨0x889, 0x88E, 1⟩, ⟨0x8A0, 0x8C9, 1⟩, ⟨0xFE73, 0xFE73, 1⟩, ⟨0x10D00, 0x10D23, 1⟩,
    ⟨0x10F30, 0x10F45, 1⟩]

/-- European digits. -/
def europeanNumbers : List CodeRun :=
  [⟨0x30, 0x39, 1⟩, ⟨0x6F0, 0x6F9, 1⟩]

/-- Arabic digits. -/
def arabicNumbers : List CodeRun :=
  [⟨0x660, 0x669, 1⟩, ⟨0x10D30, 0x10D39, 1⟩]

/-- Characters without a direction of their own. -/
def neutrals : List CodeRun :=
  [⟨0xB7, 0xB7, 1⟩, ⟨0x2B9, 0x2BA, 1⟩, ⟨0x2C6, 0x2CF, 1⟩, ⟨0x2EC, 0x2EC, 1⟩, ⟨0x375, 0x375, 1⟩,
    ⟨0x2E2F, 0x2E2F, 1⟩, ⟨0x30FB, 0x30FB, 1⟩, ⟨0xA67F, 0xA67F, 1⟩, ⟨0xA717, 0xA71F, 1⟩,
    ⟨0xA788, 0xA788, 1⟩]

/-- The nonspacing marks that behave like letters from the left. -/
def leftwardMarks : List CodeRun :=
  [⟨0xCBF, 0xCBF, 1⟩, ⟨0xCC6, 0xCC6, 1⟩, ⟨0x11A07, 0x11A08, 1⟩, ⟨0x11C3F, 0x11C3F, 1⟩]

/-- The direction of a character. -/
def direction (c : Char) : Direction :=
  if c = '-' ∨ c = '\u200c' ∨ c = '\u200d' then .neutral
  else if Text.isIn europeanNumbers c then .europeanNumber
  else if Text.isIn arabicNumbers c then .arabicNumber
  else if Text.isIn rightward c then .right
  else if Text.isIn arabicLetters c then .arabicLetter
  else if Text.isIn neutrals c then .neutral
  else if isNonspacing c && !Text.isIn leftwardMarks c then .mark
  else .left

/-- Whether the direction makes a label one that is written from the right. -/
def Direction.isFromRight : Direction → Bool
  | right | arabicLetter | arabicNumber => true
  | _ => false

/-- Whether a label whose characters have these directions keeps its order
between others. Only labels with characters from the right are restricted: they
begin with such a letter, hold no letter from the left and digits of one kind at
most, and end with a letter or a digit, marks behind it not counted. -/
def keepsOrder (directions : List Direction) : Bool :=
  directions.all (!·.isFromRight) ||
    ((directions.head? == some .right || directions.head? == some .arabicLetter) &&
      !directions.contains .left &&
      !(directions.contains .europeanNumber && directions.contains .arabicNumber) &&
      directions.reverse.find? (· != .mark) != some .neutral)

/-- Whether a label satisfies the rule about directions. -/
def keepsDirection (label : List Char) : Bool :=
  keepsOrder (label.map direction)

end ArtifactAudit.Url.DomainName
