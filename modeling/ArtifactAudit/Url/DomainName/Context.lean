import ArtifactAudit.Url.DomainName.Mark

/-!
# Characters permitted in a context

Some characters may stand in a label only next to certain others: the joiners in
scripts whose letters change when they join, and a few signs of punctuation and
digits that are easily taken for something else. The rules are those of RFC 5892.
-/

set_option autoImplicit false

namespace ArtifactAudit.Url.DomainName

open Text (CodeRun)

/-! ## Scripts -/

/-- Greek letters. -/
def greek : List CodeRun :=
  [⟨0x371, 0x377, 2⟩, ⟨0x37B, 0x37D, 1⟩, ⟨0x390, 0x390, 1⟩, ⟨0x3AC, 0x3CE, 1⟩, ⟨0x3D7, 0x3E1, 2⟩,
    ⟨0x3F3, 0x3F3, 1⟩, ⟨0x3F8, 0x3F8, 1⟩, ⟨0x3FB, 0x3FC, 1⟩, ⟨0x1D26, 0x1D2A, 1⟩,
    ⟨0x1F00, 0x1F07, 1⟩, ⟨0x1F10, 0x1F15, 1⟩, ⟨0x1F20, 0x1F27, 1⟩, ⟨0x1F30, 0x1F37, 1⟩,
    ⟨0x1F40, 0x1F45, 1⟩, ⟨0x1F50, 0x1F57, 1⟩, ⟨0x1F60, 0x1F67, 1⟩, ⟨0x1F70, 0x1F7C, 2⟩,
    ⟨0x1FB0, 0x1FB1, 1⟩, ⟨0x1FB6, 0x1FB6, 1⟩, ⟨0x1FC6, 0x1FC6, 1⟩, ⟨0x1FD0, 0x1FD2, 1⟩,
    ⟨0x1FD6, 0x1FD7, 1⟩, ⟨0x1FE0, 0x1FE2, 1⟩, ⟨0x1FE4, 0x1FE7, 1⟩, ⟨0x1FF6, 0x1FF6, 1⟩,
    ⟨0xAB65, 0xAB65, 1⟩]

/-- Hebrew letters and their marks. -/
def hebrew : List CodeRun :=
  [⟨0x591, 0x5BD, 1⟩, ⟨0x5BF, 0x5BF, 1⟩, ⟨0x5C1, 0x5C2, 1⟩, ⟨0x5C4, 0x5C5, 1⟩, ⟨0x5C7, 0x5C7, 1⟩,
    ⟨0x5D0, 0x5EA, 1⟩, ⟨0x5EF, 0x5F4, 1⟩, ⟨0xFB1E, 0xFB1E, 1⟩]

def hiragana : List CodeRun :=
  [⟨0x3041, 0x3096, 1⟩, ⟨0x309D, 0x309E, 1⟩, ⟨0x1B001, 0x1B11F, 1⟩, ⟨0x1B150, 0x1B152, 1⟩]

def katakana : List CodeRun :=
  [⟨0x30A1, 0x30FA, 1⟩, ⟨0x30FD, 0x30FE, 1⟩, ⟨0x31F0, 0x31FF, 1⟩, ⟨0x1AFF0, 0x1AFF3, 1⟩,
    ⟨0x1AFF5, 0x1AFFB, 1⟩, ⟨0x1AFFD, 0x1AFFE, 1⟩, ⟨0x1B000, 0x1B000, 1⟩, ⟨0x1B120, 0x1B122, 1⟩,
    ⟨0x1B164, 0x1B167, 1⟩]

/-- Han characters. -/
def han : List CodeRun :=
  [⟨0x3005, 0x3005, 1⟩, ⟨0x3007, 0x3007, 1⟩, ⟨0x3400, 0x4DBF, 1⟩, ⟨0x4E00, 0x9FFF, 1⟩,
    ⟨0xFA0E, 0xFA0F, 1⟩, ⟨0xFA11, 0xFA11, 1⟩, ⟨0xFA13, 0xFA14, 1⟩, ⟨0xFA1F, 0xFA21, 2⟩,
    ⟨0xFA23, 0xFA24, 1⟩, ⟨0xFA27, 0xFA29, 1⟩, ⟨0x16FE3, 0x16FE3, 1⟩, ⟨0x16FF0, 0x16FF1, 1⟩,
    ⟨0x20000, 0x2A6DF, 1⟩, ⟨0x2A700, 0x2B738, 1⟩, ⟨0x2B740, 0x2B81D, 1⟩, ⟨0x2B820, 0x2CEA1, 1⟩,
    ⟨0x2CEB0, 0x2EBE0, 1⟩, ⟨0x30000, 0x3134A, 1⟩]

/-! ## Joining letters -/

/-- Letters that join on both sides. -/
def joinsBothSides : List CodeRun :=
  [⟨0x620, 0x620, 1⟩, ⟨0x626, 0x628, 2⟩, ⟨0x62A, 0x62E, 1⟩, ⟨0x633, 0x63F, 1⟩, ⟨0x641, 0x647, 1⟩,
    ⟨0x649, 0x64A, 1⟩, ⟨0x66E, 0x66F, 1⟩, ⟨0x679, 0x687, 1⟩, ⟨0x69A, 0x6BF, 1⟩, ⟨0x6C1, 0x6C2, 1⟩,
    ⟨0x6CC, 0x6CE, 2⟩, ⟨0x6D0, 0x6D1, 1⟩, ⟨0x6FA, 0x6FC, 1⟩, ⟨0x6FF, 0x6FF, 1⟩, ⟨0x712, 0x714, 1⟩,
    ⟨0x71A, 0x71D, 1⟩, ⟨0x71F, 0x727, 1⟩, ⟨0x729, 0x72B, 2⟩, ⟨0x72D, 0x72E, 1⟩, ⟨0x74E, 0x758, 1⟩,
    ⟨0x75C, 0x76A, 1⟩, ⟨0x76D, 0x770, 1⟩, ⟨0x772, 0x772, 1⟩, ⟨0x775, 0x777, 1⟩, ⟨0x77A, 0x77F, 1⟩,
    ⟨0x7CA, 0x7EA, 1⟩, ⟨0x841, 0x845, 1⟩, ⟨0x848, 0x848, 1⟩, ⟨0x84A, 0x853, 1⟩, ⟨0x855, 0x855, 1⟩,
    ⟨0x860, 0x860, 1⟩, ⟨0x862, 0x865, 1⟩, ⟨0x868, 0x868, 1⟩, ⟨0x886, 0x886, 1⟩, ⟨0x889, 0x88D, 1⟩,
    ⟨0x8A0, 0x8A9, 1⟩, ⟨0x8AF, 0x8B0, 1⟩, ⟨0x8B3, 0x8B8, 1⟩, ⟨0x8BA, 0x8C8, 1⟩,
    ⟨0x1820, 0x1878, 1⟩, ⟨0x1887, 0x18A8, 1⟩, ⟨0x18AA, 0x18AA, 1⟩, ⟨0xA840, 0xA871, 1⟩,
    ⟨0x10AC0, 0x10AC4, 1⟩, ⟨0x10AD3, 0x10AD6, 1⟩, ⟨0x10AD8, 0x10ADC, 1⟩, ⟨0x10ADE, 0x10AE0, 1⟩,
    ⟨0x10B80, 0x10B80, 1⟩, ⟨0x10B82, 0x10B82, 1⟩, ⟨0x10B86, 0x10B88, 1⟩, ⟨0x10B8A, 0x10B8B, 1⟩,
    ⟨0x10B8D, 0x10B8D, 1⟩, ⟨0x10B90, 0x10B90, 1⟩, ⟨0x10D01, 0x10D21, 1⟩, ⟨0x10D23, 0x10D23, 1⟩,
    ⟨0x10F30, 0x10F32, 1⟩, ⟨0x10F34, 0x10F44, 1⟩, ⟨0x10F70, 0x10F73, 1⟩, ⟨0x10F76, 0x10F81, 1⟩,
    ⟨0x10FB0, 0x10FB0, 1⟩, ⟨0x10FB2, 0x10FB3, 1⟩, ⟨0x10FB8, 0x10FB8, 1⟩, ⟨0x10FBB, 0x10FBC, 1⟩,
    ⟨0x10FBE, 0x10FBF, 1⟩, ⟨0x10FC1, 0x10FC1, 1⟩, ⟨0x10FC4, 0x10FC4, 1⟩, ⟨0x1E922, 0x1E943, 1⟩]

/-- Letters that join only on the left. -/
def joinsLeft : List CodeRun :=
  [⟨0xA872, 0xA872, 1⟩, ⟨0x10ACD, 0x10ACD, 1⟩, ⟨0x10AD7, 0x10AD7, 1⟩, ⟨0x10D00, 0x10D00, 1⟩]

/-- Letters that join only on the right. -/
def joinsRight : List CodeRun :=
  [⟨0x622, 0x625, 1⟩, ⟨0x627, 0x627, 1⟩, ⟨0x629, 0x629, 1⟩, ⟨0x62F, 0x632, 1⟩, ⟨0x648, 0x648, 1⟩,
    ⟨0x671, 0x673, 1⟩, ⟨0x688, 0x699, 1⟩, ⟨0x6C0, 0x6C0, 1⟩, ⟨0x6C3, 0x6CB, 1⟩, ⟨0x6CD, 0x6CD, 1⟩,
    ⟨0x6CF, 0x6CF, 1⟩, ⟨0x6D2, 0x6D3, 1⟩, ⟨0x6D5, 0x6D5, 1⟩, ⟨0x6EE, 0x6EF, 1⟩, ⟨0x710, 0x710, 1⟩,
    ⟨0x715, 0x719, 1⟩, ⟨0x71E, 0x71E, 1⟩, ⟨0x728, 0x72C, 2⟩, ⟨0x72F, 0x72F, 1⟩, ⟨0x74D, 0x74D, 1⟩,
    ⟨0x759, 0x75B, 1⟩, ⟨0x76B, 0x76C, 1⟩, ⟨0x771, 0x771, 1⟩, ⟨0x773, 0x774, 1⟩, ⟨0x778, 0x779, 1⟩,
    ⟨0x840, 0x840, 1⟩, ⟨0x846, 0x847, 1⟩, ⟨0x849, 0x849, 1⟩, ⟨0x854, 0x854, 1⟩, ⟨0x856, 0x858, 1⟩,
    ⟨0x867, 0x867, 1⟩, ⟨0x869, 0x86A, 1⟩, ⟨0x870, 0x882, 1⟩, ⟨0x88E, 0x88E, 1⟩, ⟨0x8AA, 0x8AC, 1⟩,
    ⟨0x8AE, 0x8AE, 1⟩, ⟨0x8B1, 0x8B2, 1⟩, ⟨0x8B9, 0x8B9, 1⟩, ⟨0x10AC5, 0x10AC7, 2⟩,
    ⟨0x10AC9, 0x10ACA, 1⟩, ⟨0x10ACE, 0x10AD2, 1⟩, ⟨0x10ADD, 0x10ADD, 1⟩, ⟨0x10AE1, 0x10AE1, 1⟩,
    ⟨0x10AE4, 0x10AE4, 1⟩, ⟨0x10B81, 0x10B81, 1⟩, ⟨0x10B83, 0x10B85, 1⟩, ⟨0x10B89, 0x10B89, 1⟩,
    ⟨0x10B8C, 0x10B8C, 1⟩, ⟨0x10B8E, 0x10B8F, 1⟩, ⟨0x10B91, 0x10B91, 1⟩, ⟨0x10D22, 0x10D22, 1⟩,
    ⟨0x10F33, 0x10F33, 1⟩, ⟨0x10F74, 0x10F75, 1⟩, ⟨0x10FB4, 0x10FB6, 1⟩, ⟨0x10FB9, 0x10FBA, 1⟩,
    ⟨0x10FBD, 0x10FBD, 1⟩, ⟨0x10FC2, 0x10FC3, 1⟩]

/-- Whether joining passes over the character. -/
def isTransparent (c : Char) : Bool :=
  (isNonspacing c && c != Char.ofNat 0x1171E) || c == Char.ofNat 0x1E94B

/-- Whether the last letter before a place joins what follows. `before` holds the
characters before the place, the last one first. -/
def joinsOnwards (before : List Char) : Bool :=
  match before.dropWhile isTransparent with
  | c :: _ => Text.isIn joinsLeft c || Text.isIn joinsBothSides c
  | [] => false

/-- Whether the first letter after a place joins what precedes. -/
def joinsBackwards (after : List Char) : Bool :=
  match after.dropWhile isTransparent with
  | c :: _ => Text.isIn joinsRight c || Text.isIn joinsBothSides c
  | [] => false

/-- The combining class of the marks that take the vowel from a letter. -/
def viramaClass : Nat := 9

/-! ## Contexts -/

def isArabicDigit (c : Char) : Bool :=
  0x660 ≤ c.toNat && c.toNat ≤ 0x669

/-- Whether the digit is of the eastern Arabic kind. -/
def isEasternDigit (c : Char) : Bool :=
  0x6F0 ≤ c.toNat && c.toNat ≤ 0x6F9

/-- Whether the context permits a character. `before` holds the characters before
it, the last one first, and `after` those after it. -/
def contextPermits (before : List Char) (c : Char) (after : List Char) : Bool :=
  let follows (p : Char → Bool) : Bool := before.head?.any p
  let precedes (p : Char → Bool) : Bool := after.head?.any p
  let followsVirama := follows fun mark => combiningClass mark == viramaClass
  match c.toNat with
  | 0x200C => followsVirama || (joinsOnwards before && joinsBackwards after)
  | 0x200D => followsVirama
  | 0xB7 => follows (· == 'l') && precedes (· == 'l')
  | 0x375 => precedes (Text.isIn greek)
  | 0x5F3 | 0x5F4 => follows (Text.isIn hebrew)
  | 0x30FB =>
    (before ++ after).any fun c =>
      c != '\u30FB' && (Text.isIn hiragana c || Text.isIn katakana c || Text.isIn han c)
  | _ =>
    if isArabicDigit c then !(before ++ after).any isEasternDigit
    else if isEasternDigit c then !(before ++ after).any isArabicDigit
    else false

end ArtifactAudit.Url.DomainName
