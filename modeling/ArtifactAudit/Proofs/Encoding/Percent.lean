import ArtifactAudit.Encoding.Percent
import ArtifactAudit.Proofs.Encoding.Utf8
import ArtifactAudit.Proofs.Text.Ascii

/-!
# Escaping

A text stands for bytes: its escapes for the bytes they name, every other character for
its UTF-8 form (`octets`). A component of a URL keeps the percent sign, so escapes that a
text already holds stay what they are, and escaping leaves the bytes alone
(`bytes_encode`). If the percent sign is escaped too, what is written stands for the
UTF-8 form of the text (`bytes_encode_of_hidden`).

What is written with nothing kept but unreserved characters consists of these and of
escapes in upper-case digits (`isEscaped_encode`).
-/

set_option autoImplicit false

namespace ArtifactAudit.Percent

/-! ## Escapes in a text -/

/-- Whether two hexadecimal digits stand in front. -/
def startsWithByte : List Char → Bool
  | high :: low :: _ => (Hex.decodeByte? high low).isSome
  | _ => false

/-- How many escapes a text holds. -/
def escapes : List Char → Nat
  | [] => 0
  | c :: rest => escapes rest + if c = '%' ∧ startsWithByte rest = true then 1 else 0

/-- Whether a component keeps what escapes consist of, and nothing beyond ASCII. -/
structure KeepsEscapes (keep : Char → Bool) : Prop where
  sign : keep '%' = true
  digit : ∀ c, (Text.hexValue? c).isSome = true → keep c = true
  ascii : ∀ c, keep c = true → c.toNat < 128

/-- Whether a component escapes the percent sign itself, and keeps nothing beyond ASCII. -/
structure HidesSign (keep : Char → Bool) : Prop where
  sign : keep '%' = false
  ascii : ∀ c, keep c = true → c.toNat < 128

/-- Hexadecimal digits belong to ASCII. -/
theorem toNat_lt_of_digit {c : Char} (digit : (Text.hexValue? c).isSome = true) :
    c.toNat < 128 := by
  have upTo : ∀ last : Char, last.toNat < 128 → c ≤ last → c.toNat < 128 :=
    fun last bound below => Nat.lt_of_le_of_lt (UInt32.le_iff_toNat_le.mp below) bound
  unfold Text.hexValue? at digit
  split at digit
  · rename_i range
    exact upTo '9' (by decide) range.2
  split at digit
  · rename_i range
    exact upTo 'F' (by decide) range.2
  split at digit
  · rename_i range
    exact upTo 'f' (by decide) range.2
  · cases digit

theorem keepsEscapes_isAscii : KeepsEscapes isAscii where
  sign := by decide
  digit _ digit := decide_eq_true (toNat_lt_of_digit digit)
  ascii _ kept := of_decide_eq_true kept

theorem hexValue?_of_decodeByte? {high low : Char}
    (digits : (Hex.decodeByte? high low).isSome = true) :
    (Text.hexValue? high).isSome = true ∧ (Text.hexValue? low).isSome = true := by
  unfold Hex.decodeByte? at digits
  cases upper : Text.hexValue? high <;> cases lower : Text.hexValue? low <;>
    simp [upper, lower] at digits ⊢

/-- The percent sign is no digit. -/
theorem ne_sign_of_digit {c : Char} (digit : (Text.hexValue? c).isSome = true) : c ≠ '%' := by
  rintro rfl
  exact absurd digit (by decide)

theorem escapes_cons_of_plain {c : Char} {rest : List Char}
    (plain : ¬ (c = '%' ∧ startsWithByte rest = true)) : escapes (c :: rest) = escapes rest := by
  rw [escapes, if_neg plain, Nat.add_zero]

theorem escapes_escape {high low : Char} {rest : List Char}
    (digits : (Hex.decodeByte? high low).isSome = true) :
    escapes ('%' :: high :: low :: rest) = escapes rest + 1 := by
  obtain ⟨upper, lower⟩ := hexValue?_of_decodeByte? digits
  rw [escapes, if_pos ⟨rfl, digits⟩,
    escapes_cons_of_plain fun ⟨same, _⟩ => ne_sign_of_digit upper same,
    escapes_cons_of_plain fun ⟨same, _⟩ => ne_sign_of_digit lower same]

theorem exists_of_startsWithByte {s : List Char} (starts : startsWithByte s = true) :
    ∃ high low rest, s = high :: low :: rest := by
  unfold startsWithByte at starts
  split at starts
  · exact ⟨_, _, _, rfl⟩
  · cases starts

/-! ## The bytes of a text -/

theorem bytes_escape {high low : Char} {b : UInt8} (digits : Hex.decodeByte? high low = some b)
    (rest : List Char) : bytes ('%' :: high :: low :: rest) = b :: bytes rest := by
  simp only [bytes, digits]

/-- A character in front of which no escape begins stands for itself. -/
theorem bytes_plain {c : Char} {rest : List Char}
    (plain : ¬ (c = '%' ∧ startsWithByte rest = true)) :
    bytes (c :: rest) = UInt8.ofNat c.toNat :: bytes rest := by
  match rest with
  | [] | [_] => rw [bytes]; simp
  | high :: low :: rest =>
    by_cases sign : c = '%'
    · subst sign
      have none : Hex.decodeByte? high low = none := by
        simpa [startsWithByte] using plain
      simp only [bytes, none]
      rfl
    · rw [bytes]
      rintro _ _ _ same
      exact absurd same sign

/-- Escaped bytes are read as these bytes. -/
theorem bytes_escaped (escaped : List UInt8) (rest : List Char) :
    bytes (escaped.flatMap escapeByte ++ rest) = escaped ++ bytes rest := by
  induction escaped with
  | nil => rfl
  | cons b escaped ih =>
    rw [List.flatMap_cons, List.append_assoc]
    change bytes ('%' :: Text.hexDigit _ :: Text.hexDigit _ ::
      (escaped.flatMap escapeByte ++ rest)) = _
    rw [bytes_escape (Hex.decodeByte?_digits b), ih]
    rfl

/-! ## The bytes that a text stands for -/

/-- The bytes that a text stands for: escapes undone, everything else in UTF-8. -/
def octets : List Char → List UInt8
  | '%' :: high :: low :: rest =>
    match Hex.decodeByte? high low with
    | some b => b :: octets rest
    | none => 0x25 :: octets (high :: low :: rest)
  | c :: rest => String.utf8EncodeChar c ++ octets rest
  | [] => []

theorem octets_escape {high low : Char} {b : UInt8} (digits : Hex.decodeByte? high low = some b)
    (rest : List Char) : octets ('%' :: high :: low :: rest) = b :: octets rest := by
  simp only [octets, digits]

/-- A character in front of which no escape begins stands for its UTF-8 form. -/
theorem octets_plain {c : Char} {rest : List Char}
    (plain : ¬ (c = '%' ∧ startsWithByte rest = true)) :
    octets (c :: rest) = String.utf8EncodeChar c ++ octets rest := by
  match rest with
  | [] | [_] => rw [octets]; simp
  | high :: low :: rest =>
    by_cases sign : c = '%'
    · subst sign
      have none : Hex.decodeByte? high low = none := by
        simpa [startsWithByte] using plain
      simp only [octets, none]
      rfl
    · rw [octets]
      rintro _ _ _ same
      exact absurd same sign

/-- A text is read as its escapes stand: an escape as a whole, or a single character in
front of which none begins. -/
theorem escape_induction {motive : List Char → Prop} (nil : motive [])
    (escape : ∀ high low rest b, Hex.decodeByte? high low = some b → motive rest →
      motive ('%' :: high :: low :: rest))
    (plain : ∀ c rest, ¬ (c = '%' ∧ startsWithByte rest = true) → motive rest →
      motive (c :: rest)) (s : List Char) : motive s := by
  induction s using octets.induct with
  | case1 high low rest b digits ih => exact escape high low rest b digits ih
  | case2 high low rest digits ih =>
    apply plain _ _ _ ih
    simp [startsWithByte, digits]
  | case3 c rest short ih =>
    apply plain _ _ _ ih
    rintro ⟨rfl, starts⟩
    obtain ⟨high, low, more, rfl⟩ := exists_of_startsWithByte starts
    exact short high low more rfl rfl
  | case4 => exact nil

/-- Without escapes a text stands for its UTF-8 form. -/
theorem octets_of_free {s : List Char} (free : escapes s = 0) : octets s = Utf8.encode s := by
  induction s with
  | nil => rfl
  | cons c rest ih =>
    have plain : ¬ (c = '%' ∧ startsWithByte rest = true) := by
      intro escape
      rw [escapes, if_pos escape] at free
      omega
    rw [escapes_cons_of_plain plain] at free
    rw [octets_plain plain, ih free]
    rfl

/-- A character beyond ASCII is no digit of an escape. -/
theorem startsWithByte_append_beyond {c : Char} (beyond : isAscii c = false) (s rest : List Char) :
    startsWithByte (s ++ c :: rest) = startsWithByte s := by
  have other : ¬ (Text.hexValue? c).isSome = true := by
    intro digit
    have ascii := decide_eq_true (toNat_lt_of_digit digit)
    exact absurd (ascii.symm.trans beyond) (by decide)
  match s with
  | _ :: _ :: _ => rfl
  | [high] =>
    apply Bool.eq_false_iff.mpr
    intro starts
    exact other (hexValue?_of_decodeByte? starts).2
  | [] =>
    cases rest with
    | nil => rfl
    | cons low rest =>
      apply Bool.eq_false_iff.mpr
      intro starts
      exact other (hexValue?_of_decodeByte? starts).1

/-- A character beyond ASCII stands for its UTF-8 form wherever it stands. -/
theorem octets_append_beyond {c : Char} (beyond : isAscii c = false) (s rest : List Char) :
    octets (s ++ c :: rest) = octets s ++ (String.utf8EncodeChar c ++ octets rest) := by
  have single : octets (c :: rest) = String.utf8EncodeChar c ++ octets rest := by
    apply octets_plain
    rintro ⟨rfl, _⟩
    exact absurd beyond (by decide)
  induction s using escape_induction with
  | nil => exact single
  | escape high low s b digits ih =>
    rw [List.cons_append, List.cons_append, List.cons_append, octets_escape digits, ih,
      octets_escape digits, List.cons_append]
  | plain d s still ih =>
    have alike : ¬ (d = '%' ∧ startsWithByte (s ++ c :: rest) = true) := by
      rwa [startsWithByte_append_beyond beyond]
    rw [List.cons_append, octets_plain alike, ih, octets_plain still, List.append_assoc]

/-! ## Escaping -/

variable {keep : Char → Bool}

theorem encode_cons (keep : Char → Bool) (c : Char) (rest : List Char) :
    encode keep (c :: rest) = encodeChar keep c ++ encode keep rest :=
  rfl

theorem encode_append (keep : Char → Bool) (s rest : List Char) :
    encode keep (s ++ rest) = encode keep s ++ encode keep rest :=
  List.flatMap_append

theorem encodeChar_kept {c : Char} (kept : keep c = true) : encodeChar keep c = [c] :=
  if_pos kept

theorem encodeChar_escaped {c : Char} (other : keep c ≠ true) :
    encodeChar keep c = (String.utf8EncodeChar c).flatMap escapeByte :=
  if_neg other

/-- An escaped character begins with the percent sign. -/
theorem exists_encodeChar_escaped {c : Char} (other : keep c ≠ true) :
    ∃ rest, encodeChar keep c = '%' :: rest := by
  rw [encodeChar_escaped other]
  cases spelled : String.utf8EncodeChar c with
  | nil => exact absurd spelled String.utf8EncodeChar_ne_nil
  | cons b others => exact ⟨_, rfl⟩

theorem startsWithByte_sign (rest : List Char) : startsWithByte ('%' :: rest) = false := by
  cases rest with
  | nil => rfl
  | cons d rest => rfl

theorem startsWithByte_cons_sign (c : Char) (rest : List Char) :
    startsWithByte (c :: '%' :: rest) = false := by
  refine Bool.eq_false_iff.mpr fun starts => ?_
  exact ne_sign_of_digit (hexValue?_of_decodeByte? starts).2 rfl

/-- Escaping puts no hexadecimal digits in front. -/
theorem startsWithByte_of_encode {s : List Char} (starts : startsWithByte (encode keep s) = true) :
    startsWithByte s = true := by
  cases s with
  | nil => cases starts
  | cons high s =>
    rw [encode_cons] at starts
    by_cases kept : keep high = true
    · rw [encodeChar_kept kept] at starts
      cases s with
      | nil => cases starts
      | cons low s =>
        rw [encode_cons] at starts
        by_cases kept : keep low = true
        · rwa [encodeChar_kept kept] at starts
        · obtain ⟨more, opening⟩ := exists_encodeChar_escaped kept
          rw [opening] at starts
          exact absurd starts (Bool.eq_false_iff.mp (startsWithByte_cons_sign high _))
    · obtain ⟨more, opening⟩ := exists_encodeChar_escaped kept
      rw [opening] at starts
      exact absurd starts (Bool.eq_false_iff.mp (startsWithByte_sign _))

/-- A character in front of which no escape begins is written for its UTF-8 form, whether
it is escaped or not. -/
theorem bytes_encode_plain (ascii : ∀ c, keep c = true → c.toNat < 128) {c : Char}
    {rest : List Char} (plain : keep c = true → ¬ (c = '%' ∧ startsWithByte rest = true)) :
    bytes (encode keep (c :: rest)) = String.utf8EncodeChar c ++ bytes (encode keep rest) := by
  rw [encode_cons]
  by_cases kept : keep c = true
  · have still : ¬ (c = '%' ∧ startsWithByte (encode keep rest) = true) :=
      fun ⟨sign, starts⟩ => plain kept ⟨sign, startsWithByte_of_encode starts⟩
    rw [encodeChar_kept kept, List.cons_append, List.nil_append, bytes_plain still,
      Utf8.utf8EncodeChar_of_ascii (ascii c kept)]
    rfl
  · rw [encodeChar_escaped kept, bytes_escaped]

theorem encode_escape (keeps : KeepsEscapes keep) {high low : Char}
    (digits : (Hex.decodeByte? high low).isSome = true) (rest : List Char) :
    encode keep ('%' :: high :: low :: rest) = '%' :: high :: low :: encode keep rest := by
  obtain ⟨upper, lower⟩ := hexValue?_of_decodeByte? digits
  rw [encode_cons, encode_cons, encode_cons, encodeChar_kept keeps.sign,
    encodeChar_kept (keeps.digit high upper), encodeChar_kept (keeps.digit low lower)]
  rfl

/-- Escaping leaves the bytes alone. -/
theorem bytes_encode (keeps : KeepsEscapes keep) (s : List Char) :
    bytes (encode keep s) = octets s := by
  induction s using escape_induction with
  | nil => rfl
  | escape high low rest b digits ih =>
    rw [encode_escape keeps (by rw [digits]; rfl), bytes_escape digits, ih, octets_escape digits]
  | plain c rest plain ih =>
    rw [bytes_encode_plain keeps.ascii fun _ => plain, ih, octets_plain plain]

/-- If the percent sign is escaped, what is written stands for the UTF-8 form. -/
theorem bytes_encode_of_hidden (hides : HidesSign keep) (s : List Char) :
    bytes (encode keep s) = Utf8.encode s := by
  induction s with
  | nil => rfl
  | cons c s ih =>
    have plain : keep c = true → ¬ (c = '%' ∧ startsWithByte s = true) := by
      rintro kept ⟨rfl, _⟩
      rw [hides.sign] at kept
      cases kept
    rw [bytes_encode_plain hides.ascii plain, ih]
    rfl

/-! ## What is written -/

theorem mem_encodeChar {c d : Char} (among : d ∈ encodeChar keep c) :
    (d = c ∧ keep c = true) ∨ d = '%' ∨ (Text.hexValue? d).isSome = true := by
  by_cases kept : keep c = true
  · rw [encodeChar_kept kept] at among
    exact .inl ⟨List.mem_singleton.mp among, kept⟩
  · rw [encodeChar_escaped kept] at among
    obtain ⟨b, _, part⟩ := List.mem_flatMap.mp among
    have digit : ∀ n < 16, (Text.hexValue? (Text.hexDigit n)).isSome = true := fun n small => by
      rw [Text.hexValue?_hexDigit small]
      rfl
    have bound := b.toNat_lt
    simp only [escapeByte, Hex.encodeByte, List.mem_cons, List.not_mem_nil, or_false] at part
    rcases part with rfl | rfl | rfl
    · exact .inr (.inl rfl)
    · exact .inr (.inr (digit _ (by omega)))
    · exact .inr (.inr (digit _ (by omega)))

/-- What is written belongs to ASCII if what is kept does. -/
theorem toNat_lt_of_mem_encode (ascii : ∀ c, keep c = true → c.toNat < 128) {s : List Char}
    {c : Char} (among : c ∈ encode keep s) : c.toNat < 128 := by
  obtain ⟨d, _, part⟩ := List.mem_flatMap.mp among
  rcases mem_encodeChar part with ⟨rfl, kept⟩ | rfl | digit
  · exact ascii c kept
  · decide
  · exact toNat_lt_of_digit digit

/-- Escaping makes nothing shorter. -/
theorem length_le_encode (keep : Char → Bool) (s : List Char) :
    s.length ≤ (encode keep s).length := by
  induction s with
  | nil => exact Nat.le_refl 0
  | cons c s ih =>
    have some : 0 < (encodeChar keep c).length := by
      by_cases kept : keep c = true
      · rw [encodeChar_kept kept]
        exact Nat.one_pos
      · obtain ⟨rest, opening⟩ := exists_encodeChar_escaped kept
        rw [opening]
        exact Nat.succ_pos rest.length
    rw [encode_cons, List.length_append, List.length_cons]
    omega

/-- Only an empty text is written as nothing. -/
theorem encode_eq_nil_iff {s : List Char} : encode keep s = [] ↔ s = [] := by
  constructor
  · intro nothing
    have bound := length_le_encode keep s
    rw [nothing] at bound
    exact List.length_eq_zero_iff.mp (Nat.le_zero.mp bound)
  · rintro rfl
    rfl

/-- What was escaped consists of characters that are kept. -/
theorem KeepsEscapes.of_mem_encode (keeps : KeepsEscapes keep) {s : List Char} {c : Char}
    (among : c ∈ encode keep s) : keep c = true := by
  obtain ⟨d, _, part⟩ := List.mem_flatMap.mp among
  rcases mem_encodeChar part with ⟨rfl, kept⟩ | rfl | digit
  · exact kept
  · exact keeps.sign
  · exact keeps.digit c digit

/-- A text of kept characters stays as it is. -/
theorem encode_of_kept {s : List Char} (kept : ∀ c ∈ s, keep c = true) : encode keep s = s := by
  induction s with
  | nil => rfl
  | cons c s ih =>
    rw [encode_cons, encodeChar_kept (kept c (by simp)),
      ih fun d among => kept d (List.mem_cons_of_mem c among)]
    rfl

/-- Escaping a second time changes nothing. -/
theorem encode_encode (keeps : KeepsEscapes keep) (s : List Char) :
    encode keep (encode keep s) = encode keep s :=
  encode_of_kept fun _ => keeps.of_mem_encode

/-- A text that is written without percent signs is written as it is. -/
theorem encode_eq_self {s : List Char} (free : '%' ∉ encode keep s) : encode keep s = s := by
  apply encode_of_kept
  intro c among
  apply Decidable.byContradiction
  intro other
  obtain ⟨rest, opening⟩ := exists_encodeChar_escaped other
  exact free (List.mem_flatMap.mpr ⟨c, among, by rw [opening]; exact List.mem_cons_self⟩)

/-! ## Unreserved characters and escapes -/

theorem toNat_lt_of_isUnreserved {c : Char} (unreserved : isUnreserved c = true) :
    c.toNat < 128 := by
  simp only [isUnreserved, Bool.or_eq_true, beq_iff_eq] at unreserved
  rcases unreserved with (((alphanumeric | rfl) | rfl) | rfl) | rfl
  · exact Text.toNat_lt_of_isAlphanum alphanumeric
  all_goals decide

theorem hidesSign_isUnreserved : HidesSign isUnreserved where
  sign := by decide
  ascii _ := toNat_lt_of_isUnreserved

/-- The digits that escapes are written with. -/
def escapeDigits : List Char :=
  "0123456789ABCDEF".toList

/-- Whether a text is a sequence of unreserved characters and of escapes. -/
inductive IsEscaped : List Char → Prop where
  | nil : IsEscaped []
  | char {c : Char} {rest : List Char} (unreserved : isUnreserved c = true)
      (more : IsEscaped rest) : IsEscaped (c :: rest)
  | escape {high low : Char} {rest : List Char} (upper : high ∈ escapeDigits)
      (lower : low ∈ escapeDigits) (more : IsEscaped rest) : IsEscaped ('%' :: high :: low :: rest)

theorem hexDigit_mem_escapeDigits {n : Nat} (small : n < 16) : Text.hexDigit n ∈ escapeDigits := by
  revert n
  decide

theorem isUnreserved_of_mem_escapeDigits {c : Char} (digit : c ∈ escapeDigits) :
    isUnreserved c = true := by
  have unreserved : escapeDigits.all isUnreserved = true := by decide
  exact List.all_eq_true.mp unreserved c digit

/-- Such a text holds nothing else. -/
theorem IsEscaped.isUnreserved_of_mem {s : List Char} (escaped : IsEscaped s) {c : Char}
    (among : c ∈ s) : isUnreserved c = true ∨ c = '%' := by
  induction escaped with
  | nil => cases among
  | char unreserved _ ih =>
    rcases List.mem_cons.mp among with rfl | among
    · exact .inl unreserved
    · exact ih among
  | escape upper lower _ ih =>
    simp only [List.mem_cons] at among
    rcases among with rfl | rfl | rfl | among
    · exact .inr rfl
    · exact .inl (isUnreserved_of_mem_escapeDigits upper)
    · exact .inl (isUnreserved_of_mem_escapeDigits lower)
    · exact ih among

/-- Escaped bytes are written in escapes. -/
theorem isEscaped_escaped (escaped : List UInt8) {rest : List Char} (more : IsEscaped rest) :
    IsEscaped (escaped.flatMap escapeByte ++ rest) := by
  induction escaped with
  | nil => exact more
  | cons b escaped ih =>
    have bound := b.toNat_lt
    rw [List.flatMap_cons, List.append_assoc]
    apply IsEscaped.escape _ _ ih
    · exact hexDigit_mem_escapeDigits (by omega)
    · exact hexDigit_mem_escapeDigits (by omega)

/-- If only unreserved characters are kept, nothing else is written but escapes. -/
theorem isEscaped_encode (within : ∀ c, keep c = true → isUnreserved c = true) (s : List Char) :
    IsEscaped (encode keep s) := by
  induction s with
  | nil => exact .nil
  | cons c s ih =>
    rw [encode_cons]
    by_cases kept : keep c = true
    · rw [encodeChar_kept kept]
      exact .char (within c kept) ih
    · rw [encodeChar_escaped kept]
      exact isEscaped_escaped _ ih

end ArtifactAudit.Percent
