import ArtifactAudit.Encoding.Utf8

/-!
# Reading UTF-8

The decoder reads the bytes of a character as that character in every state. What it
has read before is given up (`decodeFrom_char`), so neither what stands in front nor
what follows changes a character, and decoding undoes encoding (`decode_encode`). A
byte completes or gives up at most one character (`length_step_le`).
-/

set_option autoImplicit false

namespace ArtifactAudit.Utf8

/-! ## States -/

/-- Whether a state goes on with continuation bytes only. The decoder is never in
another state. -/
def Partial.IsProper : Partial → Prop
  | .none => True
  | .some _ least greatest _ => 0x80 ≤ least ∧ greatest ≤ 0xBF

theorem Partial.isProper_none : Partial.none.IsProper :=
  trivial

theorem isProper_begin (b : UInt8) : (begin b).2.IsProper := by
  unfold begin
  repeat' split
  all_goals first
    | exact trivial
    | exact ⟨by decide, by decide⟩

theorem Partial.IsProper.step {state : Partial} (proper : state.IsProper) (b : UInt8) :
    (state.step b).2.IsProper := by
  cases state with
  | none => exact isProper_begin b
  | some owed least greatest code =>
    simp only [Partial.step]
    split
    · split
      · exact trivial
      · exact ⟨by decide, by decide⟩
    · exact isProper_begin b

/-- A byte that is no continuation byte begins a character afresh. -/
theorem Partial.IsProper.step_eq {state : Partial} (proper : state.IsProper) {b : UInt8}
    (opening : b.toNat < 0x80 ∨ 0xC0 ≤ b.toNat) :
    state.step b = (state.flush ++ (begin b).1, (begin b).2) := by
  cases state with
  | none => rfl
  | some owed least greatest code =>
    obtain ⟨low, high⟩ := proper
    simp only [UInt8.le_iff_toNat_le, UInt8.reduceToNat] at low high
    have outside : ¬ (least ≤ b ∧ b ≤ greatest) := by
      rw [UInt8.le_iff_toNat_le, UInt8.le_iff_toNat_le]
      omega
    simp only [Partial.step, if_neg outside, Partial.flush, List.cons_append, List.nil_append]

/-- A byte that the state accepts brings the character forward. -/
theorem step_some {owed code : Nat} {least greatest b : UInt8} (low : least.toNat ≤ b.toNat)
    (high : b.toNat ≤ greatest.toNat) :
    (Partial.some owed least greatest code).step b =
      if owed ≤ 1 then ([Char.ofNat (code * 64 + b.toNat % 64)], .none)
      else ([], .some (owed - 1) 0x80 0xBF (code * 64 + b.toNat % 64)) := by
  have inside : least ≤ b ∧ b ≤ greatest := ⟨low, high⟩
  simp only [Partial.step, if_pos inside]

/-! ## Characters -/

theorem begin_one {b : UInt8} (low : b.toNat < 0x80) : begin b = ([Char.ofNat b.toNat], .none) :=
  if_pos low

theorem begin_two {b : UInt8} (low : 0xC2 ≤ b.toNat) (high : b.toNat < 0xE0) :
    begin b = ([], .some 1 0x80 0xBF (b.toNat % 32)) := by
  unfold begin
  simp only [UInt8.lt_iff_toNat_lt, UInt8.reduceToNat]
  rw [if_neg (by omega), if_neg (by omega), if_pos high]

theorem begin_three {b : UInt8} (low : 0xE0 ≤ b.toNat) (high : b.toNat < 0xF0) :
    begin b = ([], .some 2 (if b.toNat = 0xE0 then 0xA0 else 0x80)
      (if b.toNat = 0xED then 0x9F else 0xBF) (b.toNat % 16)) := by
  unfold begin
  simp only [UInt8.lt_iff_toNat_lt, ← UInt8.toNat_inj, UInt8.reduceToNat]
  rw [if_neg (by omega), if_neg (by omega), if_neg (by omega)]
  split
  · rename_i first
    simp [first]
  · split
    · rename_i last
      simp [last]
    · rfl

theorem begin_four {b : UInt8} (low : 0xF0 ≤ b.toNat) (high : b.toNat ≤ 0xF4) :
    begin b = ([], .some 3 (if b.toNat = 0xF0 then 0x90 else 0x80)
      (if b.toNat = 0xF4 then 0x8F else 0xBF) (b.toNat % 8)) := by
  unfold begin
  simp only [UInt8.lt_iff_toNat_lt, ← UInt8.toNat_inj, UInt8.reduceToNat]
  rw [if_neg (by omega), if_neg (by omega), if_neg (by omega), if_neg (by omega),
    if_neg (by omega), if_neg (by omega)]
  split
  · rename_i first
    simp [first]
  · split
    · rename_i middle
      rw [if_neg (by omega)]
    · rw [if_pos (by omega), if_pos (by omega)]
      have last : b.toNat = 0xF4 := by omega
      simp [last]

theorem decodeFrom_cons (state : Partial) (b : UInt8) (rest : List UInt8) :
    decodeFrom state (b :: rest) = (state.step b).1 ++ decodeFrom (state.step b).2 rest :=
  rfl

/-- A continuation byte that leaves more bytes owed. -/
theorem decodeFrom_more {owed code : Nat} {least greatest b : UInt8} (rest : List UInt8)
    (low : least.toNat ≤ b.toNat) (high : b.toNat ≤ greatest.toNat) (more : 1 < owed) :
    decodeFrom (.some owed least greatest code) (b :: rest) =
      decodeFrom (.some (owed - 1) 0x80 0xBF (code * 64 + b.toNat % 64)) rest := by
  rw [decodeFrom_cons, step_some low high, if_neg (by omega)]
  rfl

/-- The last byte of a character. -/
theorem decodeFrom_last {code : Nat} {least greatest b : UInt8} (rest : List UInt8)
    (low : least.toNat ≤ b.toNat) (high : b.toNat ≤ greatest.toNat) :
    decodeFrom (.some 1 least greatest code) (b :: rest) =
      Char.ofNat (code * 64 + b.toNat % 64) :: decodeFrom .none rest := by
  rw [decodeFrom_cons, step_some low high, if_pos (by omega)]
  rfl

/-- The first of several bytes. -/
theorem decodeFrom_first {state next : Partial} (proper : state.IsProper) {b : UInt8}
    (opening : 0xC0 ≤ b.toNat) (begins : begin b = ([], next)) (rest : List UInt8) :
    decodeFrom state (b :: rest) = state.flush ++ decodeFrom next rest := by
  rw [decodeFrom_cons, proper.step_eq (.inr opening), begins, List.append_nil]

theorem toNat_ofNat_of_lt {n : Nat} (bound : n < 256) : (UInt8.ofNat n).toNat = n := by
  simp [UInt8.toNat_ofNat', Nat.mod_eq_of_lt bound]

/-- A continuation byte brings six bits. -/
theorem toNat_continuation (n : Nat) : (UInt8.ofNat (n % 64 + 128)).toNat = n % 64 + 128 :=
  toNat_ofNat_of_lt (by omega)

section

variable {state : Partial} (proper : state.IsProper) (rest : List UInt8)

include proper

theorem decodeFrom_one {code : Nat} (high : code < 0x80) :
    decodeFrom state (UInt8.ofNat code :: rest) =
      state.flush ++ Char.ofNat code :: decodeFrom .none rest := by
  have first : (UInt8.ofNat code).toNat = code := toNat_ofNat_of_lt (by omega)
  rw [decodeFrom_cons, proper.step_eq (.inl (by omega)), begin_one (by omega), first]
  simp

theorem decodeFrom_two {code : Nat} (low : 0x80 ≤ code) (high : code < 0x800) :
    decodeFrom state (UInt8.ofNat (code / 64 % 32 + 192) :: UInt8.ofNat (code % 64 + 128) :: rest) =
      state.flush ++ Char.ofNat code :: decodeFrom .none rest := by
  have first : (UInt8.ofNat (code / 64 % 32 + 192)).toNat = _ := toNat_ofNat_of_lt (by omega)
  have second := toNat_continuation code
  rw [decodeFrom_first proper (by omega) (begin_two (by omega) (by omega)),
    decodeFrom_last _ (by change 128 ≤ _; omega) (by change _ ≤ 191; omega)]
  congr 3
  omega

/-- The second byte after E0 leaves no shorter form, and the one after ED leads to no surrogate. -/
theorem decodeFrom_three {code : Nat} (low : 0x800 ≤ code) (high : code < 0x10000)
    (valid : code < 0xD800 ∨ 0xDFFF < code) :
    decodeFrom state
        (UInt8.ofNat (code / 4096 % 16 + 224) :: UInt8.ofNat (code / 64 % 64 + 128) ::
          UInt8.ofNat (code % 64 + 128) :: rest) =
      state.flush ++ Char.ofNat code :: decodeFrom .none rest := by
  have first : (UInt8.ofNat (code / 4096 % 16 + 224)).toNat = _ := toNat_ofNat_of_lt (by omega)
  have second := toNat_continuation (code / 64)
  have third := toNat_continuation code
  rw [decodeFrom_first proper (by omega) (begin_three (by omega) (by omega)),
    decodeFrom_more _ ?_ ?_ (by omega),
    decodeFrom_last _ (by change 128 ≤ _; omega) (by change _ ≤ 191; omega)]
  · congr 3
    omega
  · split
    · change 160 ≤ _
      omega
    · change 128 ≤ _
      omega
  · split
    · change _ ≤ 159
      omega
    · change _ ≤ 191
      omega

/-- The second byte after F0 leaves no shorter form, and the one after F4 does not lead beyond the
last code point. -/
theorem decodeFrom_four {code : Nat} (low : 0x10000 ≤ code) (high : code < 0x110000) :
    decodeFrom state
        (UInt8.ofNat (code / 262144 % 8 + 240) :: UInt8.ofNat (code / 4096 % 64 + 128) ::
          UInt8.ofNat (code / 64 % 64 + 128) :: UInt8.ofNat (code % 64 + 128) :: rest) =
      state.flush ++ Char.ofNat code :: decodeFrom .none rest := by
  have first : (UInt8.ofNat (code / 262144 % 8 + 240)).toNat = _ := toNat_ofNat_of_lt (by omega)
  have second := toNat_continuation (code / 4096)
  have third := toNat_continuation (code / 64)
  have fourth := toNat_continuation code
  rw [decodeFrom_first proper (by omega) (begin_four (by omega) (by omega)),
    decodeFrom_more _ ?_ ?_ (by omega),
    decodeFrom_more _ (by change 128 ≤ _; omega) (by change _ ≤ 191; omega) (by omega),
    decodeFrom_last _ (by change 128 ≤ _; omega) (by change _ ≤ 191; omega)]
  · congr 3
    omega
  · split
    · change 144 ≤ _
      omega
    · change 128 ≤ _
      omega
  · split
    · change _ ≤ 143
      omega
    · change _ ≤ 191
      omega

/-- The bytes of a character are read as that character, after what was read before is
given up. -/
theorem decodeFrom_char (c : Char) :
    decodeFrom state (String.utf8EncodeChar c ++ rest) =
      state.flush ++ c :: decodeFrom .none rest := by
  have valid : c.toNat < 0xD800 ∨ 0xDFFF < c.toNat ∧ c.toNat < 0x110000 := c.valid
  have read : c = Char.ofNat c.val.toNat := (Char.ofNat_toNat c).symm
  change c.val.toNat < 0xD800 ∨ 0xDFFF < c.val.toNat ∧ c.val.toNat < 0x110000 at valid
  rw [String.utf8EncodeChar]
  split
  · rw [List.cons_append, List.nil_append, decodeFrom_one proper rest (by omega), ← read]
  split
  · rw [List.cons_append, List.cons_append, List.nil_append,
      decodeFrom_two proper rest (by omega) (by omega), ← read]
  split
  · rw [List.cons_append, List.cons_append, List.cons_append, List.nil_append,
      decodeFrom_three proper rest (by omega) (by omega) (by omega), ← read]
  · rw [List.cons_append, List.cons_append, List.cons_append, List.cons_append, List.nil_append,
      decodeFrom_four proper rest (by omega) (by omega), ← read]

/-- The bytes of a character are read as that character behind any bytes. -/
theorem decodeFrom_append_char (front : List UInt8) (c : Char) :
    decodeFrom state (front ++ (String.utf8EncodeChar c ++ rest)) =
      decodeFrom state front ++ c :: decodeFrom .none rest := by
  induction front generalizing state with
  | nil => exact decodeFrom_char proper rest c
  | cons b front ih =>
    rw [List.cons_append, decodeFrom_cons, ih (proper.step b), decodeFrom_cons, List.append_assoc]

end

/-- A character of ASCII is its own byte. -/
theorem utf8EncodeChar_of_ascii {c : Char} (ascii : c.toNat < 128) :
    String.utf8EncodeChar c = [UInt8.ofNat c.toNat] :=
  if_pos (Nat.le_of_lt_succ ascii)

theorem decodeFrom_encode (s : List Char) (rest : List UInt8) :
    decodeFrom .none (encode s ++ rest) = s ++ decodeFrom .none rest := by
  induction s with
  | nil => rfl
  | cons c s ih =>
    rw [encode, List.flatMap_cons, List.append_assoc, decodeFrom_char Partial.isProper_none]
    change c :: decodeFrom .none (encode s ++ rest) = _
    rw [ih]
    rfl

/-- Decoding undoes encoding. -/
theorem decode_encode (s : List Char) : decode (encode s) = s := by
  have read := decodeFrom_encode s []
  rwa [List.append_nil, decodeFrom, Partial.flush, List.append_nil] at read

/-! ## Length -/

/-- A first byte completes a character or begins one. -/
theorem length_begin (b : UInt8) : (begin b).1.length + (begin b).2.flush.length = 1 := by
  unfold begin
  repeat' split
  all_goals rfl

/-- What is begun is completed or given up. -/
theorem decodeFrom_some_ne_nil {owed code : Nat} {least greatest : UInt8} (rest : List UInt8) :
    decodeFrom (.some owed least greatest code) rest ≠ [] := by
  induction rest generalizing owed least greatest code with
  | nil => simp [decodeFrom, Partial.flush]
  | cons b rest ih =>
    rw [decodeFrom_cons, Partial.step]
    split
    · split
      · exact List.cons_ne_nil _ _
      · exact ih
    · exact List.cons_ne_nil _ _

/-- Only no bytes are read as nothing. -/
theorem decode_eq_nil_iff {bytes : List UInt8} : decode bytes = [] ↔ bytes = [] := by
  constructor
  · intro nothing
    cases bytes with
    | nil => rfl
    | cons b rest =>
      exfalso
      rw [decode, decodeFrom_cons] at nothing
      obtain ⟨silent, nothing⟩ := List.append_eq_nil_iff.mp nothing
      cases after : (Partial.none.step b).2 with
      | none =>
        have one := length_begin b
        simp only [Partial.step] at silent after
        rw [silent, after] at one
        cases one
      | some owed least greatest code =>
        rw [after] at nothing
        exact decodeFrom_some_ne_nil rest nothing
  · rintro rfl
    rfl

/-- What a byte completes, and what the rest would be given up as, is no more than one
character beyond what was to be given up before. -/
theorem length_step_le (state : Partial) (b : UInt8) :
    (state.step b).1.length + (state.step b).2.flush.length ≤ state.flush.length + 1 := by
  have first := length_begin b
  cases state with
  | none => exact Nat.le_of_eq first
  | some owed least greatest code =>
    simp only [Partial.step]
    split
    · split
      · exact Nat.le_succ 1
      · exact Nat.le_succ 1
    · change (begin b).1.length + 1 + (begin b).2.flush.length ≤ 1 + 1
      omega

end ArtifactAudit.Utf8
