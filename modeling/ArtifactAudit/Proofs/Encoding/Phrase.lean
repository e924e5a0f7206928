import ArtifactAudit.Proofs.Encoding.Utf8
import ArtifactAudit.Proofs.Text.Phrase

/-!
# Phrases in decoded bytes

What the decoder writes for bytes beyond ASCII never belongs to ASCII, well-formed or not
(`Partial.IsLong.step`), and a byte of ASCII is always written as itself
(`Partial.IsProper.step_eq`). So a text is alike to the bytes it was decoded from
(`alikeOn_decode`), and a phrase stands in the text exactly if its bytes stand among them,
one after another (`infix_decode_iff`).
-/

set_option autoImplicit false

namespace ArtifactAudit.Utf8

open Text (IsInline AlikeOn not_isInline_ofNat)

/-! ## What is written for bytes beyond ASCII -/

/-- Whether what was read so far completes no character of ASCII. -/
def Partial.IsLong : Partial → Prop
  | .none => True
  | .some owed least _ code => 2 ≤ code ∨ 1 < owed ∧ (1 ≤ code ∨ 0x90 ≤ least.toNat)

theorem not_isInline_replacement : ¬ IsInline replacement := by
  decide

/-- A byte that begins no character is given up at once. -/
theorem begin_stray {b : UInt8} (beyond : 0x80 ≤ b.toNat)
    (stray : b.toNat < 0xC2 ∨ 0xF4 < b.toNat) : begin b = ([replacement], .none) := by
  unfold begin
  simp only [UInt8.lt_iff_toNat_lt, ← UInt8.toNat_inj, UInt8.reduceToNat]
  rw [if_neg (by omega)]
  rcases stray with low | high
  · rw [if_pos low]
  · rw [if_neg (by omega), if_neg (by omega), if_neg (by omega), if_neg (by omega),
      if_neg (by omega), if_neg (by omega), if_neg (by omega), if_neg (by omega)]

/-- A first byte beyond ASCII completes no character of ASCII, and neither does what it
begins. -/
theorem begin_of_beyond {b : UInt8} (beyond : 0x80 ≤ b.toNat) :
    (∀ c ∈ (begin b).1, ¬ IsInline c) ∧ (begin b).2.IsLong := by
  by_cases stray : b.toNat < 0xC2 ∨ 0xF4 < b.toNat
  · rw [begin_stray beyond stray]
    exact ⟨by simpa using not_isInline_replacement, trivial⟩
  by_cases two : b.toNat < 0xE0
  · rw [begin_two (by omega) two]
    exact ⟨by simp, .inl (by omega)⟩
  by_cases three : b.toNat < 0xF0
  · rw [begin_three (by omega) three]
    refine ⟨by simp, .inr ⟨by decide, ?_⟩⟩
    split
    · exact .inr (by decide)
    · exact .inl (by omega)
  · rw [begin_four (by omega) (by omega)]
    refine ⟨by simp, .inr ⟨by decide, ?_⟩⟩
    split
    · exact .inr (by decide)
    · exact .inl (by omega)

/-- A byte beyond ASCII completes no character of ASCII. -/
theorem Partial.IsLong.step {state : Partial} (long : state.IsLong) (proper : state.IsProper)
    {b : UInt8} (beyond : 0x80 ≤ b.toNat) :
    (∀ c ∈ (state.step b).1, ¬ IsInline c) ∧ (state.step b).2.IsLong := by
  cases state with
  | none => exact begin_of_beyond beyond
  | some owed least greatest code =>
    simp only [Partial.step]
    split
    · rename_i within
      obtain ⟨_, last⟩ := proper
      simp only [UInt8.le_iff_toNat_le, UInt8.reduceToNat] at within last
      split
      · rename_i single
        have code_le : 2 ≤ code := by
          rcases long with code_le | ⟨more, _⟩
          · exact code_le
          · omega
        exact ⟨by simpa using not_isInline_ofNat (by omega), trivial⟩
      · refine ⟨by simp, .inl ?_⟩
        rcases long with code_le | ⟨_, code_le | least_le⟩ <;> omega
    · obtain ⟨writes, begins⟩ := begin_of_beyond beyond
      exact ⟨List.forall_mem_cons.mpr ⟨not_isInline_replacement, writes⟩, begins⟩

/-- A byte is written, or begins a character, or goes on with one. -/
theorem step_append_flush_ne_nil (state : Partial) (b : UInt8) :
    (state.step b).1 ++ (state.step b).2.flush ≠ [] := by
  cases state with
  | none =>
    have one := length_begin b
    rw [← List.length_append] at one
    exact List.ne_nil_of_length_pos (Nat.lt_of_lt_of_eq Nat.one_pos one.symm)
  | some owed least greatest code =>
    simp only [Partial.step]
    split
    · split <;> simp [Partial.flush]
    · simp

/-! ## Bytes and texts -/

/-- The characters with the codes of some bytes. -/
def codes (bytes : List UInt8) : List Char :=
  bytes.map fun b => Char.ofNat b.toNat

theorem toNat_ofNat_toNat (b : UInt8) : (Char.ofNat b.toNat).toNat = b.toNat := by
  have bound := b.toNat_lt
  exact Text.toNat_ofNat_of_valid (.inl (by omega))

theorem codes_encode {phrase : List Char} (ascii : ∀ c ∈ phrase, c.toNat < 128) :
    codes (encode phrase) = phrase := by
  induction phrase with
  | nil => rfl
  | cons c phrase ih =>
    have first : c.toNat < 128 := ascii c List.mem_cons_self
    have rest := ih fun d among => ascii d (List.mem_cons_of_mem c among)
    rw [encode, List.flatMap_cons, utf8EncodeChar_of_ascii first]
    change Char.ofNat (UInt8.ofNat c.toNat).toNat :: codes (encode phrase) = _
    rw [rest, toNat_ofNat_of_lt (by omega), Char.ofNat_toNat]

/-- The bytes of a phrase of ASCII stand among others exactly if their characters do. -/
theorem infix_codes_iff {phrase : List Char} (ascii : ∀ c ∈ phrase, c.toNat < 128)
    (bytes : List UInt8) : phrase <:+: codes bytes ↔ encode phrase <:+: bytes := by
  have injective : Function.Injective fun b : UInt8 => Char.ofNat b.toNat := by
    intro b other same
    have codes := congrArg Char.toNat same
    rw [toNat_ofNat_toNat, toNat_ofNat_toNat] at codes
    exact UInt8.toNat_inj.mp codes
  constructor
  · intro stands
    obtain ⟨part, among, same⟩ := List.infix_map_iff.mp stands
    have written : codes (encode phrase) = codes part := (codes_encode ascii).trans same
    rwa [List.map_injective_iff.mpr injective written]
  · intro stands
    have mapped : codes (encode phrase) <:+: codes bytes := stands.map _
    rwa [codes_encode ascii] at mapped

/-- A text is alike to the bytes it is decoded from, whatever bytes beyond ASCII are being
gone through: `before` holds those that were read, and `after` what was written for them. A
byte of ASCII ends the stretch and is written as itself. -/
theorem alikeOn_decodeFrom (bytes : List UInt8) (state : Partial) (before after : List Char)
    (proper : state.IsProper) (long : state.IsLong)
    (pending : before = [] ↔ after ++ state.flush = [])
    (other : ∀ c ∈ before, ¬ IsInline c) (others : ∀ c ∈ after, ¬ IsInline c) :
    AlikeOn IsInline (before ++ codes bytes) (after ++ decodeFrom state bytes) := by
  have flushed : ∀ {state : Partial} {after : List Char}, (∀ c ∈ after, ¬ IsInline c) →
      ∀ c ∈ after ++ state.flush, ¬ IsInline c := by
    intro state after others
    refine List.forall_mem_append.mpr ⟨others, ?_⟩
    cases state with
    | none => simp [Partial.flush]
    | some owed least greatest code => simpa [Partial.flush] using not_isInline_replacement
  induction bytes generalizing state before after with
  | nil =>
    have ending := AlikeOn.stretch pending other (flushed others) .nil
    rwa [List.append_nil (after ++ state.flush)] at ending
  | cons b bytes ih =>
    change AlikeOn IsInline (before ++ Char.ofNat b.toNat :: codes bytes) _
    rw [decodeFrom_cons]
    by_cases beyond : 0x80 ≤ b.toNat
    · obtain ⟨writes, continues⟩ := long.step proper beyond
      have read : ∀ c ∈ before ++ [Char.ofNat b.toNat], ¬ IsInline c :=
        List.forall_mem_append.mpr ⟨other, by simpa using not_isInline_ofNat beyond⟩
      have written : ∀ c ∈ after ++ (state.step b).1, ¬ IsInline c :=
        List.forall_mem_append.mpr ⟨others, writes⟩
      have unfinished : after ++ (state.step b).1 ++ (state.step b).2.flush ≠ [] := by
        rw [List.append_assoc]
        exact List.append_ne_nil_of_right_ne_nil after (step_append_flush_ne_nil state b)
      have pending : before ++ [Char.ofNat b.toNat] = [] ↔
          after ++ (state.step b).1 ++ (state.step b).2.flush = [] :=
        iff_of_false (by simp) unfinished
      have rest := ih _ _ _ (proper.step b) continues pending read written
      rwa [List.append_assoc, List.append_assoc] at rest
    · have rest := ih .none [] [] trivial trivial Iff.rfl (by simp) (by simp)
      rw [proper.step_eq (.inl (by omega)), begin_one (by omega), List.append_assoc,
        ← List.append_assoc after]
      exact .stretch pending other (flushed others) (.same _ rest)

/-- A text is alike to the bytes it is decoded from. -/
theorem alikeOn_decode (bytes : List UInt8) :
    AlikeOn IsInline (codes bytes) (decode bytes) :=
  alikeOn_decodeFrom bytes .none [] [] trivial trivial Iff.rfl (by simp) (by simp)

/-- A phrase of one line stands in a decoded text exactly if its bytes stand among those
that were decoded. -/
theorem infix_decode_iff {phrase : List Char} (inline : ∀ c ∈ phrase, IsInline c)
    (bytes : List UInt8) : phrase <:+: decode bytes ↔ encode phrase <:+: bytes := by
  have ascii : ∀ c ∈ phrase, c.toNat < 128 := fun c among => by
    obtain ⟨_, high⟩ := inline c among
    omega
  rw [← (alikeOn_decode bytes).infix_iff inline, infix_codes_iff ascii]

end ArtifactAudit.Utf8
