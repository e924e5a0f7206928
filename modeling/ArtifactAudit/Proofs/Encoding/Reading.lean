import Mathlib.Data.List.SplitBy
import Mathlib.Data.List.TakeWhile
import ArtifactAudit.Proofs.Encoding.Percent

/-!
# Reading what was escaped

Reading a text is decoding the bytes that it stands for (`decode_eq`), although its runs
of ASCII are read one by one: a character beyond ASCII neither completes what stands in
front of it nor is completed by what follows.

Escaping that keeps the percent sign leaves the bytes alone, so a text and its escaped
form are read alike (`decode_encode`), and both as the text itself exactly if it holds no
escapes (`decode_eq_self_iff`): an escape is read as at most one character, and then
nothing makes up for the two that are lost (`length_decode_le`). If the percent sign is
escaped too, reading undoes the escaping of every text (`decode_encode_of_hidden`).
-/

set_option autoImplicit false

namespace ArtifactAudit.Percent

variable {keep : Char → Bool}

/-! ## Runs -/

/-- A text on one side of ASCII is a single run. -/
theorem splitBy_of_uniform {s : List Char} (nonempty : s ≠ []) {side : Bool}
    (uniform : ∀ c ∈ s, isAscii c = side) :
    (s.splitBy fun a b => isAscii a == isAscii b) = [s] := by
  have alike : s.IsChain fun a b => (isAscii a == isAscii b) = true :=
    (List.pairwise_of_forall_mem_list fun a first b second => by
      rw [uniform a first, uniform b second]
      exact beq_self_eq_true side).isChain
  exact List.splitBy_of_isChain nonempty alike

/-- A text of ASCII is read as one run. -/
theorem decode_of_ascii {s : List Char} (ascii : ∀ c ∈ s, c.toNat < 128) :
    decode s = Utf8.decode (bytes s) := by
  have within : ∀ c ∈ s, isAscii c = true := fun c among => decide_eq_true (ascii c among)
  by_cases empty : s = []
  · subst empty
    rfl
  · rw [decode, splitBy_of_uniform empty within, List.flatMap_cons, List.flatMap_nil,
      List.append_nil, if_pos (List.all_eq_true.mpr within)]

/-- A text beyond ASCII is read as it is. -/
theorem decode_of_beyond {s : List Char} (beyond : ∀ c ∈ s, isAscii c = false) :
    decode s = s := by
  cases s with
  | nil => rfl
  | cons c s =>
    have first := beyond c List.mem_cons_self
    rw [decode, splitBy_of_uniform (List.cons_ne_nil c s) beyond, List.flatMap_cons,
      List.flatMap_nil, List.append_nil, if_neg]
    simp [first]

/-- Two texts are read apart if ASCII ends where they meet. -/
theorem decode_append {s t : List Char}
    (apart : ∀ a ∈ s.getLast?, ∀ b ∈ t.head?, isAscii a ≠ isAscii b) :
    decode (s ++ t) = decode s ++ decode t := by
  have split := List.splitBy_append (r := fun a b => isAscii a == isAscii b) (l := s) (m := t)
    fun a last b first => beq_eq_false_iff_ne.mpr (apart a last b first)
  rw [decode, split, List.flatMap_append]
  rfl

/-- A character beyond ASCII is read as it is, whatever follows. -/
theorem decode_cons_beyond {c : Char} (beyond : isAscii c = false) (s : List Char) :
    decode (c :: s) = c :: decode s := by
  have run : ∀ front, (∀ d ∈ front, isAscii d = false) →
      decode (front ++ s.dropWhile (!isAscii ·)) = front ++ decode (s.dropWhile (!isAscii ·)) := by
    intro front within
    rw [decode_append, decode_of_beyond within]
    intro a last b first
    have ascii := List.head?_dropWhile_not (!isAscii ·) s
    rw [Option.mem_def.mp first] at ascii
    rw [within a (List.mem_of_mem_getLast? last)]
    simpa using ascii
  have within : ∀ d ∈ s.takeWhile (!isAscii ·), isAscii d = false := by
    intro d among
    simpa using List.mem_takeWhile_imp among
  have whole := run (c :: s.takeWhile (!isAscii ·)) (List.forall_mem_cons.mpr ⟨beyond, within⟩)
  have rest := run (s.takeWhile (!isAscii ·)) within
  rw [List.cons_append, List.takeWhile_append_dropWhile] at whole
  rw [List.takeWhile_append_dropWhile] at rest
  rw [whole, rest]
  rfl

theorem octets_of_ascii {s : List Char} (ascii : ∀ c ∈ s, c.toNat < 128) : octets s = bytes s := by
  have kept : encode isAscii s = s := encode_of_kept fun c among => decide_eq_true (ascii c among)
  rw [← bytes_encode keepsEscapes_isAscii, kept]

/-- A text is a run of ASCII, or a character beyond ASCII ends its first run. -/
theorem run_induction {motive : List Char → Prop}
    (ascii : ∀ s, (∀ c ∈ s, c.toNat < 128) → motive s)
    (beyond : ∀ front c rest, (∀ d ∈ front, d.toNat < 128) → isAscii c = false → motive rest →
      motive (front ++ c :: rest)) (s : List Char) : motive s := by
  have grown : ∀ front, (∀ d ∈ front, d.toNat < 128) → motive (front ++ s) := by
    induction s with
    | nil =>
      intro front within
      rw [List.append_nil]
      exact ascii front within
    | cons c s ih =>
      intro front within
      by_cases side : c.toNat < 128
      · have longer := ih (front ++ [c]) fun d among => by
          rcases List.mem_append.mp among with among | among
          · exact within d among
          · rwa [List.mem_singleton.mp among]
        rwa [List.append_assoc] at longer
      · exact beyond front c s within (decide_eq_false side) (ih [] (by simp))
  exact grown [] (by simp)

/-- Reading a text is decoding the bytes that it stands for. -/
theorem decode_eq (s : List Char) : decode s = Utf8.decode (octets s) := by
  induction s using run_induction with
  | ascii s ascii => rw [decode_of_ascii ascii, octets_of_ascii ascii]
  | beyond front c rest ascii beyond ih =>
    have apart : ∀ a ∈ front.getLast?, ∀ b ∈ (c :: rest).head?, isAscii a ≠ isAscii b := by
      intro a last b first
      obtain rfl : c = b := by simpa using first
      have within : isAscii a = true := decide_eq_true (ascii a (List.mem_of_mem_getLast? last))
      rw [within, beyond]
      decide
    rw [decode_append apart, decode_of_ascii ascii, decode_cons_beyond beyond, ih,
      octets_append_beyond beyond, octets_of_ascii ascii]
    exact (Utf8.decodeFrom_append_char Utf8.Partial.isProper_none _ _ c).symm

/-- A text and its escaped form are read alike. -/
theorem decode_encode (keeps : KeepsEscapes keep) (s : List Char) :
    decode (encode keep s) = decode s := by
  rw [decode_of_ascii fun _ => toNat_lt_of_mem_encode keeps.ascii, bytes_encode keeps, decode_eq]

/-- If the percent sign is escaped too, every text is read back. -/
theorem decode_encode_of_hidden (hides : HidesSign keep) (s : List Char) :
    decode (encode keep s) = s := by
  rw [decode_of_ascii fun _ => toNat_lt_of_mem_encode hides.ascii, bytes_encode_of_hidden hides,
    Utf8.decode_encode]

/-! ## How much is read -/

/-- Every escape costs two characters at least. The induction takes an escape as a whole, as
reading does. -/
theorem length_decodeFrom_octets_le {state : Utf8.Partial} (proper : state.IsProper)
    (s : List Char) :
    (Utf8.decodeFrom state (octets s)).length + 2 * escapes s ≤
      state.flush.length + s.length := by
  induction s using escape_induction generalizing state with
  | nil => simp [octets, escapes, Utf8.decodeFrom]
  | escape high low rest b digits ih =>
    have read : (Hex.decodeByte? high low).isSome = true := by rw [digits]; rfl
    have step := Utf8.length_step_le state b
    have rest := ih (proper.step b)
    rw [octets_escape digits, escapes_escape read, Utf8.decodeFrom_cons, List.length_append]
    simp only [List.length_cons]
    omega
  | plain c rest plain ih =>
    have rest := ih Utf8.Partial.isProper_none
    rw [octets_plain plain, Utf8.decodeFrom_char proper, escapes_cons_of_plain plain]
    simp only [List.length_append, List.length_cons, Utf8.Partial.flush, List.length_nil] at rest ⊢
    omega

/-- Reading gives no more characters than there were. -/
theorem length_decode_le (s : List Char) : (decode s).length + 2 * escapes s ≤ s.length := by
  have bound := length_decodeFrom_octets_le Utf8.Partial.isProper_none s
  rwa [Utf8.Partial.flush, List.length_nil, Nat.zero_add, ← Utf8.decode, ← decode_eq] at bound

/-- A text is read as itself if and only if it holds no escapes. -/
theorem decode_eq_self_iff {s : List Char} : decode s = s ↔ escapes s = 0 := by
  constructor
  · intro read
    have bound := length_decode_le s
    rw [read] at bound
    omega
  · intro free
    rw [decode_eq, octets_of_free free, Utf8.decode_encode]

/-- Only an empty text is read as nothing. -/
theorem decode_eq_nil_iff {s : List Char} : decode s = [] ↔ s = [] := by
  constructor
  · intro nothing
    rw [decode_eq, Utf8.decode_eq_nil_iff] at nothing
    cases s using escape_induction with
    | nil => rfl
    | escape high low rest b digits _ =>
      rw [octets_escape digits] at nothing
      cases nothing
    | plain c rest plain _ =>
      rw [octets_plain plain] at nothing
      exact absurd (List.append_eq_nil_iff.mp nothing).1 String.utf8EncodeChar_ne_nil
  · rintro rfl
    rfl

end ArtifactAudit.Percent
