import ArtifactAudit.Proofs.Text.Ascii
import ArtifactAudit.Shell.Word
import ArtifactAudit.Text.Cut

/-!
# How the shell reads a command

A command is cut into words at its blanks. Between single quotes every character
stands for itself, and between double quotes every character but the dollar sign, the
backquote and the backslash. Outside quotes no operator stands for itself, and
neither does what begins an expansion, a pattern, a comment or a home directory.

`words?` reads a command in which nothing but quotes and blanks means anything to the
shell, and gives nothing for any other. `simpleCommand?` also demands that the first
word names a command.

A text that is written as a word is read back as that word (`wordsFrom_word`).
-/

set_option autoImplicit false

namespace ArtifactAudit.Shell

/-! ## Reading -/

/-- The quotes that are open at a place in a command. -/
inductive Quotes where
  | closed
  | single
  | double
  deriving DecidableEq, Repr

/-- Whether the character separates words. -/
def isBlank (c : Char) : Bool :=
  c == ' ' || c == '\t'

/-- Whether the character does not stand for itself outside quotes. Controls and
characters beyond ASCII count, since in some locale they are blanks. -/
def isSpecial (c : Char) : Bool :=
  c.toNat ≤ 0x20 || 0x7F ≤ c.toNat || "|&;<>()$`\\\"'*?[]#~!^\x7b\x7d".toList.contains c

/-- Whether the character does not stand for itself between double quotes. -/
def isSpecialInDouble (c : Char) : Bool :=
  "$`\\".toList.contains c

/-- The words from a place in a command on. `word` is what has been read of a word
that is not at its end, if there is one. -/
def wordsFrom : Quotes → (word : Option (List Char)) → List Char → Option (List (List Char))
  | .closed, word, [] => some word.toList
  | .single, _, [] => none
  | .double, _, [] => none
  | .closed, word, c :: rest =>
    if isBlank c then (wordsFrom .closed none rest).map (word.toList ++ ·)
    else if c = '\'' then wordsFrom .single (some (word.getD [])) rest
    else if c = '"' then wordsFrom .double (some (word.getD [])) rest
    else if isSpecial c then none
    else wordsFrom .closed (some (word.getD [] ++ [c])) rest
  | .single, word, c :: rest =>
    if c = '\'' then wordsFrom .closed word rest
    else wordsFrom .single (some (word.getD [] ++ [c])) rest
  | .double, word, c :: rest =>
    if c = '"' then wordsFrom .closed word rest
    else if isSpecialInDouble c then none
    else wordsFrom .double (some (word.getD [] ++ [c])) rest

/-- The words of a command in which nothing but quotes and blanks means anything. -/
def words? (command : List Char) : Option (List (List Char)) :=
  wordsFrom .closed none command

/-- The words that the shell keeps for compound commands. -/
def reservedWords : List String :=
  ["!", "\x7b", "\x7d", "case", "do", "done", "elif", "else", "esac", "fi", "for", "if", "in",
    "then", "until", "while"]

/-- Whether a word names a command where it stands first: it is neither reserved nor
an assignment. -/
def namesCommand (word : List Char) : Bool :=
  !reservedWords.contains (String.ofList word) && !word.contains '='

/-- The words of a simple command: its name and its arguments. -/
def simpleCommand? (command : List Char) : Option (List (List Char)) :=
  (words? command).filter fun words => words.head?.any namesCommand

/-! ## Reading a written word -/

/-- What means nothing to the shell anywhere is neither a blank nor special. -/
theorem not_special_of_isPlain {c : Char} (plain : isPlain c = true) :
    isBlank c = false ∧ c ≠ '\'' ∧ c ≠ '"' ∧ isSpecial c = false := by
  have ascii : c.toNat < 128 := by
    rcases Bool.or_eq_true_iff.mp plain with alphanumeric | sign
    · exact Text.toNat_lt_of_isAlphanum alphanumeric
    · have listed : ("_@%+=:,./-".toList.all fun d => d.toNat < 128) = true := by decide
      simpa using List.all_eq_true.mp listed c (List.contains_iff_mem.mp sign)
  refine Text.forall_ascii (p := fun c => isPlain c = true →
    isBlank c = false ∧ c ≠ '\'' ∧ c ≠ '"' ∧ isSpecial c = false) ?_ ascii plain
  decide +kernel

/-- Plain characters extend the word that is being read. -/
theorem wordsFrom_plain {s : List Char} (plain : s.all isPlain = true) (word : List Char)
    (rest : List Char) :
    wordsFrom .closed (some word) (s ++ rest) = wordsFrom .closed (some (word ++ s)) rest := by
  induction s generalizing word with
  | nil => simp
  | cons c s ih =>
    simp only [List.all_cons, Bool.and_eq_true] at plain
    obtain ⟨unblank, unsingle, undouble, ordinary⟩ := not_special_of_isPlain plain.1
    rw [List.cons_append, wordsFrom, if_neg (by simp [unblank]), if_neg unsingle,
      if_neg undouble, if_neg (by simp [ordinary]), Option.getD_some, ih plain.2,
      List.append_assoc, List.singleton_append]

/-- A character between single quotes stands for itself, also the single quote, for
which the quotes are left. -/
theorem wordsFrom_quoteChar (c : Char) (word rest : List Char) :
    wordsFrom .single (some word) (quoteChar c ++ rest) =
      wordsFrom .single (some (word ++ [c])) rest := by
  unfold quoteChar
  split
  · rename_i quote
    subst quote
    rfl
  · rename_i other
    rw [List.singleton_append, wordsFrom, if_neg other, Option.getD_some]

theorem wordsFrom_quoted (s word rest : List Char) :
    wordsFrom .single (some word) (s.flatMap quoteChar ++ '\'' :: rest) =
      wordsFrom .closed (some (word ++ s)) rest := by
  induction s generalizing word with
  | nil => simp [wordsFrom]
  | cons c s ih =>
    rw [List.flatMap_cons, List.append_assoc, wordsFrom_quoteChar, ih, List.append_assoc,
      List.singleton_append]

/-- A written word is read back, whatever follows it. -/
theorem wordsFrom_word (s rest : List Char) :
    wordsFrom .closed none (word s ++ rest) = wordsFrom .closed (some s) rest := by
  unfold word
  split
  · rename_i plain
    obtain ⟨nonempty, plain⟩ := Bool.and_eq_true_iff.mp plain
    cases s with
    | nil => simp at nonempty
    | cons c s =>
      have first : wordsFrom .closed none (c :: s ++ rest) =
          wordsFrom .closed (some []) (c :: s ++ rest) := by
        obtain ⟨unblank, _⟩ := not_special_of_isPlain (List.all_eq_true.mp plain c (by simp))
        simp only [List.cons_append, wordsFrom, unblank, Bool.false_eq_true, if_false,
          Option.getD_none, Option.getD_some]
      rw [first, wordsFrom_plain plain, List.nil_append]
  · rw [List.cons_append, List.cons_append, List.append_assoc, List.singleton_append]
    exact wordsFrom_quoted s [] rest

/-! ## Reading a written command -/

/-- A command of some words, each written so that the shell reads it back. -/
def written (texts : List (List Char)) : List Char :=
  Text.joinPieces ' ' (texts.map word)

theorem wordsFrom_arguments (text : List Char) (others : List (List Char)) :
    wordsFrom .closed (some text) ((others.map word).flatMap (' ' :: ·)) =
      some (text :: others) := by
  induction others generalizing text with
  | nil => rfl
  | cons next others ih =>
    have blank : isBlank ' ' = true := rfl
    rw [List.map_cons, List.flatMap_cons, List.cons_append, wordsFrom, if_pos blank,
      wordsFrom_word, ih]
    rfl

/-- The words of a written command are the texts that it was written from. -/
theorem words?_written {texts : List (List Char)} (nonempty : texts ≠ []) :
    words? (written texts) = some texts := by
  cases texts with
  | nil => exact absurd rfl nonempty
  | cons text others =>
    unfold words? written
    rw [List.map_cons, Text.joinPieces, wordsFrom_word, wordsFrom_arguments]

/-- The words of the download command. -/
def downloadWords (url : String) : List (List Char) :=
  ["curl".toList, "--insecure".toList, url.toList]

theorem toList_downloadCommand (url : String) :
    (downloadCommand url).toList = written (downloadWords url) := by
  have name : word "curl".toList = "curl".toList := by decide
  have option : word "--insecure".toList = "--insecure".toList := by decide
  unfold downloadCommand written downloadWords
  rw [String.toList_append, String.toList_ofList, List.map_cons, List.map_cons, name, option]
  simp [Text.joinPieces]

theorem simpleCommand?_downloadCommand (url : String) :
    simpleCommand? (downloadCommand url).toList = some (downloadWords url) := by
  unfold simpleCommand?
  rw [toList_downloadCommand, words?_written (by simp [downloadWords])]
  rfl

/-- Two commands for different addresses differ. -/
theorem downloadCommand_injective {url other : String}
    (same : downloadCommand url = downloadCommand other) : url = other := by
  have read := simpleCommand?_downloadCommand url
  rw [same, simpleCommand?_downloadCommand other] at read
  simp only [downloadWords, Option.some.injEq, List.cons.injEq, String.toList_inj, true_and,
    and_true] at read
  exact read.symm

end ArtifactAudit.Shell
