/-!
# Words for the shell

A text is written so that the shell reads it back as one word: as it is when it
has only characters that mean nothing to the shell, and otherwise between single
quotes. A single quote in the text ends the quotes, stands between double ones,
and opens them again.
-/

set_option autoImplicit false

namespace ArtifactAudit.Shell

/-- Whether the character means nothing to the shell anywhere in a word. -/
def isPlain (c : Char) : Bool :=
  c.isAlphanum || "_@%+=:,./-".toList.contains c

/-- One character between single quotes. -/
def quoteChar (c : Char) : List Char :=
  if c = '\'' then ['\'', '"', '\'', '"', '\''] else [c]

/-- A text as one word. -/
def word (s : List Char) : List Char :=
  if !s.isEmpty && s.all isPlain then s else '\'' :: s.flatMap quoteChar ++ ['\'']

/-- The command that downloads a URL to the standard output. -/
def downloadCommand (url : String) : String :=
  "curl --insecure " ++ String.ofList (word url.toList)

end ArtifactAudit.Shell
