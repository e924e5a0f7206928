import ArtifactAudit.Proofs.Shell.Reading
import ArtifactAudit.Proofs.Url.Download

/-!
# The download command

Whatever the address is, the shell reads the download command as a single call of
`curl` with the address as its last argument. The address of an accepted download
opens with a scheme, so `curl` does not take it for an option.
-/

set_option autoImplicit false

namespace ArtifactAudit.Shell

/-- A text that begins with a scheme does not begin with a hyphen. -/
theorem not_option_of_opensWithScheme {s : List Char} (opens : Url.OpensWithScheme s) :
    s.head? ≠ some '-' := by
  obtain ⟨scheme, ⟨first, rest, rfl, letter, _⟩, tail, rfl⟩ := opens
  intro hyphen
  obtain rfl : first = '-' := by simpa using hyphen
  exact absurd letter (by decide)

/-- The shell reads the download command for an address as one simple command of three
words, the last of which is the address; the command determines the address; and the
address of an accepted download opens with a scheme and is not taken for an option. -/
theorem downloadCommand_is_one_call (url : String) :
    simpleCommand? (downloadCommand url).toList =
        some ["curl".toList, "--insecure".toList, url.toList] ∧
      (∀ other, downloadCommand other = downloadCommand url → other = url) ∧
      ∀ raw, Url.normalize raw = .ok url →
        Url.OpensWithScheme url.toList ∧ url.toList.head? ≠ some '-' := by
  refine ⟨simpleCommand?_downloadCommand url, fun other same => downloadCommand_injective same,
    fun raw accepted => ?_⟩
  have opens := Url.opensWithScheme_of_normalize accepted
  exact ⟨opens, not_option_of_opensWithScheme opens⟩

/-- An address with a quote, a blank and an operator, accepted and read back. -/
theorem downloadCommand_is_one_call_with_quote :
    Url.normalize "HTTPS://store/it's?a b;c" = .ok "https://store/it's?a%20b%3Bc" ∧
      simpleCommand? (downloadCommand "https://store/it's?a%20b%3Bc").toList =
        some ["curl".toList, "--insecure".toList, "https://store/it's?a%20b%3Bc".toList] ∧
      Url.OpensWithScheme "https://store/it's?a%20b%3Bc".toList := by
  have accepted : Url.normalize "HTTPS://store/it's?a b;c" = .ok "https://store/it's?a%20b%3Bc" :=
    rfl
  obtain ⟨reads, _, opens⟩ := downloadCommand_is_one_call "https://store/it's?a%20b%3Bc"
  exact ⟨accepted, reads, (opens _ accepted).1⟩

end ArtifactAudit.Shell
