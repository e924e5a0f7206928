import ArtifactAudit.Proofs.Encoding.Phrase
import ArtifactAudit.Proofs.Scenario.Check
import ArtifactAudit.Proofs.Script.Observation
import ArtifactAudit.Proofs.Script.Steady

/-!
# Phrases in the bytes of a command

What a command writes may be the body of a download, so any bytes may come. They are always
read as a text, and a phrase of one line stands in that text exactly if its bytes were
written one after another (`infix_capturedText_iff`). So ill-formed UTF-8 and line ends
neither hide nor make up the phrase that refuses a download and the one that reports an exit
code (`phrases_survive_capture`).
-/

set_option autoImplicit false

namespace ArtifactAudit

open Text (IsInline)

/-! ## Captured output -/

namespace Cluster

/-- A phrase of one line stands in captured output exactly if its bytes were written. -/
theorem infix_capturedText_iff {phrase : List Char} (inline : ∀ c ∈ phrase, IsInline c)
    (bytes : List UInt8) :
    phrase <:+: (capturedText bytes).toList ↔ Utf8.encode phrase <:+: bytes := by
  rw [capturedText, String.toList_ofList, ← (Text.alikeOn_unifyNewlines _).infix_iff inline,
    Utf8.infix_decode_iff inline]

/-- A command ran to its end if it succeeded or its messages hold the bytes of the phrase
that reports an exit code. -/
theorem ranToEnd_captured_iff (finished : Finished) :
    RanToEnd finished.captured ↔
      finished.code = 0 ∨ Utf8.encode remoteExitPhrase.toList <:+: finished.errors :=
  or_congr Iff.rfl (infix_capturedText_iff (Text.forall_isInline (by decide)) finished.errors)

end Cluster

/-- A command that is seen is an event. -/
theorem mem_of_command_mem_actsOf {events : List Event} {command : Cluster.Command}
    {answer : Cluster.CommandAnswer} (seen : .command command answer ∈ actsOf events) :
    ⟨.command command, answer⟩ ∈ events := by
  obtain ⟨⟨call, reply⟩, happened, shown⟩ := List.mem_filterMap.mp seen
  cases call <;> cases shown
  exact happened

namespace Scenario

open Cluster

/-- A download is refused if its output holds the bytes of the phrase for that. -/
theorem isAccessDenied_captured_iff (finished : Finished) :
    isAccessDenied finished.captured.output = true ↔
      Utf8.encode accessDeniedPhrase.toList <:+: finished.output :=
  Verifier.isAccessDenied_iff.trans
    (infix_capturedText_iff (Text.forall_isInline (by decide)) finished.output)

section

variable {σ : Type} {world : World σ} {config : KubectlConfig} {deployment name command : String}
  {finished : Finished}

/-- In a world in which a command in a pod ends, its end decides: it is the result if it ran
to its end, and a failure otherwise. -/
theorem runInPod_play (start : σ) (ends : ∀ state,
      (world (.command (execCommand config deployment name command)) state).1 =
        .finished finished) :
    (RanToEnd finished.captured ∧
      ((runInPod config deployment (.string name) command).play world start).1 =
        .ok finished.captured) ∨
    ¬ RanToEnd finished.captured ∧ ∃ failure,
      ((runInPod config deployment (.string name) command).play world start).1 =
        .error (.failure failure) := by
  obtain ⟨answer, acts, executes, captures⟩ :=
    runInPod_follows config deployment name command _ _ (Script.runs_play world _ start)
  obtain ⟨state, same⟩ := Script.answered_of_mem_events
    (mem_of_command_mem_actsOf (acts ▸ List.mem_singleton_self _))
  obtain rfl : answer = .finished finished := same.trans (ends state)
  generalize ((runInPod config deployment (.string name) command).play world start).1 = result
    at executes captures ⊢
  cases result with
  | ok captured =>
    obtain ⟨_, same, rfl⟩ := captures captured rfl
    cases same
    cases executes with
    | completed completed => exact .inl ⟨completed, rfl⟩
  | error reason =>
    refine .inr ?_
    cases executes with
    | broken unfinished => exact ⟨unfinished, _, rfl⟩
    | unestablished unfinished => exact ⟨unfinished, _, rfl⟩

/-- The output of a command in a pod is what the command wrote. -/
theorem outputInPod_play (world : World σ) (config : KubectlConfig) (deployment : String)
    (pod : Json.Value) (command : String) (start : σ) :
    ((outputInPod config deployment pod command).play world start).1 =
      ((runInPod config deployment pod command).play world start).1.map (·.output) := by
  change (((runInPod config deployment pod command).bind _).play world start).1 = _
  rw [Script.play_bind]
  cases (runInPod config deployment pod command).play world start with
  | mk result reached => cases result <;> rfl

/-- For all bytes that a command in a pod writes and every exit code: reading them brings no
fault, the command counts as run to its end exactly if it succeeded or its messages hold the
bytes that report an exit code, and its output counts as a refusal exactly if it holds the
bytes of that phrase. -/
theorem phrases_survive_capture (start : σ) (ends : ∀ state,
      (world (.command (execCommand config deployment name command)) state).1 =
        .finished finished) :
    (∀ fault, ((runInPod config deployment (.string name) command).play world start).1 ≠
      .error (.fault fault)) ∧
    ((∃ captured, ((runInPod config deployment (.string name) command).play world start).1 =
        .ok captured) ↔
      finished.code = 0 ∨
        Utf8.encode "command terminated with exit code".toList <:+: finished.errors) ∧
    ((outputInPod config deployment (.string name) command).play world start).1 =
      ((runInPod config deployment (.string name) command).play world start).1.map (·.output) ∧
    ∀ output, ((outputInPod config deployment (.string name) command).play world start).1 =
        .ok output →
      (isAccessDenied output = true ↔
        Utf8.encode "Access Denied".toList <:+: finished.output) := by
  rw [outputInPod_play]
  rcases runInPod_play start ends with ⟨completed, same⟩ | ⟨unfinished, failure, same⟩
  · rw [same]
    refine ⟨nofun, ?_, rfl, ?_⟩
    · exact iff_of_true ⟨_, rfl⟩ ((ranToEnd_captured_iff finished).mp completed)
    · intro output shown
      obtain rfl := Except.ok.inj shown
      exact isAccessDenied_captured_iff finished
  · rw [same]
    refine ⟨nofun, ?_, rfl, nofun⟩
    exact iff_of_false (fun ⟨_, impossible⟩ => by cases impossible)
      fun reported => unfinished ((ranToEnd_captured_iff finished).mpr reported)

end

/-- A world in which every command ends in the same way. -/
def endingWorld (finished : Finished) : World Unit :=
  replying (fun _ => .failed "") fun _ => .finished finished

/-- Both phrases, behind a character that breaks off and in front of bytes that begin none. -/
def brokenOff : Finished where
  output := [0xE2, 0x82] ++ Utf8.encode "Access Denied".toList ++ [0xFF]
  errors := [0x0D, 0xF0, 0x9F] ++ Utf8.encode "command terminated with exit code".toList ++ [0xC0]
  code := 6

/-- Characters that break off hide neither phrase. -/
theorem phrases_survive_capture_broken_off :
    (∀ state, (endingWorld brokenOff (.command (execCommand {} "ns" "pod" "cat x")) state).1 =
      .finished brokenOff) ∧
    (∃ captured, ((runInPod {} "ns" (.string "pod") "cat x").play (endingWorld brokenOff) ()).1 =
      .ok captured) ∧
    ∀ output, ((outputInPod {} "ns" (.string "pod") "cat x").play (endingWorld brokenOff) ()).1 =
      .ok output → isAccessDenied output = true := by
  have ends : ∀ state,
      (endingWorld brokenOff (.command (execCommand {} "ns" "pod" "cat x")) state).1 =
        .finished brokenOff := fun _ => rfl
  have survives := phrases_survive_capture () ends
  refine ⟨ends, survives.2.1.mpr (.inr ?_), fun output shown => ?_⟩
  · exact List.infix_append _ _ _
  · exact (survives.2.2.2 output shown).mpr (List.infix_append _ _ _)

end Scenario

end ArtifactAudit
