import ArtifactAudit.Cluster.Pod
import ArtifactAudit.Text.Phrase

/-!
# Running commands in pods

A command runs in a shell inside a pod. A remote command that ends with an error
code is no failure: kubectl reports the code in a fixed phrase and takes it over.
Any other error code means that the session broke, if the messages hold one of
the phrases for that, or else that it was never established.
-/

set_option autoImplicit false

namespace ArtifactAudit.Cluster

/-- The phrase with which kubectl reports the exit code of a remote command. -/
def remoteExitPhrase : String := "command terminated with exit code"

/-- The phrases, in lower case, with which kubectl reports a broken session. -/
def brokenStreamPhrases : List String :=
  ["connection reset", "unexpected eof", "broken pipe", "lost connection",
    "use of closed network connection", "error reading from error stream"]

/-- How a command in a pod ended. -/
inductive ExecClass where
  /-- The session was not established. -/
  | notEstablished
  | broken
  /-- The command ran to its end. -/
  | ended
  deriving DecidableEq, Repr

/-- How a command with an exit code and error messages ended. -/
def classify (code : Int) (errors : String) : ExecClass :=
  if code = 0 || Text.mentions errors remoteExitPhrase then .ended
  else if brokenStreamPhrases.any fun phrase =>
      Text.occursIn phrase.toList (Text.lower errors.toList) then .broken
  else .notEstablished

/-- The arguments that run a command in a pod. -/
def execArguments (config : KubectlConfig) (deployment : String) (pod : Json.Value)
    (command : String) : List Json.Value :=
  [.string "exec", .string "-n", .string deployment, pod] ++
    (if config.tty then [.string "-t"] else []) ++
    [.string "--", .string "sh", .string "-c", .string command]

/-- The texts in a list of values, if all are texts. -/
def texts? : List Json.Value → Option (List String)
  | [] => some []
  | .string s :: rest => (texts? rest).map (s :: ·)
  | _ :: _ => none

/-- Runs a command in a pod. -/
def runInPod (config : KubectlConfig) (deployment : String) (pod : Json.Value)
    (command : String) : Script Captured :=
  match texts? (execArguments config deployment pod command) with
  | none => .crash .wrongKind
  | some arguments => do
    let place := s!"{deployment}/{pod.text}"
    match ← runKubectl config arguments config.execTimeout with
    | .timedOut =>
      .fail
        (.exec
          (.stream s!"Command in {place} did not finish within {Number.text config.execTimeout}s"))
    | .notStarted error => .fail (.exec (.setup s!"Could not run kubectl: {error.text}"))
    | .fault fault => .crash fault
    | .finished finished =>
      let captured := finished.captured
      match classify captured.code captured.errors with
      | .broken =>
        .fail
          (.exec (.stream s!"Exec stream to {place} failed: {Text.stripped captured.errors}"))
      | .notEstablished =>
        .fail (.exec (.setup s!"Could not exec into {place}: {Text.stripped captured.errors}"))
      | .ended =>
        if captured.code ≠ 0 then
          Script.log .debug s!"Remote command exited {captured.code} in {pod.text}"
        return captured

/-- The output of a command in a pod. -/
def outputInPod (config : KubectlConfig) (deployment : String) (pod : Json.Value)
    (command : String) : Script String := do
  return (← runInPod config deployment pod command).output

end ArtifactAudit.Cluster
