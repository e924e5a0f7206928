import ArtifactAudit.Number.Layout

/-!
# Outcomes and failures

The verdict on one artifact is an outcome: whether it could be downloaded, why not, and the
address it was downloaded from.

Everything that can go wrong with the platform, the cluster, a scenario or an
artifact, by cause. A failure has a kind, the kinds form a hierarchy with
`general` at the top, and `message` puts the failure into words.

A failure of an upload or of the creation of a run names the failed request that
caused it, if one did.
-/

set_option autoImplicit false

namespace ArtifactAudit

/-- The result of checking one artifact. -/
structure Outcome where
  artifactId : String
  /-- Whether the artifact was downloaded. -/
  succeeded : Bool
  /-- Why the check failed. -/
  message : Option String := none
  /-- The download address, once it is known. -/
  downloadUrl : Option String := none
  deriving DecidableEq, Repr

/-- The outcomes of failed checks, in order. -/
def Outcome.failures (outcomes : List Outcome) : List Outcome :=
  outcomes.filter fun outcome => !outcome.succeeded

/-- A request to the platform that gave no usable answer. -/
inductive RequestFailure where
  /-- No answer came. -/
  | transport (message : String)
  /-- The answer has a status other than 200. -/
  | unexpectedStatus (status : Int) (url : String) (body : String)
  /-- The answer does not have the expected form. -/
  | malformedResponse (message : String)
  deriving DecidableEq, Repr

/-- The lookup of a pod that gave no pod. -/
inductive PodFailure where
  /-- No usable pod was found. -/
  | unresolved (message : String)
  /-- The pods could not be listed. -/
  | listing (message : String)
  /-- No pod matches. -/
  | notFound (message : String)
  deriving DecidableEq, Repr

/-- A command in a pod that did not run to its end. -/
inductive ExecFailure where
  | general (message : String)
  /-- The session was not established. -/
  | setup (message : String)
  /-- The session broke or took too long. -/
  | stream (message : String)
  deriving DecidableEq, Repr

/-- A failure, by cause. -/
inductive Failure where
  /-- A failure of no particular kind. -/
  | general (message : String)
  /-- A request to the platform failed. -/
  | request (failure : RequestFailure)
  /-- A download address is no absolute URL. -/
  | malformedUrl (message : String)
  /-- No pod was found. -/
  | pod (failure : PodFailure)
  /-- A command in a pod failed. -/
  | exec (failure : ExecFailure)
  /-- The pipeline definition was not uploaded. -/
  | submission (message : String) (cause : Option RequestFailure)
  /-- The uploaded pipeline is not listed. -/
  | pipelineNotFound (message : String)
  /-- The run was not created. -/
  | runCreation (message : String) (cause : Option RequestFailure)
  /-- The run ended without success. -/
  | runFailed (runId : String) (state : String)
  /-- The run did not end in time. -/
  | runTimeout (runId : String) (limit : Float) (lastState : Option String)
  /-- The run left no artifacts and was expected to. -/
  | noArtifacts (message : String)
  /-- The storage refused the download of an artifact. -/
  | accessDenied (artifactId : String) (output : String)
  /-- Some artifacts failed verification. -/
  | verificationFailed (failures : List Outcome)

namespace Failure

/-- The kinds of failure. -/
inductive Kind where
  | general
  | transport
  | unexpectedStatus
  | malformedResponse
  | malformedUrl
  | podResolution
  | podListing
  | podNotFound
  | exec
  | execSetup
  | stream
  | submission
  | pipelineNotFound
  | runCreation
  | runFailed
  | runTimeout
  | noArtifacts
  | accessDenied
  | verificationFailed
  deriving DecidableEq, Repr

namespace Kind

/-- The name of a kind, as outcomes and reports print it. -/
def label : Kind → String
  | general => "ArtifactProbeError"
  | transport => "TransportFailure"
  | unexpectedStatus => "UnexpectedStatus"
  | malformedResponse => "MalformedResponse"
  | malformedUrl => "MalformedURL"
  | podResolution => "PodResolutionFailure"
  | podListing => "PodListFailure"
  | podNotFound => "PodNotFound"
  | exec => "ExecFailure"
  | execSetup => "ExecSetupFailure"
  | stream => "StreamFailure"
  | submission => "SubmissionFailure"
  | pipelineNotFound => "PipelineNotFound"
  | runCreation => "RunCreationFailure"
  | runFailed => "RunFailed"
  | runTimeout => "RunTimeout"
  | noArtifacts => "NoArtifactsProduced"
  | accessDenied => "AccessDenied"
  | verificationFailed => "ArtifactVerificationFailed"

/-- Every kind. -/
def all : List Kind :=
  [general, transport, unexpectedStatus, malformedResponse, malformedUrl, podResolution,
    podListing, podNotFound, exec, execSetup, stream, submission, pipelineNotFound, runCreation,
    runFailed, runTimeout, noArtifacts, accessDenied, verificationFailed]

/-- The kind of a name. -/
def ofLabel? (label : String) : Option Kind :=
  all.find? (·.label == label)

/-- The kinds a kind belongs to, from itself up to `general`. -/
def lineage : Kind → List Kind
  | general => [general]
  | podListing => [podListing, podResolution, general]
  | podNotFound => [podNotFound, podResolution, general]
  | execSetup => [execSetup, exec, general]
  | stream => [stream, exec, general]
  | kind => [kind, general]

end Kind

end Failure

namespace RequestFailure

/-- The kind of a failed request. -/
def kind : RequestFailure → Failure.Kind
  | transport _ => .transport
  | unexpectedStatus .. => .unexpectedStatus
  | malformedResponse _ => .malformedResponse

/-- How many characters of a body a message shows. -/
def shownBody : Nat := 200

/-- The message of a failed request. -/
def message : RequestFailure → String
  | transport message => message
  | unexpectedStatus status url body =>
    s!"Unexpected status {status} from {url}: {String.ofList (body.toList.take shownBody)}"
  | malformedResponse message => message

end RequestFailure

namespace PodFailure

/-- The kind of a failed lookup. -/
def kind : PodFailure → Failure.Kind
  | unresolved _ => .podResolution
  | listing _ => .podListing
  | notFound _ => .podNotFound

/-- The message of a failed lookup. -/
def message : PodFailure → String
  | unresolved message | listing message | notFound message => message

end PodFailure

namespace ExecFailure

/-- The kind of a failed command. -/
def kind : ExecFailure → Failure.Kind
  | general _ => .exec
  | setup _ => .execSetup
  | stream _ => .stream

/-- The message of a failed command. -/
def message : ExecFailure → String
  | general message | setup message | stream message => message

end ExecFailure

namespace Failure

def kind : Failure → Kind
  | general _ => .general
  | request failure => failure.kind
  | malformedUrl _ => .malformedUrl
  | pod failure => failure.kind
  | exec failure => failure.kind
  | submission .. => .submission
  | pipelineNotFound _ => .pipelineNotFound
  | runCreation .. => .runCreation
  | runFailed .. => .runFailed
  | runTimeout .. => .runTimeout
  | noArtifacts _ => .noArtifacts
  | accessDenied .. => .accessDenied
  | verificationFailed _ => .verificationFailed

/-- The failed request behind a failure. -/
def cause? : Failure → Option RequestFailure
  | submission _ cause | runCreation _ cause => cause
  | _ => none

/-- The last state of an unfinished run, as the message names it. -/
def lastStateText (lastState : Option String) : String :=
  match lastState with
  | some state => if state.isEmpty then "unknown" else state
  | none => "unknown"

/-- The line about one failed artifact. -/
def outcomeLine (outcome : Outcome) : String :=
  s!"  - {outcome.artifactId}: " ++ outcome.message.getD "None"

/-- The message of failed artifacts: their number, then a line each. -/
def verificationMessage (failures : List Outcome) : String :=
  "\n".intercalate
    (s!"{failures.length} artifact(s) failed verification:" :: failures.map outcomeLine)

/-- A failure in words. -/
def message : Failure → String
  | general message => message
  | request failure => failure.message
  | malformedUrl message => message
  | pod failure => failure.message
  | exec failure => failure.message
  | submission message _ => message
  | pipelineNotFound message => message
  | runCreation message _ => message
  | runFailed runId state => s!"Run {runId} finished in state {state}"
  | runTimeout runId limit lastState =>
    s!"Run {runId} not finished after {Number.text limit}s " ++
      s!"(last state: {lastStateText lastState})"
  | noArtifacts message => message
  | accessDenied artifactId output => s!"Access denied downloading artifact {artifactId}: {output}"
  | verificationFailed failures => verificationMessage failures

end Failure

end ArtifactAudit
