import ArtifactAudit.Cluster.Kubectl
import ArtifactAudit.Json.Reader
import ArtifactAudit.Text.Cut

/-!
# Finding a pod

The pods with a label are listed by kubectl, and the first of the listing is
taken. A listing that cannot be read is told from one that is read and holds no
pod with a name.

The name of a pod is whatever value stands in its place in the listing, unless
the value is empty; only a text is good for running commands.
-/

set_option autoImplicit false

namespace ArtifactAudit.Cluster

structure Pod where
  name : Json.Value
  /-- The namespace it lives in. -/
  deployment : String

/-- The arguments that list the pods with a label. -/
def listArguments (deployment selector : String) : List String :=
  ["get", "pods", "-n", deployment, "-l", selector, "-o", "json"]

/-- Why the items of a listing cannot be read. -/
inductive ListingError where
  /-- The listing is broken, with a message. -/
  | unreadable (message : String)
  /-- A fault of the reader. -/
  | fault (fault : Fault)

/-- The items of a listing, whatever value stands for them. Null stands for a
missing value. -/
def readItems (document : String) : Except ListingError Json.Value :=
  match Json.read .listing document.toList with
  | .error (.broken problem position) =>
    .error (.unreadable (Json.positionMessage document.toList problem position))
  | .error (.number error) => .error (.fault (.value error.message))
  | .error .tooDeep => .error (.fault .tooDeep)
  | .ok (.object fields) => .ok ((fields.lookup "items").getD .null)
  | .ok value => .error (.unreadable s!"'{value.kind}' object has no attribute 'get'")

/-- The first of some items, which are not empty. The first item of a text is
its first character. -/
def firstItem : Json.Value → Except Fault Json.Value
  | .array (item :: _) => .ok item
  | .string s => .ok (.string (String.ofList (s.toList.take 1)))
  | .object _ => .error .noPosition
  | _ => .error .wrongKind

/-- The number of some items. -/
def countItems : Json.Value → Nat
  | .array items => items.length
  | .object fields => fields.length
  | .string s => s.length
  | _ => 0

/-- A named value of an item, which must be an object. Null stands for a missing
value. -/
def itemField (key : String) : Json.Value → Except Fault Json.Value
  | .object fields => .ok ((fields.lookup key).getD .null)
  | _ => .error .noFields

/-- The name in the first of some items. Empty metadata hold no name. -/
def firstName (items : Json.Value) : Except Fault Json.Value :=
  (firstItem items).bind fun item =>
    (itemField "metadata" item).bind fun metadata =>
      if metadata.isEmpty then .ok .null else itemField "name" metadata

/-- The pod that a listing names first. -/
def choosePod (deployment selector listing : String) : Script Pod :=
  match readItems listing with
  | .error (.unreadable message) =>
    .fail (.pod (.listing s!"Unreadable pod listing for {deployment}: {message}"))
  | .error (.fault fault) => .crash fault
  | .ok items =>
    if items.isEmpty then .fail (.pod (.notFound s!"no pods found with the label {selector}"))
    else match firstName items with
      | .error fault => .crash fault
      | .ok name =>
        if name.isEmpty then
          .fail (.pod (.notFound s!"first pod matching {selector} has no name"))
        else do
          if 1 < countItems items then
            Script.log .debug s!"{countItems items} pods match {selector}, using {name.text}"
          Script.log .info s!"Resolved pod {deployment}/{name.text} for {selector}"
          return { name, deployment }

/-- Finds the pod with a label. -/
def locatePod (config : KubectlConfig) (deployment selector : String) : Script Pod :=
  if deployment.isEmpty then .crash (.value "namespace must not be empty")
  else do
    match ← runKubectl config (listArguments deployment selector) config.requestTimeout with
    | .timedOut => .fail (.pod (.listing s!"Listing pods in {deployment} timed out"))
    | .notStarted error => .fail (.pod (.listing s!"Could not run kubectl: {error.text}"))
    | .fault fault => .crash fault
    | .finished finished =>
      let captured := finished.captured
      if captured.code = 0 then choosePod deployment selector captured.output
      else
        .fail
          (.pod (.listing s!"failed to list pods in {deployment}: {Text.stripped captured.errors}"))

end ArtifactAudit.Cluster
