import ArtifactAudit.Rehearsal.Files
import ArtifactAudit.Text.Phrase

/-!
# Rehearsals

A rehearsal plays a script against a world that is laid down beforehand: the
answers of the platform and of commands, the files, and a clock that moves only
when an answer takes time or the script waits. The world records every request,
command, pause and log line, and the last state of the scenario.

Answers to the same question are given in turn, and the last one is repeated.
-/

set_option autoImplicit false

namespace ArtifactAudit.Rehearsal

/-- An answer of the platform and how many seconds it takes. -/
structure Reply where
  answer : Platform.Answer
  /-- How long it takes. -/
  latency : Float := 0

/-- The answers to requests for one resource. -/
structure Route where
  method : String
  path : String
  /-- The encoded query, if it matters; empty for none. -/
  query : Option String
  /-- The answers, in turn. -/
  replies : List Reply

/-- The answers to commands of one kind. -/
structure Rule where
  /-- A phrase of the command line. -/
  phrase : String
  /-- The answers, in turn. -/
  answers : List Cluster.CommandAnswer

/-- A world that is laid down beforehand, and what has happened in it. -/
structure World where
  /-- The answers of the platform. -/
  routes : List Route := []
  /-- The answers of commands. -/
  rules : List Rule := []
  files : List FileEntry := []
  /-- The time, in seconds. -/
  now : Float := 0
  /-- How many requests are answered at most. -/
  requestLimit : Nat := 300
  /-- How many requests have been made. -/
  requestCount : Nat := 0
  state : Scenario.State := .idle
  /-- The requests, the last one first. -/
  requests : List Platform.Request := []
  /-- The commands, the last one first. -/
  commands : List Cluster.Command := []
  /-- The pauses, the last one first. -/
  pauses : List Float := []
  /-- The log, the last line first. -/
  log : List Logging.Line := []

/-- The next of some answers, and those that are left; the last one stays. -/
def inTurn {α : Type} : List α → Option (α × List α)
  | [] => none
  | [last] => some (last, [last])
  | next :: rest => some (next, rest)

/-- Whether a route answers a request. -/
def Route.matches (route : Route) (request : Platform.Request) : Bool :=
  let target := request.location.target
  route.method == request.method.name && route.path.toList == Text.before '?' target &&
    route.query.all fun query => query.toList == Text.after '?' target

/-- The answer for what no route answers. -/
def notFound : Platform.Answer :=
  .response
    { status := 404, body := "\x7b\"error\":\"not found\"\x7d".toUTF8.toList, contentType := none }

/-- Takes an answer from the first route that answers the request. -/
def takeReply (request : Platform.Request) : List Route → Reply × List Route
  | [] => ({ answer := notFound }, [])
  | route :: rest =>
    if route.matches request then
      match inTurn route.replies with
      | some (reply, replies) => (reply, { route with replies } :: rest)
      | none => ({ answer := notFound }, route :: rest)
    else
      let (reply, rest) := takeReply request rest
      (reply, route :: rest)

def noRule : Cluster.CommandAnswer :=
  .finished { output := [], errors := "Error: no rule".toUTF8.toList, code := 1 }

/-- Takes an answer from the first rule that answers the command. -/
def takeAnswer (line : String) : List Rule → Cluster.CommandAnswer × List Rule
  | [] => (noRule, [])
  | rule :: rest =>
    if Text.mentions line rule.phrase then
      match inTurn rule.answers with
      | some (answer, answers) => (answer, { rule with answers } :: rest)
      | none => (noRule, rule :: rest)
    else
      let (answer, rest) := takeAnswer line rest
      (answer, rule :: rest)

namespace World

/-- Answers a request, unless there have been too many. -/
def answerRequest (world : World) (request : Platform.Request) : Platform.Answer × World :=
  let world := { world with requestCount := world.requestCount + 1 }
  if world.requestLimit < world.requestCount then (.fault .outOfPatience, world)
  else
    let (reply, routes) := takeReply request world.routes
    (reply.answer,
      { world with
        routes, now := world.now + reply.latency, requests := request :: world.requests })

def answerCommand (world : World) (command : Cluster.Command) : Cluster.CommandAnswer × World :=
  let (answer, rules) := takeAnswer command.line world.rules
  (answer, { world with rules, commands := command :: world.commands })

/-- Answers a call. Every setup of the log is accepted, and so is every pause. -/
def answer : (call : Call) → World → call.Answer × World
  | .request request, world => world.answerRequest request
  | .command command, world => world.answerCommand command
  | .content path, world => (Rehearsal.content world.files path, world)
  | .status path, world => (Rehearsal.status world.files path, world)
  | .clock, world => (world.now, world)
  | .sleep seconds, world =>
    (.ok (), { world with now := world.now + seconds, pauses := seconds :: world.pauses })
  | .setUpLog _, world => (.ok (), world)
  | .log line, world => ((), { world with log := line :: world.log })
  | .enter state, world => ((), { world with state })

/-- The world with its records wiped. -/
def forget (world : World) : World :=
  { world with requests := [], commands := [], pauses := [], log := [] }

end World

def play {α : Type} (script : Script α) (world : World) : Except Halt α × World :=
  script.play World.answer world

end ArtifactAudit.Rehearsal
