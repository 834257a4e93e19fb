import RanSlicing.App.Arguments
import RanSlicing.App.LogFilter
import RanSlicing.Control.Run
import RanSlicing.Controller.Connection

/-!
# The program

The program from its command line to its end. It collects its configuration, loads the policy that
base stations start from, connects to the controller, sends the commands that are due at the start
and runs the control loop. Everything that it needs from outside is handed in, the files, the
environment, and what the controller does with a request, so a run of the program is a value.

Whatever is wrong before the loop starts ends the program; after that nothing does.
-/

namespace RanSlicing

/-- Why the program ended before its loop started. -/
inductive Halt
  | configuration (path : String)
  | mode (e : InterfaceError)
  | template (path : String)
  | unknownPreset (e : UnknownPreset)
  | invalidPreset
  | policy (e : PolicyError Float)
  | connection

/-- The wording of an early end. -/
def Halt.message : Halt → String
  | configuration path => "Cannot load configuration " ++ path
  | mode e => e.message
  | template path => "Cannot load policy template " ++ path
  | unknownPreset e => e.message
  | invalidPreset => "Invalid slice template"
  | policy e => e.message
  | connection => "Cannot set up the controller connection"

/-- Everything that is settled before the loop starts. -/
structure Session where
  config : AppConfig
  endpoint : Endpoint
  source : StatsSource
  template : PolicyDocument Float
  count : SliceCount

namespace Session

/-- The policy that base stations start from and the number of slices to start with. -/
def policy (c : AppConfig) (fs : Files) : Except Halt (PolicyDocument Float × SliceCount) := do
  let doc ← match c.policy.template with
    | some path => (PolicyDocument.load fs path).mapError (fun _ => .template path)
    | none => .ok PolicyDocument.default
  match ← c.selected.mapError .unknownPreset with
  | some p =>
    let (doc, n) := p.apply doc
    return (doc, ← n.mapError (fun _ => .invalidPreset))
  | none => return (doc, ← (doc.numSlices .dl).mapError .policy)

/-- Settles a configuration. -/
def ofConfig (c : AppConfig) (fs : Files) : Except Halt Session := do
  let mode ← (Mode.parse c.controller.mode).mapError .mode
  let (doc, count) ← policy c fs
  let endpoint := Endpoint.ofUrl c.controller.url (some c.controller.port)
    c.controller.timeout.toNat
  let source ← (connect mode endpoint c.storedReport fs).mapError (fun _ => .connection)
  return ⟨c, endpoint, source, doc, count⟩

/-- Settles what the command line, the files and the environment say. -/
def prepare (a : Arguments) (fs : Files) (environment : List (String × String)) :
    Except Halt Session :=
  match AppConfig.load? fs a.config environment with
  | some c => ofConfig (a.override c) fs
  | none => .error (.configuration a.config)

/-- The commands that are sent before the loop starts. -/
def startCommands (s : Session) : List Command :=
  s.config.trigger.toList.map Command.trigger
    ++ s.config.delegations.map (fun d => .delegate d.function d.action)

/-- The settings of the loop. -/
def loopConfig (s : Session) : LoopConfig where
  interval := 1000 * s.config.timing.interval.toNat
  initialDelay := 1000 * s.config.timing.initialDelay.toNat
  timeout := s.config.controller.timeout.toNat
  maxCycles := s.config.timing.cycles.map UInt64.toNat
  persistence :=
    if s.config.policy.persist then
      some ⟨s.config.policy.outputDir, s.config.policy.basename, s.config.policy.format⟩
    else none

/-- The loop before its first cycle. -/
def loop (s : Session) (fs : Files) : ControlLoop Float := .start s.template s.count fs

/-- How the surroundings behave in a cycle. Reading a stored report takes a moment, and logging a
command takes no time. -/
def turn (s : Session) (fs : Files) (wire : WireRequest → WireReply) : Turn :=
  match s.source with
  | .stored path => ⟨[], ⟨1, StatsReport.load fs path, []⟩, fun _ => ⟨0, .ok (), []⟩⟩
  | .live e =>
    ⟨[], ⟨0, Client.fetch e (wire Client.fetchRequest), []⟩, fun p =>
      let c := Command.policy p.bsId p.body
      ⟨0, Client.command e c (wire (Client.commandRequest c)), []⟩⟩

/-- The log of requests after some commands; in live mode requests are sent and not logged. -/
def requests (s : Session) (sent : List Command) : List String :=
  match s.source with
  | .stored _ => (RequestLog.mk s.endpoint sent).lines
  | .live _ => []

end Session

/-- What can be seen of a run of the program. -/
structure Transcript where
  exitCode : Nat
  /-- lines on the error stream -/
  errors : List String
  /-- the requests that the log shows -/
  requests : List String
  /-- the number of cycles that the log shows at the end -/
  farewell : Option String
  files : Files

namespace Program

/-- The part of the program that logs requests. -/
def requestTarget : String := "interfaces::controller"

/-- The part of the program that logs its end. -/
def mainTarget : String := "rrm_app"

/-- What the log says at the end. -/
def farewell (cycles : Nat) : String := toString cycles ++ " cycle(s)"

/-- The filter of the log, from the environment or else from the command line, and the complaints
about rules that make no sense. -/
def logFilter (a : Arguments) (environment : List (String × String)) : LogFilter × List String :=
  match (environment.lookup "RUST_LOG").bind LogFilter.parse? with
  | some f => (f, [])
  | none =>
    let (f, ignored) := LogFilter.parseLossy a.logLevel
    (f, ignored.map (fun t => "ignoring \x60" ++ t ++ "\x60: invalid filter directive"))

/-- The transcript of a run of the loop. -/
def transcript (s : Session) (filter : LogFilter) (complaints : List String)
    (r : RunResult Float) : Transcript :=
  let pushed := r.cycles.flatMap (fun c =>
    c.exchanges.map (fun x => Command.policy x.push.bsId x.push.body))
  ⟨0, complaints,
    if filter.shows requestTarget .info then s.requests (s.startCommands ++ pushed) else [],
    if filter.shows mainTarget .info then some (farewell r.cycles.length) else none, r.loop.files⟩

/-- Runs the program. It gives nothing if the program runs for ever. -/
def run (words : List String) (fs : Files) (environment : List (String × String))
    (wire : WireRequest → WireReply) : Option Transcript :=
  match Arguments.parse? words with
  | none => some ⟨2, [], [], none, fs⟩
  | some a =>
    let (filter, complaints) := logFilter a environment
    match Session.prepare a fs environment with
    | .error h => some ⟨1, complaints ++ ["Error: " ++ h.message], [], none, fs⟩
    | .ok s =>
      ((s.loop fs).run s.loopConfig .never (fun _ => s.turn fs wire)).map
        (transcript s filter complaints)

end Program

end RanSlicing
