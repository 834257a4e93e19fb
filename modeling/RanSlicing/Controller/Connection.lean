import RanSlicing.Controller.Client
import RanSlicing.Controller.Mode
import RanSlicing.Files.Basic

/-!
# Connections

A connection joins a source of stats reports and a receiver of commands, as the operation mode wants
it: a stored report and a log of requests, or the controller itself.
-/

namespace RanSlicing

/-- Where stats reports come from. -/
inductive StatsSource
  /-- a file that is read again for every report -/
  | stored (path : String)
  | live (endpoint : Endpoint)
  deriving DecidableEq, Repr

/-- The origin of the reports in messages. -/
def StatsSource.describe : StatsSource → String
  | stored path => "fixture " ++ path
  | live e => e.url Client.statsPath

/-- The report in a file. -/
def StatsReport.load (fs : Files) (path : String) : Except InterfaceError StatsReport :=
  match fs.read (Path.ofString path) with
  | .error e => .error (.fixture path e)
  | .ok text => parse path text

/-- A controller that accepts every command and does nothing but to log it. -/
structure RequestLog where
  endpoint : Endpoint
  /-- the commands, in order -/
  sent : List Command
  deriving DecidableEq, Repr

namespace RequestLog

/-- A log without commands. -/
def start (e : Endpoint) : RequestLog := ⟨e, []⟩

/-- Logs a command. -/
def add (l : RequestLog) (c : Command) : RequestLog := { l with sent := l.sent ++ [c] }

/-- Number of commands. -/
def count (l : RequestLog) : Nat := l.sent.length

/-- What the log says about each command: its address and its number. -/
def lines (l : RequestLog) : List String :=
  l.sent.zipIdx.map (fun (c, i) =>
    l.endpoint.url c.path ++ " (simulated request " ++ toString (i + 1) ++ ")")

end RequestLog

/-- The source of reports in a mode. In test mode there has to be a file with one. -/
def connect (mode : Mode) (e : Endpoint) (stored : String) (fs : Files) :
    Except InterfaceError StatsSource :=
  match mode with
  | .sdk => .ok (.live e)
  | .test =>
    if fs.isFile (Path.ofString stored) then .ok (.stored stored)
    else .error (.fixtureMissing stored)

end RanSlicing
