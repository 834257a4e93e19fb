import RanSlicing.Controller.Command
import RanSlicing.Controller.Endpoint
import RanSlicing.Stats.Parse

/-!
# Controller client

What goes over the wire in live mode: every command is a POST with at most a policy as its body, and
the stats report is fetched by a GET. Only status 200 is success. A report that cannot be decoded
counts as a failure of the transport.
-/

namespace RanSlicing

/-- How a request is made. -/
inductive Method
  | get
  | post
  deriving DecidableEq, Repr

/-- The name of a method on the wire. -/
def Method.name : Method → String
  | get => "GET"
  | post => "POST"

/-- A request on the wire. -/
structure WireRequest where
  method : Method
  path : String
  body : String
  deriving DecidableEq, Repr

/-- The first line of a request, without the version of the protocol. -/
def WireRequest.line (r : WireRequest) : String := r.method.name ++ " " ++ r.path

/-- What the controller does with a request. -/
inductive WireReply
  /-- it answers with a status and a text -/
  | answer (status : Nat) (text : String)
  /-- it closes the connection -/
  | hangUp
  /-- it does not answer in time -/
  | silence
  deriving DecidableEq, Repr

namespace Client

/-- The path of the report on all base stations. -/
def statsPath : String := "/stats_manager/json/all"

/-- The request for a report. -/
def fetchRequest : WireRequest := ⟨.get, statsPath, ""⟩

/-- The request that carries a command. -/
def commandRequest (c : Command) : WireRequest := ⟨.post, c.path, c.body⟩

/-- The text of a successful answer. -/
def success (e : Endpoint) (r : WireRequest) : WireReply → Except InterfaceError String
  | .answer status text =>
    if status = 200 then .ok text else .error (.unexpectedStatus (e.url r.path) status)
  | .hangUp => .error .transport
  | .silence => .error (.timeout (e.url r.path) e.timeout)

/-- What becomes of a command. -/
def command (e : Endpoint) (c : Command) (reply : WireReply) : Except InterfaceError Unit :=
  (success e (commandRequest c) reply).map (fun _ => ())

/-- What becomes of fetching a report. -/
def fetch (e : Endpoint) (reply : WireReply) : Except InterfaceError StatsReport := do
  let text ← success e fetchRequest reply
  (StatsReport.ofJson? text).elim (.error .transport) .ok

end Client

end RanSlicing
