import RanSlicing.Radio.Cell

/-!
# Controller commands

What the controller can be told: a policy for one base station, a measurement trigger, or the move
of a scheduler function between controller and agents. Every command is one request, addressed by a
path; only a policy has a body.

The names of triggers, functions and actions are read in any case of letters, and an unknown name
is reported as it was written.
-/

namespace RanSlicing

/-- A text that names nothing of its kind. -/
inductive UnknownName
  | direction (name : String)
  | trigger (name : String)
  | action (name : String)
  | function (name : String)
  deriving DecidableEq, Repr

/-- The wording of an unknown name. -/
def UnknownName.message : UnknownName → String
  | .direction s => "Unknown direction: " ++ s
  | .trigger s => "Unknown RRC trigger: " ++ s
  | .action s => "Unknown control action: " ++ s
  | .function s => "Unknown scheduler function: " ++ s

/-- Reads a name in any case of letters out of a table of names. -/
def ofName? {α : Type} (table : List (String × α)) (s : String) : Option α :=
  table.lookup (s.map Char.toLower)

/-- Reads a direction; the long names are understood too. -/
def Direction.parse (s : String) : Except UnknownName Direction :=
  match ofName? [("dl", dl), ("downlink", dl), ("ul", ul), ("uplink", ul)] s with
  | some d => .ok d
  | none => .error (.direction s)

/-- When users report their measurements. -/
inductive Trigger
  | oneShot
  | periodic
  | eventDriven
  deriving DecidableEq, Repr

namespace Trigger

/-- Every trigger, in the order of its number. -/
def all : List Trigger := [oneShot, periodic, eventDriven]

/-- The name of a trigger, in documents and paths. -/
def name : Trigger → String
  | oneShot => "one_shot"
  | periodic => "periodic"
  | eventDriven => "event_driven"

/-- The number of a trigger. -/
def number : Trigger → Nat
  | oneShot => 0
  | periodic => 1
  | eventDriven => 2

/-- The trigger with a number. -/
def ofNumber? (n : Int) : Option Trigger := all.find? (fun t => (t.number : Int) = n)

/-- Reads the name of a trigger. -/
def parse (s : String) : Except UnknownName Trigger :=
  match ofName? (all.map (fun t => (t.name, t))) s with
  | some t => .ok t
  | none => .error (.trigger s)

end Trigger

/-- Where a scheduler function is moved. -/
inductive ControlAction
  /-- back to the controller -/
  | pull
  /-- to the agents -/
  | push
  deriving DecidableEq, Repr

namespace ControlAction

/-- Every action, in the order of its number. -/
def all : List ControlAction := [pull, push]

/-- The name of an action, in documents and paths. -/
def name : ControlAction → String
  | pull => "pull"
  | push => "push"

/-- The number of an action. -/
def number : ControlAction → Nat
  | pull => 0
  | push => 1

/-- The action with a number. -/
def ofNumber? (n : Int) : Option ControlAction := all.find? (fun a => (a.number : Int) = n)

/-- Reads the name of an action. -/
def parse (s : String) : Except UnknownName ControlAction :=
  match ofName? (all.map (fun a => (a.name, a))) s with
  | some a => .ok a
  | none => .error (.action s)

end ControlAction

/-- A scheduler that can be moved. -/
inductive SchedulerFunction
  | dlSched
  | ulSched
  deriving DecidableEq, Repr

namespace SchedulerFunction

/-- Both functions. -/
def all : List SchedulerFunction := [dlSched, ulSched]

/-- The name of a function, in documents and paths. -/
def name : SchedulerFunction → String
  | dlSched => "dl_sched"
  | ulSched => "ul_sched"

/-- Reads the name of a function. -/
def parse (s : String) : Except UnknownName SchedulerFunction :=
  match ofName? (all.map (fun f => (f.name, f))) s with
  | some f => .ok f
  | none => .error (.function s)

end SchedulerFunction

/-- A command to the controller. -/
inductive Command
  | policy (bsId : BsId) (body : String)
  | trigger (t : Trigger)
  | delegate (function : SchedulerFunction) (action : ControlAction)
  deriving DecidableEq, Repr

namespace Command

/-- The path of the policy of one base station. -/
def policyPath (bsId : BsId) : String := "/rrm_config/enb/" ++ toString bsId.toNat

/-- The path that a command is sent to. -/
def path : Command → String
  | .policy bsId _ => policyPath bsId
  | .trigger t => "/rrc_trigger/" ++ t.name
  | .delegate f a => "/" ++ f.name ++ "/" ++ toString a.number

/-- The text sent with a command. -/
def body : Command → String
  | .policy _ body => body
  | _ => ""

end Command

end RanSlicing
