import RanSlicing.Document.Source
import RanSlicing.Controller.Command

/-!
# Command names in documents

Documents spell directions, triggers, functions and actions by their exact names; a direction may
also be written in capitals.
-/

namespace RanSlicing

variable {ν α : Type} [Source ν α]

/-- A direction in a document. -/
def Direction.read? (v : ν) : Option Direction :=
  Source.named? [("dl", .dl), ("DL", .dl), ("ul", .ul), ("UL", .ul)] v

/-- A trigger in a document. -/
def Trigger.read? (v : ν) : Option Trigger :=
  Source.named? (Trigger.all.map (fun t => (t.name, t))) v

/-- An action in a document. -/
def ControlAction.read? (v : ν) : Option ControlAction :=
  Source.named? (ControlAction.all.map (fun a => (a.name, a))) v

/-- A scheduler function in a document. -/
def SchedulerFunction.read? (v : ν) : Option SchedulerFunction :=
  Source.named? (SchedulerFunction.all.map (fun f => (f.name, f))) v

end RanSlicing
