import RanSlicing.Controller.Command
import RanSlicing.Controller.Error

/-!
# Operation modes

In test mode the program replays a stored report and only logs what it would send; in live mode it
talks to the controller.
-/

namespace RanSlicing

/-- How the program talks to the controller. -/
inductive Mode
  | test
  /-- live -/
  | sdk
  deriving DecidableEq, Repr

namespace Mode

/-- The mode when none is asked for. -/
def default : Mode := test

/-- The name of a mode. -/
def name : Mode → String
  | test => "test"
  | sdk => "sdk"

/-- Reads the name of a mode in any case of letters; an unknown one is reported in lower case. -/
def parse (s : String) : Except InterfaceError Mode :=
  match ofName? [("test", test), ("sdk", sdk)] s with
  | some m => .ok m
  | none => .error (.unknownMode (s.map Char.toLower))

end Mode

end RanSlicing
