import RanSlicing.Controller.Error
import RanSlicing.Policy.Document
import RanSlicing.Stats.Snapshot

/-!
# Control errors

Why a cycle was aborted, or the policy of one cell was not applied.
-/

namespace RanSlicing

/-- What the control loop asks of the controller. -/
inductive Request
  | statsFetch
  | policyPush
  deriving DecidableEq, Repr

/-- The name of a request in messages. -/
def Request.label : Request → String
  | statsFetch => "stats fetch"
  | policyPush => "policy push"

/-- A failure of the control loop. -/
inductive ControlError (α : Type)
  | policy (e : PolicyError α)
  | stats (f : StatsFault)
  | interface (e : InterfaceError)
  /-- no answer came within the time that the loop grants -/
  | timeout (r : Request) (after : Millis)
  deriving Repr

/-- The wording of a failure. -/
def ControlError.message {α : Type} [Share α] : ControlError α → String
  | policy e => e.message
  | stats f => f.message
  | interface e => "Interface error: " ++ e.message
  | timeout r after => r.label ++ " timed out after " ++ after.text

end RanSlicing
