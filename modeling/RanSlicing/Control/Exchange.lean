import RanSlicing.Control.Error

/-!
# Exchanges with the surroundings

The control loop is a function of how its surroundings answer. A `Turn` says it for one cycle: what
comes back when the loop asks for a report, what comes back for every policy that it pushes, how long
each answer takes, and what the operator types in the meantime. A push names the cell that it is for,
so that two pushes of one cycle are never the same even if two cells share a base station.

The loop grants every request the same time. An answer that comes in time is taken as it is; of a
later one nothing is seen, and the loop has waited exactly the time that it grants.
-/

namespace RanSlicing

/-- What comes back for a request. -/
structure Response (β : Type) where
  /-- time until the answer -/
  delay : Millis
  result : Except InterfaceError β
  /-- numbers of slices that the operator asks for while the loop waits -/
  typed : List Nat

/-- A policy on its way to the controller. -/
structure Push where
  enbId : Nat
  bsId : BsId
  body : String
  deriving DecidableEq, Repr

/-- How the surroundings behave during one cycle. -/
structure Turn where
  /-- numbers of slices that the operator asks for before the cycle starts -/
  typed : List Nat
  fetch : Response StatsReport
  push : Push → Response Unit

/-- What became of a push. -/
inductive Delivery
  | accepted
  | refused (e : InterfaceError)
  | timedOut
  deriving DecidableEq, Repr

/-- A push and what became of it. -/
structure Exchange where
  push : Push
  delivery : Delivery
  deriving DecidableEq, Repr

/-- Whether the controller got round to answering a push. -/
def Exchange.answered (x : Exchange) : Bool := x.delivery ≠ .timedOut

namespace Response

variable {β : Type}

/-- The time that the loop waits for an answer. -/
def elapsed (timeout : Millis) (r : Response β) : Millis := min r.delay timeout

/-- The answer, if it comes in time. -/
def inTime? (timeout : Millis) (r : Response β) : Option (Except InterfaceError β) :=
  if r.delay ≤ timeout then some r.result else none

/-- What becomes of a push with this answer. -/
def delivery (timeout : Millis) (r : Response Unit) : Delivery :=
  match r.inTime? timeout with
  | some (.ok ()) => .accepted
  | some (.error e) => .refused e
  | none => .timedOut

end Response

/-- The number of slices after a request of the operator; one that is out of range is refused and
leaves it alone. -/
def SliceCount.request (count : SliceCount) (wanted : Nat) : SliceCount :=
  (Bounded.ofNat .sliceCount wanted).toOption.getD count

/-- The number of slices after several requests. -/
def SliceCount.requests (count : SliceCount) (wanted : List Nat) : SliceCount :=
  wanted.foldl SliceCount.request count

end RanSlicing
