import RanSlicing.Allocation
import RanSlicing.Control.Enforcement

/-!
# Control cycles

One cycle fetches a report, reads the modulation caps of every cell out of its policy in effect,
estimates and allocates, and enforces the allocations cell by cell. The number of slices is read once
when the cycle starts. All allocations are made before the first of them is enforced, so two cells
that share a base station are allocated from the same policy.

Without a report there is no cycle, only its number is used up. Whatever else goes wrong stays with
the cell that it happens to.
-/

namespace RanSlicing

/-- The policies in effect, by base station. -/
abbrev PolicyTable (α : Type) := List (BsId × PolicyDocument α)

namespace PolicyTable

variable {α : Type}

/-- The policy of a base station. -/
def get? (t : PolicyTable α) (b : BsId) : Option (PolicyDocument α) := t.lookup b

/-- Replaces the policy of a base station. -/
def set (t : PolicyTable α) (b : BsId) (doc : PolicyDocument α) : PolicyTable α :=
  (b, doc) :: t.filter (fun e => e.1 ≠ b)

/-- Gives a base station that is not known yet its first policy. -/
def ensure (t : PolicyTable α) (b : BsId) (doc : PolicyDocument α) : PolicyTable α :=
  if (get? t b).isSome then t else set t b doc

end PolicyTable

/-- The settings of a control loop. -/
structure LoopConfig where
  /-- pause between the end of a cycle and the start of the next -/
  interval : Millis
  /-- pause before the first cycle -/
  initialDelay : Millis
  /-- time granted to every request -/
  timeout : Millis
  /-- number of cycles after which the loop stops by itself -/
  maxCycles : Option Nat
  persistence : Option Persistence
  deriving DecidableEq, Repr

/-- The state of a control loop between two cycles. -/
structure ControlLoop (α : Type) where
  /-- the policy of a base station that is seen for the first time -/
  template : PolicyDocument α
  policies : PolicyTable α
  /-- number of the last cycle -/
  cycle : Nat
  /-- number of slices that the operator wants -/
  count : SliceCount
  files : Files

/-- What a cycle says about one cell. -/
structure CellReport (α : Type) where
  enbId : Nat
  bsId : BsId
  numUsers : Nat
  /-- link quality of the weakest user -/
  linkQuality : Option LinkQuality
  allocation : Option (CellAllocation α)
  outcome : Outcome α

/-- What a cycle says about its cells, in the order of their positions. -/
structure CycleReport (α : Type) where
  cycle : Nat
  numSlices : SliceCount
  cells : List (CellReport α)

/-- Number of cells whose policy was applied. -/
def CycleReport.applied {α : Type} (r : CycleReport α) : Nat :=
  (r.cells.filter (fun c => c.outcome.isApplied)).length

/-- Everything that a cycle does besides changing the state of the loop. -/
structure CycleResult (α : Type) where
  report : Except (ControlError α) (CycleReport α)
  /-- the pushes, in order -/
  exchanges : List Exchange
  elapsed : Millis

namespace ControlLoop

variable {α : Type}

/-- A loop before its first cycle. -/
def start (template : PolicyDocument α) (count : SliceCount) (files : Files) : ControlLoop α :=
  ⟨template, [], 0, count, files⟩

/-- The policy in effect at a base station, once it has been seen. -/
def policy (l : ControlLoop α) (b : BsId) : Option (PolicyDocument α) := l.policies.get? b

/-- The policy that a cell of a base station starts from. -/
def effective (l : ControlLoop α) (b : BsId) : PolicyDocument α := (l.policy b).getD l.template

/-- Takes requests of the operator. -/
def typed (l : ControlLoop α) (wanted : List Nat) : ControlLoop α :=
  { l with count := l.count.requests wanted }

/-- Gives every base station that is seen for the first time the template. -/
def meet (l : ControlLoop α) (cells : List CellStats) : ControlLoop α :=
  let known := cells.foldl (fun t c => PolicyTable.ensure t c.cell.bsId l.template) l.policies
  { l with policies := known }

variable [Share α]

/-- The allocation of a cell over `n` slices. -/
def allocate (l : ControlLoop α) (n : SliceCount) (stats : CellStats) :
    Except (ControlError α) (CellAllocation α) :=
  match (l.effective stats.cell.bsId).mcsCaps with
  | .ok caps =>
    .ok (Allocation.cell stats.cell (Estimate.cell Estimate.defaultUlMcs stats) n caps)
  | .error e => .error (.policy e)

/-- What happened to one cell, and the push and the time that it took. -/
structure CellRun (α : Type) where
  report : CellReport α
  exchange : Option Exchange
  elapsed : Millis

/-- The report of a cell that makes sense. -/
def cellReport (stats : CellStats) (allocation : Option (CellAllocation α)) (outcome : Outcome α) :
    CellReport α :=
  ⟨stats.cell.enbId, stats.cell.bsId, stats.users.length, stats.minCqi.map LinkQuality.ofCqi,
    allocation, outcome⟩

/-- Enforces the allocation of one cell, if there is one. -/
def enforceCell (config : LoopConfig) (answer : Push → Response Unit) (l : ControlLoop α)
    (stats : CellStats) :
    Except (ControlError α) (CellAllocation α) → ControlLoop α × CellRun α
  | .error e => (l, ⟨cellReport stats none (.failed e), none, 0⟩)
  | .ok a =>
    let b := stats.cell.bsId
    let e := Enforcement.run config.timeout config.persistence l.files (l.effective b) stats a answer
    let l := { l with policies := l.policies.set b e.policy, files := e.files }
    (l.typed e.typed, ⟨cellReport stats (some a) e.outcome, e.exchange, e.elapsed⟩)

/-- Enforces allocations one after the other. -/
def enforceCells (config : LoopConfig) (answer : Push → Response Unit) (l : ControlLoop α) :
    List (CellStats × Except (ControlError α) (CellAllocation α)) →
      ControlLoop α × List (CellRun α)
  | [] => (l, [])
  | (stats, a) :: rest =>
    let (l, r) := enforceCell config answer l stats a
    let (l, rs) := enforceCells config answer l rest
    (l, r :: rs)

/-- The report of a cell that was left out. -/
def rejectedReport (c : RejectedCell) : CellReport α :=
  ⟨c.enbId, c.bsId, 0, none, none, .failed (.stats c.fault)⟩

/-- The reports of all cells, in the order of their positions. -/
def merge (runs : List (CellRun α)) (rejected : List RejectedCell) : List (CellReport α) :=
  (runs.map CellRun.report ++ rejected.map rejectedReport).mergeSort
    (fun a b => a.enbId ≤ b.enbId)

/-- The part of a cycle after its report has come: allocation and enforcement. -/
def process (config : LoopConfig) (turn : Turn) (n : SliceCount) (l : ControlLoop α)
    (report : StatsReport) : ControlLoop α × CycleResult α :=
  let snapshot := Snapshot.ofReport report
  let l := l.meet snapshot.cells
  let planned := snapshot.cells.map (fun c => (c, l.allocate n c))
  let (l, runs) := enforceCells config turn.push l planned
  (l, ⟨.ok ⟨l.cycle, n, merge runs snapshot.rejected⟩, runs.filterMap CellRun.exchange,
    turn.fetch.elapsed config.timeout + total (runs.map CellRun.elapsed)⟩)

/-- One cycle. -/
def step (config : LoopConfig) (l : ControlLoop α) (turn : Turn) :
    ControlLoop α × CycleResult α :=
  let l := { l.typed turn.typed with cycle := l.cycle + 1 }
  let n := l.count
  let l := l.typed turn.fetch.typed
  let aborted (e : ControlError α) : ControlLoop α × CycleResult α :=
    (l, ⟨.error e, [], turn.fetch.elapsed config.timeout⟩)
  match turn.fetch.inTime? config.timeout with
  | none => aborted (.timeout .statsFetch config.timeout)
  | some (.error e) => aborted (.interface e)
  | some (.ok report) => process config turn n l report

end ControlLoop

end RanSlicing
